import Relay.Access.Mirror

/-! The two adapters agree: the SQLite store keeps the contract that the process-local store
is, operation by operation, over any run of transactions. -/
namespace Relay

section Mirrors

variable {Blob : Type} {J : Json Blob} {d d' : Records} {db' : Database Blob}

/-- What an operation returned and left, compared with what the contract says. -/
structure KeepsContract (J : Json Blob) (sq : SqlTx Blob) (ran : Except SqlErr TxValue × SqlTx Blob)
    (due : Except Err TxValue × Records) : Prop where
  answer : ran.1 = due.1.mapError .access
  now : ran.2.now = sq.now
  mode : ran.2.mode = sq.mode
  mirrors : ran.2.db.Mirrors J due.2

namespace KeepsContract

variable {sq : SqlTx Blob}

theorem of_read {α : Type} {m : SqlM Blob α} {a : α} (f : α → TxValue) (mirrors : sq.db.Mirrors J d)
    (ran : m sq = (.ok a, sq)) : KeepsContract J sq ((m >>= fun a => pure (f a)) sq) (.ok (f a), d) := by
  rw [Txn.ok_bind_run ran]
  exact ⟨rfl, rfl, rfl, mirrors⟩

theorem of_admitted {m : SqlM Blob Unit} {admitted : Prop} [Decidable admitted] (mirrors : sq.db.Mirrors J d)
    (ran : m sq = if sq.mode = .write then if admitted then (.ok (), { sq with db := db' })
      else (.error (.access .conflict), sq) else (.error (.access .readOnly), sq))
    (after : admitted → db'.Mirrors J d') :
    KeepsContract J sq ((m >>= fun _ => pure .done) sq) (written sq.mode d admitted d') := by
  rw [Txn.bind_run, ran, written]
  by_cases mode : sq.mode = .write
  · rw [if_pos mode, if_pos mode]
    by_cases yes : admitted
    · rw [if_pos yes, if_pos yes]
      exact ⟨rfl, rfl, rfl, after yes⟩
    · rw [if_neg yes, if_neg yes]
      exact ⟨rfl, rfl, rfl, mirrors⟩
  · rw [if_neg mode, if_neg mode]
    exact ⟨rfl, rfl, rfl, mirrors⟩

theorem of_executed {m : SqlM Blob Unit} (mirrors : sq.db.Mirrors J d)
    (ran : m sq = if sq.mode = .write then (.ok (), { sq with db := db' }) else (.error (.access .readOnly), sq))
    (after : db'.Mirrors J d') : KeepsContract J sq ((m >>= fun _ => pure .done) sq) (written sq.mode d True d') :=
  of_admitted mirrors (by simpa using ran) fun _ => after

end KeepsContract

def TxOp.Dated : TxOp → Prop
  | .putSession r => r.expiresAt.Representable
  | .putGrant g => g.expiresAt.Representable
  | .putReceipt c => c.expiresAt.Representable
  | _ => True

theorem Json.Measures.holds {P : Primitives} {v : Stored} (measures : J.Measures P) (fits : Tx.Fits P v) :
    ∃ data, J.Holds v data := by
  obtain ⟨size, measured, small⟩ := fits
  rw [measures v, Option.map_eq_some_iff] at measured
  obtain ⟨data, encoded, rfl⟩ := measured
  exact ⟨data, encoded, small⟩

theorem pruneExpired_run (sq : SqlTx Blob) : SqlTx.pruneExpired sq = if sq.mode = .write then
      (.ok (), { sq with db := sq.db.deleteExpired sq.now.unixNano })
    else (.error (.access .readOnly), sq) := by
  rw [SqlTx.pruneExpired, Txn.get_bind_run, SqlTx.exec_bind_run, SqlTx.exec_bind_run, SqlTx.exec_total_run]
  by_cases mode : sq.mode = .write
  · rw [if_pos mode, if_pos mode, if_pos mode, if_pos mode]
    rfl
  · rw [if_neg mode, if_neg mode]

theorem runSql_contract {P : Primitives} {op : TxOp} {sq : SqlTx Blob} (lossless : J.Lossless)
    (measures : J.Measures P) (fits : op.Fits P) (dated : op.Dated) (time : sq.now.Representable)
    (represented : d.Represented) (mirrors : sq.db.Mirrors J d) :
    KeepsContract J sq (op.runSql J sq) (op.contract sq.mode sq.now d) := by
  have located := represented.located
  cases op with
  | session id => exact .of_read .session mirrors (SqlTx.session_run lossless mirrors id)
  | sessions limit =>
    have listed := SqlTx.sessions_run lossless mirrors limit
    simp only [TxOp.contract]
    split
    · rename_i room
      exact .of_read .sessions mirrors (listed.trans (if_pos room))
    · rename_i full
      rw [TxOp.runSql, Txn.bind_run, listed, if_neg full]
      exact ⟨rfl, rfl, rfl, mirrors⟩
  | putSession r =>
    obtain ⟨data, holds⟩ := measures.holds fits
    exact .of_executed mirrors (SqlTx.putSession_run holds) (mirrors.putSession holds dated)
  | deleteSession id => exact .of_executed mirrors (SqlTx.exec_total_run _ sq) (mirrors.deleteSession represented id)
  | grant locator => exact .of_read .grant mirrors (SqlTx.grant_run lossless mirrors locator)
  | putGrant g =>
    obtain ⟨data, holds⟩ := measures.holds fits
    exact .of_admitted mirrors (SqlTx.putGrant_run lossless mirrors located holds) fun _ => mirrors.putGrant holds dated
  | deleteGrant id => exact .of_executed mirrors (SqlTx.exec_total_run _ sq) (mirrors.deleteGrant located id)
  | receipt key => exact .of_read .receipt mirrors (SqlTx.receipt_run lossless mirrors key)
  | putReceipt c =>
    obtain ⟨data, holds⟩ := measures.holds fits
    exact .of_admitted mirrors (SqlTx.putReceipt_run lossless mirrors holds) fun _ => mirrors.putReceipt holds dated
  | counts => exact .of_read .counts mirrors (SqlTx.counts_run mirrors)
  | pruneExpired => exact .of_executed mirrors (pruneExpired_run sq) (mirrors.pruneExpired located time)
  | ns => exact .of_read .ns mirrors (SqlTx.ns_run lossless mirrors)
  | putNamespace n =>
    obtain ⟨data, holds⟩ := measures.holds fits
    exact .of_executed mirrors (SqlTx.putNamespace_run holds) (mirrors.putNamespace holds)

structure Alongside (J : Json Blob) (tx : Tx) (sq : SqlTx Blob) : Prop where
  now : sq.now = tx.now
  mode : sq.mode = tx.mode
  time : tx.now.Representable
  represented : tx.data.Represented
  mirrors : sq.db.Mirrors J tx.data

section Transactions

variable {P : Primitives} (lossless : J.Lossless) (measures : J.Measures P)

include lossless measures

theorem Alongside.step (op : TxOp) (tx : Tx) (sq : SqlTx Blob) (good : op.Fits P ∧ op.Dated)
    (alongside : Alongside J tx sq) :
    (op.runSql J sq).1 = (op.run P tx).1.mapError .access ∧ Alongside J (op.run P tx).2 (op.runSql J sq).2 := by
  obtain ⟨now, mode, time, represented, mirrors⟩ := alongside
  have agrees := runSql_contract lossless measures good.1 good.2 (now ▸ time) represented mirrors
  have after := (op.run_writes P tx).represented represented
  rw [mode, now] at agrees
  rw [run_contract good.1 tx] at after ⊢
  exact ⟨agrees.answer, agrees.now.trans now, agrees.mode.trans mode, time, after, agrees.mirrors⟩

theorem Alongside.ops {ops : List TxOp} (good : ∀ op ∈ ops, op.Fits P ∧ op.Dated) {tx : Tx} {sq : SqlTx Blob}
    (alongside : Alongside J tx sq) :
    (Txn.each (TxOp.runSql J) ops sq).1 = (Txn.each (TxOp.run P) ops tx).1.map (·.mapError .access) ∧
      Alongside J (Txn.each (TxOp.run P) ops tx).2 (Txn.each (TxOp.runSql J) ops sq).2 :=
  Txn.each_simulates (fun op tx sq => Alongside.step lossless measures op tx sq) ops good alongside

end Transactions

end Mirrors

/-- The tables hold these records and no others: a row is read back as the record of its key. -/
structure Database.Stores {Blob : Type} (J : Json Blob) (d : Records) (db : Database Blob) : Prop where
  sessions : ∀ id, (db.accessSessions.lookup id).map (fun row => J.session row.payload) =
    (d.sessions.lookup id).map some
  grants : ∀ id, (db.accessGrants.lookup id).map (fun row => J.grant row.payload) = (d.grants.lookup id).map some
  locators : ∀ l, db.accessLocators.lookup l = d.locators.lookup l
  receipts : ∀ key, (db.accessReceipts.lookup key).map (fun row => J.receipt row.payload) =
    (d.receipts.lookup key).map some
  ns : db.accessNamespace.elim (some Namespace.empty) J.ns = some d.ns

section Runs

variable {Blob : Type} {J : Json Blob} {P : Primitives} (lossless : J.Lossless) (measures : J.Measures P)

include lossless in
theorem Database.Mirrors.stores {d : Records} {db : Database Blob} (mirrors : db.Mirrors J d) : db.Stores J d := by
  constructor
  · exact mirrors.sessions.map_lookup fun of => lossless.session of.1.encoded
  · exact mirrors.grants.map_lookup fun of => lossless.grant of.1.encoded
  · exact fun l => (mirrors.locators.lookup_eq l).symm
  · exact mirrors.receipts.map_lookup fun of => lossless.receipt of.1.encoded
  · rcases mirrors.ns with ⟨missing, same⟩ | ⟨data, stored, holds⟩
    · rw [missing, same]
      rfl
    · rw [stored]
      exact lossless.ns holds.encoded

theorem Alongside.start {st : Store} {db : Database Blob} {t : Transaction} (time : t.env.now.Representable)
    (represented : st.data.Represented) (mirrors : db.Mirrors J st.data) :
    Alongside J (st.start t.mode t.env) (db.start t.mode t.env) :=
  ⟨rfl, rfl, time, represented, mirrors⟩

include lossless measures

theorem Database.Mirrors.transact {st : Store} {db : Database Blob} {t : Transaction} (live : st.closed = false)
    (represented : st.data.Represented) (mirrors : db.Mirrors J st.data)
    (good : ∀ op ∈ t.ops, op.Fits P ∧ op.Dated) (time : t.env.now.Representable) :
    (db.transact J t).Mirrors J (st.transact P t).data := by
  have ended := (Alongside.ops lossless measures good (.start time represented mirrors)).2.mirrors
  rw [Database.transact, Store.transact_eq P live t]
  cases t.result with
  | error e => exact mirrors
  | ok u =>
    dsimp only
    split
    · exact mirrors
    · cases mode : t.mode with
      | write =>
        rw [mode] at ended
        exact ended
      | read =>
        -- the reader's copy is dropped on one side and unchanged on the other
        rw [mode, each_read P t.ops rfl fun op member => (good op member).1] at ended
        exact ended

theorem mirrors_of_transactions (ts : List Transaction)
    (good : ∀ t ∈ ts, (∀ op ∈ t.ops, op.Fits P ∧ op.Dated) ∧ t.env.now.Representable) :
    (Store.empty.transactAll P ts).closed = false ∧
      (Database.empty.transactAll J ts).Mirrors J (Store.empty.transactAll P ts).data := by
  induction ts using List.reverseRecOn with
  | nil => exact ⟨rfl, .empty⟩
  | append_singleton ts t ih =>
    obtain ⟨live, mirrors⟩ := ih fun t member => good t (List.mem_append_left _ member)
    obtain ⟨ops, time⟩ := good t (List.mem_append_right _ List.mem_cons_self)
    rw [Store.transactAll, Database.transactAll, List.foldl_append, List.foldl_append]
    exact ⟨Store.transact_closed P live t,
      mirrors.transact lossless measures live (represented_of_transactions P ts) ops time⟩

end Runs

/-- The two adapters agree. Whatever transactions run on both, at the same times and with
records that fit, each of their operations returns the same on either store, and so do the
stored Sessions, grants, locators, receipts and the namespace, in an open transaction and after
it. Every expiry and every time of a transaction fits into 64 bits of nanoseconds. -/
theorem adapters_agree {Blob : Type} (P : Primitives) (J : Json Blob) (lossless : J.Lossless) (measures : J.Measures P)
    (ts : List Transaction) (fits : ∀ t ∈ ts, ∀ op ∈ t.ops, op.Fits P ∧ op.Dated)
    (times : ∀ t ∈ ts, t.env.now.Representable) :
    (∀ before t after, ts = before ++ t :: after →
      t.outcomesSql J (Database.empty.transactAll J before) =
        (t.outcomes P (Store.empty.transactAll P before)).map (·.mapError .access) ∧
      (Txn.each (TxOp.runSql J) t.ops ((Database.empty.transactAll J before).start t.mode t.env)).2.db.Stores J
        (Txn.each (TxOp.run P) t.ops ((Store.empty.transactAll P before).start t.mode t.env)).2.data) ∧
      (Database.empty.transactAll J ts).Stores J (Store.empty.transactAll P ts).data := by
  have good : ∀ t ∈ ts, (∀ op ∈ t.ops, op.Fits P ∧ op.Dated) ∧ t.env.now.Representable :=
    fun t member => ⟨fits t member, times t member⟩
  constructor
  · intro before t after split
    have earlier : ∀ t ∈ before, (∀ op ∈ t.ops, op.Fits P ∧ op.Dated) ∧ t.env.now.Representable := by
      intro t member
      exact good t (split ▸ List.mem_append_left _ member)
    obtain ⟨ops, time⟩ := good t (split ▸ List.mem_append_right _ List.mem_cons_self)
    have mirrors := (mirrors_of_transactions lossless measures before earlier).2
    have started : Alongside J ((Store.empty.transactAll P before).start t.mode t.env)
        ((Database.empty.transactAll J before).start t.mode t.env) :=
      .start time (represented_of_transactions P before) mirrors
    obtain ⟨same, ended⟩ := started.ops lossless measures ops
    exact ⟨same, ended.mirrors.stores lossless⟩
  · exact (mirrors_of_transactions lossless measures ts good).2.stores lossless

namespace Plain

def json : Json Stored where
  marshal := some
  size _ := 0
  ns
    | .ns r => some r
    | _ => none
  session
    | .session r => some r
    | _ => none
  grant
    | .grant r => some r
    | _ => none
  receipt
    | .receipt r => some r
    | _ => none

theorem json_lossless : json.Lossless := by
  constructor <;> (rintro r b ⟨⟩; rfl)

theorem json_measures : json.Measures primitives := fun _ => rfl

def pruning (now : Time) : Transaction := committing now [.pruneExpired, .counts]

theorem filling_fits {now expiry : Time} (dated : expiry.Representable) :
    ∀ op ∈ (filling now expiry).ops, op.Fits primitives ∧ op.Dated := by
  intro op member
  simp only [filling, committing, List.mem_cons, List.not_mem_nil, or_false] at member
  rcases member with rfl | rfl <;> exact ⟨⟨0, rfl, by decide⟩, dated⟩

def brief : Transaction := filling (unixEpoch + 1) (unixEpoch + 10)

theorem brief_fits : ∀ op ∈ brief.ops, op.Fits primitives ∧ op.Dated := filling_fits (by decide)

theorem pruning_fits (now : Time) : ∀ op ∈ (pruning now).ops, op.Fits primitives ∧ op.Dated := by
  intro op member
  simp only [pruning, committing, List.mem_cons, List.not_mem_nil, or_false] at member
  rcases member with rfl | rfl <;> exact ⟨trivial, trivial⟩

end Plain

open Plain in
/-- Both adapters prune the Session and its grant when they expire. -/
theorem adapters_agree_pruned :
    (pruning (unixEpoch + 10)).outcomes primitives (Store.empty.transactAll primitives [brief]) =
        [.ok .done, .ok (.counts ⟨0, 0, 0⟩)] ∧
      (pruning (unixEpoch + 10)).outcomesSql json (Database.empty.transactAll json [brief]) =
        [.ok .done, .ok (.counts ⟨0, 0, 0⟩)] := by
  have agree := adapters_agree primitives json json_lossless json_measures [brief, pruning (unixEpoch + 10)]
    (by simpa using ⟨brief_fits, pruning_fits _⟩) (by simp; decide)
  have emptied : (pruning (unixEpoch + 10)).outcomes primitives (Store.empty.transactAll primitives [brief]) =
      [.ok .done, .ok (.counts ⟨0, 0, 0⟩)] := by
    decide +kernel
  refine ⟨emptied, ?_⟩
  rw [(agree.1 [brief] _ [] rfl).1, emptied]
  rfl

open Plain in
/-- A transaction time beyond the range wraps around: the Session that the process-local store
prunes stays in SQLite. -/
theorem adapters_differ_out_of_range :
    json.Lossless ∧ json.Measures primitives ∧
      (∀ t ∈ [brief, pruning (unixEpoch + 2 ^ 63)], ∀ op ∈ t.ops, op.Fits primitives ∧ op.Dated) ∧
      (pruning (unixEpoch + 2 ^ 63)).outcomes primitives (Store.empty.transactAll primitives [brief]) =
        [.ok .done, .ok (.counts ⟨0, 0, 0⟩)] ∧
      (pruning (unixEpoch + 2 ^ 63)).outcomesSql json (Database.empty.transactAll json [brief]) =
        [.ok .done, .ok (.counts ⟨1, 1, 0⟩)] := by
  refine ⟨json_lossless, json_measures, ?_, by decide +kernel, by decide +kernel⟩
  simpa using ⟨brief_fits, pruning_fits _⟩

end Relay
