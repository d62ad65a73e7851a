import Relay.Access.Records
import Relay.Lib.Transaction
import Mathlib.Data.List.Sort

/-! The process-local store. A transaction works on a copy of the records; the
copy replaces the store only when the callback succeeds and its context is still
live. The logs of signatures and of drawn identifiers are kept for the proofs:
no operation reads them. -/
namespace Relay

inductive Mode where
  | read
  | write
deriving DecidableEq

structure Tx where
  now : Time
  mode : Mode
  data : Records
  /-- The bytes the random source will still deliver. -/
  entropy : Bytes
  signed : List Signed
  drawn : List String

abbrev TxM : Type → Type := Txn Tx Err

namespace Records

def putSession (r : SessionRecord) (d : Records) : Records :=
  { d with sessions := d.sessions.insert r.id r }

def putGrant (r : GrantRecord) (d : Records) : Records :=
  { d with
    grants := d.grants.insert r.id r
    locators := (d.locators.insert r.joinCode r.id).insert r.aliasText r.id }

def putReceipt (r : Receipt) (d : Records) : Records :=
  { d with receipts := d.receipts.insert r.key r }

def putNamespace (r : Namespace) (d : Records) : Records := { d with ns := r }

def deleteGrant (id : String) (d : Records) : Records :=
  match d.grants.lookup id with
  | none => d
  | some r =>
    { d with
      locators := (d.locators.erase r.joinCode).erase r.aliasText
      grants := d.grants.erase id }

def deleteSession (id : String) (d : Records) : Records :=
  let d := { d with sessions := d.sessions.erase id }
  let d := Table.walk (fun _ r => r.sessionID == id) deleteGrant d.grants.entries d
  { d with receipts := d.receipts.eraseWhere (fun _ r => r.sessionID == id) }

def pruneExpired (now : Time) (d : Records) : Records :=
  let d := Table.walk (fun _ r => decide (r.expiresAt ≤ now)) deleteSession d.sessions.entries d
  let d := Table.walk (fun _ r => decide (r.expiresAt ≤ now)) deleteGrant d.grants.entries d
  { d with receipts := d.receipts.eraseWhere (fun _ r => decide (r.expiresAt ≤ now)) }

section Puts

variable (d : Records) (r : SessionRecord) (g : GrantRecord) (c : Receipt) (n : Namespace)

@[simp] theorem putSession_grants : (d.putSession r).grants = d.grants := rfl
@[simp] theorem putSession_locators : (d.putSession r).locators = d.locators := rfl
@[simp] theorem putSession_receipts : (d.putSession r).receipts = d.receipts := rfl
@[simp] theorem putSession_ns : (d.putSession r).ns = d.ns := rfl
@[simp] theorem putGrant_sessions : (d.putGrant g).sessions = d.sessions := rfl
@[simp] theorem putGrant_receipts : (d.putGrant g).receipts = d.receipts := rfl
@[simp] theorem putGrant_ns : (d.putGrant g).ns = d.ns := rfl
@[simp] theorem putReceipt_sessions : (d.putReceipt c).sessions = d.sessions := rfl
@[simp] theorem putReceipt_grants : (d.putReceipt c).grants = d.grants := rfl
@[simp] theorem putReceipt_ns : (d.putReceipt c).ns = d.ns := rfl
@[simp] theorem putNamespace_sessions : (d.putNamespace n).sessions = d.sessions := rfl
@[simp] theorem putNamespace_grants : (d.putNamespace n).grants = d.grants := rfl
@[simp] theorem putNamespace_receipts : (d.putNamespace n).receipts = d.receipts := rfl
@[simp] theorem putNamespace_ns : (d.putNamespace n).ns = n := rfl

end Puts

variable {g : GrantRecord} {id k : String} {d : Records} {now : Time} {r : SessionRecord}

theorem putSession_sessions {r' : SessionRecord} :
    (d.putSession r).sessions.lookup k = some r' ↔
      (k = r.id ∧ r = r') ∨ (k ≠ r.id ∧ d.sessions.lookup k = some r') :=
  Table.lookup_insert_some

theorem putSession_lookup_self (d : Records) (r : SessionRecord) :
    (d.putSession r).sessions.lookup r.id = some r :=
  AList.lookup_insert _

theorem putSession_lookup_ne (other : k ≠ r.id) : (d.putSession r).sessions.lookup k = d.sessions.lookup k :=
  AList.lookup_insert_ne other

theorem putGrant_grants {g' : GrantRecord} :
    (d.putGrant g).grants.lookup k = some g' ↔
      (k = g.id ∧ g = g') ∨ (k ≠ g.id ∧ d.grants.lookup k = some g') :=
  Table.lookup_insert_some

theorem putReceipt_lookup {c c' : Receipt} :
    (d.putReceipt c).receipts.lookup k = some c' ↔
      (k = c.key ∧ c = c') ∨ (k ≠ c.key ∧ d.receipts.lookup k = some c') :=
  Table.lookup_insert_some

@[simp] theorem deleteGrant_sessions (id : String) (d : Records) :
    (d.deleteGrant id).sessions = d.sessions := by
  unfold deleteGrant
  split <;> rfl

@[simp] theorem deleteGrant_receipts (id : String) (d : Records) :
    (d.deleteGrant id).receipts = d.receipts := by
  unfold deleteGrant
  split <;> rfl

@[simp] theorem deleteGrant_ns (id : String) (d : Records) : (d.deleteGrant id).ns = d.ns := by
  unfold deleteGrant
  split <;> rfl

theorem deleteGrant_grants : (d.deleteGrant id).grants.lookup k = some g ↔ d.grants.lookup k = some g ∧ k ≠ id := by
  unfold deleteGrant
  split
  · rename_i missing
    constructor
    · intro found
      refine ⟨found, ?_⟩
      intro same
      subst same
      rw [missing] at found
      cases found
    · exact fun h => h.1
  · rw [Table.lookup_erase_some, and_comm]

@[simp] theorem deleteSession_sessions (id : String) (d : Records) :
    (d.deleteSession id).sessions = d.sessions.erase id :=
  Table.walk_frame Records.sessions deleteGrant_sessions _ _

@[simp] theorem deleteSession_ns (id : String) (d : Records) : (d.deleteSession id).ns = d.ns :=
  Table.walk_frame Records.ns deleteGrant_ns _ _

theorem deleteSession_grants :
    (d.deleteSession id).grants.lookup k = some g ↔
      d.grants.lookup k = some g ∧ g.sessionID ≠ id := by
  have walked := Table.walk_survives (p := fun _ (r : GrantRecord) => r.sessionID == id)
    (fun d : Records => d.grants.lookup k = some g) (fun _ _ => deleteGrant_grants)
    d.grants.entries { d with sessions := d.sessions.erase id }
  refine walked.trans ?_
  rw [Table.forall_entries]
  constructor
  · rintro ⟨found, all⟩
    exact ⟨found, by simpa using all g found⟩
  · rintro ⟨found, other⟩
    refine ⟨found, ?_⟩
    intro h again
    rw [found] at again
    cases again
    simpa using other

theorem deleteSession_receipts {r : Receipt} :
    (d.deleteSession id).receipts.lookup k = some r ↔
      d.receipts.lookup k = some r ∧ r.sessionID ≠ id := by
  unfold deleteSession
  rw [Table.lookup_eraseWhere, Table.walk_frame Records.receipts deleteGrant_receipts]
  simp

@[simp] theorem pruneExpired_ns (now : Time) (d : Records) : (d.pruneExpired now).ns = d.ns :=
  (Table.walk_frame Records.ns deleteGrant_ns _ _).trans
    (Table.walk_frame Records.ns deleteSession_ns _ _)

theorem pruneExpired_sessions :
    (d.pruneExpired now).sessions.lookup k = some r ↔
      d.sessions.lookup k = some r ∧ now < r.expiresAt := by
  have acts : ∀ (id : String) (d : Records),
      (d.deleteSession id).sessions.lookup k = some r ↔ d.sessions.lookup k = some r ∧ k ≠ id := by
    intro id d
    rw [deleteSession_sessions, Table.lookup_erase_some, and_comm]
  unfold pruneExpired
  rw [Table.walk_frame Records.sessions deleteGrant_sessions,
    Table.walk_survives (fun d : Records => d.sessions.lookup k = some r) acts, Table.forall_entries]
  constructor
  · rintro ⟨found, all⟩
    exact ⟨found, by simpa using all r found⟩
  · rintro ⟨found, live⟩
    refine ⟨found, ?_⟩
    intro r' again
    rw [found] at again
    cases again
    simpa using live

def Live (now : Time) (d : Records) (id : String) : Prop :=
  ∀ r, d.sessions.lookup id = some r → now < r.expiresAt

/-- A fact that goes with its Session survives the walk over expired Sessions
exactly when its Session is live. -/
theorem walk_expired (fact : Records → Prop) (acts : ∀ k c, fact (deleteSession k c) ↔ fact c ∧ id ≠ k) :
    fact (Table.walk (fun _ r => decide (r.expiresAt ≤ now)) deleteSession d.sessions.entries d) ↔
      fact d ∧ d.Live now id := by
  rw [Table.walk_survives fact acts, Table.forall_entries]
  simp [Live]

theorem pruneExpired_grants :
    (d.pruneExpired now).grants.lookup k = some g ↔
      d.grants.lookup k = some g ∧ now < g.expiresAt ∧ d.Live now g.sessionID := by
  unfold pruneExpired
  rw [Table.walk_survives (fun d : Records => d.grants.lookup k = some g)
      (fun _ _ => deleteGrant_grants), Table.forall_entries,
    walk_expired (fun d : Records => d.grants.lookup k = some g) (fun _ _ => deleteSession_grants)]
  constructor
  · rintro ⟨⟨found, live⟩, all⟩
    have kept := (walk_expired (fun d : Records => d.grants.lookup k = some g)
      (fun _ _ => deleteSession_grants)).mpr ⟨found, live⟩
    exact ⟨found, by simpa using all g kept, live⟩
  · rintro ⟨found, fresh, live⟩
    refine ⟨⟨found, live⟩, ?_⟩
    intro h kept
    have again := ((walk_expired (fun d : Records => d.grants.lookup k = some h)
      (fun _ _ => deleteSession_grants)).mp kept).1
    rw [found] at again
    cases again
    simpa using fresh

theorem pruneExpired_receipts {r : Receipt} :
    (d.pruneExpired now).receipts.lookup k = some r ↔
      d.receipts.lookup k = some r ∧ now < r.expiresAt ∧ d.Live now r.sessionID := by
  unfold pruneExpired
  rw [Table.lookup_eraseWhere, Table.walk_frame Records.receipts deleteGrant_receipts,
    walk_expired (fun d : Records => d.receipts.lookup k = some r)
      (fun _ _ => deleteSession_receipts)]
  simp only [decide_eq_false_iff_not, not_le]
  tauto

end Records

namespace Tx

def setData (tx : Tx) (d : Records) : Tx := { tx with data := d }

def bounded (P : Primitives) (v : Stored) : TxM Unit := do
  let size ← Txn.lift ((P.marshal v).elim (.error .encoding) .ok)
  Txn.require (size ≤ maxRecordBytes) .capacity

def write : TxM Unit := do
  let tx ← Txn.get
  Txn.require (tx.mode = .write) .readOnly

def clock : TxM Time := do
  let tx ← Txn.get
  pure tx.now

def session (id : String) : TxM (Option SessionRecord) := do
  let tx ← Txn.get
  pure (tx.data.sessions.lookup id)

def sessions (limit : Int) : TxM (List SessionRecord) := do
  let tx ← Txn.get
  Txn.require (0 ≤ limit) .capacity
  let keys := tx.data.sessions.keys.insertionSort (· ≤ ·)
  Txn.require ((keys.length : Int) ≤ limit) .capacity
  pure (keys.filterMap tx.data.sessions.lookup)

def putSession (P : Primitives) (r : SessionRecord) : TxM Unit := do
  bounded P (.session r)
  write
  Txn.modify fun tx => tx.setData (tx.data.putSession r)

def deleteSession (id : String) : TxM Unit := do
  write
  Txn.modify fun tx => tx.setData (tx.data.deleteSession id)

def grant (locator : String) : TxM (Option GrantRecord) := do
  let tx ← Txn.get
  match tx.data.locators.lookup locator with
  | none => pure none
  | some id => pure (tx.data.grants.lookup id)

def putGrant (P : Primitives) (r : GrantRecord) : TxM Unit := do
  bounded P (.grant r)
  write
  Txn.require (r.id ≠ "" ∧ r.joinCode ≠ "" ∧ r.aliasText ≠ "" ∧ r.joinCode ≠ r.aliasText) .conflict
  let tx ← Txn.get
  Txn.require (r.sessionID ∈ tx.data.sessions) .conflict
  Txn.require (r.id ∉ tx.data.grants) .conflict
  Txn.require (r.joinCode ∉ tx.data.locators) .conflict
  Txn.require (r.aliasText ∉ tx.data.locators) .conflict
  Txn.modify fun tx => tx.setData (tx.data.putGrant r)

def deleteGrant (id : String) : TxM Unit := do
  write
  Txn.modify fun tx => tx.setData (tx.data.deleteGrant id)

def receipt (key : String) : TxM (Option Receipt) := do
  let tx ← Txn.get
  pure (tx.data.receipts.lookup key)

def putReceipt (P : Primitives) (r : Receipt) : TxM Unit := do
  bounded P (.receipt r)
  write
  let tx ← Txn.get
  Txn.require (r.sessionID ∈ tx.data.sessions) .conflict
  Txn.require (r.key ∉ tx.data.receipts) .conflict
  Txn.modify fun tx => tx.setData (tx.data.putReceipt r)

def counts : TxM Counts := do
  let tx ← Txn.get
  pure ⟨tx.data.sessions.size, tx.data.grants.size, tx.data.receipts.size⟩

def pruneExpired : TxM Unit := do
  write
  Txn.modify fun tx => tx.setData (tx.data.pruneExpired tx.now)

def ns : TxM Namespace := do
  let tx ← Txn.get
  pure tx.data.ns

def putNamespace (P : Primitives) (r : Namespace) : TxM Unit := do
  bounded P (.ns r)
  write
  Txn.modify fun tx => tx.setData (tx.data.putNamespace r)

def readRandom (n : Nat) : TxM Bytes := do
  let tx ← Txn.get
  Txn.require (n ≤ tx.entropy.length) .entropy
  Txn.modify fun tx => { tx with entropy := tx.entropy.drop n }
  pure (tx.entropy.take n)

def Fits (P : Primitives) (v : Stored) : Prop := ∃ size, P.marshal v = some size ∧ size ≤ maxRecordBytes

variable {P : Primitives} {tx tx' : Tx} {u : Unit}
variable {id : String} {v : Stored} {r : GrantRecord} {e : Err}

@[simp] theorem bounded_ok : bounded P v tx = (.ok u, tx') ↔ Fits P v ∧ tx = tx' := by
  simp only [bounded, Txn.bind_ok, Txn.lift_ok, Txn.require_ok, Fits]
  cases P.marshal v with
  | none => simp
  | some size => simp

theorem bounded_error (failed : bounded P v tx = (.error e, tx')) : e = .encoding ∨ e = .capacity := by
  simp only [bounded, Txn.bind_error, Txn.lift_error, Txn.require_error] at failed
  cases marshalled : P.marshal v with
  | none =>
    simp only [marshalled, Option.elim] at failed
    rcases failed with ⟨failed, _⟩ | ⟨_, _, _, _, rfl, _⟩
    · cases failed
      exact .inl rfl
    · exact .inr rfl
  | some size =>
    simp only [marshalled, Option.elim] at failed
    rcases failed with ⟨failed, _⟩ | ⟨_, _, _, _, rfl, _⟩
    · cases failed
    · exact .inr rfl

@[simp] theorem write_ok : write tx = (.ok u, tx') ↔ tx.mode = .write ∧ tx = tx' := by
  simp [write, Txn.bind_ok, and_comm]

@[simp] theorem clock_run (tx : Tx) : clock tx = (.ok tx.now, tx) := rfl

@[simp] theorem session_run (id : String) (tx : Tx) :
    session id tx = (.ok (tx.data.sessions.lookup id), tx) := rfl

@[simp] theorem receipt_run (key : String) (tx : Tx) :
    receipt key tx = (.ok (tx.data.receipts.lookup key), tx) := rfl

@[simp] theorem counts_run (tx : Tx) :
    counts tx = (.ok ⟨tx.data.sessions.size, tx.data.grants.size, tx.data.receipts.size⟩, tx) := rfl

@[simp] theorem ns_run (tx : Tx) : ns tx = (.ok tx.data.ns, tx) := rfl

def locate (d : Records) (locator : String) : Option GrantRecord :=
  (d.locators.lookup locator).bind d.grants.lookup

@[simp] theorem grant_run (locator : String) (tx : Tx) :
    grant locator tx = (.ok (locate tx.data locator), tx) := by
  simp only [grant, Txn.bind_run, Txn.get_run, locate]
  cases tx.data.locators.lookup locator <;> rfl

theorem locate_some {d : Records} {locator : String} {g : GrantRecord}
    (found : locate d locator = some g) : ∃ id, d.grants.lookup id = some g := by
  obtain ⟨id, _, h⟩ := Option.bind_eq_some_iff.mp found
  exact ⟨id, h⟩

theorem sessions_ok {limit : Int} {rows : List SessionRecord}
    (listed : sessions limit tx = (.ok rows, tx')) :
    tx = tx' ∧ ∀ r, r ∈ rows ↔ ∃ k, tx.data.sessions.lookup k = some r := by
  simp only [sessions, Txn.bind_ok, Txn.get_run, Txn.require_ok] at listed
  obtain ⟨t, _, same, _, _, ⟨_, rfl⟩, _, _, ⟨_, rfl⟩, out⟩ := listed
  cases same
  simp only [Txn.pure_run, Prod.mk.injEq, Except.ok.injEq] at out
  obtain ⟨rfl, rfl⟩ := out
  refine ⟨rfl, ?_⟩
  intro r
  simp only [List.mem_filterMap, List.mem_insertionSort]
  constructor
  · rintro ⟨k, _, found⟩
    exact ⟨k, found⟩
  · rintro ⟨k, found⟩
    exact ⟨k, AList.mem_keys.mp (AList.lookup_isSome.mp (by rw [found]; rfl)), found⟩

theorem putSession_ok {r : SessionRecord} : putSession P r tx = (.ok u, tx') ↔
    Fits P (.session r) ∧ tx.mode = .write ∧
      tx.setData (tx.data.putSession r) = tx' := by
  simp [putSession, Txn.bind_ok, and_assoc]

theorem deleteSession_ok : deleteSession id tx = (.ok u, tx') ↔
    tx.mode = .write ∧ tx.setData (tx.data.deleteSession id) = tx' := by
  simp [deleteSession, Txn.bind_ok]

theorem putGrant_ok : putGrant P r tx = (.ok u, tx') ↔
    Fits P (.grant r) ∧ tx.mode = .write ∧
      (r.id ≠ "" ∧ r.joinCode ≠ "" ∧ r.aliasText ≠ "" ∧ r.joinCode ≠ r.aliasText) ∧
      r.sessionID ∈ tx.data.sessions ∧ r.id ∉ tx.data.grants ∧
      r.joinCode ∉ tx.data.locators ∧ r.aliasText ∉ tx.data.locators ∧
      tx.setData (tx.data.putGrant r) = tx' := by
  simp [putGrant, Txn.bind_ok, and_assoc]

theorem putGrant_error (refused : putGrant P r tx = (.error e, tx')) : tx' = tx := by
  simp only [putGrant, bounded, write, Txn.bind_error, Txn.bind_ok, Txn.lift_error, Txn.lift_ok,
    Txn.require_error, Txn.require_ok, Txn.get_run, Txn.modify_run] at refused
  grind

theorem deleteGrant_ok : deleteGrant id tx = (.ok u, tx') ↔
    tx.mode = .write ∧ tx.setData (tx.data.deleteGrant id) = tx' := by
  simp [deleteGrant, Txn.bind_ok]

theorem putReceipt_ok {r : Receipt} : putReceipt P r tx = (.ok u, tx') ↔
    Fits P (.receipt r) ∧ tx.mode = .write ∧ r.sessionID ∈ tx.data.sessions ∧
      r.key ∉ tx.data.receipts ∧
      tx.setData (tx.data.putReceipt r) = tx' := by
  simp [putReceipt, Txn.bind_ok, and_assoc]

theorem pruneExpired_ok : pruneExpired tx = (.ok u, tx') ↔
    tx.mode = .write ∧ tx.setData (tx.data.pruneExpired tx.now) = tx' := by
  simp [pruneExpired, Txn.bind_ok]

theorem putNamespace_ok {r : Namespace} : putNamespace P r tx = (.ok u, tx') ↔
    Fits P (.ns r) ∧ tx.mode = .write ∧ tx.setData (tx.data.putNamespace r) = tx' := by
  simp [putNamespace, Txn.bind_ok, and_assoc]

theorem readRandom_ok {n : Nat} {bytes : Bytes} : readRandom n tx = (.ok bytes, tx') ↔
    n ≤ tx.entropy.length ∧ tx.entropy.take n = bytes ∧
      { tx with entropy := tx.entropy.drop n } = tx' := by
  simp [readRandom, Txn.bind_ok, and_assoc]

end Tx

structure Store where
  data : Records
  closed : Bool

/-- What surrounds one call: the transaction clock, the random source, and
whether the caller's context ends before the transaction commits. -/
structure Env where
  now : Time
  entropy : Bytes
  ctxDone : Bool

structure Ran (α : Type) where
  reply : Except Err α
  store : Store
  signed : List Signed
  drawn : List String

namespace Store

def empty : Store := ⟨Records.empty, false⟩

def start (mode : Mode) (env : Env) (st : Store) : Tx :=
  { now := env.now, mode := mode, data := st.data, entropy := env.entropy, signed := [], drawn := [] }

def refuse {α : Type} (e : Err) (st : Store) : Ran α := ⟨.error e, st, [], []⟩

def run {α : Type} (mode : Mode) (env : Env) (st : Store) (fn : TxM α) : Ran α :=
  if st.closed then st.refuse .closed
  else
    match fn (st.start mode env) with
    | (.error e, tx) => ⟨.error e, st, tx.signed, tx.drawn⟩
    | (.ok a, tx) =>
      if env.ctxDone then ⟨.error .contextDone, st, tx.signed, tx.drawn⟩
      else
        match mode with
        | .write => ⟨.ok a, { st with data := tx.data }, tx.signed, tx.drawn⟩
        | .read => ⟨.ok a, st, tx.signed, tx.drawn⟩

def update {α : Type} (env : Env) (st : Store) (fn : TxM α) : Ran α := st.run .write env fn

def view {α : Type} (env : Env) (st : Store) (fn : TxM α) : Ran α := st.run .read env fn

def close (st : Store) : Store := { st with closed := true }

variable {α : Type} {mode : Mode} {env : Env} {st : Store} {fn : TxM α} {a : α} {e : Err}

theorem run_ok (done : (st.run mode env fn).reply = .ok a) :
    ∃ tx, fn (st.start mode env) = (.ok a, tx) ∧ (st.run mode env fn).signed = tx.signed ∧
      (st.run mode env fn).drawn = tx.drawn ∧
      (st.run mode env fn).store = match mode with
        | .write => { st with data := tx.data }
        | .read => st := by
  unfold run at done ⊢
  split at done
  · simp [refuse] at done
  · rename_i live
    rw [if_neg live]
    cases h : fn (st.start mode env) with
    | mk r tx =>
      cases r with
      | error e =>
        rw [h] at done
        simp at done
      | ok b =>
        rw [h] at done
        by_cases dead : env.ctxDone = true
        · simp [dead] at done
        · refine ⟨tx, ?_, ?_⟩
          · cases mode <;> simp_all
          · cases mode <;> simp_all

theorem run_error (failed : (st.run mode env fn).reply = .error e) :
    (st.run mode env fn).store = st := by
  unfold run at failed ⊢
  split
  · rfl
  · rename_i live
    rw [if_neg live] at failed
    cases h : fn (st.start mode env) with
    | mk r tx =>
      cases r with
      | error e' => rfl
      | ok b =>
        rw [h] at failed
        by_cases dead : env.ctxDone = true
        · simp [dead]
        · cases mode <;> simp [dead] at failed

theorem run_logs (mode : Mode) (env : Env) (st : Store) (fn : TxM α) :
    ((st.run mode env fn).signed = [] ∧ (st.run mode env fn).drawn = []) ∨
      ((st.run mode env fn).signed = (fn (st.start mode env)).2.signed ∧
        (st.run mode env fn).drawn = (fn (st.start mode env)).2.drawn) := by
  unfold run
  split
  · exact .inl ⟨rfl, rfl⟩
  · right
    cases h : fn (st.start mode env) with
    | mk r tx =>
      cases r with
      | error e => exact ⟨rfl, rfl⟩
      | ok b =>
        by_cases dead : env.ctxDone = true
        · simp [dead]
        · cases mode <;> simp [dead]

theorem update_ok (done : (st.update env fn).reply = .ok a) :
    ∃ tx, fn (st.start .write env) = (.ok a, tx) ∧ (st.update env fn).signed = tx.signed ∧
      (st.update env fn).drawn = tx.drawn ∧ (st.update env fn).store = { st with data := tx.data } :=
  run_ok done

theorem view_store (env : Env) (st : Store) (fn : TxM α) : (st.view env fn).store = st := by
  cases h : (st.view env fn).reply with
  | error e => exact run_error h
  | ok a =>
    obtain ⟨tx, _, _, _, same⟩ := run_ok h
    exact same

end Store

end Relay
