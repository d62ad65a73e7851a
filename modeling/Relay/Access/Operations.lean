import Relay.Access.System
import Relay.Lib.Index

/-! The operations of a transaction as data, and what any sequence of them leaves of the
process-local store: the locators are an exact index of the grants, and whatever belongs to a
Session has its Session stored. -/
namespace Relay

inductive TxOp where
  | session (id : String)
  | sessions (limit : Int64)
  | putSession (r : SessionRecord)
  | deleteSession (id : String)
  | grant (locator : String)
  | putGrant (r : GrantRecord)
  | deleteGrant (id : String)
  | receipt (key : String)
  | putReceipt (r : Receipt)
  | counts
  | pruneExpired
  | ns
  | putNamespace (r : Namespace)

inductive TxValue where
  | session (found : Option SessionRecord)
  | sessions (rows : List SessionRecord)
  | grant (found : Option GrantRecord)
  | receipt (found : Option Receipt)
  | counts (counts : Counts)
  | ns (r : Namespace)
  | done
deriving DecidableEq

def TxOp.run (P : Primitives) : TxOp → TxM TxValue
  | .session id => do
    let found ← Tx.session id
    pure (.session found)
  | .sessions limit => do
    let rows ← Tx.sessions limit.toInt
    pure (.sessions rows)
  | .putSession r => do
    Tx.putSession P r
    pure .done
  | .deleteSession id => do
    Tx.deleteSession id
    pure .done
  | .grant locator => do
    let found ← Tx.grant locator
    pure (.grant found)
  | .putGrant r => do
    Tx.putGrant P r
    pure .done
  | .deleteGrant id => do
    Tx.deleteGrant id
    pure .done
  | .receipt key => do
    let found ← Tx.receipt key
    pure (.receipt found)
  | .putReceipt r => do
    Tx.putReceipt P r
    pure .done
  | .counts => do
    let counts ← Tx.counts
    pure (.counts counts)
  | .pruneExpired => do
    Tx.pruneExpired
    pure .done
  | .ns => do
    let r ← Tx.ns
    pure (.ns r)
  | .putNamespace r => do
    Tx.putNamespace P r
    pure .done

/-- A callback that goes on after failures, and what it returns in the end. It is rolled back
if it returns a failure or if its context has ended. -/
structure Transaction where
  mode : Mode
  env : Env
  ops : List TxOp
  result : Except Err Unit

namespace Transaction

def callback (P : Primitives) (t : Transaction) : TxM Unit := fun tx =>
  (t.result, (Txn.each (TxOp.run P) t.ops tx).2)

def outcomes (P : Primitives) (t : Transaction) (st : Store) : List (Except Err TxValue) :=
  (Txn.each (TxOp.run P) t.ops (st.start t.mode t.env)).1

end Transaction

def Store.transact (P : Primitives) (st : Store) (t : Transaction) : Store :=
  (st.run t.mode t.env (t.callback P)).store

def Store.transactAll (P : Primitives) (st : Store) (ts : List Transaction) : Store := ts.foldl (transact P) st

namespace Records

structure Located (d : Records) : Prop where
  keyed : ∀ {k g}, d.grants.lookup k = some g → g.id = k
  indexed : Table.Indexed GrantRecord.joinCode GrantRecord.aliasText d.grants d.locators

structure Housed (d : Records) : Prop where
  grants : ∀ {k g}, d.grants.lookup k = some g → g.sessionID ∈ d.sessions
  receipts : ∀ {k c}, d.receipts.lookup k = some c → c.sessionID ∈ d.sessions

structure Represented (d : Records) : Prop where
  located : d.Located
  housed : d.Housed

theorem represented_empty : Records.empty.Represented where
  located := ⟨by simp [empty], .empty⟩
  housed := by constructor <;> simp [empty]

namespace Located

variable {d : Records}

theorem putGrant {g : GrantRecord} (located : d.Located) (fresh : g.id ∉ d.grants) (code : g.joinCode ∉ d.locators)
    (name : g.aliasText ∉ d.locators) (differ : g.joinCode ≠ g.aliasText) : (d.putGrant g).Located where
  keyed found := by
    rcases putGrant_grants.mp found with ⟨rfl, rfl⟩ | ⟨_, found⟩
    · rfl
    · exact located.keyed found
  indexed := located.indexed.insert fresh code name differ

theorem deleteGrant (located : d.Located) (id : String) : (d.deleteGrant id).Located := by
  constructor
  · intro k g found
    exact located.keyed (deleteGrant_grants.mp found).1
  · unfold Records.deleteGrant
    split
    · exact located.indexed
    · rename_i g found
      exact located.indexed.erase found

theorem deleteSession (located : d.Located) (id : String) : (d.deleteSession id).Located := by
  have start : Located { d with sessions := d.sessions.erase id } := ⟨located.keyed, located.indexed⟩
  have walked := Table.walk_invariant (p := fun _ (g : GrantRecord) => g.sessionID == id) (I := Located)
    (fun k _ kept => kept.deleteGrant k) d.grants.entries start
  exact ⟨walked.keyed, walked.indexed⟩

theorem pruneExpired (located : d.Located) (now : Time) : (d.pruneExpired now).Located := by
  have sessions := Table.walk_invariant (p := fun _ (r : SessionRecord) => decide (r.expiresAt ≤ now)) (I := Located)
    (fun k _ kept => kept.deleteSession k) d.sessions.entries located
  unfold Records.pruneExpired
  dsimp only
  generalize Table.walk (fun _ r => decide (r.expiresAt ≤ now)) Records.deleteSession d.sessions.entries d = c at *
  have grants := Table.walk_invariant (p := fun _ (g : GrantRecord) => decide (g.expiresAt ≤ now)) (I := Located)
    (fun k _ kept => kept.deleteGrant k) c.grants.entries sessions
  exact ⟨grants.keyed, grants.indexed⟩

end Located

namespace Housed

variable {d : Records}

section

variable (housed : d.Housed)

include housed

theorem putSession (r : SessionRecord) : (d.putSession r).Housed where
  grants found := (AList.mem_insert _).mpr (.inr (housed.grants found))
  receipts found := (AList.mem_insert _).mpr (.inr (housed.receipts found))

theorem putGrant {g : GrantRecord} (session : g.sessionID ∈ d.sessions) : (d.putGrant g).Housed where
  grants found := by
    rcases putGrant_grants.mp found with ⟨_, rfl⟩ | ⟨_, found⟩
    · exact session
    · exact housed.grants found
  receipts := housed.receipts

theorem putReceipt {c : Receipt} (session : c.sessionID ∈ d.sessions) : (d.putReceipt c).Housed where
  grants := housed.grants
  receipts found := by
    rcases putReceipt_lookup.mp found with ⟨_, rfl⟩ | ⟨_, found⟩
    · exact session
    · exact housed.receipts found

theorem deleteGrant (id : String) : (d.deleteGrant id).Housed where
  grants found := by
    rw [deleteGrant_sessions]
    exact housed.grants (deleteGrant_grants.mp found).1
  receipts found := by
    rw [deleteGrant_receipts] at found
    rw [deleteGrant_sessions]
    exact housed.receipts found

theorem deleteSession (id : String) : (d.deleteSession id).Housed := by
  constructor
  · intro k g found
    obtain ⟨stored, other⟩ := deleteSession_grants.mp found
    rw [deleteSession_sessions, AList.mem_erase]
    exact ⟨other, housed.grants stored⟩
  · intro k c found
    obtain ⟨stored, other⟩ := deleteSession_receipts.mp found
    rw [deleteSession_sessions, AList.mem_erase]
    exact ⟨other, housed.receipts stored⟩

theorem pruneExpired (now : Time) : (d.pruneExpired now).Housed := by
  have kept : ∀ {id}, id ∈ d.sessions → d.Live now id → id ∈ (d.pruneExpired now).sessions := by
    intro id member live
    obtain ⟨r, stored⟩ := Table.mem_iff_lookup.mp member
    exact Table.mem_iff_lookup.mpr ⟨r, pruneExpired_sessions.mpr ⟨stored, live r stored⟩⟩
  constructor
  · intro k g found
    obtain ⟨stored, _, live⟩ := pruneExpired_grants.mp found
    exact kept (housed.grants stored) live
  · intro k c found
    obtain ⟨stored, _, live⟩ := pruneExpired_receipts.mp found
    exact kept (housed.receipts stored) live

end

end Housed

end Records

inductive TxOp.Writes (tx : Tx) : TxOp → Records → Prop
  | nothing (op : TxOp) : Writes tx op tx.data
  | putSession (r : SessionRecord) : Writes tx (.putSession r) (tx.data.putSession r)
  | deleteSession (id : String) : Writes tx (.deleteSession id) (tx.data.deleteSession id)
  | putGrant (g : GrantRecord) : g.joinCode ≠ g.aliasText → g.sessionID ∈ tx.data.sessions → g.id ∉ tx.data.grants →
    g.joinCode ∉ tx.data.locators → g.aliasText ∉ tx.data.locators → Writes tx (.putGrant g) (tx.data.putGrant g)
  | deleteGrant (id : String) : Writes tx (.deleteGrant id) (tx.data.deleteGrant id)
  | putReceipt (c : Receipt) : c.sessionID ∈ tx.data.sessions → Writes tx (.putReceipt c) (tx.data.putReceipt c)
  | pruneExpired : Writes tx .pruneExpired (tx.data.pruneExpired tx.now)
  | putNamespace (n : Namespace) : Writes tx (.putNamespace n) (tx.data.putNamespace n)

namespace TxOp

variable {P : Primitives} {op : TxOp} {tx : Tx}

theorem keeps_bounded (v : Stored) : Txn.Keeps id (Tx.bounded P v) :=
  Txn.keeps_bind (Txn.keeps_lift _) fun _ => Txn.keeps_require _ _

theorem keeps_write : Txn.Keeps id Tx.write := Txn.keeps_bind Txn.keeps_get fun _ => Txn.keeps_require _ _

theorem run_atomic (P : Primitives) (op : TxOp) : Txn.Atomic (op.run P) := by
  have done : ∀ {m : TxM Unit} {v : TxValue}, Txn.Atomic m → Txn.Atomic (m >>= fun _ => pure v) := by
    intro m v atomic tx e failed
    rcases Txn.bind_cases m (fun _ => pure v) tx with ⟨e', u, hm, out⟩ | ⟨a, u, hm, out⟩
    · have same := atomic tx e' (congrArg Prod.fst hm)
      rw [out, ← same, hm]
    · rw [out] at failed
      cases failed
  cases op with
  | session | grant | receipt | counts | ns =>
    apply Txn.Atomic.of_keeps
    intro tx
    simp [run, Txn.bind_run]
  | sessions limit =>
    apply Txn.Atomic.of_keeps
    exact Txn.keeps_bind (Txn.keeps_bind Txn.keeps_get fun _ => Txn.keeps_bind (Txn.keeps_require _ _) fun _ =>
      Txn.keeps_bind (Txn.keeps_require _ _) fun _ => Txn.keeps_pure _) fun _ => Txn.keeps_pure _
  | putSession r | putNamespace r =>
    exact done (.after (keeps_bounded _) fun _ => .after keeps_write fun _ => Txn.atomic_modify _)
  | deleteSession id | deleteGrant id | pruneExpired => exact done (.after keeps_write fun _ => Txn.atomic_modify _)
  | putGrant g =>
    exact done (.after (keeps_bounded _) fun _ => .after keeps_write fun _ => .after (Txn.keeps_require _ _) fun _ =>
      .after Txn.keeps_get fun _ => .after (Txn.keeps_require _ _) fun _ => .after (Txn.keeps_require _ _) fun _ =>
      .after (Txn.keeps_require _ _) fun _ => .after (Txn.keeps_require _ _) fun _ => Txn.atomic_modify _)
  | putReceipt c =>
    exact done (.after (keeps_bounded _) fun _ => .after keeps_write fun _ => .after Txn.keeps_get fun _ =>
      .after (Txn.keeps_require _ _) fun _ => .after (Txn.keeps_require _ _) fun _ => Txn.atomic_modify _)

theorem run_writes (P : Primitives) (op : TxOp) (tx : Tx) : op.Writes tx (op.run P tx).2.data := by
  cases out : op.run P tx with
  | mk result tx' =>
    cases result with
    | error e =>
      have same := run_atomic P op tx e (by rw [out])
      rw [out] at same
      dsimp only at same ⊢
      rw [same]
      exact .nothing op
    | ok v =>
      dsimp only
      cases op with
      | session | grant | receipt | counts | ns =>
        simp only [run, Txn.bind_run, Tx.session_run, Tx.grant_run, Tx.receipt_run, Tx.counts_run, Tx.ns_run,
          Txn.pure_run] at out
        cases out
        exact .nothing _
      | sessions limit =>
        simp only [run, Txn.bind_ok] at out
        obtain ⟨rows, _, listed, out⟩ := out
        obtain ⟨rfl, _⟩ := Tx.sessions_ok listed
        cases out
        exact .nothing _
      | putSession r =>
        simp only [run, Txn.bind_ok, Tx.putSession_ok] at out
        obtain ⟨_, _, ⟨_, _, rfl⟩, out⟩ := out
        cases out
        exact .putSession r
      | deleteSession id =>
        simp only [run, Txn.bind_ok, Tx.deleteSession_ok] at out
        obtain ⟨_, _, ⟨_, rfl⟩, out⟩ := out
        cases out
        exact .deleteSession id
      | putGrant g =>
        simp only [run, Txn.bind_ok, Tx.putGrant_ok] at out
        obtain ⟨_, _, ⟨_, _, ⟨_, _, _, differ⟩, session, fresh, code, name, rfl⟩, out⟩ := out
        cases out
        exact .putGrant g differ session fresh code name
      | deleteGrant id =>
        simp only [run, Txn.bind_ok, Tx.deleteGrant_ok] at out
        obtain ⟨_, _, ⟨_, rfl⟩, out⟩ := out
        cases out
        exact .deleteGrant id
      | putReceipt c =>
        simp only [run, Txn.bind_ok, Tx.putReceipt_ok] at out
        obtain ⟨_, _, ⟨_, _, session, _, rfl⟩, out⟩ := out
        cases out
        exact .putReceipt c session
      | pruneExpired =>
        simp only [run, Txn.bind_ok, Tx.pruneExpired_ok] at out
        obtain ⟨_, _, ⟨_, rfl⟩, out⟩ := out
        cases out
        exact .pruneExpired
      | putNamespace n =>
        simp only [run, Txn.bind_ok, Tx.putNamespace_ok] at out
        obtain ⟨_, _, ⟨_, _, rfl⟩, out⟩ := out
        cases out
        exact .putNamespace n

theorem Writes.represented {d : Records} (writes : op.Writes tx d) (represented : tx.data.Represented) :
    d.Represented := by
  obtain ⟨located, housed⟩ := represented
  cases writes with
  | nothing => exact ⟨located, housed⟩
  | putSession r => exact ⟨⟨located.keyed, located.indexed⟩, housed.putSession r⟩
  | deleteSession id => exact ⟨located.deleteSession id, housed.deleteSession id⟩
  | putGrant g differ session fresh code name => exact ⟨located.putGrant fresh code name differ, housed.putGrant session⟩
  | deleteGrant id => exact ⟨located.deleteGrant id, housed.deleteGrant id⟩
  | putReceipt c session => exact ⟨⟨located.keyed, located.indexed⟩, housed.putReceipt session⟩
  | pruneExpired => exact ⟨located.pruneExpired _, housed.pruneExpired _⟩
  | putNamespace n => exact ⟨⟨located.keyed, located.indexed⟩, ⟨housed.grants, housed.receipts⟩⟩

end TxOp

theorem represented_of_ops (P : Primitives) (ops : List TxOp) {tx : Tx} (start : tx.data.Represented) :
    (Txn.each (TxOp.run P) ops tx).2.data.Represented :=
  Txn.each_invariant (I := fun tx => tx.data.Represented)
    (fun op tx represented => (op.run_writes P tx).represented represented) ops start

theorem Store.transact_data (P : Primitives) (st : Store) (t : Transaction) :
    (st.transact P t).data = st.data ∨
      (st.transact P t).data = (Txn.each (TxOp.run P) t.ops (st.start t.mode t.env)).2.data := by
  obtain ⟨mode, env, ops, result⟩ := t
  cases mode with
  | read => exact .inl (congrArg Store.data (view_store env st _))
  | write =>
    change (st.update env (Transaction.callback P ⟨.write, env, ops, result⟩)).store.data = _ ∨
      (st.update env (Transaction.callback P ⟨.write, env, ops, result⟩)).store.data = _
    cases reply : (st.update env (Transaction.callback P ⟨.write, env, ops, result⟩)).reply with
    | error e => exact .inl (congrArg Store.data (run_error reply))
    | ok u =>
      obtain ⟨tx, ran, _, _, stored⟩ := update_ok reply
      rw [stored]
      exact .inr (congrArg (fun out => out.2.data) ran.symm)

theorem represented_of_transactions (P : Primitives) (ts : List Transaction) :
    (Store.empty.transactAll P ts).data.Represented := by
  induction ts using List.reverseRecOn with
  | nil => exact Records.represented_empty
  | append_singleton ts t ih =>
    rw [Store.transactAll, List.foldl_append]
    rcases Store.transact_data P (Store.empty.transactAll P ts) t with same | written
    · exact same ▸ ih
    · exact written ▸ represented_of_ops P t.ops ih

/-- The representation of the process-local store. After any transactions, committed or not,
and after any operations of one that is still open: a grant is stored under its own name and
its two locators are those that lead to it; every locator belongs to a grant; there are two of
them for each; and every grant and receipt has its Session. -/
theorem store_represents (P : Primitives) (ts : List Transaction) (mode : Mode) (env : Env) (ops : List TxOp) :
    ∀ d ∈ [(Store.empty.transactAll P ts).data,
        (Txn.each (TxOp.run P) ops ((Store.empty.transactAll P ts).start mode env)).2.data],
      (∀ k g, d.grants.lookup k = some g → g.id = k ∧ g.joinCode ≠ g.aliasText ∧
        ∀ l, d.locators.lookup l = some k ↔ l = g.joinCode ∨ l = g.aliasText) ∧
      (∀ l k, d.locators.lookup l = some k →
        ∃ g, d.grants.lookup k = some g ∧ (l = g.joinCode ∨ l = g.aliasText)) ∧
      d.locators.size = 2 * d.grants.size ∧
      (∀ k g, d.grants.lookup k = some g → ∃ r, d.sessions.lookup g.sessionID = some r) ∧
      ∀ k c, d.receipts.lookup k = some c → ∃ r, d.sessions.lookup c.sessionID = some r := by
  have committed := represented_of_transactions P ts
  have represented : ∀ d ∈ [(Store.empty.transactAll P ts).data,
      (Txn.each (TxOp.run P) ops ((Store.empty.transactAll P ts).start mode env)).2.data], d.Represented := by
    intro d member
    rcases List.mem_cons.mp member with rfl | member
    · exact committed
    · rw [List.mem_singleton.mp member]
      exact represented_of_ops P ops committed
  intro d member
  obtain ⟨located, housed⟩ := represented d member
  refine ⟨?_, ?_, located.indexed.size, ?_, ?_⟩
  · exact fun k g found => ⟨located.keyed found, located.indexed.apart found, fun l => located.indexed.lookup_iff found⟩
  · exact fun l k leads => located.indexed.owned leads
  · exact fun k g found => Table.mem_iff_lookup.mp (housed.grants found)
  · exact fun k c found => Table.mem_iff_lookup.mp (housed.receipts found)

namespace Plain

def committing (now : Time) (ops : List TxOp) : Transaction := ⟨.write, ⟨now, [], false⟩, ops, .ok ()⟩

def guest (expiry : Time) : GrantRecord := ⟨1, "g", "c", "n", "", 2, "public", "a", "mix", 0, expiry⟩

def filling (now expiry : Time) : Transaction :=
  committing now
    [.putSession { service.newSession "a" [] now with expiresAt := expiry }, .putGrant (guest expiry)]

end Plain

open Plain in
theorem store_represents_filled :
    (Store.empty.transactAll primitives [filling 1 10]).data.grants.lookup "g" = some (guest 10) ∧
      ∀ l, (Store.empty.transactAll primitives [filling 1 10]).data.locators.lookup l = some "g" ↔
        l = "c" ∨ l = "n" := by
  have stored : (Store.empty.transactAll primitives [filling 1 10]).data.grants.lookup "g" = some (guest 10) := by
    decide +kernel
  obtain ⟨grants, _⟩ := store_represents primitives [filling 1 10] .read ⟨1, [], false⟩ [] _ List.mem_cons_self
  exact ⟨stored, (grants "g" _ stored).2.2⟩

end Relay
