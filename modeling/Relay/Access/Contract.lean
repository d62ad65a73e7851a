import Relay.Access.Operations
import Relay.Lib.Relational

/-! The contract of a transaction: what each operation returns and what it leaves stored, for
records that are not too large. The process-local store is that contract. -/
namespace Relay

namespace Records

def Accepts (d : Records) (g : GrantRecord) : Prop :=
  (g.id ≠ "" ∧ g.joinCode ≠ "" ∧ g.aliasText ≠ "" ∧ g.joinCode ≠ g.aliasText) ∧ g.sessionID ∈ d.sessions ∧
    g.id ∉ d.grants ∧ g.joinCode ∉ d.locators ∧ g.aliasText ∉ d.locators

instance (d : Records) (g : GrantRecord) : Decidable (d.Accepts g) := inferInstanceAs (Decidable (_ ∧ _ ∧ _ ∧ _ ∧ _))

def AcceptsReceipt (d : Records) (c : Receipt) : Prop := c.sessionID ∈ d.sessions ∧ c.key ∉ d.receipts

instance (d : Records) (c : Receipt) : Decidable (d.AcceptsReceipt c) := inferInstanceAs (Decidable (_ ∧ _))

end Records

def written (mode : Mode) (d : Records) (admitted : Prop) [Decidable admitted] (d' : Records) :
    Except Err TxValue × Records :=
  if mode = .write then if admitted then (.ok .done, d') else (.error .conflict, d) else (.error .readOnly, d)

def TxOp.contract (mode : Mode) (now : Time) (d : Records) : TxOp → Except Err TxValue × Records
  | .session id => (.ok (.session (d.sessions.lookup id)), d)
  | .sessions limit =>
    if 0 ≤ limit.toInt ∧ (d.sessions.size : Int) ≤ limit.toInt then (.ok (.sessions d.sessions.ordered), d)
    else (.error .capacity, d)
  | .putSession r => written mode d True (d.putSession r)
  | .deleteSession id => written mode d True (d.deleteSession id)
  | .grant locator => (.ok (.grant (Tx.locate d locator)), d)
  | .putGrant g => written mode d (d.Accepts g) (d.putGrant g)
  | .deleteGrant id => written mode d True (d.deleteGrant id)
  | .receipt key => (.ok (.receipt (d.receipts.lookup key)), d)
  | .putReceipt c => written mode d (d.AcceptsReceipt c) (d.putReceipt c)
  | .counts => (.ok (.counts ⟨d.sessions.size, d.grants.size, d.receipts.size⟩), d)
  | .pruneExpired => written mode d True (d.pruneExpired now)
  | .ns => (.ok (.ns d.ns), d)
  | .putNamespace n => written mode d True (d.putNamespace n)

def TxOp.Fits (P : Primitives) : TxOp → Prop
  | .putSession r => Tx.Fits P (.session r)
  | .putGrant r => Tx.Fits P (.grant r)
  | .putReceipt r => Tx.Fits P (.receipt r)
  | .putNamespace r => Tx.Fits P (.ns r)
  | _ => True

/-! The process-local store is the contract. -/
section Memory

variable {P : Primitives} {op : TxOp}

theorem setData_self (tx : Tx) : tx.setData tx.data = tx := rfl

theorem write_bind_run {α : Type} (f : Unit → TxM α) (tx : Tx) :
    (Tx.write >>= f) tx = if tx.mode = .write then f () tx else (.error .readOnly, tx) := by
  by_cases mode : tx.mode = .write
  · simp [Tx.write, Txn.bind_run, Txn.require, mode]
  · simp [Tx.write, Txn.bind_run, Txn.require, mode]

theorem bounded_bind_run {α : Type} {v : Stored} (fits : Tx.Fits P v) (f : Unit → TxM α) (tx : Tx) :
    (Tx.bounded P v >>= f) tx = f () tx :=
  Txn.ok_bind_run (Tx.bounded_ok.mpr ⟨fits, rfl⟩)

theorem done_run {m : TxM Unit} {tx : Tx} :
    (m >>= fun _ => (pure .done : TxM TxValue)) tx = ((m tx).1.map fun _ => .done, (m tx).2) := by
  rw [Txn.bind_run]
  cases m tx with
  | mk result t => cases result <;> rfl

theorem Tx.sessions_run (limit : Int) (tx : Tx) :
    Tx.sessions limit tx = if 0 ≤ limit ∧ (tx.data.sessions.size : Int) ≤ limit then (.ok tx.data.sessions.ordered, tx)
      else (.error .capacity, tx) := by
  simp only [Tx.sessions, Txn.get_bind_run, Txn.require_bind_run, List.length_insertionSort, Table.length_keys, ← ite_and]
  rfl

theorem putGrant_run {g : GrantRecord} (fits : Tx.Fits P (.grant g)) (tx : Tx) : Tx.putGrant P g tx =
    if tx.mode = .write then
      if tx.data.Accepts g then (.ok (), tx.setData (tx.data.putGrant g)) else (.error .conflict, tx)
    else (.error .readOnly, tx) := by
  simp only [Tx.putGrant, bounded_bind_run fits, write_bind_run, Txn.get_bind_run, Txn.require_bind_run, Txn.modify_run,
    ← ite_and]
  exact if_congr Iff.rfl (if_congr Iff.rfl rfl rfl) rfl

theorem putReceipt_run {c : Receipt} (fits : Tx.Fits P (.receipt c)) (tx : Tx) : Tx.putReceipt P c tx =
    if tx.mode = .write then
      if tx.data.AcceptsReceipt c then (.ok (), tx.setData (tx.data.putReceipt c)) else (.error .conflict, tx)
    else (.error .readOnly, tx) := by
  simp only [Tx.putReceipt, bounded_bind_run fits, write_bind_run, Txn.get_bind_run, Txn.require_bind_run,
    Txn.modify_run, ← ite_and]
  exact if_congr Iff.rfl (if_congr Iff.rfl rfl rfl) rfl

theorem run_contract (fits : op.Fits P) (tx : Tx) :
    op.run P tx =
      ((op.contract tx.mode tx.now tx.data).1, tx.setData (op.contract tx.mode tx.now tx.data).2) := by
  cases op with
  | session | grant | receipt | counts | ns => simp [TxOp.run, TxOp.contract, Txn.bind_run, Tx.setData]
  | sessions limit =>
    simp only [TxOp.run, TxOp.contract, Txn.bind_run, Tx.sessions_run]
    by_cases room : 0 ≤ limit.toInt ∧ (tx.data.sessions.size : Int) ≤ limit.toInt <;> simp [room, setData_self]
  | putSession r | putNamespace r =>
    simp only [TxOp.run, TxOp.contract, done_run, Tx.putSession, Tx.putNamespace, bounded_bind_run fits, write_bind_run,
      written]
    by_cases mode : tx.mode = .write <;> simp [mode, Except.map, Tx.setData]
  | deleteSession id | deleteGrant id | pruneExpired =>
    simp only [TxOp.run, TxOp.contract, done_run, Tx.deleteSession, Tx.deleteGrant, Tx.pruneExpired, write_bind_run,
      written]
    by_cases mode : tx.mode = .write <;> simp [mode, Except.map, Tx.setData]
  | putGrant g =>
    simp only [TxOp.run, TxOp.contract, done_run, putGrant_run fits, written]
    by_cases mode : tx.mode = .write <;> by_cases admitted : tx.data.Accepts g <;>
      simp [mode, admitted, Except.map, setData_self]
  | putReceipt c =>
    simp only [TxOp.run, TxOp.contract, done_run, putReceipt_run fits, written]
    by_cases mode : tx.mode = .write <;> by_cases admitted : tx.data.AcceptsReceipt c <;>
      simp [mode, admitted, Except.map, setData_self]

end Memory

theorem Store.transact_eq (P : Primitives) {st : Store} (live : st.closed = false) (t : Transaction) :
    st.transact P t = match t.result with
      | .error _ => st
      | .ok () => if t.env.ctxDone then st else match t.mode with
        | .write => { st with data := (Txn.each (TxOp.run P) t.ops (st.start t.mode t.env)).2.data }
        | .read => st := by
  obtain ⟨mode, env, ops, result⟩ := t
  rw [transact, run, live, if_neg Bool.false_ne_true]
  cases result with
  | error e => rfl
  | ok u =>
    dsimp only [Transaction.callback]
    split
    · rfl
    · cases mode <;> rfl

theorem Store.transact_closed (P : Primitives) {st : Store} (live : st.closed = false) (t : Transaction) :
    (st.transact P t).closed = false := by
  rw [transact_eq P live t]
  split
  · exact live
  · split
    · exact live
    · split <;> exact live

theorem each_read (P : Primitives) (ops : List TxOp) {tx : Tx} (read : tx.mode = .read)
    (fits : ∀ op ∈ ops, op.Fits P) : (Txn.each (TxOp.run P) ops tx).2.data = tx.data := by
  induction ops generalizing tx with
  | nil => rfl
  | cons op ops ih =>
    have ran := run_contract (fits op List.mem_cons_self) tx
    have same : (op.contract .read tx.now tx.data).2 = tx.data := by
      cases op with
      | sessions limit =>
        simp only [TxOp.contract]
        split <;> rfl
      | _ => rfl
    rw [read, same] at ran
    simp only [Txn.each]
    rw [ran]
    exact ih read fun op member => fits op (List.mem_cons_of_mem _ member)

end Relay
