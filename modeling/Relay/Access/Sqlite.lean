import Relay.Access.Operations
import Relay.ClockLineage.Ntp
import Relay.Lib.Relational

/-! The SQLite adapter: five tables, the statements that the adapter executes on them, and the
operations of a transaction. A deletion cascades to the rows that refer to what is deleted; an
insertion fails on a primary key that exists and on a row that does not exist. The payload of a
row is whatever the serialization makes of a record. -/
namespace Relay

structure Json (Blob : Type) where
  marshal : Stored → Option Blob
  size : Blob → Nat
  ns : Blob → Option Namespace
  session : Blob → Option SessionRecord
  grant : Blob → Option GrantRecord
  receipt : Blob → Option Receipt

structure SessionRow (Blob : Type) where
  expiresAt : Int
  payload : Blob

structure OwnedRow (Blob : Type) where
  sessionID : String
  expiresAt : Int
  payload : Blob

structure Database (Blob : Type) where
  accessNamespace : Option Blob
  accessSessions : Table String (SessionRow Blob)
  accessGrants : Table String (OwnedRow Blob)
  accessLocators : Table String String
  accessReceipts : Table String (OwnedRow Blob)

/-- A failure of the adapter: one of its own, or a constraint that a statement violates. -/
inductive SqlErr where
  | access (e : Err)
  | constraint
deriving DecidableEq

namespace Database

variable {Blob : Type}

def empty : Database Blob := ⟨none, ∅, ∅, ∅, ∅⟩

def upsertSession (id : String) (row : SessionRow Blob) (db : Database Blob) : Database Blob :=
  { db with accessSessions := db.accessSessions.insert id row }

def deleteGrants (p : String → OwnedRow Blob → Bool) (db : Database Blob) : Database Blob :=
  { db with
    accessGrants := db.accessGrants.eraseWhere p
    accessLocators := db.accessLocators.eraseWhere fun _ grantID => decide (grantID ∈ db.accessGrants.matching p) }

def deleteReceipts (p : String → OwnedRow Blob → Bool) (db : Database Blob) : Database Blob :=
  { db with accessReceipts := db.accessReceipts.eraseWhere p }

def deleteSessions (p : String → SessionRow Blob → Bool) (db : Database Blob) : Database Blob :=
  let gone := db.accessSessions.matching p
  let db := { db with accessSessions := db.accessSessions.eraseWhere p }
  (db.deleteGrants fun _ row => decide (row.sessionID ∈ gone)).deleteReceipts fun _ row =>
    decide (row.sessionID ∈ gone)

def insertGrant (id : String) (row : OwnedRow Blob) (db : Database Blob) : Except SqlErr (Database Blob) :=
  if id ∈ db.accessGrants ∨ row.sessionID ∉ db.accessSessions then .error .constraint
  else .ok { db with accessGrants := db.accessGrants.insert id row }

def insertLocator (locator grantID : String) (db : Database Blob) : Except SqlErr (Database Blob) :=
  if locator ∈ db.accessLocators ∨ grantID ∉ db.accessGrants then .error .constraint
  else .ok { db with accessLocators := db.accessLocators.insert locator grantID }

def insertLocators (first second grantID : String) (db : Database Blob) : Except SqlErr (Database Blob) :=
  match db.insertLocator first grantID with
  | .error e => .error e
  | .ok db => db.insertLocator second grantID

def insertReceipt (id : String) (row : OwnedRow Blob) (db : Database Blob) : Except SqlErr (Database Blob) :=
  if id ∈ db.accessReceipts ∨ row.sessionID ∉ db.accessSessions then .error .constraint
  else .ok { db with accessReceipts := db.accessReceipts.insert id row }

end Database

structure SqlTx (Blob : Type) where
  now : Time
  mode : Mode
  db : Database Blob

abbrev SqlM (Blob : Type) : Type → Type := Txn (SqlTx Blob) SqlErr

namespace SqlTx

variable {Blob : Type} {α : Type}

def write : SqlM Blob Unit := do
  let tx ← Txn.get
  Txn.require (tx.mode = .write) (.access .readOnly)

def exec (statement : Database Blob → Except SqlErr (Database Blob)) : SqlM Blob Unit := do
  write
  let tx ← Txn.get
  let db ← Txn.lift (statement tx.db)
  Txn.modify fun tx => { tx with db := db }

def encode (J : Json Blob) (v : Stored) : SqlM Blob Blob := do
  let data ← Txn.lift ((J.marshal v).elim (.error (.access .encoding)) .ok)
  Txn.require (J.size data ≤ maxRecordBytes) (.access .capacity)
  pure data

def decode (J : Json Blob) (unmarshal : Blob → Option α) (data : Blob) : SqlM Blob α := do
  Txn.require (J.size data ≤ maxRecordBytes) (.access .capacity)
  Txn.lift ((unmarshal data).elim (.error (.access .encoding)) .ok)

def load (J : Json Blob) (unmarshal : Blob → Option α) (query : Database Blob → Option Blob) :
    SqlM Blob (Option α) := do
  let tx ← Txn.get
  match query tx.db with
  | none => pure none
  | some data => do
    let r ← decode J unmarshal data
    pure (some r)

def session (J : Json Blob) (id : String) : SqlM Blob (Option SessionRecord) :=
  load J J.session fun db => (db.accessSessions.lookup id).map (·.payload)

/-- `LIMIT`: a negative bound is none. -/
def limited (bound : Int64) (rows : List α) : List α := if bound < 0 then rows else rows.take bound.toInt.toNat

def collect (J : Json Blob) (limit : Int64) : List Blob → List SessionRecord → SqlM Blob (List SessionRecord)
  | [], result => pure result
  | data :: rest, result => do
    Txn.require ((result.length : Int) < limit.toInt) (.access .capacity)
    let r ← decode J J.session data
    collect J limit rest (result ++ [r])

def sessions (J : Json Blob) (limit : Int64) : SqlM Blob (List SessionRecord) := do
  Txn.require (0 ≤ limit) (.access .capacity)
  let tx ← Txn.get
  collect J limit ((limited (limit + 1) tx.db.accessSessions.ordered).map (·.payload)) []

def putSession (J : Json Blob) (r : SessionRecord) : SqlM Blob Unit := do
  let data ← encode J (.session r)
  exec fun db => .ok (db.upsertSession r.id ⟨r.expiresAt.unixNano, data⟩)

def deleteSession (id : String) : SqlM Blob Unit :=
  exec fun db => .ok (db.deleteSessions fun k _ => decide (k = id))

def grant (J : Json Blob) (locator : String) : SqlM Blob (Option GrantRecord) :=
  load J J.grant fun db => ((db.accessLocators.lookup locator).bind db.accessGrants.lookup).map (·.payload)

def putGrant (J : Json Blob) (r : GrantRecord) : SqlM Blob Unit := do
  write
  Txn.require (r.id ≠ "" ∧ r.joinCode ≠ "" ∧ r.aliasText ≠ "" ∧ r.joinCode ≠ r.aliasText) (.access .conflict)
  let parent ← session J r.sessionID
  Txn.require (parent.isSome = true) (.access .conflict)
  let code ← grant J r.joinCode
  Txn.require (code.isSome = false) (.access .conflict)
  let name ← grant J r.aliasText
  Txn.require (name.isSome = false) (.access .conflict)
  let existing ← load J J.grant fun db => (db.accessGrants.lookup r.id).map (·.payload)
  Txn.require (existing.isSome = false) (.access .conflict)
  let data ← encode J (.grant r)
  exec (Database.insertGrant r.id ⟨r.sessionID, r.expiresAt.unixNano, data⟩)
  exec (Database.insertLocators r.joinCode r.aliasText r.id)

def deleteGrant (id : String) : SqlM Blob Unit := exec fun db => .ok (db.deleteGrants fun k _ => decide (k = id))

def receipt (J : Json Blob) (key : String) : SqlM Blob (Option Receipt) :=
  load J J.receipt fun db => (db.accessReceipts.lookup key).map (·.payload)

def putReceipt (J : Json Blob) (r : Receipt) : SqlM Blob Unit := do
  write
  let parent ← session J r.sessionID
  Txn.require (parent.isSome = true) (.access .conflict)
  let existing ← receipt J r.key
  Txn.require (existing.isSome = false) (.access .conflict)
  let data ← encode J (.receipt r)
  exec (Database.insertReceipt r.key ⟨r.sessionID, r.expiresAt.unixNano, data⟩)

def counts : SqlM Blob Counts := do
  let tx ← Txn.get
  pure ⟨tx.db.accessSessions.size, tx.db.accessGrants.size, tx.db.accessReceipts.size⟩

def pruneExpired : SqlM Blob Unit := do
  let tx ← Txn.get
  exec fun db => .ok (db.deleteSessions fun _ row => decide (row.expiresAt ≤ tx.now.unixNano))
  exec fun db => .ok (db.deleteGrants fun _ row => decide (row.expiresAt ≤ tx.now.unixNano))
  exec fun db => .ok (db.deleteReceipts fun _ row => decide (row.expiresAt ≤ tx.now.unixNano))

def ns (J : Json Blob) : SqlM Blob Namespace := do
  let found ← load J J.ns fun db => db.accessNamespace
  pure (found.getD Namespace.empty)

def putNamespace (J : Json Blob) (r : Namespace) : SqlM Blob Unit := do
  let data ← encode J (.ns r)
  exec fun db => .ok { db with accessNamespace := some data }

end SqlTx

def TxOp.runSql {Blob : Type} (J : Json Blob) : TxOp → SqlM Blob TxValue
  | .session id => do
    let found ← SqlTx.session J id
    pure (.session found)
  | .sessions limit => do
    let rows ← SqlTx.sessions J limit
    pure (.sessions rows)
  | .putSession r => do
    SqlTx.putSession J r
    pure .done
  | .deleteSession id => do
    SqlTx.deleteSession id
    pure .done
  | .grant locator => do
    let found ← SqlTx.grant J locator
    pure (.grant found)
  | .putGrant r => do
    SqlTx.putGrant J r
    pure .done
  | .deleteGrant id => do
    SqlTx.deleteGrant id
    pure .done
  | .receipt key => do
    let found ← SqlTx.receipt J key
    pure (.receipt found)
  | .putReceipt r => do
    SqlTx.putReceipt J r
    pure .done
  | .counts => do
    let counts ← SqlTx.counts
    pure (.counts counts)
  | .pruneExpired => do
    SqlTx.pruneExpired
    pure .done
  | .ns => do
    let r ← SqlTx.ns J
    pure (.ns r)
  | .putNamespace r => do
    SqlTx.putNamespace J r
    pure .done

namespace Database

variable {Blob : Type}

def start (mode : Mode) (env : Env) (db : Database Blob) : SqlTx Blob := ⟨env.now, mode, db⟩

def transact (J : Json Blob) (db : Database Blob) (t : Transaction) : Database Blob :=
  match t.result with
  | .error _ => db
  | .ok () => if t.env.ctxDone then db else (Txn.each (TxOp.runSql J) t.ops (db.start t.mode t.env)).2.db

def transactAll (J : Json Blob) (db : Database Blob) (ts : List Transaction) : Database Blob := ts.foldl (transact J) db

end Database

def Transaction.outcomesSql {Blob : Type} (J : Json Blob) (t : Transaction) (db : Database Blob) :
    List (Except SqlErr TxValue) :=
  (Txn.each (TxOp.runSql J) t.ops (db.start t.mode t.env)).1

end Relay
