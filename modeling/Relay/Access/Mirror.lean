import Relay.Access.Contract
import Relay.Access.Sqlite

/-! Tables that mirror the records of the process-local store. Each statement of the SQLite
adapter keeps the mirror, cascades included, and each of its operations returns what the
records say, as long as every instant fits into 64 bits of nanoseconds. -/
namespace Relay

def unixEpoch : Time := unixEpochSeconds * second

def Time.Representable (t : Time) : Prop := -2 ^ 63 ≤ t - unixEpoch ∧ t - unixEpoch < 2 ^ 63

instance (t : Time) : Decidable t.Representable := inferInstanceAs (Decidable (_ ∧ _))

variable {t : Time}

theorem Time.unixNano_eq (dated : t.Representable) : t.unixNano = t - unixEpoch := by
  obtain ⟨low, high⟩ := dated
  have exact64 : ∀ n : Int, -2 ^ 63 ≤ n → n < 2 ^ 63 → n.bmod (2 ^ 64) = n :=
    fun n low high => Int.bmod_eq_of_le (by omega) (by omega)
  exact exact64 (t - unixEpoch) low high

theorem Time.unixNano_le_iff {u : Time} (left : t.Representable) (right : u.Representable) :
    t.unixNano ≤ u.unixNano ↔ t ≤ u := by
  rw [unixNano_eq left, unixNano_eq right]
  exact Int.sub_le_sub_right_iff

/-! What the statements of the SQLite adapter leave of the tables. -/
namespace Database

variable {Blob : Type} {db : Database Blob}

def Linked (db : Database Blob) : Prop := ∀ l k, db.accessLocators.lookup l = some k → k ∈ db.accessGrants

theorem deleteGrants_grants (p : String → OwnedRow Blob → Bool) :
    Table.Filters (fun k row => p k row = false) db.accessGrants (db.deleteGrants p).accessGrants :=
  Table.filters_eraseWhere p db.accessGrants

theorem deleteGrants_locators (linked : db.Linked) (p : String → OwnedRow Blob → Bool) :
    Table.Filters (fun _ k => k ∈ (db.deleteGrants p).accessGrants) db.accessLocators
      (db.deleteGrants p).accessLocators := by
  intro l k
  refine (Table.filters_eraseWhere _ db.accessLocators l k).trans (and_congr_right fun leads => ?_)
  obtain ⟨row, found⟩ := Table.mem_iff_lookup.mp (linked l k leads)
  simp only [decide_eq_false_iff_not, Table.mem_matching, Table.mem_iff_lookup]
  constructor
  · intro kept
    have unselected : p k row = false := by
      by_contra selected
      exact kept ⟨row, found, by simpa using selected⟩
    exact ⟨row, (deleteGrants_grants p k row).mpr ⟨found, unselected⟩⟩
  · rintro ⟨row', left⟩ ⟨row'', again, selected⟩
    obtain ⟨there, unselected⟩ := (deleteGrants_grants p k row').mp left
    rw [there] at again
    cases again
    rw [selected] at unselected
    cases unselected

section Sessions

variable (p : String → SessionRow Blob → Bool)

theorem deleteSessions_grants :
    Table.Filters (fun _ row => row.sessionID ∉ db.accessSessions.matching p) db.accessGrants
      (db.deleteSessions p).accessGrants :=
  Table.filters_eraseWhere_decide _ db.accessGrants

theorem deleteSessions_receipts :
    Table.Filters (fun _ row => row.sessionID ∉ db.accessSessions.matching p) db.accessReceipts
      (db.deleteSessions p).accessReceipts :=
  Table.filters_eraseWhere_decide _ db.accessReceipts

theorem deleteSessions_locators (linked : db.Linked) :
    Table.Filters (fun _ k => k ∈ (db.deleteSessions p).accessGrants) db.accessLocators
      (db.deleteSessions p).accessLocators :=
  @deleteGrants_locators _ { db with accessSessions := db.accessSessions.eraseWhere p } linked _

theorem deleteSessions_linked (linked : db.Linked) : (db.deleteSessions p).Linked :=
  fun l k leads => ((deleteSessions_locators p linked l k).mp leads).2

end Sessions

def deleteExpired (stamp : Int) (db : Database Blob) : Database Blob :=
  ((db.deleteSessions fun _ row => decide (row.expiresAt ≤ stamp)).deleteGrants fun _ row =>
    decide (row.expiresAt ≤ stamp)).deleteReceipts fun _ row => decide (row.expiresAt ≤ stamp)

end Database

structure Json.Lossless {Blob : Type} (J : Json Blob) : Prop where
  ns : ∀ {r b}, J.marshal (.ns r) = some b → J.ns b = some r
  session : ∀ {r b}, J.marshal (.session r) = some b → J.session b = some r
  grant : ∀ {r b}, J.marshal (.grant r) = some b → J.grant b = some r
  receipt : ∀ {r b}, J.marshal (.receipt r) = some b → J.receipt b = some r

def Json.Measures {Blob : Type} (J : Json Blob) (P : Primitives) : Prop :=
  ∀ v, P.marshal v = (J.marshal v).map J.size

structure Json.Holds {Blob : Type} (J : Json Blob) (v : Stored) (data : Blob) : Prop where
  encoded : J.marshal v = some data
  bounded : J.size data ≤ maxRecordBytes

section Mirrors

variable {Blob : Type} {J : Json Blob} {d d' : Records} {db db' : Database Blob}

def SessionRow.Of (J : Json Blob) (r : SessionRecord) (row : SessionRow Blob) : Prop :=
  J.Holds (.session r) row.payload ∧ row.expiresAt = r.expiresAt.unixNano ∧ r.expiresAt.Representable

def OwnedRow.Of (J : Json Blob) (v : Stored) (sessionID : String) (expiresAt : Time) (row : OwnedRow Blob) : Prop :=
  J.Holds v row.payload ∧ row.sessionID = sessionID ∧ row.expiresAt = expiresAt.unixNano ∧ expiresAt.Representable

structure Database.Mirrors (J : Json Blob) (d : Records) (db : Database Blob) : Prop where
  ns : (db.accessNamespace = none ∧ d.ns = Namespace.empty) ∨
    ∃ data, db.accessNamespace = some data ∧ J.Holds (.ns d.ns) data
  sessions : Table.Related (SessionRow.Of J) d.sessions db.accessSessions
  grants : Table.Related (fun g row => OwnedRow.Of J (.grant g) g.sessionID g.expiresAt row) d.grants db.accessGrants
  locators : Table.Related Eq d.locators db.accessLocators
  receipts : Table.Related (fun c row => OwnedRow.Of J (.receipt c) c.sessionID c.expiresAt row) d.receipts
    db.accessReceipts

namespace Database.Mirrors

theorem empty : Mirrors J Records.empty (Database.empty : Database Blob) :=
  ⟨.inl ⟨rfl, rfl⟩, .empty, .empty, .empty, .empty⟩

theorem linked (mirrors : Mirrors J d db) (located : d.Located) : db.Linked := by
  intro l k leads
  obtain ⟨k', there, rfl⟩ := mirrors.locators.some_right leads
  obtain ⟨g, found, _⟩ := located.indexed.owned there
  exact mirrors.grants.mem_iff.mp (Table.mem_iff_lookup.mpr ⟨g, found⟩)

theorem filtered {s : String → SessionRecord → Prop} {s' : String → SessionRow Blob → Prop}
    {g : String → GrantRecord → Prop} {g' : String → OwnedRow Blob → Prop} {c : String → Receipt → Prop}
    {c' : String → OwnedRow Blob → Prop} (mirrors : Mirrors J d db) (located : d.Located) (located' : d'.Located)
    (ns : d'.ns = d.ns ∧ db'.accessNamespace = db.accessNamespace)
    (sessions : Table.Filters s d.sessions d'.sessions ∧ Table.Filters s' db.accessSessions db'.accessSessions)
    (grants : Table.Filters g d.grants d'.grants ∧ Table.Filters g' db.accessGrants db'.accessGrants)
    (receipts : Table.Filters c d.receipts d'.receipts ∧ Table.Filters c' db.accessReceipts db'.accessReceipts)
    (locators : Table.Filters (fun _ k => k ∈ db'.accessGrants) db.accessLocators db'.accessLocators)
    (sessionsAgree : ∀ {k r row}, SessionRow.Of J r row → (s k r ↔ s' k row))
    (grantsAgree : ∀ {k v row}, d.grants.lookup k = some v → OwnedRow.Of J (.grant v) v.sessionID v.expiresAt row →
      (g k v ↔ g' k row))
    (receiptsAgree : ∀ {k v row}, d.receipts.lookup k = some v →
      OwnedRow.Of J (.receipt v) v.sessionID v.expiresAt row → (c k v ↔ c' k row)) : Mirrors J d' db' := by
  -- the locators come last: on either side they are left to the grants that are
  have grants' := mirrors.grants.filter grants.1 grants.2 fun found _ of => grantsAgree found of
  refine ⟨?_, ?_, grants', ?_, ?_⟩
  · rw [ns.1, ns.2]
    exact mirrors.ns
  · exact mirrors.sessions.filter sessions.1 sessions.2 fun _ _ of => sessionsAgree of
  · apply mirrors.locators.filter (located.indexed.filters located'.indexed grants.1) locators
    rintro l k _ _ _ rfl
    exact grants'.mem_iff
  · exact mirrors.receipts.filter receipts.1 receipts.2 fun found _ of => receiptsAgree found of

variable {now : Time} {k : String} {data : Blob}

section

variable (mirrors : Mirrors J d db)

include mirrors

theorem putSession {r : SessionRecord} (holds : J.Holds (.session r) data) (dated : r.expiresAt.Representable) :
    Mirrors J (d.putSession r) (db.upsertSession r.id ⟨r.expiresAt.unixNano, data⟩) where
  ns := mirrors.ns
  sessions := mirrors.sessions.insert ⟨holds, rfl, dated⟩
  grants := mirrors.grants
  locators := mirrors.locators
  receipts := mirrors.receipts

theorem putNamespace {n : Namespace} (holds : J.Holds (.ns n) data) :
    Mirrors J (d.putNamespace n) { db with accessNamespace := some data } where
  ns := .inr ⟨data, rfl, holds⟩
  sessions := mirrors.sessions
  grants := mirrors.grants
  locators := mirrors.locators
  receipts := mirrors.receipts

theorem putGrant {g : GrantRecord} (holds : J.Holds (.grant g) data) (dated : g.expiresAt.Representable) :
    Mirrors J (d.putGrant g) { db with
      accessGrants := db.accessGrants.insert g.id ⟨g.sessionID, g.expiresAt.unixNano, data⟩
      accessLocators := (db.accessLocators.insert g.joinCode g.id).insert g.aliasText g.id } where
  ns := mirrors.ns
  sessions := mirrors.sessions
  grants := mirrors.grants.insert ⟨holds, rfl, rfl, dated⟩
  locators := (mirrors.locators.insert rfl).insert rfl
  receipts := mirrors.receipts

theorem putReceipt {c : Receipt} (holds : J.Holds (.receipt c) data) (dated : c.expiresAt.Representable) :
    Mirrors J (d.putReceipt c) { db with
      accessReceipts := db.accessReceipts.insert c.key ⟨c.sessionID, c.expiresAt.unixNano, data⟩ } where
  ns := mirrors.ns
  sessions := mirrors.sessions
  grants := mirrors.grants
  locators := mirrors.locators
  receipts := mirrors.receipts.insert ⟨holds, rfl, rfl, dated⟩

theorem deleteGrant (located : d.Located) (id : String) :
    Mirrors J (d.deleteGrant id) (db.deleteGrants fun k _ => decide (k = id)) := by
  apply mirrors.filtered located (located.deleteGrant id)
  · exact ⟨Records.deleteGrant_ns id d, rfl⟩
  · rw [Records.deleteGrant_sessions]
    exact ⟨.all _, .all _⟩
  · exact ⟨fun _ _ => Records.deleteGrant_grants, Table.filters_eraseWhere_decide (fun k _ => k = id) _⟩
  · rw [Records.deleteGrant_receipts]
    exact ⟨.all _, .all _⟩
  · exact Database.deleteGrants_locators (mirrors.linked located) _
  · exact fun _ => Iff.rfl
  · exact fun _ _ => Iff.rfl
  · exact fun _ _ => Iff.rfl

theorem matching_named {id : String} (stored : k ∈ d.sessions) :
    k ∈ db.accessSessions.matching (fun k _ => decide (k = id)) ↔ k = id := by
  obtain ⟨row, found⟩ := Table.mem_iff_lookup.mp (mirrors.sessions.mem_iff.mp stored)
  rw [Table.mem_matching]
  constructor
  · rintro ⟨_, _, same⟩
    exact of_decide_eq_true same
  · exact fun same => ⟨row, found, decide_eq_true same⟩

theorem deleteSession (represented : d.Represented) (id : String) :
    Mirrors J (d.deleteSession id) (db.deleteSessions fun k _ => decide (k = id)) := by
  obtain ⟨located, housed⟩ := represented
  apply mirrors.filtered located (located.deleteSession id)
  · exact ⟨Records.deleteSession_ns id d, rfl⟩
  · constructor
    · intro k r
      rw [Records.deleteSession_sessions, Table.lookup_erase_some]
      exact and_comm
    · exact Table.filters_eraseWhere_decide (fun k _ => k = id) _
  · exact ⟨fun _ _ => Records.deleteSession_grants, Database.deleteSessions_grants _⟩
  · exact ⟨fun _ _ => Records.deleteSession_receipts, Database.deleteSessions_receipts _⟩
  · exact Database.deleteSessions_locators _ (mirrors.linked located)
  · exact fun _ => Iff.rfl
  · intro k g row found of
    rw [of.2.1, mirrors.matching_named (housed.grants found)]
  · intro k c row found of
    rw [of.2.1, mirrors.matching_named (housed.receipts found)]

theorem matching_expired (dated : now.Representable) :
    k ∉ db.accessSessions.matching (fun _ row => decide (row.expiresAt ≤ now.unixNano)) ↔ d.Live now k := by
  rw [Table.mem_matching]
  constructor
  · intro kept r found
    obtain ⟨row, there, _, expires, dated'⟩ := mirrors.sessions.some_left found
    by_contra expired
    refine kept ⟨row, there, decide_eq_true ?_⟩
    rw [expires, Time.unixNano_le_iff dated' dated]
    exact not_lt.mp expired
  · rintro live ⟨row, there, expired⟩
    obtain ⟨r, found, _, expires, dated'⟩ := mirrors.sessions.some_right there
    rw [decide_eq_true_eq, expires, Time.unixNano_le_iff dated' dated] at expired
    exact absurd (live r found) (not_lt.mpr expired)

theorem pruneExpired (located : d.Located) (dated : now.Representable) :
    Mirrors J (d.pruneExpired now) (db.deleteExpired now.unixNano) := by
  have linked := mirrors.linked located
  have unexpired : ∀ {t : Time} {stamp : Int}, stamp = t.unixNano → t.Representable →
      (now < t ↔ ¬ stamp ≤ now.unixNano) := by
    intro t stamp same dated'
    rw [same, Time.unixNano_le_iff dated' dated, not_le]
  have grants := Table.filters_eraseWhere_decide (fun _ (row : OwnedRow Blob) => row.expiresAt ≤ now.unixNano)
    (db.deleteSessions fun _ row => decide (row.expiresAt ≤ now.unixNano)).accessGrants
  apply mirrors.filtered located (located.pruneExpired now)
  · exact ⟨Records.pruneExpired_ns now d, rfl⟩
  · exact ⟨fun _ _ => Records.pruneExpired_sessions, Table.filters_eraseWhere_decide _ _⟩
  · exact ⟨fun _ _ => Records.pruneExpired_grants, (Database.deleteSessions_grants _).trans grants⟩
  · exact ⟨fun _ _ => Records.pruneExpired_receipts,
      (Database.deleteSessions_receipts _).trans (Table.filters_eraseWhere_decide _ _)⟩
  · -- the locators go in two passes; what the second keeps leads to a grant that the first kept too
    intro l k
    have sessions := Database.deleteSessions_linked (fun _ row => decide (row.expiresAt ≤ now.unixNano)) linked
    refine (Database.deleteGrants_locators sessions _ l k).trans ?_
    rw [Database.deleteSessions_locators _ linked l k, and_assoc]
    exact and_congr_right fun _ => ⟨And.right, fun member => ⟨grants.mem member, member⟩⟩
  · exact fun of => unexpired of.2.1 of.2.2
  · intro k g row found of
    rw [of.2.1, mirrors.matching_expired dated, and_comm]
    exact and_congr_right fun _ => unexpired of.2.2.1 of.2.2.2
  · intro k c row found of
    rw [of.2.1, mirrors.matching_expired dated, and_comm]
    exact and_congr_right fun _ => unexpired of.2.2.1 of.2.2.2

end

end Database.Mirrors

def Json.Reads {α : Type} (J : Json Blob) (unmarshal : Blob → Option α) (r : α) (data : Blob) : Prop :=
  J.size data ≤ maxRecordBytes ∧ unmarshal data = some r

/-! What the operations of the SQLite adapter return, on tables that mirror the records. -/
namespace SqlTx

variable {α : Type} {sq : SqlTx Blob}
variable {data : Blob} {unmarshal : Blob → Option α} {limit : Int64}

theorem decode_run {r : α} (reads : J.Reads unmarshal r data) (sq : SqlTx Blob) :
    decode J unmarshal data sq = (.ok r, sq) := by
  rw [decode, Txn.require_bind_run, if_pos reads.1, reads.2]
  rfl

theorem load_run {query : Database Blob → Option Blob} {found : Option α}
    (same : Option.Rel (J.Reads unmarshal) found (query sq.db)) : load J unmarshal query sq = (.ok found, sq) := by
  rw [load, Txn.get_bind_run]
  cases row : query sq.db with
  | none =>
    rw [row] at same
    cases same
    rfl
  | some data =>
    rw [row] at same
    cases same with
    | some reads => exact Txn.ok_bind_run (decode_run reads sq)

theorem reads_row {ρ : Type} {R : α → ρ → Prop} {payload : ρ → Blob} {t : Table String α} {u : Table String ρ}
    (related : Table.Related R t u) (reads : ∀ {r row}, R r row → J.Reads unmarshal r (payload row)) (k : String) :
    Option.Rel (J.Reads unmarshal) (t.lookup k) ((u.lookup k).map payload) := by
  have here := related k
  revert here
  generalize t.lookup k = found
  generalize u.lookup k = row
  intro here
  cases here with
  | none => exact .none
  | some holds => exact .some (reads holds)

section Reads

variable (lossless : J.Lossless) (mirrors : sq.db.Mirrors J d)

include lossless in
theorem reads_session {r : SessionRecord} {row : SessionRow Blob} (of : SessionRow.Of J r row) :
    J.Reads J.session r row.payload := ⟨of.1.bounded, lossless.session of.1.encoded⟩

include lossless in
theorem reads_grant {g : GrantRecord} {row : OwnedRow Blob} (of : OwnedRow.Of J (.grant g) g.sessionID g.expiresAt row) :
    J.Reads J.grant g row.payload := ⟨of.1.bounded, lossless.grant of.1.encoded⟩

include lossless mirrors

theorem session_run (id : String) : session J id sq = (.ok (d.sessions.lookup id), sq) :=
  load_run (reads_row mirrors.sessions (reads_session lossless) id)

theorem receipt_run (key : String) : receipt J key sq = (.ok (d.receipts.lookup key), sq) :=
  load_run (reads_row mirrors.receipts (fun of => ⟨of.1.bounded, lossless.receipt of.1.encoded⟩) key)

theorem grantNamed_run (id : String) :
    load J J.grant (fun db => (db.accessGrants.lookup id).map (·.payload)) sq = (.ok (d.grants.lookup id), sq) :=
  load_run (reads_row mirrors.grants (reads_grant lossless) id)

theorem grant_run (locator : String) : grant J locator sq = (.ok (Tx.locate d locator), sq) := by
  apply load_run
  rw [Tx.locate, mirrors.locators.lookup_eq locator]
  cases sq.db.accessLocators.lookup locator with
  | none => exact .none
  | some id => exact reads_row mirrors.grants (reads_grant lossless) id

theorem ns_run : ns J sq = (.ok d.ns, sq) := by
  rcases mirrors.ns with ⟨missing, same⟩ | ⟨data, stored, holds⟩
  · have loaded : load J J.ns (fun db => db.accessNamespace) sq = (.ok none, sq) := by
      apply load_run
      rw [missing]
      exact .none
    rw [ns, Txn.ok_bind_run loaded, same]
    rfl
  · have loaded : load J J.ns (fun db => db.accessNamespace) sq = (.ok (some d.ns), sq) := by
      apply load_run
      rw [stored]
      exact .some ⟨holds.bounded, lossless.ns holds.encoded⟩
    rw [ns, Txn.ok_bind_run loaded]
    rfl

omit lossless in
theorem counts_run : counts sq = (.ok ⟨d.sessions.size, d.grants.size, d.receipts.size⟩, sq) := by
  rw [mirrors.sessions.size, mirrors.grants.size, mirrors.receipts.size]
  rfl

end Reads

theorem collect_run {rs : List SessionRecord} {rows : List Blob} (reads : List.Forall₂ (J.Reads J.session) rs rows)
    (acc : List SessionRecord) (few : (acc.length : Int) ≤ limit.toInt) (sq : SqlTx Blob) :
    collect J limit rows acc sq = if (acc.length + rs.length : Int) ≤ limit.toInt then (.ok (acc ++ rs), sq)
      else (.error (.access .capacity), sq) := by
  induction reads generalizing acc with
  | nil =>
    rw [List.length_nil, if_pos (by simpa using few), List.append_nil]
    rfl
  | @cons r data rs rows read _ ih =>
    rw [collect, Txn.require_bind_run]
    by_cases room : (acc.length : Int) < limit.toInt
    · rw [if_pos room, Txn.ok_bind_run (decode_run read sq), ih (acc ++ [r]) (by simp; omega)]
      simp only [List.length_append, List.length_cons, List.length_nil, List.append_assoc, List.singleton_append]
      refine if_congr ?_ rfl rfl
      omega
    · rw [if_neg room, if_neg]
      rw [List.length_cons]
      omega

/-- One row more than the limit is enough to see that there are too many; without a bound, when
the addition overflows, all are read. -/
theorem limited_eq_take (nonneg : 0 ≤ limit.toInt) (n : Nat) :
    ∃ m : Nat, limit.toInt < m ∧ ∀ rows : List α, rows.length = n → limited (limit + 1) rows = rows.take m := by
  have next : (limit + 1).toInt = (limit.toInt + 1).bmod (2 ^ 64) := Int64.toInt_add limit 1
  have small := Int64.toInt_lt limit
  by_cases last : limit.toInt + 1 < 2 ^ 63
  · have exact' : (limit + 1).toInt = limit.toInt + 1 := by
      rw [next]
      exact Int.bmod_eq_of_le (by omega) (by omega)
    refine ⟨(limit.toInt + 1).toNat, by omega, fun rows _ => ?_⟩
    rw [limited, exact', if_neg]
    rw [Int64.lt_iff_toInt_lt, exact']
    exact not_lt.mpr (by simpa using (by omega : 0 ≤ limit.toInt + 1))
  · -- the sum wraps around to a negative bound, which reads every row
    refine ⟨max n (limit.toInt.toNat + 1), by omega, fun rows length => ?_⟩
    have wrapped : (limit + 1).toInt < 0 := by
      rw [next]
      have full : limit.toInt + 1 = 2 ^ 63 := by omega
      rw [full]
      decide
    rw [limited, if_pos (Int64.lt_iff_toInt_lt.mpr wrapped), List.take_of_length_le]
    exact length ▸ le_max_left _ _

theorem sessions_run (lossless : J.Lossless) (mirrors : sq.db.Mirrors J d) (limit : Int64) :
    sessions J limit sq = if 0 ≤ limit.toInt ∧ (d.sessions.size : Int) ≤ limit.toInt then (.ok d.sessions.ordered, sq)
      else (.error (.access .capacity), sq) := by
  have rows : List.Forall₂ (J.Reads J.session) d.sessions.ordered (sq.db.accessSessions.ordered.map (·.payload)) := by
    rw [List.forall₂_map_right_iff]
    exact mirrors.sessions.ordered.imp fun _ _ => reads_session lossless
  have nonneg_iff : (0 : Int64) ≤ limit ↔ 0 ≤ limit.toInt := Int64.le_iff_toInt_le
  rw [sessions, Txn.require_bind_run]
  by_cases nonneg : 0 ≤ limit.toInt
  · obtain ⟨m, above, takes⟩ := @limited_eq_take (SessionRow Blob) _ nonneg sq.db.accessSessions.size
    rw [if_pos (nonneg_iff.mpr nonneg), Txn.get_bind_run, takes _ (Table.length_ordered _), List.map_take,
      collect_run (List.forall₂_take m rows) [] (by simpa using nonneg)]
    rw [List.length_take, Table.length_ordered, List.length_nil, List.nil_append]
    by_cases few : (d.sessions.size : Int) ≤ limit.toInt
    · rw [if_pos (by omega), if_pos ⟨nonneg, few⟩, List.take_of_length_le]
      rw [Table.length_ordered]
      omega
    · rw [if_neg (by omega), if_neg (fun both => few both.2)]
  · rw [if_neg (fun le => nonneg (nonneg_iff.mp le)), if_neg (fun both => nonneg both.1)]

theorem write_bind_run (f : Unit → SqlM Blob α) (sq : SqlTx Blob) :
    (write >>= f) sq = if sq.mode = .write then f () sq else (.error (.access .readOnly), sq) := by
  by_cases mode : sq.mode = .write
  · simp [write, Txn.bind_run, Txn.require, mode]
  · simp [write, Txn.bind_run, Txn.require, mode]

theorem exec_run {statement : Database Blob → Except SqlErr (Database Blob)} {after : Database Blob}
    (ran : statement sq.db = .ok after) :
    exec statement sq = if sq.mode = .write then (.ok (), { sq with db := after })
      else (.error (.access .readOnly), sq) := by
  rw [exec, write_bind_run]
  refine if_congr Iff.rfl ?_ rfl
  rw [Txn.get_bind_run, ran]
  rfl

theorem exec_total_run (f : Database Blob → Database Blob) (sq : SqlTx Blob) :
    exec (fun db => .ok (f db)) sq = if sq.mode = .write then (.ok (), { sq with db := f sq.db })
      else (.error (.access .readOnly), sq) :=
  exec_run rfl

theorem exec_bind_run (f : Database Blob → Database Blob) (k : Unit → SqlM Blob α) (sq : SqlTx Blob) :
    (exec (fun db => .ok (f db)) >>= k) sq = if sq.mode = .write then k () { sq with db := f sq.db }
      else (.error (.access .readOnly), sq) := by
  rw [Txn.bind_run, exec_total_run]
  by_cases mode : sq.mode = .write
  · rw [if_pos mode, if_pos mode]
  · rw [if_neg mode, if_neg mode]

theorem encode_bind_run {v : Stored} (holds : J.Holds v data) (f : Blob → SqlM Blob α) (sq : SqlTx Blob) :
    (encode J v >>= f) sq = f data sq := by
  apply Txn.ok_bind_run
  rw [encode, holds.encoded]
  exact (Txn.require_bind_run _ _ _ sq).trans (if_pos holds.bounded)

theorem putSession_run {r : SessionRecord} (holds : J.Holds (.session r) data) :
    putSession J r sq = if sq.mode = .write then
        (.ok (), { sq with db := sq.db.upsertSession r.id ⟨r.expiresAt.unixNano, data⟩ })
      else (.error (.access .readOnly), sq) := by
  rw [putSession, encode_bind_run holds]
  exact exec_run rfl

theorem putNamespace_run {n : Namespace} (holds : J.Holds (.ns n) data) :
    putNamespace J n sq = if sq.mode = .write then (.ok (), { sq with db := { sq.db with accessNamespace := some data } })
      else (.error (.access .readOnly), sq) := by
  rw [putNamespace, encode_bind_run holds]
  exact exec_run rfl

theorem locate_missing {l : String} (located : d.Located) : (Tx.locate d l).isSome = false ↔ l ∉ d.locators := by
  rw [Table.mem_iff_lookup, Tx.locate]
  cases leads : d.locators.lookup l with
  | none => simp
  | some k =>
    obtain ⟨g, found, _⟩ := located.indexed.owned leads
    simp [found]

theorem putReceipt_run {c : Receipt} (lossless : J.Lossless) (mirrors : sq.db.Mirrors J d)
    (holds : J.Holds (.receipt c) data) :
    putReceipt J c sq = if sq.mode = .write then if d.AcceptsReceipt c then
        (.ok (), { sq with db := { sq.db with
          accessReceipts := sq.db.accessReceipts.insert c.key ⟨c.sessionID, c.expiresAt.unixNano, data⟩ } })
        else (.error (.access .conflict), sq)
      else (.error (.access .readOnly), sq) := by
  rw [putReceipt, write_bind_run]
  by_cases mode : sq.mode = .write
  · rw [if_pos mode, if_pos mode, Txn.ok_bind_run (session_run lossless mirrors _), Txn.require_bind_run,
      Txn.ok_bind_run (receipt_run lossless mirrors _), Txn.require_bind_run, encode_bind_run holds]
    simp only [← ite_and, AList.lookup_isSome, Table.lookup_missing]
    by_cases admitted : d.AcceptsReceipt c
    · obtain ⟨session, fresh⟩ := admitted
      have inserted : sq.db.insertReceipt c.key ⟨c.sessionID, c.expiresAt.unixNano, data⟩ = .ok { sq.db with
          accessReceipts := sq.db.accessReceipts.insert c.key ⟨c.sessionID, c.expiresAt.unixNano, data⟩ } := by
        apply if_neg
        rw [← mirrors.receipts.mem_iff, ← mirrors.sessions.mem_iff]
        tauto
      rw [if_pos ⟨session, fresh⟩, if_pos ⟨session, fresh⟩, exec_run inserted, if_pos mode]
    · rw [if_neg admitted, if_neg]
      exact admitted
  · rw [if_neg mode, if_neg mode]

theorem putGrant_run {g : GrantRecord} (lossless : J.Lossless) (mirrors : sq.db.Mirrors J d) (located : d.Located)
    (holds : J.Holds (.grant g) data) :
    putGrant J g sq = if sq.mode = .write then if d.Accepts g then
        (.ok (), { sq with db := { sq.db with
          accessGrants := sq.db.accessGrants.insert g.id ⟨g.sessionID, g.expiresAt.unixNano, data⟩
          accessLocators := (sq.db.accessLocators.insert g.joinCode g.id).insert g.aliasText g.id } })
        else (.error (.access .conflict), sq)
      else (.error (.access .readOnly), sq) := by
  rw [putGrant, write_bind_run]
  by_cases mode : sq.mode = .write
  · rw [if_pos mode, if_pos mode, Txn.require_bind_run, Txn.ok_bind_run (session_run lossless mirrors _),
      Txn.require_bind_run, Txn.ok_bind_run (grant_run lossless mirrors _), Txn.require_bind_run,
      Txn.ok_bind_run (grant_run lossless mirrors _), Txn.require_bind_run,
      Txn.ok_bind_run (grantNamed_run lossless mirrors _), Txn.require_bind_run, encode_bind_run holds]
    simp only [← ite_and, AList.lookup_isSome, Table.lookup_missing, locate_missing located]
    by_cases admitted : d.Accepts g
    · obtain ⟨named, session, fresh, code, name⟩ := admitted
      have row : sq.db.insertGrant g.id ⟨g.sessionID, g.expiresAt.unixNano, data⟩ = .ok { sq.db with
          accessGrants := sq.db.accessGrants.insert g.id ⟨g.sessionID, g.expiresAt.unixNano, data⟩ } := by
        apply if_neg
        rw [← mirrors.grants.mem_iff, ← mirrors.sessions.mem_iff]
        tauto
      have locators : Database.insertLocators g.joinCode g.aliasText g.id { sq.db with
          accessGrants := sq.db.accessGrants.insert g.id ⟨g.sessionID, g.expiresAt.unixNano, data⟩ } = .ok { sq.db with
          accessGrants := sq.db.accessGrants.insert g.id ⟨g.sessionID, g.expiresAt.unixNano, data⟩
          accessLocators := (sq.db.accessLocators.insert g.joinCode g.id).insert g.aliasText g.id } := by
        have stored : g.id ∈ sq.db.accessGrants.insert g.id ⟨g.sessionID, g.expiresAt.unixNano, data⟩ :=
          (AList.mem_insert _).mpr (.inl rfl)
        rw [mirrors.locators.mem_iff] at code name
        have second : g.aliasText ∉ sq.db.accessLocators.insert g.joinCode g.id := by
          rw [AList.mem_insert]
          exact fun taken => taken.elim (fun same => named.2.2.2 same.symm) name
        rw [Database.insertLocators, Database.insertLocator, if_neg fun taken => taken.elim code fun missing =>
          missing stored]
        exact if_neg fun taken => taken.elim second fun missing => missing stored
      rw [if_pos (by tauto), if_pos ⟨named, session, fresh, code, name⟩,
        Txn.ok_bind_run ((exec_run row).trans (if_pos mode)), exec_run locators, if_pos mode]
    · rw [if_neg admitted, if_neg]
      rintro checks
      exact admitted ⟨by tauto, by tauto, by tauto, by tauto, by tauto⟩
  · rw [if_neg mode, if_neg mode]

end SqlTx

end Mirrors

end Relay
