import Relay.Access.Adapters

/-! The lifetime of a Session in the SQLite adapter. A lifetime is accepted if it fits into a
duration; the adapter compares instants by their nanoseconds since 1970 in 64 bits, which start
over in the year 2262. -/
namespace Relay

/-! ### The configured lifetime -/

def digits : List Char → Option Nat
  | [] => none
  | chars => chars.foldl (fun n c => n.bind fun n => if c.isDigit then some (10 * n + (c.toNat - '0'.toNat)) else none)
    (some 0)

/-- `strconv.ParseInt` in base ten with 64 bits. -/
def parseInt (raw : String) : Option Int :=
  let signed : Option Int :=
    match raw.toList with
    | '+' :: chars => (digits chars).map fun n => (n : Int)
    | '-' :: chars => (digits chars).map fun n => -(n : Int)
    | chars => (digits chars).map fun n => (n : Int)
  signed.filter fun n => -2 ^ 63 ≤ n ∧ n < 2 ^ 63

def expiryDurationError : String := "POCKETSTATION_SESSION_TTL_SECONDS must be positive and fit a time.Duration"

def parseSessionExpiryDuration (raw : String) : Except String Duration :=
  if raw = "" then .ok (2 * hour)
  else
    match parseInt raw with
    | none => .error expiryDurationError
    | some seconds =>
      if seconds ≤ 0 ∨ (2 ^ 63 - 1) / 1000000000 < seconds then .error expiryDurationError
      else .ok (seconds * second)

theorem parseSessionExpiryDuration_ok {raw : String} {lifetime : Duration}
    (accepted : parseSessionExpiryDuration raw = .ok lifetime) :
    0 < lifetime ∧ lifetime ≤ 9223372036 * second := by
  unfold parseSessionExpiryDuration at accepted
  split at accepted
  · cases accepted
    decide
  · split at accepted
    · cases accepted
    · rename_i seconds _
      split at accepted
      · cases accepted
      · rename_i fits
        cases accepted
        have bounds : 0 < seconds * 1000000000 ∧ seconds * 1000000000 ≤ 9223372036 * 1000000000 := by omega
        exact bounds

/-! ### Stamps -/

namespace Time

def turn (t : Time) : Int := (t - unixEpoch + 2 ^ 63) / 2 ^ 64

theorem unixNano_turn (t : Time) : t.unixNano = t - unixEpoch - 2 ^ 64 * t.turn ∧
    -2 ^ 63 ≤ t.unixNano ∧ t.unixNano < 2 ^ 63 := by
  have split : ∀ n : Int, n.bmod (2 ^ 64) = n - 2 ^ 64 * ((n + 2 ^ 63) / 2 ^ 64) ∧
      -2 ^ 63 ≤ n.bmod (2 ^ 64) ∧ n.bmod (2 ^ 64) < 2 ^ 63 := by
    intro n
    simp only [Int.bmod_def]
    omega
  exact split (t - unixEpoch)

theorem stamps_agree_iff (t u : Time) : (t.unixNano ≤ u.unixNano ↔ t ≤ u) ↔
    t.turn = u.turn ∨ (t.turn < u.turn ∧ t.unixNano ≤ u.unixNano) ∨ (u.turn < t.turn ∧ u.unixNano < t.unixNano) := by
  have order : ∀ a b m n p q : Int, m = a - 2 ^ 64 * p ∧ -2 ^ 63 ≤ m ∧ m < 2 ^ 63 →
      n = b - 2 ^ 64 * q ∧ -2 ^ 63 ≤ n ∧ n < 2 ^ 63 →
      ((m ≤ n ↔ a ≤ b) ↔ p = q ∨ (p < q ∧ m ≤ n) ∨ (q < p ∧ n < m)) := by
    intro a b m n p q
    omega
  have shift : t - unixEpoch ≤ u - unixEpoch ↔ t ≤ u := Int.sub_le_sub_right_iff
  rw [← shift]
  exact order _ _ _ _ _ _ (unixNano_turn t) (unixNano_turn u)

end Time

/-! ### A stored Session -/

section

variable {Blob : Type} {J : Json Blob} {r : SessionRecord} {tx tx' : SqlTx Blob}

def SqlTx.prunedAt (tx : SqlTx Blob) (t : Time) : Database Blob :=
  (SqlTx.pruneExpired { tx with now := t, mode := .write }).2.db

theorem SqlTx.putSession_ok (stored : SqlTx.putSession J r tx = (.ok (), tx')) :
    ∃ data, tx'.db = tx.db.upsertSession r.id ⟨r.expiresAt.unixNano, data⟩ := by
  simp only [SqlTx.putSession, SqlTx.encode, SqlTx.exec, SqlTx.write, Txn.bind_ok, Txn.get_run, Txn.require_ok,
    Txn.lift_ok, Txn.modify_run, Txn.pure_run] at stored
  obtain ⟨data, _, ⟨_, _, ⟨_, rfl⟩, _, _, ⟨_, rfl⟩, out⟩, _, _, ⟨_, _, read, _, rfl⟩, _, _, again, _, _, ⟨written, rfl⟩,
    moved⟩ := stored
  cases out
  cases read
  cases again
  cases written
  cases moved
  exact ⟨data, rfl⟩

theorem SqlTx.prunedAt_sessions (stored : SqlTx.putSession J r tx = (.ok (), tx')) (t : Time) :
    r.id ∈ (tx'.prunedAt t).accessSessions ↔ ¬r.expiresAt.unixNano ≤ t.unixNano := by
  obtain ⟨data, same⟩ := SqlTx.putSession_ok stored
  have pruned : tx'.prunedAt t = tx'.db.deleteExpired t.unixNano := by
    rw [SqlTx.prunedAt, pruneExpired_run, if_pos rfl]
  have kept : ∀ row, (tx'.prunedAt t).accessSessions.lookup r.id = some row ↔
      tx'.db.accessSessions.lookup r.id = some row ∧ ¬row.expiresAt ≤ t.unixNano := by
    rw [pruned]
    exact Table.filters_eraseWhere_decide _ tx'.db.accessSessions r.id
  have row : tx'.db.accessSessions.lookup r.id = some ⟨r.expiresAt.unixNano, data⟩ := by
    rw [same]
    exact AList.lookup_insert _
  rw [Table.mem_iff_lookup]
  constructor
  · rintro ⟨found, there⟩
    obtain ⟨stamped, unexpired⟩ := (kept found).mp there
    rw [row] at stamped
    cases stamped
    exact unexpired
  · intro unexpired
    exact ⟨_, (kept _).mpr ⟨row, unexpired⟩⟩

def year2100 : Time := unixEpoch + 4102444800 * second

theorem instants {now : Time} {lifetime : Duration} (since1970 : unixEpoch ≤ now) (until2100 : now < year2100)
    (positive : 0 < lifetime) (bounded : lifetime ≤ 9223372036 * second) :
    now.Representable ∧ -2 ^ 63 ≤ now + lifetime - unixEpoch ∧
      (2 ^ 63 ≤ now + lifetime - unixEpoch → (now + lifetime).unixNano ≤ now - unixEpoch) := by
  have wraps := (Time.unixNano_turn (now + lifetime))
  have numbers : ∀ n e l u k : Int, e ≤ n → n < e + 4102444800 * 1000000000 → 0 < l → l ≤ 9223372036 * 1000000000 →
      u = n + l - e - 2 ^ 64 * k ∧ -2 ^ 63 ≤ u ∧ u < 2 ^ 63 →
      (-2 ^ 63 ≤ n - e ∧ n - e < 2 ^ 63) ∧ -2 ^ 63 ≤ n + l - e ∧ (2 ^ 63 ≤ n + l - e → u ≤ n - e) := by
    omega
  exact numbers now unixEpoch lifetime _ _ since1970 until2100 positive bounded wraps

/-- The prune honours the expiry of a stored Session at an instant exactly if the stamps of the
two are ordered as they are; it does at every instant that has a stamp of its own exactly if the
expiry has one. -/
theorem lifetime_honoured_iff {raw : String} {lifetime : Duration} {now : Time}
    (accepted : parseSessionExpiryDuration raw = .ok lifetime) (since1970 : unixEpoch ≤ now)
    (until2100 : now < year2100) (expires : r.expiresAt = now + lifetime)
    (stored : SqlTx.putSession J r tx = (.ok (), tx')) :
    (∀ t, (r.id ∈ (tx'.prunedAt t).accessSessions ↔ t < now + lifetime) ↔
      (now + lifetime).turn = t.turn ∨
      ((now + lifetime).turn < t.turn ∧ (now + lifetime).unixNano ≤ t.unixNano) ∨
      (t.turn < (now + lifetime).turn ∧ t.unixNano < (now + lifetime).unixNano)) ∧
    ((∀ t, t.Representable → (r.id ∈ (tx'.prunedAt t).accessSessions ↔ t < now + lifetime)) ↔
      now + lifetime < unixEpoch + 2 ^ 63) := by
  have there := SqlTx.prunedAt_sessions stored
  rw [expires] at there
  constructor
  · intro t
    rw [there t, ← Time.stamps_agree_iff, ← not_le (a := now + lifetime)]
    exact not_iff_not
  obtain ⟨positive, bounded⟩ := parseSessionExpiryDuration_ok accepted
  obtain ⟨dated, low, wraps⟩ := instants since1970 until2100 positive bounded
  constructor
  · intro honoured
    by_contra late
    -- The stamp of an expiry that is too late is negative, so the Session is pruned when it is stored.
    have alive := (honoured now dated).mpr (Int.lt_add_of_pos_right now positive)
    apply (there now).mp alive
    rw [Time.unixNano_eq dated]
    exact wraps (Int.le_sub_left_of_add_le (not_lt.mp late))
  · intro early t here
    have stamped : (now + lifetime).Representable := ⟨low, Int.sub_left_lt_of_lt_add early⟩
    rw [there t, Time.unixNano_le_iff stamped here, not_le]

end

namespace Plain

def year2026 : Time := unixEpoch + 1767225600 * second

def lasting (lifetime : Duration) : SessionRecord :=
  { service.newSession "a" [] year2026 with expiresAt := year2026 + lifetime }

/-- Empty tables, into which a Session of this lifetime is put at the beginning of 2026. -/
def put (lifetime : Duration) : Except SqlErr Unit × SqlTx Stored :=
  SqlTx.putSession json (lasting lifetime) ⟨year2026, .write, .empty⟩

end Plain

open Plain in
/-- A Session of two hours is pruned when it expires. -/
theorem lifetime_honoured_default :
    "a" ∈ ((put (2 * hour)).2.prunedAt (year2026 + 2 * hour - 1)).accessSessions ∧
      "a" ∉ ((put (2 * hour)).2.prunedAt (year2026 + 2 * hour)).accessSessions := by
  have accepted : parseSessionExpiryDuration "" = .ok (2 * hour) := rfl
  have stored : SqlTx.putSession json (lasting (2 * hour)) ⟨year2026, .write, .empty⟩ =
      (.ok (), (put (2 * hour)).2) := rfl
  have honoured := (lifetime_honoured_iff accepted (by decide) (by decide) rfl stored).2.mpr (by decide)
  exact ⟨(honoured _ (by decide)).mpr (by decide), (honoured _ (by decide)).not.mpr (by decide)⟩

open Plain in
/-- The longest lifetime that is accepted is over when it begins, while the process-local store
keeps the Session; and a Session of two hours outlives the year 2262. -/
theorem lifetime_wraps : parseSessionExpiryDuration "9223372036" = .ok (9223372036 * second) ∧
    "a" ∉ ((put (9223372036 * second)).2.prunedAt year2026).accessSessions ∧
    "a" ∈ ((Records.empty.putSession (lasting (9223372036 * second))).pruneExpired year2026).sessions ∧
    "a" ∈ ((put (2 * hour)).2.prunedAt (unixEpoch + 2 ^ 63)).accessSessions := by
  decide +kernel

end Relay
