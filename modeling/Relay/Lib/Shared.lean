import Mathlib.Data.List.Basic

/-! What concurrent code shares: objects that are only ever added, each known by its place,
and buffered channels. -/

namespace Objects

variable {α : Type} {l : List α} {i j : Nat} {a b : α}

theorem getElem?_set_some (here : (l.set i a)[j]? = some b) :
    (j = i ∧ b = a) ∨ (j ≠ i ∧ l[j]? = some b) := by
  rw [List.getElem?_set] at here
  split_ifs at here with same inside
  · exact .inl ⟨same.symm, (Option.some.inj here).symm⟩
  · exact .inr ⟨Ne.symm same, here⟩

theorem getElem?_snoc_some (here : (l ++ [a])[j]? = some b) :
    (j = l.length ∧ b = a) ∨ (j < l.length ∧ l[j]? = some b) := by
  rw [List.getElem?_append] at here
  split_ifs at here with inside
  · exact .inr ⟨inside, here⟩
  · left
    have last : j - l.length = 0 := by
      by_contra further
      rw [List.getElem?_eq_none (by simp; omega)] at here
      cases here
    rw [last] at here
    exact ⟨by omega, (Option.some.inj here).symm⟩

theorem getElem?_snoc_of_some (here : l[j]? = some b) : (l ++ [a])[j]? = some b := by
  rw [List.getElem?_append_left (List.getElem?_eq_some_iff.mp here).1, here]

theorem set_same (here : l[i]? = some a) : l.set i a = l := by
  obtain ⟨inside, rfl⟩ := List.getElem?_eq_some_iff.mp here
  exact List.set_getElem_self inside

end Objects

/-- A channel of `make(chan α, capacity)`. -/
structure Channel (α : Type) where
  capacity : Nat
  buffer : List α
  closed : Bool
deriving DecidableEq

/-- What a send meets: room, a full buffer or a closed channel. -/
inductive Sending (α : Type) where
  | sent (c : Channel α)
  | blocked
  | panics

namespace Channel

variable {α : Type} {c : Channel α} {x : α}

def make (capacity : Nat) : Channel α := ⟨capacity, [], false⟩

def send (c : Channel α) (x : α) : Sending α :=
  if c.closed then .panics
  else if c.buffer.length < c.capacity then .sent { c with buffer := c.buffer ++ [x] }
  else .blocked

def receive (c : Channel α) : Option (α × Channel α) :=
  match c.buffer with
  | [] => none
  | x :: rest => some (x, { c with buffer := rest })

/-- A second close panics. -/
def close (c : Channel α) : Option (Channel α) :=
  if c.closed then none else some { c with closed := true }

theorem receive_some {c' : Channel α} (taken : c.receive = some (x, c')) :
    c.buffer = x :: c'.buffer ∧ c' = { c with buffer := c'.buffer } := by
  unfold receive at taken
  split at taken
  · cases taken
  · rename_i y rest full
    cases taken
    exact ⟨full, rfl⟩

theorem receive_none (nothing : c.receive = none) : c.buffer = [] := by
  unfold receive at nothing
  split at nothing
  · assumption
  · cases nothing

theorem send_room (opened : c.closed = false) (room : c.buffer.length < c.capacity) :
    c.send x = .sent { c with buffer := c.buffer ++ [x] } := by
  simp [send, opened, room]

theorem send_full (opened : c.closed = false) (full : ¬ c.buffer.length < c.capacity) : c.send x = .blocked := by
  simp [send, opened, full]

theorem send_sent {c' : Channel α} (sent : c.send x = .sent c') :
    c.buffer.length < c.capacity ∧ c' = { c with buffer := c.buffer ++ [x] } := by
  unfold send at sent
  split_ifs at sent with _ room
  cases sent
  exact ⟨room, rfl⟩

theorem send_panics (panics : c.send x = .panics) : c.closed = true := by
  unfold send at panics
  split_ifs at panics with closed
  exact closed

theorem close_some {c' : Channel α} (closed : c.close = some c') : c' = { c with closed := true } := by
  unfold close at closed
  split_ifs at closed
  cases closed
  rfl

theorem close_open (opened : c.closed = false) : c.close = some { c with closed := true } := by
  simp [close, opened]

end Channel
