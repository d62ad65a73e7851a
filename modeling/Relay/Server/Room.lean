import Relay.Lib.Ownership
import Relay.Lib.Run
import Relay.Session.RelaySession

/-! The slots of a RelaySession among all its subscriber peers. A peer reserves a slot when it
joins, gives it back when it connects, and adds its subscription after that. The count of
slots and the list of subscriptions are read and changed at different moments. -/
namespace Relay

/-- How far a subscriber has come: the loop of `TryReserveSlot` with its local variables, the
connection, and the answer of `AddBusSubscription`. -/
inductive SeatPhase where
  | outside
  | loaded (pending : Int)
  | claiming (pending active : Int)
  | refused
  | reserved
  | released
  | subscribed
  | full
  | left
deriving DecidableEq

def SeatPhase.isReserved : SeatPhase → Bool
  | .reserved => true
  | _ => false

def SeatPhase.inFlight : SeatPhase → Bool
  | .released => true
  | _ => false

structure Seat where
  id : String
  busID : String
  phase : SeatPhase
deriving DecidableEq

structure Room where
  maximum : Int
  session : RelaySession
  pendingSlots : Int
  seats : List Seat

inductive RoomEvent where
  | arrive (id busID : String)
  | loadPending (i : Nat)
  | compareSlots (i : Nat)
  | claimSlot (i : Nat)
  | connect (i : Nat)
  | addBusSubscription (i : Nat)
  | leave (i : Nat)
deriving DecidableEq

namespace Room

def new (maximum : Int) (session : RelaySession) : Room := ⟨maximum, session, 0, []⟩

def active (r : Room) : Int := r.session.subscriptions.length

def goto (r : Room) (i : Nat) (s : Seat) (phase : SeatPhase) : Room :=
  { r with seats := r.seats.set i { s with phase := phase } }

def loadPending (r : Room) (i : Nat) (s : Seat) : Option Room :=
  match s.phase with
  | .outside | .refused =>
    if r.maximum ≤ 0 then some { r.goto i s .reserved with pendingSlots := r.pendingSlots + 1 }
    else some (r.goto i s (.loaded r.pendingSlots))
  | _ => none

def compareSlots (r : Room) (i : Nat) (s : Seat) : Option Room :=
  match s.phase with
  | .loaded pending =>
    if pending + r.active ≥ r.maximum then some (r.goto i s .refused)
    else some (r.goto i s (.claiming pending r.active))
  | _ => none

def claimSlot (r : Room) (i : Nat) (s : Seat) : Option Room :=
  match s.phase with
  | .claiming pending _ =>
    if r.pendingSlots = pending then some { r.goto i s .reserved with pendingSlots := pending + 1 }
    else some (r.goto i s .outside)
  | _ => none

def connect (r : Room) (i : Nat) (s : Seat) : Option Room :=
  match s.phase with
  | .reserved => some { r.goto i s .released with pendingSlots := r.pendingSlots - 1 }
  | _ => none

def addBusSubscription (r : Room) (i : Nat) (s : Seat) : Option Room :=
  match s.phase with
  | .released =>
    match r.session.addBusSubscription s.id s.busID with
    | .ok session => some { r.goto i s .subscribed with session := session }
    | .error _ => some (r.goto i s .full)
  | _ => none

/-- `ReleaseSlot` if the subscriber never connected, and `RemoveSubscription` otherwise. A
callback that is about to add the subscription goes on. -/
def leave (r : Room) (i : Nat) (s : Seat) : Option Room :=
  match s.phase with
  | .reserved => some { r.goto i s .left with pendingSlots := r.pendingSlots - 1 }
  | .released => some { r with session := r.session.removeSubscription s.id }
  | .subscribed | .full => some { r.goto i s .left with session := r.session.removeSubscription s.id }
  | _ => none

def step (r : Room) : RoomEvent → Option Room
  | .arrive id busID =>
    if r.seats.any fun s => s.id = id then none else some { r with seats := r.seats ++ [⟨id, busID, .outside⟩] }
  | .loadPending i => (r.seats[i]?).bind (r.loadPending i)
  | .compareSlots i => (r.seats[i]?).bind (r.compareSlots i)
  | .claimSlot i => (r.seats[i]?).bind (r.claimSlot i)
  | .connect i => (r.seats[i]?).bind (r.connect i)
  | .addBusSubscription i => (r.seats[i]?).bind (r.addBusSubscription i)
  | .leave i => (r.seats[i]?).bind (r.leave i)

def Runs (start : Room) (h : List (Step Room RoomEvent)) (r : Room) : Prop := Exec (Machine.Moves step) start h r

def reserved (r : Room) : Nat := r.seats.countP fun s => s.phase.isReserved

def inFlight (r : Room) : Nat := r.seats.countP fun s => s.phase.inFlight

def Roomy (x : Step Room RoomEvent) : Prop :=
  0 < x.before.maximum → x.before.pendingSlots < x.after.pendingSlots →
    x.before.pendingSlots + x.before.inFlight + x.before.active < x.before.maximum

instance (x : Step Room RoomEvent) : Decidable (Roomy x) :=
  inferInstanceAs (Decidable (_ → _ → _))

inductive Change (r : Room) : Room → Prop
  | sit (id busID : String) : Change r { r with seats := r.seats ++ [⟨id, busID, .outside⟩] }
  | turn {i : Nat} {s : Seat} (here : r.seats[i]? = some s) (phase : SeatPhase)
    (unreserved : s.phase.isReserved = false) (landed : s.phase.inFlight = false)
    (unreserved' : phase.isReserved = false) (landed' : phase.inFlight = false)
    (served : phase ≠ .full) : Change r (r.goto i s phase)
  | reserve {i : Nat} {s : Seat} (here : r.seats[i]? = some s) (unreserved : s.phase.isReserved = false)
    (landed : s.phase.inFlight = false) :
    Change r { r.goto i s .reserved with pendingSlots := r.pendingSlots + 1 }
  | connect {i : Nat} {s : Seat} (here : r.seats[i]? = some s) (reserved : s.phase = .reserved) :
    Change r { r.goto i s .released with pendingSlots := r.pendingSlots - 1 }
  | abandon {i : Nat} {s : Seat} (here : r.seats[i]? = some s) (reserved : s.phase = .reserved) :
    Change r { r.goto i s .left with pendingSlots := r.pendingSlots - 1 }
  | add {i : Nat} {s : Seat} (here : r.seats[i]? = some s) (released : s.phase = .released) :
    Change r { r.goto i s .subscribed with
      session := { r.session with subscriptions := r.session.subscriptions ++ [⟨s.id, s.busID⟩] } }
  | reject {i : Nat} {s : Seat} (here : r.seats[i]? = some s) (released : s.phase = .released)
    (limited : 0 < r.session.maxSubscriptions) (full : r.session.maxSubscriptions ≤ r.session.subscriptions.length) :
    Change r (r.goto i s .full)
  | remove {i : Nat} {s : Seat} (here : r.seats[i]? = some s) (released : s.phase = .released) :
    Change r { r with session := r.session.removeSubscription s.id }
  | depart {i : Nat} {s : Seat} (here : r.seats[i]? = some s) (unreserved : s.phase.isReserved = false)
    (landed : s.phase.inFlight = false) :
    Change r { r.goto i s .left with session := r.session.removeSubscription s.id }

variable {r r' : Room} {i : Nat} {s : Seat}

section

variable (here : r.seats[i]? = some s)

include here

theorem goto_reserved (phase : SeatPhase) :
    (r.goto i s phase).reserved + s.phase.isReserved.toNat = r.reserved + phase.isReserved.toNat :=
  List.countP_set_add (fun s : Seat => s.phase.isReserved) here _

theorem goto_inFlight (phase : SeatPhase) :
    (r.goto i s phase).inFlight + s.phase.inFlight.toNat = r.inFlight + phase.inFlight.toNat :=
  List.countP_set_add (fun s : Seat => s.phase.inFlight) here _

theorem loadPending_change (moves : r.loadPending i s = some r') : Change r r' := by
  unfold loadPending at moves
  split at moves
  · rename_i phase
    split_ifs at moves
    · cases moves
      exact .reserve here (by rw [phase]; rfl) (by rw [phase]; rfl)
    · cases moves
      exact .turn here _ (by rw [phase]; rfl) (by rw [phase]; rfl) rfl rfl nofun
  · rename_i phase
    split_ifs at moves
    · cases moves
      exact .reserve here (by rw [phase]; rfl) (by rw [phase]; rfl)
    · cases moves
      exact .turn here _ (by rw [phase]; rfl) (by rw [phase]; rfl) rfl rfl nofun
  · cases moves

theorem compareSlots_change (moves : r.compareSlots i s = some r') : Change r r' := by
  unfold compareSlots at moves
  split at moves
  · rename_i pending phase
    split_ifs at moves
    · cases moves
      exact .turn here _ (by rw [phase]; rfl) (by rw [phase]; rfl) rfl rfl nofun
    · cases moves
      exact .turn here _ (by rw [phase]; rfl) (by rw [phase]; rfl) rfl rfl nofun
  · cases moves

theorem claimSlot_change (moves : r.claimSlot i s = some r') : Change r r' := by
  unfold claimSlot at moves
  split at moves
  · rename_i pending active phase
    split_ifs at moves with current
    · cases moves
      subst current
      exact .reserve here (by rw [phase]; rfl) (by rw [phase]; rfl)
    · cases moves
      exact .turn here _ (by rw [phase]; rfl) (by rw [phase]; rfl) rfl rfl nofun
  · cases moves

theorem connect_change (moves : r.connect i s = some r') : Change r r' := by
  unfold connect at moves
  split at moves
  · rename_i phase
    cases moves
    exact .connect here phase
  · cases moves

theorem add_change (moves : r.addBusSubscription i s = some r') : Change r r' := by
  unfold addBusSubscription RelaySession.addBusSubscription at moves
  split at moves
  · rename_i phase
    split_ifs at moves with full
    · cases moves
      exact .reject here phase full.1 full.2
    · cases moves
      exact .add here phase
  · cases moves

theorem leave_change (moves : r.leave i s = some r') : Change r r' := by
  unfold leave at moves
  split at moves
  · rename_i phase
    cases moves
    exact .abandon here phase
  · rename_i phase
    cases moves
    exact .remove here phase
  · rename_i phase
    cases moves
    exact .depart here (by rw [phase]; rfl) (by rw [phase]; rfl)
  · rename_i phase
    cases moves
    exact .depart here (by rw [phase]; rfl) (by rw [phase]; rfl)
  · cases moves

end

theorem step_change {e : RoomEvent} (moves : r.step e = some r') : Change r r' := by
  cases e with
  | arrive id busID =>
    obtain ⟨_, ⟨⟩⟩ := Option.ite_none_left_eq_some.mp moves
    exact .sit id busID
  | loadPending i =>
    obtain ⟨s, here, moved⟩ := Option.bind_eq_some_iff.mp moves
    exact loadPending_change here moved
  | compareSlots i =>
    obtain ⟨s, here, moved⟩ := Option.bind_eq_some_iff.mp moves
    exact compareSlots_change here moved
  | claimSlot i =>
    obtain ⟨s, here, moved⟩ := Option.bind_eq_some_iff.mp moves
    exact claimSlot_change here moved
  | connect i =>
    obtain ⟨s, here, moved⟩ := Option.bind_eq_some_iff.mp moves
    exact connect_change here moved
  | addBusSubscription i =>
    obtain ⟨s, here, moved⟩ := Option.bind_eq_some_iff.mp moves
    exact add_change here moved
  | leave i =>
    obtain ⟨s, here, moved⟩ := Option.bind_eq_some_iff.mp moves
    exact leave_change here moved

structure Honoured (r : Room) : Prop where
  limit : (r.session.maxSubscriptions : Int) = max r.maximum 0
  slots : r.pendingSlots = r.reserved
  room : 0 < r.maximum → r.pendingSlots + r.inFlight + r.active ≤ r.maximum
  served : ∀ s ∈ r.seats, s.phase ≠ .full

theorem removed_active (r : Room) (id : String) :
    ((r.session.removeSubscription id).subscriptions.length : Int) ≤ r.active :=
  Int.ofNat_le.mpr (List.length_filter_le _ _)

theorem Honoured.goto (honoured : Honoured r) (here : r.seats[i]? = some s) (phase : SeatPhase) (slots : Int)
    (session : RelaySession) (other : phase ≠ .full)
    (limit : session.maxSubscriptions = r.session.maxSubscriptions)
    (follow : slots + s.phase.isReserved.toNat = r.pendingSlots + phase.isReserved.toNat)
    (fits : 0 < r.maximum →
      slots + r.inFlight + phase.inFlight.toNat + session.subscriptions.length ≤ r.maximum + s.phase.inFlight.toNat) :
    Honoured { r.goto i s phase with pendingSlots := slots, session := session } := by
  have counted := goto_reserved here phase
  have flying := goto_inFlight here phase
  have old := honoured.slots
  refine ⟨limit ▸ honoured.limit, ?_, ?_, ?_⟩
  · change slots = ((r.goto i s phase).reserved : Int)
    omega
  · intro limited
    have sum := fits limited
    change slots + ((r.goto i s phase).inFlight : Int) + (session.subscriptions.length : Int) ≤ r.maximum
    omega
  · intro t member
    rcases List.mem_or_eq_of_mem_set member with old | rfl
    · exact honoured.served t old
    · exact other

theorem Honoured.step {e : RoomEvent} (honoured : Honoured r) (change : Change r r') (roomy : Roomy ⟨r, e, r'⟩) :
    Honoured r' := by
  cases change with
  | sit id busID =>
    refine ⟨honoured.limit, ?_, ?_, ?_⟩
    · simpa [reserved, SeatPhase.isReserved] using honoured.slots
    · simpa [inFlight, SeatPhase.inFlight, active] using honoured.room
    · intro t member
      rcases List.mem_append.mp member with old | fresh
      · exact honoured.served t old
      · cases List.mem_singleton.mp fresh
        exact nofun
  | turn here phase unreserved landed unreserved' landed' other =>
    apply honoured.goto here phase r.pendingSlots r.session other rfl
    · rw [unreserved, unreserved']
    · intro limited
      rw [landed, landed']
      simpa [active] using honoured.room limited
  | reserve here unreserved landed =>
    apply honoured.goto here .reserved (r.pendingSlots + 1) r.session nofun rfl
    · rw [unreserved]
      simp [SeatPhase.isReserved]
    · intro limited
      have free : r.pendingSlots + r.inFlight + r.active < r.maximum :=
        roomy limited (Int.lt_succ _)
      rw [active] at free
      rw [landed]
      simp only [SeatPhase.inFlight, Bool.toNat_false]
      omega
  | connect here phase =>
    apply honoured.goto here .released (r.pendingSlots - 1) r.session nofun rfl
    · simp [phase, SeatPhase.isReserved]
    · intro limited
      have sum := honoured.room limited
      rw [active] at sum
      simp only [phase, SeatPhase.inFlight, Bool.toNat_false, Bool.toNat_true]
      omega
  | abandon here phase =>
    apply honoured.goto here .left (r.pendingSlots - 1) r.session nofun rfl
    · simp [phase, SeatPhase.isReserved]
    · intro limited
      have sum := honoured.room limited
      rw [active] at sum
      simp only [phase, SeatPhase.inFlight, Bool.toNat_false]
      omega
  | @add i s here phase =>
    apply honoured.goto here .subscribed r.pendingSlots
      { r.session with subscriptions := r.session.subscriptions ++ [⟨s.id, s.busID⟩] } nofun rfl
    · simp [phase, SeatPhase.isReserved]
    · intro limited
      have sum := honoured.room limited
      rw [active] at sum
      simp only [phase, SeatPhase.inFlight, Bool.toNat_false, Bool.toNat_true, List.length_append,
        List.length_singleton]
      omega
  | reject here phase limited full =>
    -- the slot in flight is counted, so the list cannot be full
    have flying := goto_inFlight here .full
    simp only [phase, SeatPhase.inFlight, Bool.toNat_true, Bool.toNat_false] at flying
    have slots := honoured.slots
    have limit := honoured.limit
    have sum := honoured.room (by omega)
    rw [active] at sum
    omega
  | @remove i s here phase =>
    have fewer := removed_active r s.id
    refine ⟨honoured.limit, honoured.slots, fun limited => ?_, honoured.served⟩
    have sum := honoured.room limited
    change r.pendingSlots + r.inFlight + ((r.session.removeSubscription s.id).subscriptions.length : Int) ≤ r.maximum
    omega
  | @depart i s here unreserved landed =>
    have fewer := removed_active r s.id
    apply honoured.goto here .left r.pendingSlots (r.session.removeSubscription s.id) nofun rfl
    · rw [unreserved]
      rfl
    · intro limited
      have sum := honoured.room limited
      rw [landed]
      simp only [SeatPhase.inFlight, Bool.toNat_false]
      omega

theorem Honoured.new (maximum : Int) {session : RelaySession} (limit : session.maxSubscriptions = maximum.toNat)
    (empty : session.subscriptions = []) : Honoured (new maximum session) := by
  refine ⟨?_, rfl, fun limited => ?_, nofun⟩
  · rw [Room.new, limit, Int.ofNat_toNat]
  · change (0 : Int) + 0 + session.subscriptions.length ≤ maximum
    rw [empty]
    exact limited.le

theorem honoured_of_run {start : Room} {h : List (Step Room RoomEvent)} (runs : Runs start h r)
    (honoured : Honoured start) (roomy : ∀ x ∈ h, Roomy x) : Honoured r ∧ ∀ x ∈ h, Honoured x.after := by
  refine Exec.history (G := fun h => ∀ x ∈ h, Roomy x) (I := fun h r => Honoured r ∧ ∀ x ∈ h, Honoured x.after)
    ?_ ⟨honoured, fun _ member => absurd member List.not_mem_nil⟩ ?_ runs roomy
  · exact fun good x member => good x (List.mem_append_left _ member)
  · intro h t i u _ good known moves
    have kept := known.1.step (step_change moves) (good _ List.mem_concat_self)
    refine ⟨kept, fun x member => ?_⟩
    rcases List.mem_append.mp member with old | newest
    · exact known.2 x old
    · cases List.mem_singleton.mp newest
      exact kept

theorem step_roomFull {err : SessionErr} (here : r.seats[i]? = some s)
    (refused : r.session.addBusSubscription s.id s.busID = .error err)
    (moves : r.step (.addBusSubscription i) = some r') : ∃ t ∈ r'.seats, t.phase = .full := by
  rw [step, here, Option.bind_some, addBusSubscription] at moves
  split at moves
  · rw [refused] at moves
    cases moves
    refine ⟨{ s with phase := .full }, ?_, rfl⟩
    exact List.mem_set (List.getElem?_eq_some_iff.mp here).1 _
  · cases moves

end Room

/-- In every interleaving whose reservations find room for the slots in flight, no
subscriber that holds a slot is refused. -/
theorem reserved_slot_honoured (maximum : Int) (session : RelaySession)
    (limit : session.maxSubscriptions = maximum.toNat) (empty : session.subscriptions = [])
    {h : List (Step Room RoomEvent)} {r : Room} (runs : Room.Runs (.new maximum session) h r)
    (roomy : ∀ x ∈ h, Room.Roomy x) :
    ∀ x ∈ h, ∀ i s, x.event = .addBusSubscription i → x.before.seats[i]? = some s →
      x.before.session.addBusSubscription s.id s.busID ≠ .error .roomFull := by
  intro x member i s event here refused
  have moves : x.before.step x.event = some x.after := Exec.step_of_mem runs member
  rw [event] at moves
  obtain ⟨t, seated, full⟩ := Room.step_roomFull here refused moves
  exact ((Room.honoured_of_run runs (.new maximum limit empty) roomy).2 x member).served t seated full

namespace Plain

def oneSeat : RelaySession := ⟨"s", ∅, [], 0, 0, 1, false⟩

def joining (i : Nat) (id : String) (rest : List RoomEvent) : List RoomEvent :=
  .arrive id "mix" :: .loadPending i :: .compareSlots i :: .claimSlot i :: rest

def overbooked : List RoomEvent :=
  joining 0 "a" (.connect 0 :: joining 1 "b" [.addBusSubscription 0, .connect 1, .addBusSubscription 1])

def inTurn : List RoomEvent :=
  joining 0 "a" (.connect 0 :: .addBusSubscription 0 :: .leave 0 :: joining 1 "b" [.connect 1, .addBusSubscription 1])

end Plain

open Plain in
theorem reserved_slot_honoured_in_turn :
    Machine.allows Room.step (.new 1 oneSeat) inTurn = true ∧
      ∀ x ∈ Machine.trail Room.step (.new 1 oneSeat) inTurn, ∀ i s, x.event = .addBusSubscription i →
        x.before.seats[i]? = some s → x.before.session.addBusSubscription s.id s.busID ≠ .error .roomFull :=
  have allowed : Machine.allows Room.step (.new 1 oneSeat) inTurn = true := by decide +kernel
  ⟨allowed, reserved_slot_honoured 1 oneSeat rfl rfl (Machine.exec_of_allows allowed) (by decide +kernel)⟩

open Plain in
theorem reserved_slot_refused :
    Room.Runs (.new 1 oneSeat) (Machine.trail Room.step (.new 1 oneSeat) overbooked)
        (Machine.final Room.step (.new 1 oneSeat) overbooked) ∧
      ∃ x ∈ Machine.trail Room.step (.new 1 oneSeat) overbooked, x.event = .addBusSubscription 1 ∧
        x.before.seats[1]? = some ⟨"b", "mix", .released⟩ ∧
        x.before.session.addBusSubscription "b" "mix" = .error .roomFull := by
  have last : ∃ x ∈ Machine.trail Room.step (.new 1 oneSeat) overbooked, x.event = .addBusSubscription 1 ∧
      x.before.seats[1]? = some ⟨"b", "mix", .released⟩ ∧
      0 < x.before.session.maxSubscriptions ∧
        x.before.session.maxSubscriptions ≤ x.before.session.subscriptions.length := by
    decide +kernel
  obtain ⟨x, member, event, here, full⟩ := last
  exact ⟨Machine.exec_of_allows (by decide +kernel), x, member, event, here, if_pos full⟩

end Relay
