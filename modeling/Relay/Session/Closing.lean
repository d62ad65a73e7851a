import Relay.Session.Handover
import Relay.Session.RelaySession

/-! `Close` of a RelaySession among the attachments, loops and subscriptions that go on
around it. It stops the subscriptions and closes the buses that it finds; both lists are
open to whoever still holds the Session. -/
namespace Relay

def LoopPhase.ending : LoopPhase → Bool
  | .got _ | .leaving | .detached | .arming | .finished => true
  | _ => false

section Buses

variable {closed : Bool} {busID : String} {l l' : Lane} {e : LaneEvent} {s s' : LaneSession} {i : Nat}

theorem Lane.Change.done (change : l.Change closed busID e l') (done : l.done = true) : l'.done = true := by
  cases change with
  | finishClose => rfl
  | _ => exact done

theorem Lane.Change.once (change : l.Change closed busID e l') (known : l.once = .finished → l.done = true)
    (finished : l'.once = .finished) : l'.done = true := by
  cases change with
  | startClose => cases finished
  | finishClose => rfl
  | _ => exact known finished

variable {a : Attachment}

theorem Lane.Change.apart (change : l.Change closed busID e l') (here : l.attachments[i]? = some a)
    (other : ∀ act, e ≠ .loop busID i act) : l'.attachments[i]? = some a := by
  have elsewhere : ∀ {j : Nat} {act : LoopAct} (a' : Attachment), e = .loop busID j act →
      (l.attachments.set j a')[i]? = some a := by
    rintro j act a' rfl
    have apart : j ≠ i := fun same => other act (by rw [same])
    rw [List.getElem?_set_ne apart, here]
  cases change with
  | install => exact Objects.getElem?_snoc_of_some here
  | move | stopTimers | arm => exact elsewhere _ rfl
  | caller | fire | startClose | finishClose | closer => exact here

theorem Lane.act_ending {act : LoopAct} (done : l.done = true) (here : l.attachments[i]? = some a)
    (ending : a.phase.ending = true) (step : l.act i a act = some l') :
    ∃ a', l'.attachments[i]? = some a' ∧ a'.phase.ending = true := by
  have entered : ∀ {a' : Attachment}, a'.phase.ending = true →
      ∃ b, (l.attachments.set i a')[i]? = some b ∧ b.phase.ending = true :=
    fun ends => ⟨_, List.getElem?_set_self (List.getElem?_eq_some_iff.mp here).1, ends⟩
  cases act with
  | join =>
    obtain ⟨guard, ⟨⟩⟩ := Option.ite_none_right_eq_some.mp step
    rw [guard.1] at ending
    cases ending
  | stopTimers | launch | read | fail =>
    obtain ⟨phase, ⟨⟩⟩ := Option.ite_none_right_eq_some.mp step
    rw [phase] at ending
    cases ending
  | answer =>
    obtain ⟨_, ⟨⟩⟩ := Option.ite_none_right_eq_some.mp step
    exact entered ending
  | check =>
    simp only [Lane.act, done, if_true] at step
    split at step
    · cases step
      exact entered rfl
    · cases step
  | deliver =>
    simp only [Lane.act] at step
    split at step
    · rename_i phase
      rw [phase] at ending
      cases ending
    · cases step
  | detach | arm =>
    obtain ⟨_, ⟨⟩⟩ := Option.ite_none_right_eq_some.mp step
    exact entered rfl
  | rest =>
    obtain ⟨_, ⟨⟩⟩ := Option.ite_none_right_eq_some.mp step
    rw [done]
    exact entered rfl

namespace LaneSession

theorem new_lane (step : s.step e = some s') (absent : s.lanes.lookup busID = none)
    (found : s'.lanes.lookup busID = some l) :
    (∃ source, e = .lookup busID source) ∧ s.lanes.size < s.maxBuses := by
  have onLane : ∀ {bus : String} {f : Lane → Option Lane}, s.onLane bus f ≠ some s' := by
    intro bus f taken
    obtain ⟨l₀, l', known, _, rfl⟩ := onLane_some taken
    rcases Table.lookup_insert_some.mp found with ⟨rfl, _⟩ | ⟨_, old⟩
    · rw [known] at absent
      cases absent
    · rw [old] at absent
      cases absent
  cases e with
  | lookup bus source =>
    cases step
    unfold LaneSession.lookup at found
    split at found
    · rename_i l₀ known
      rcases Table.lookup_insert_some.mp found with ⟨rfl, _⟩ | ⟨_, old⟩
      · rw [known] at absent
        cases absent
      · rw [old] at absent
        cases absent
    · split_ifs at found with full
      · rw [found] at absent
        cases absent
      · rcases Table.lookup_insert_some.mp found with ⟨rfl, _⟩ | ⟨_, old⟩
        · exact ⟨⟨source, rfl⟩, Nat.lt_of_not_le full⟩
        · rw [old] at absent
          cases absent
  | install | loop | fire | startClose | finishClose => exact absurd step onLane
  | closeBus bus =>
    obtain ⟨_, taken⟩ := Option.ite_none_right_eq_some.mp step
    exact absurd taken onLane
  | close =>
    cases step
    rw [found] at absent
    cases absent

def Ended (busID : String) (i : Nat) (s : LaneSession) : Prop :=
  ∃ l a, s.lanes.lookup busID = some l ∧ l.done = true ∧ l.attachments[i]? = some a ∧ a.phase.ending = true

theorem Ended.step (ended : Ended busID i s) (step : s.step e = some s') : Ended busID i s' := by
  obtain ⟨l, a, found, done, here, ending⟩ := ended
  by_cases own : ∃ act, e = .loop busID i act
  · obtain ⟨act, rfl⟩ := own
    obtain ⟨l₀, l', known, result, rfl⟩ := onLane_some step
    rw [found] at known
    cases known
    obtain ⟨a₀, there, taken⟩ := Option.bind_eq_some_iff.mp result
    rw [here] at there
    cases there
    obtain ⟨a', here', ending'⟩ := Lane.act_ending done here ending taken
    have change : l.Change s.closed busID (.loop busID i act) l' := Lane.act_change here taken
    exact ⟨l', a', AList.lookup_insert _, change.done done, here', ending'⟩
  · obtain ⟨l', found', same | change⟩ := lane_step step found
    · subst same
      exact ⟨l', a, found', done, here, ending⟩
    · exact ⟨l', a, found', change.done done, change.apart here (not_exists.mp own), ending⟩

end LaneSession

end Buses

structure SubscriptionEntry where
  subscriberID : String
  busID : String
  stopped : Bool
deriving DecidableEq

/-- How far `Close` has come. `walking` holds the read lock of the buses, and `waiting` is
inside `closeOnce.Do` of one of them. -/
inductive ClosePhase where
  | idle
  | marked
  | muted
  | walking (rest : List String)
  | waiting (busID : String) (rest : List String)
  | returned
deriving DecidableEq

def ClosePhase.pending : ClosePhase → Option (List String)
  | .walking rest => some rest
  | .waiting busID rest => some (busID :: rest)
  | .returned => some []
  | _ => none

def ClosePhase.holdsLock : ClosePhase → Bool
  | .walking _ | .waiting _ _ => true
  | _ => false

structure ClosingSession where
  buses : LaneSession
  subscriptions : List SubscriptionEntry
  maxSubscriptions : Nat
  phase : ClosePhase

inductive ClosingEvent where
  | bus (event : LaneEvent)
  | addBusSubscription (subscriberID busID : String)
  | removeSubscription (subscriberID : String)
  | closeDone
  | stopForwarding
  | lockBuses
  | closeBus (busID : String)
  | busClosed
  | unlockBuses
deriving DecidableEq

structure BusWrite where
  subscriberID : String
  busID : String
  generation : Nat
  packet : RtpPacket
deriving DecidableEq

namespace ClosingSession

def new (maxBuses maxSubscriptions : Nat) : ClosingSession := ⟨.new maxBuses, [], maxSubscriptions, .idle⟩

/-- A new bus needs the write lock. The end of a bus by `Close` has its own events. -/
def permits (s : ClosingSession) : LaneEvent → Bool
  | .lookup busID _ => !s.phase.holdsLock || (s.buses.lanes.lookup busID).isSome
  | .closeBus _ | .close => false
  | _ => true

def addBusSubscription (s : ClosingSession) (subscriberID busID : String) : Except SessionErr ClosingSession :=
  if 0 < s.maxSubscriptions ∧ s.maxSubscriptions ≤ s.subscriptions.length then .error .roomFull
  else .ok { s with subscriptions := s.subscriptions ++ [⟨subscriberID, busID, false⟩] }

def step (s : ClosingSession) : ClosingEvent → Option ClosingSession
  | .bus event =>
    if s.permits event then (s.buses.step event).map fun buses => { s with buses := buses } else none
  | .addBusSubscription subscriberID busID =>
    match s.addBusSubscription subscriberID busID with
    | .ok s' => some s'
    | .error _ => some s
  | .removeSubscription subscriberID =>
    some { s with subscriptions := s.subscriptions.filter fun e => e.subscriberID ≠ subscriberID }
  | .closeDone =>
    if s.phase = .idle then (s.buses.step .close).map fun buses => { s with buses := buses, phase := .marked } else none
  | .stopForwarding =>
    if s.phase = .marked then
      some { s with subscriptions := s.subscriptions.map fun e => { e with stopped := true }, phase := .muted }
    else none
  | .lockBuses => if s.phase = .muted then some { s with phase := .walking s.buses.lanes.keys } else none
  | .closeBus busID =>
    match s.phase with
    | .walking rest =>
      if busID ∈ rest then
        (s.buses.step (.closeBus busID)).map fun buses =>
          { s with buses := buses, phase := .waiting busID (rest.erase busID) }
      else none
    | _ => none
  | .busClosed =>
    match s.phase with
    | .waiting busID rest =>
      if (s.buses.lanes.lookup busID).any fun l => l.once = .finished then some { s with phase := .walking rest }
      else none
    | _ => none
  | .unlockBuses => if s.phase = .walking [] then some { s with phase := .returned } else none

def Runs (maxBuses maxSubscriptions : Nat) (h : List (Step ClosingSession ClosingEvent)) (s : ClosingSession) : Prop :=
  Exec (Machine.Moves step) (new maxBuses maxSubscriptions) h s

def recipients (s : ClosingSession) (busID : String) : List SubscriptionEntry :=
  s.subscriptions.filter fun e => e.busID = busID ∨ e.busID = busMix

def outgoing (s : ClosingSession) (busID : String) (i : Nat) : Option RtpPacket :=
  ((s.buses.lanes.lookup busID).bind fun l => l.attachments[i]?).bind fun a =>
    match a.phase with
    | .delivering pkt => some pkt
    | _ => none

def writes (x : Step ClosingSession ClosingEvent) : List BusWrite :=
  match x.event with
  | .bus (.loop busID i .deliver) =>
    match x.before.outgoing busID i with
    | some pkt => (x.before.recipients busID).map fun e => ⟨e.subscriberID, busID, i, pkt⟩
    | none => []
  | _ => []

def creates (s : ClosingSession) : ClosingEvent → Bool
  | .bus (.lookup busID _) =>
    (s.buses.lanes.lookup busID).isNone && decide (s.buses.lanes.size < s.buses.maxBuses)
  | _ => false

def Settled (x : Step ClosingSession ClosingEvent) : Prop :=
  x.before.phase = .returned → x.before.creates x.event = false

instance (x : Step ClosingSession ClosingEvent) : Decidable (Settled x) :=
  inferInstanceAs (Decidable (_ → _))

variable {s s' : ClosingSession} {e : ClosingEvent}

inductive Progress (s : ClosingSession) : ClosingEvent → LaneSession → ClosePhase → Prop
  | bus {event : LaneEvent} {buses : LaneSession} (permitted : s.permits event = true)
    (moved : s.buses.step event = some buses) : Progress s (.bus event) buses s.phase
  | rest (e : ClosingEvent) : Progress s e s.buses s.phase
  | open {buses : LaneSession} {phase : ClosePhase} (e : ClosingEvent)
    (moved : buses = s.buses ∨ s.buses.step .close = some buses) (early : phase.pending = none) :
    Progress s e buses phase
  | lock (e : ClosingEvent) : Progress s e s.buses (.walking s.buses.lanes.keys)
  | close {busID : String} {rest : List String} {buses : LaneSession} (walks : s.phase = .walking rest)
    (inside : busID ∈ rest) (moved : s.buses.step (.closeBus busID) = some buses) :
    Progress s (.closeBus busID) buses (.waiting busID (rest.erase busID))
  | closed {busID : String} {rest : List String} {l : Lane} (waits : s.phase = .waiting busID rest)
    (found : s.buses.lanes.lookup busID = some l) (finished : l.once = .finished) :
    Progress s .busClosed s.buses (.walking rest)
  | unlock (walks : s.phase = .walking []) : Progress s .unlockBuses s.buses .returned

theorem step_progress (step : s.step e = some s') : Progress s e s'.buses s'.phase := by
  cases e with
  | bus event =>
    obtain ⟨permitted, taken⟩ := Option.ite_none_right_eq_some.mp step
    obtain ⟨buses, moved, rfl⟩ := Option.map_eq_some_iff.mp taken
    exact .bus permitted moved
  | addBusSubscription subscriberID busID =>
    simp only [ClosingSession.step, ClosingSession.addBusSubscription] at step
    split_ifs at step
    · cases step
      exact .rest _
    · cases step
      exact .rest _
  | removeSubscription subscriberID =>
    cases step
    exact .rest _
  | closeDone =>
    obtain ⟨_, taken⟩ := Option.ite_none_right_eq_some.mp step
    obtain ⟨buses, moved, rfl⟩ := Option.map_eq_some_iff.mp taken
    exact .open _ (.inr moved) rfl
  | stopForwarding =>
    obtain ⟨_, ⟨⟩⟩ := Option.ite_none_right_eq_some.mp step
    exact .open _ (.inl rfl) rfl
  | lockBuses =>
    obtain ⟨_, ⟨⟩⟩ := Option.ite_none_right_eq_some.mp step
    exact .lock _
  | closeBus busID =>
    simp only [ClosingSession.step] at step
    split at step
    · rename_i rest walks
      obtain ⟨inside, taken⟩ := Option.ite_none_right_eq_some.mp step
      obtain ⟨buses, moved, rfl⟩ := Option.map_eq_some_iff.mp taken
      exact .close walks inside moved
    · cases step
  | busClosed =>
    simp only [ClosingSession.step] at step
    split at step
    · rename_i busID rest waits
      obtain ⟨finished, ⟨⟩⟩ := Option.ite_none_right_eq_some.mp step
      obtain ⟨l, found, once⟩ := (Option.any_eq_true _ _).mp finished
      exact .closed waits found (of_decide_eq_true once)
    · cases step
  | unlockBuses =>
    obtain ⟨walks, ⟨⟩⟩ := Option.ite_none_right_eq_some.mp step
    exact .unlock walks

structure Sealed (buses : LaneSession) (phase : ClosePhase) : Prop where
  once : ∀ busID l, buses.lanes.lookup busID = some l → l.once = .finished → l.done = true
  shut : ∀ rest, phase.pending = some rest → ∀ busID l, buses.lanes.lookup busID = some l →
    busID ∈ rest ∨ l.done = true

variable {rest : List String} {busID : String} {event : LaneEvent} {buses : LaneSession} {i : Nat}

theorem Sealed.once_step (closed : Sealed s.buses s.phase) (moved : s.buses.step event = some buses) :
    ∀ busID l, buses.lanes.lookup busID = some l → l.once = .finished → l.done = true :=
  LaneSession.forall_lanes_step (P := fun l => l.once = .finished → l.done = true) nofun Lane.Change.once moved
    closed.once

theorem Sealed.shut_step (closed : Sealed s.buses s.phase) (moved : s.buses.step event = some buses)
    (pending : s.phase.pending = some rest)
    (kept : ∀ busID source, event = .lookup busID source → s.buses.lanes.size < s.buses.maxBuses →
      s.buses.lanes.lookup busID ≠ none) :
    ∀ busID l, buses.lanes.lookup busID = some l → busID ∈ rest ∨ l.done = true := by
  intro busID l found
  cases known : s.buses.lanes.lookup busID with
  | none =>
    obtain ⟨⟨source, asked⟩, room⟩ := LaneSession.new_lane moved known found
    exact absurd known (kept busID source asked room)
  | some l₀ =>
    obtain ⟨l', found', change⟩ := LaneSession.lane_step moved known
    rw [found] at found'
    cases found'
    refine (closed.shut rest pending busID l₀ known).imp_right fun done => ?_
    rcases change with rfl | change
    · exact done
    · exact change.done done

theorem kept_of_settled (permitted : s.permits event = true)
    (settled : s.phase = .returned → s.creates (.bus event) = false) (pending : s.phase.pending = some rest)
    (busID : String) (source : Nat) (asked : event = .lookup busID source)
    (room : s.buses.lanes.size < s.buses.maxBuses) : s.buses.lanes.lookup busID ≠ none := by
  subst asked
  intro absent
  simp only [permits, absent, Option.isSome_none, Bool.or_false, Bool.not_eq_true'] at permitted
  cases phase : s.phase with
  | idle | marked | muted => simp [phase, ClosePhase.pending] at pending
  | walking | waiting => simp [phase, ClosePhase.holdsLock] at permitted
  | returned => simpa [creates, absent, room] using settled phase

theorem Progress.sealed {phase : ClosePhase} (progress : Progress s e buses phase) (closed : Sealed s.buses s.phase)
    (settled : s.phase = .returned → s.creates e = false) : Sealed buses phase := by
  cases progress with
  | bus permitted moved =>
    exact ⟨closed.once_step moved, fun rest pending =>
      closed.shut_step moved pending (kept_of_settled permitted settled pending)⟩
  | rest => exact closed
  | «open» _ moved early =>
    refine ⟨?_, fun rest pending => ?_⟩
    · rcases moved with rfl | moved
      · exact closed.once
      · exact closed.once_step moved
    · rw [early] at pending
      cases pending
  | lock =>
    refine ⟨closed.once, ?_⟩
    rintro rest ⟨⟩ busID l found
    exact .inl (Table.mem_iff_lookup.mpr ⟨l, found⟩)
  | @close bus rest buses walks inside moved =>
    have pending : s.phase.pending = some rest := by rw [walks]; rfl
    refine ⟨closed.once_step moved, ?_⟩
    rintro _ ⟨⟩ busID l found
    refine (closed.shut_step moved pending nofun busID l found).imp_left fun member => ?_
    by_cases same : busID = bus
    · rw [same]
      exact List.mem_cons_self
    · exact List.mem_cons_of_mem _ ((List.mem_erase_of_ne same).mpr member)
  | @closed bus rest l waits found finished =>
    have pending : s.phase.pending = some (bus :: rest) := by rw [waits]; rfl
    refine ⟨closed.once, ?_⟩
    rintro _ ⟨⟩ busID l' found'
    rcases closed.shut _ pending busID l' found' with member | done
    · rcases List.mem_cons.mp member with rfl | later
      · rw [found] at found'
        cases found'
        exact .inr (closed.once busID l found finished)
      · exact .inl later
    · exact .inr done
  | unlock walks =>
    refine ⟨closed.once, ?_⟩
    rintro _ ⟨⟩ busID l found
    exact closed.shut [] (by rw [walks]; rfl) busID l found

variable {h : List (Step ClosingSession ClosingEvent)}

theorem sealed_of_run {maxBuses maxSubscriptions : Nat} (runs : Runs maxBuses maxSubscriptions h s)
    (settled : ∀ x ∈ h, Settled x) : Sealed s.buses s.phase := by
  refine Exec.history (G := fun h => ∀ x ∈ h, Settled x) (I := fun _ s => Sealed s.buses s.phase) ?_ ?_ ?_ runs settled
  · exact fun good x member => good x (List.mem_append_left _ member)
  · exact ⟨(fun _ _ found => nomatch found), fun _ pending => nomatch pending⟩
  · intro h t i u _ good closed moves
    exact (step_progress moves).sealed closed (good _ List.mem_concat_self)

theorem buses_step (step : s.step e = some s') :
    s'.buses = s.buses ∨ ∃ event, s.buses.step event = some s'.buses := by
  have progress := step_progress step
  generalize s'.buses = buses, s'.phase = phase at progress
  cases progress with
  | bus _ moved | close _ _ moved => exact .inr ⟨_, moved⟩
  | «open» _ moved _ => exact moved.imp_right fun moved => ⟨_, moved⟩
  | rest | lock | closed | unlock => exact .inl rfl

theorem ended_of_run (runs : Exec (Machine.Moves step) s h s') (ended : s.buses.Ended busID i) :
    s'.buses.Ended busID i := by
  refine runs.invariant (I := fun s => s.buses.Ended busID i) ?_ ended
  intro t e u ended moves
  rcases buses_step moves with same | ⟨event, moved⟩
  · rw [same]
    exact ended
  · exact ended.step moved

theorem ended_of_read {pkt : RtpPacket} (closed : Sealed s.buses .returned)
    (step : s.step (.bus (.loop busID i (.read pkt))) = some s') : s'.buses.Ended busID i := by
  rw [ClosingSession.step] at step
  obtain ⟨_, taken⟩ := Option.ite_none_right_eq_some.mp step
  obtain ⟨buses, moved, rfl⟩ := Option.map_eq_some_iff.mp taken
  obtain ⟨l, l', found, result, rfl⟩ := LaneSession.onLane_some moved
  obtain ⟨a, here, read⟩ := Option.bind_eq_some_iff.mp result
  obtain ⟨_, ⟨⟩⟩ := Option.ite_none_right_eq_some.mp read
  have done : l.done = true := (closed.shut [] rfl busID l found).resolve_left nofun
  exact ⟨_, _, AList.lookup_insert _, done, List.getElem?_set_self (List.getElem?_eq_some_iff.mp here).1, rfl⟩

theorem outgoing_of_ended (ended : s.buses.Ended busID i) : s.outgoing busID i = none := by
  obtain ⟨l, a, found, _, here, ending⟩ := ended
  rw [outgoing, found, Option.bind_some, here, Option.bind_some]
  split
  · rename_i phase
    rw [phase] at ending
    cases ending
  · rfl

theorem mem_writes {x : Step ClosingSession ClosingEvent} {w : BusWrite} (member : w ∈ writes x) :
    x.before.outgoing w.busID w.generation = some w.packet := by
  unfold writes at member
  split at member
  · split at member
    · rename_i pkt found
      obtain ⟨entry, _, rfl⟩ := List.mem_map.mp member
      exact found
    · cases member
  · cases member

end ClosingSession

open ClosingSession in
/-- After `Close` has returned, and as long as nobody makes a bus, no loop that reads a packet
writes anything to a subscription from then on. -/
theorem closed_session_silent {maxBuses maxSubscriptions : Nat}
    {h before after : List (Step ClosingSession ClosingEvent)} {s : ClosingSession}
    {x : Step ClosingSession ClosingEvent} (runs : ClosingSession.Runs maxBuses maxSubscriptions h s)
    (settled : ∀ y ∈ h, ClosingSession.Settled y) (split : h = before ++ x :: after)
    (returned : x.before.phase = .returned) {busID : String} {i : Nat} {pkt : RtpPacket}
    (reads : x.event = .bus (.loop busID i (.read pkt))) :
    ∀ y ∈ after, ∀ w ∈ writes y, ¬ (w.busID = busID ∧ w.generation = i) := by
  subst split
  rintro y member w written ⟨rfl, rfl⟩
  obtain ⟨first, moves, rest⟩ := Exec.split_step runs
  have closed := sealed_of_run first fun z early => settled z (List.mem_append_left _ early)
  have moves' : x.before.step x.event = some x.after := moves
  rw [reads] at moves'
  rw [returned] at closed
  obtain ⟨middle, last, rfl⟩ := List.append_of_mem member
  have ended := ended_of_run (Exec.split_step rest).1 (ended_of_read closed moves')
  have sent := mem_writes written
  rw [outgoing_of_ended ended] at sent
  cases sent

namespace Plain

def closeEmpty : List ClosingEvent := [.closeDone, .stopForwarding, .lockBuses, .unlockBuses]

def closeVoice : List ClosingEvent :=
  [.closeDone, .stopForwarding, .lockBuses, .closeBus "voice", .bus (.startClose "voice"), .bus (.finishClose "voice"),
    .busClosed, .unlockBuses]

def readOnce : ClosingEvent := .bus (.loop "voice" 0 (.read lanePacket))

def forwardOnce : List ClosingEvent := [.bus (.loop "voice" 0 .check), .bus (.loop "voice" 0 .deliver)]

def closedEarly : List ClosingEvent :=
  closeEmpty ++ (attach "voice" 1 0).map ClosingEvent.bus ++ [ClosingEvent.addBusSubscription "a" "voice"]

def closedLate : List ClosingEvent := (attach "voice" 1 0).map .bus ++ .addBusSubscription "a" "voice" :: closeVoice

def closingHistory (events : List ClosingEvent) : List (Step ClosingSession ClosingEvent) :=
  Machine.trail ClosingSession.step (.new 16 0) events

def closingAfter (events : List ClosingEvent) : ClosingSession :=
  Machine.final ClosingSession.step (.new 16 0) events

def afterRead (events rest : List ClosingEvent) : List (Step ClosingSession ClosingEvent) :=
  Machine.trail ClosingSession.step (closingAfter (events ++ [readOnce])) rest

end Plain

open Plain in
theorem closed_session_silent_late :
    (closingAfter closedLate).phase = .returned ∧
      ∀ y ∈ afterRead closedLate (forwardOnce.take 1), ∀ w ∈ ClosingSession.writes y,
        ¬ (w.busID = "voice" ∧ w.generation = 0) := by
  have allowed : Machine.allows ClosingSession.step (.new 16 0)
      (closedLate ++ readOnce :: forwardOnce.take 1) = true := by
    decide +kernel
  have returned : (closingAfter closedLate).phase = .returned := by decide +kernel
  exact ⟨returned, closed_session_silent (Machine.exec_of_allows allowed) (by decide +kernel)
    (Machine.trail_split allowed) returned rfl⟩

open Plain in
/-- A bus made after `Close` forwards to a subscription made after `Close`. -/
theorem closed_session_forwards :
    ClosingSession.Runs 16 0 (closingHistory (closedEarly ++ readOnce :: forwardOnce))
      (closingAfter (closedEarly ++ readOnce :: forwardOnce)) ∧
      closingHistory (closedEarly ++ readOnce :: forwardOnce) =
        closingHistory closedEarly ++ ⟨closingAfter closedEarly, readOnce, closingAfter (closedEarly ++ [readOnce])⟩ ::
          afterRead closedEarly forwardOnce ∧
      (closingAfter closedEarly).phase = .returned ∧
      (closingAfter closedEarly).subscriptions = [⟨"a", "voice", false⟩] ∧
      (afterRead closedEarly forwardOnce).flatMap ClosingSession.writes = [⟨"a", "voice", 0, lanePacket⟩] := by
  obtain ⟨allowed, forwards⟩ :
      Machine.allows ClosingSession.step (.new 16 0) (closedEarly ++ readOnce :: forwardOnce) = true ∧
      (closingAfter closedEarly).phase = .returned ∧
      (closingAfter closedEarly).subscriptions = [⟨"a", "voice", false⟩] ∧
      (afterRead closedEarly forwardOnce).flatMap ClosingSession.writes = [⟨"a", "voice", 0, lanePacket⟩] := by
    decide +kernel
  exact ⟨Machine.exec_of_allows allowed, Machine.trail_split allowed, forwards⟩

end Relay
