import Relay.ClockLineage.Timeline
import Relay.Session.Handover

/-! Which clock the packets of a bus are stamped with. `SetSource` and the end of a loop switch
the timeline pointer of the bus together with its source; a loop that delivers loads the pointer
on its own. -/
namespace Relay

/-- A call of `bus.CaptureTime` that has loaded the pointer. `newest` is the generation that the
bus had given last at that moment; the code does not look at it. -/
structure ClockLookup where
  now : Time
  timeline : Option Nat
  newest : Nat
deriving DecidableEq

/-- What `deliverWithSource` is called with, and the lookup that it comes from. -/
structure Stamp where
  busID : String
  generation : Nat
  packet : RtpPacket
  captureTime : Option Time
  lookup : ClockLookup
deriving DecidableEq

/-- The buses of a RelaySession with their timeline pointers. A timeline is known by its place;
a bus without an entry has the nil pointer. -/
structure ClockedSession where
  session : LaneSession
  sourceTimeline : Table String Nat
  timelines : List Timeline
  lookups : Table (String × Nat) ClockLookup
  stamps : List Stamp

inductive ClockEvent where
  | lane (e : LaneEvent)
  | load (busID : String) (i : Nat) (now : Time)
  | observe (n : Nat) (sr : SenderReport) (observedAt : Time) (normalized : Bool)
deriving DecidableEq

namespace ClockedSession

def new (maxBuses : Nat) (timelines : List Timeline) : ClockedSession := ⟨.new maxBuses, ∅, timelines, ∅, []⟩

def store (pointers : Table String Nat) (busID : String) : Option Nat → Table String Nat
  | some n => pointers.insert busID n
  | none => pointers.erase busID

def delivering (s : LaneSession) (busID : String) (i : Nat) : Option RtpPacket :=
  match (s.lanes.lookup busID).bind fun l => l.attachments[i]? with
  | some a =>
    match a.phase with
    | .delivering pkt => some pkt
    | _ => none
  | none => none

def captureTime (c : ClockedSession) (lookup : ClockLookup) (rtpTimestamp : UInt32) : Option Time :=
  match lookup.timeline.bind fun n => c.timelines[n]? with
  | some timeline => timeline.captureTime rtpTimestamp lookup.now 48000 (10 * second)
  | none => none

-- `clock` is what `ClockLineage` answers for each source
variable (clock : Nat → Option Nat)

/-- The pointers after an operation of a bus: `SetSource` stores the timeline of its source, and
a loop that ends stores nil if its source is still that of the bus. -/
def pointers (c : ClockedSession) (e : LaneEvent) (s' : LaneSession) : Table String Nat :=
  match e with
  | .install busID _ =>
    store c.sourceTimeline busID (((s'.lanes.lookup busID).bind Lane.source).bind clock)
  | .loop busID i .detach =>
    match c.session.lanes.lookup busID with
    | some l =>
      if l.source = (l.attachments[i]?).map Attachment.source then store c.sourceTimeline busID none
      else c.sourceTimeline
    | none => c.sourceTimeline
  | _ => c.sourceTimeline

def step (c : ClockedSession) : ClockEvent → Option ClockedSession
  | .lane (.loop busID i .deliver) =>
    match c.session.step (.loop busID i .deliver), delivering c.session busID i, c.lookups.lookup (busID, i) with
    | some s', some pkt, some lookup =>
      some { c with
        session := s'
        lookups := c.lookups.erase (busID, i)
        stamps := c.stamps ++ [⟨busID, i + 1, pkt, c.captureTime lookup pkt.timestamp, lookup⟩] }
    | _, _, _ => none
  | .lane e =>
    (c.session.step e).map fun s' => { c with session := s', sourceTimeline := c.pointers clock e s' }
  | .load busID i now =>
    match delivering c.session busID i, c.session.lanes.lookup busID, c.lookups.lookup (busID, i) with
    | some _, some l, none =>
      some { c with
        lookups := c.lookups.insert (busID, i) ⟨now, c.sourceTimeline.lookup busID, l.sourceGeneration⟩ }
    | _, _, _ => none
  | .observe n sr observedAt normalized =>
    match c.timelines[n]? with
    | some t => some { c with timelines := c.timelines.set n (t.observe sr observedAt normalized) }
    | none => none

def Runs (maxBuses : Nat) (timelines : List Timeline) (h : List (Step ClockedSession ClockEvent))
    (c : ClockedSession) : Prop :=
  Exec (Machine.Moves (step clock)) (new maxBuses timelines) h c

variable {clock} {c c' : ClockedSession} {e : LaneEvent} {busID : String}
variable {s s' : LaneSession} {pointer : Option Nat} {i : Nat}

theorem lookup_store {pointers : Table String Nat} {bus : String} :
    (store pointers bus pointer).lookup busID = if busID = bus then pointer else pointers.lookup busID := by
  cases pointer with
  | none | some n =>
    by_cases same : busID = bus
    · subst same
      simp [store]
    · simp [store, same]

def PointsTo (clock : Nat → Option Nat) (s : LaneSession) (busID : String) (generation : Nat) (pointer : Option Nat) :
    Prop :=
  pointer = none ∨ ∃ source, 0 < generation ∧ (LaneSession.sources busID s)[generation - 1]? = some source ∧
    pointer = clock source

theorem PointsTo.step {generation : Nat} (points : PointsTo clock s busID generation pointer)
    (step : s.step e = some s') : PointsTo clock s' busID generation pointer := by
  rcases points with empty | ⟨source, positive, here, same⟩
  · exact .inl empty
  · refine .inr ⟨source, positive, ?_, same⟩
    rcases LaneSession.attached_step step with ⟨_, _, grown⟩ | ⟨_, kept⟩
    · rw [grown]
      exact Objects.getElem?_snoc_of_some here
    · rw [kept]
      exact here

structure Sound (clock : Nat → Option Nat) (c : ClockedSession) : Prop where
  buses : ∀ busID, PointsTo clock c.session busID (LaneSession.sources busID c.session).length
    (c.sourceTimeline.lookup busID)
  lookups : ∀ busID i lookup, c.lookups.lookup (busID, i) = some lookup →
    PointsTo clock c.session busID lookup.newest lookup.timeline

theorem Sound.new (maxBuses : Nat) (timelines : List Timeline) : Sound clock (.new maxBuses timelines) where
  buses := by
    intro busID
    exact .inl rfl
  lookups := by
    intro busID i lookup known
    cases known

theorem pointers_cases (step : c.session.step e = some s') :
    (c.pointers clock e s').lookup busID = none ∨
    (∃ source, LaneSession.sources busID s' = LaneSession.sources busID c.session ++ [source] ∧
      (c.pointers clock e s').lookup busID = clock source) ∨
    LaneSession.sources busID s' = LaneSession.sources busID c.session ∧
      (c.pointers clock e s').lookup busID = c.sourceTimeline.lookup busID := by
  by_cases installs : ∃ n, e = .install busID n
  · obtain ⟨n, rfl⟩ := installs
    have stored : (c.pointers clock (.install busID n) s').lookup busID =
        ((s'.lanes.lookup busID).bind Lane.source).bind clock := by
      rw [pointers, lookup_store, if_pos rfl]
    rw [stored]
    rcases LaneSession.attached_step step with ⟨source, attaches, grown⟩ | ⟨silent, kept⟩
    · refine .inr (.inl ⟨source, grown, ?_⟩)
      simp only [LaneSession.attached, if_true] at attaches
      obtain ⟨l, found, installed⟩ := Option.bind_eq_some_iff.mp attaches
      obtain ⟨source', here, same⟩ := Option.map_eq_some_iff.mp installed
      rw [found, Option.bind_some, here, Option.bind_some, (Prod.mk.inj same).2]
    · left
      simp only [LaneSession.attached, if_true] at silent
      cases found : s'.lanes.lookup busID with
      | none => rfl
      | some l =>
        rw [found, Option.bind_some, Option.map_eq_none_iff] at silent
        rw [Option.bind_some, silent, Option.bind_none]
  · have other : ∀ n, e ≠ .install busID n := fun n same => installs ⟨n, same⟩
    have kept : LaneSession.sources busID s' = LaneSession.sources busID c.session := by
      rcases LaneSession.attached_step step with ⟨source, attaches, _⟩ | ⟨_, kept⟩
      · rw [LaneSession.attached_of_other other] at attaches
        cases attaches
      · exact kept
    unfold pointers
    split
    · rename_i bus n
      refine .inr (.inr ⟨kept, ?_⟩)
      rw [lookup_store, if_neg]
      rintro rfl
      exact other n rfl
    · split
      · split_ifs
        · rw [lookup_store]
          split_ifs
          · exact .inl rfl
          · exact .inr (.inr ⟨kept, rfl⟩)
        · exact .inr (.inr ⟨kept, rfl⟩)
      · exact .inr (.inr ⟨kept, rfl⟩)
    · exact .inr (.inr ⟨kept, rfl⟩)

theorem Sound.lane (sound : Sound clock c) (step : c.session.step e = some s') :
    Sound clock { c with session := s', sourceTimeline := c.pointers clock e s' } where
  buses := by
    intro busID
    rcases pointers_cases step with empty | ⟨source, grown, stored⟩ | ⟨same, kept⟩
    · exact .inl empty
    · refine .inr ⟨source, ?_, ?_, stored⟩
      · simp [grown]
      · simp [grown]
    · have before := sound.buses busID
      simp only [kept, same]
      exact before.step step
  lookups := by
    intro busID i lookup known
    exact (sound.lookups busID i lookup known).step step

theorem deliver_eq (taken : c.step clock (.lane (.loop busID i .deliver)) = some c') :
    ∃ s' pkt lookup, c.session.step (.loop busID i .deliver) = some s' ∧ delivering c.session busID i = some pkt ∧
      c.lookups.lookup (busID, i) = some lookup ∧
      c' = { c with
        session := s'
        lookups := c.lookups.erase (busID, i)
        stamps := c.stamps ++ [⟨busID, i + 1, pkt, c.captureTime lookup pkt.timestamp, lookup⟩] } := by
  simp only [step] at taken
  split at taken
  · rename_i s' pkt lookup moved here known
    cases taken
    exact ⟨s', pkt, lookup, moved, here, known, rfl⟩
  · cases taken

theorem lane_eq (other : ∀ busID i, e ≠ .loop busID i .deliver) :
    c.step clock (.lane e) =
      (c.session.step e).map fun s' => { c with session := s', sourceTimeline := c.pointers clock e s' } := by
  unfold step
  split
  · rename_i busID i same
    cases same
    exact absurd rfl (other busID i)
  · rename_i same
    cases same
    rfl
  · rename_i same
    cases same
  · rename_i same
    cases same

theorem Sound.step (sound : Sound clock c) {e : ClockEvent} (taken : c.step clock e = some c') : Sound clock c' := by
  cases e with
  | lane e =>
    by_cases delivers : ∃ busID i, e = .loop busID i .deliver
    · obtain ⟨busID, i, rfl⟩ := delivers
      obtain ⟨s', pkt, lookup, step, _, _, rfl⟩ := deliver_eq taken
      have after := sound.lane step
      refine ⟨after.buses, ?_⟩
      intro busID' i' lookup' known
      exact after.lookups busID' i' lookup' (Table.lookup_erase_some.mp known).2
    · rw [lane_eq fun busID i same => delivers ⟨busID, i, same⟩] at taken
      obtain ⟨s', step, rfl⟩ := Option.map_eq_some_iff.mp taken
      exact sound.lane step
  | load busID i now =>
    simp only [ClockedSession.step] at taken
    split at taken
    · rename_i l _ found _
      cases taken
      refine ⟨sound.buses, ?_⟩
      intro busID' i' lookup known
      rcases Table.lookup_insert_some.mp known with ⟨same, rfl⟩ | ⟨_, old⟩
      · cases same
        have points := sound.buses busID
        have newest : (LaneSession.sources busID c.session).length = l.sourceGeneration := by
          rw [LaneSession.sources, found]
          exact List.length_map ..
        rwa [newest] at points
      · exact sound.lookups busID' i' lookup old
    · cases taken
  | observe n sr observedAt normalized =>
    simp only [ClockedSession.step] at taken
    split at taken
    · cases taken
      exact ⟨sound.buses, sound.lookups⟩
    · cases taken

theorem sound_of_run {maxBuses : Nat} {timelines : List Timeline} {h : List (Step ClockedSession ClockEvent)}
    (run : Runs clock maxBuses timelines h c) : Sound clock c :=
  run.invariant (fun sound taken => sound.step taken) (.new maxBuses timelines)

theorem delivering_eq {pkt : RtpPacket} (here : delivering s busID i = some pkt) :
    ∃ l a, s.lanes.lookup busID = some l ∧ l.attachments[i]? = some a ∧ a.phase = .delivering pkt := by
  unfold delivering at here
  split at here
  · rename_i a place
    obtain ⟨l, found, place⟩ := Option.bind_eq_some_iff.mp place
    split at here
    · rename_i phase
      cases here
      exact ⟨l, a, found, place, phase⟩
    · cases here
  · cases here

/-- A packet whose capture time was looked up while its generation was the newest of the bus is
stamped with no time, or by the timeline of the source attached as that generation. -/
theorem capture_time_of_own_source {maxBuses : Nat} {timelines : List Timeline}
    {h : List (Step ClockedSession ClockEvent)} (run : Runs clock maxBuses timelines h c) :
    ∀ x ∈ h, ∀ busID i, x.event = .lane (.loop busID i .deliver) →
      ∃ l a stamp, x.before.session.lanes.lookup busID = some l ∧ l.attachments[i]? = some a ∧
        a.phase = .delivering stamp.packet ∧ x.after.stamps = x.before.stamps ++ [stamp] ∧
        stamp.busID = busID ∧ stamp.generation = i + 1 ∧
        (stamp.lookup.newest = stamp.generation → stamp.captureTime = none ∨
          ∃ n t, clock a.source = some n ∧ x.before.timelines[n]? = some t ∧
            stamp.captureTime = t.captureTime stamp.packet.timestamp stamp.lookup.now 48000 (10 * second)) := by
  intro x member busID i event
  obtain ⟨before, after, rfl⟩ := List.append_of_mem member
  obtain ⟨first, taken, _⟩ := run.split_step
  have sound := sound_of_run first
  rw [event] at taken
  obtain ⟨s', pkt, lookup, _, here, known, same⟩ := deliver_eq taken
  obtain ⟨l, a, found, place, phase⟩ := delivering_eq here
  refine ⟨l, a, _, found, place, phase, by rw [same], rfl, rfl, ?_⟩
  intro newest
  rcases sound.lookups busID i lookup known with empty | ⟨source, _, own, points⟩
  · left
    simp only [captureTime, empty, Option.bind_none]
  · have mine : source = a.source := by
      rw [show lookup.newest = i + 1 from newest, LaneSession.sources, found] at own
      simp only [Option.elim_some, Nat.add_sub_cancel, List.getElem?_map, place, Option.map_some] at own
      exact (Option.some.inj own).symm
    subst mine
    cases clocked : clock a.source with
    | none =>
      left
      simp only [captureTime, points, clocked, Option.bind_none]
    | some n =>
      cases timed : x.before.timelines[n]? with
      | none =>
        left
        simp only [captureTime, points, clocked, Option.bind_some, timed]
      | some t =>
        right
        refine ⟨n, t, rfl, timed, ?_⟩
        simp only [captureTime, points, clocked, Option.bind_some, timed]

end ClockedSession

/-! The second publisher of a bus, whose timeline has a report, is attached while the loop of the
first, whose timeline has none, is delivering. -/
namespace Plain

def reportedTimeline : Timeline := (Timeline.new 9).observe ⟨9, 0x8000000000000000, 0, 0, 0⟩ (Time.ofUnix 0 0) false

def clocks : Nat → Option Nat
  | 1 => some 0
  | 2 => some 1
  | _ => none

def stamping : List ClockEvent :=
  (attach "voice" 1 0 ++ [LoopAct.read lanePacket, .check].map (LaneEvent.loop "voice" 0)).map .lane

def overtakenStamp : List ClockEvent :=
  stamping ++ ([.lane (.lookup "voice" 2), .lane (.install "voice" 0), .load "voice" 0 (Time.ofUnix 1 0),
    .lane (.loop "voice" 0 .deliver)] : List ClockEvent)

def ownStamp : List ClockEvent :=
  .observe 0 ⟨7, 0x9000000000000000, 0, 0, 0⟩ (Time.ofUnix 0 0) false :: stamping ++
    ([.load "voice" 0 (Time.ofUnix 1 0), .lane (.lookup "voice" 2), .lane (.install "voice" 0),
      .lane (.loop "voice" 0 .deliver)] : List ClockEvent)

def unstamped : ClockedSession := .new 16 [.new 7, reportedTimeline]

def stampedAfter (events : List ClockEvent) : ClockedSession :=
  Machine.final (ClockedSession.step clocks) unstamped events

def stampedHistory (events : List ClockEvent) : List (Step ClockedSession ClockEvent) :=
  Machine.trail (ClockedSession.step clocks) unstamped events

theorem runs_overtakenStamp :
    ClockedSession.Runs clocks 16 [.new 7, reportedTimeline] (stampedHistory overtakenStamp)
      (stampedAfter overtakenStamp) :=
  Machine.exec_of_allows (by decide +kernel)

theorem runs_ownStamp :
    ClockedSession.Runs clocks 16 [.new 7, reportedTimeline] (stampedHistory ownStamp) (stampedAfter ownStamp) :=
  Machine.exec_of_allows (by decide +kernel)

end Plain

open Plain in
/-- The packet is of the first generation, and its time is one that only the timeline of the
second source can give. -/
theorem capture_time_of_next_source :
    ClockedSession.Runs clocks 16 [.new 7, reportedTimeline] (stampedHistory overtakenStamp)
      (stampedAfter overtakenStamp) ∧
    (∃ stamp, (stampedAfter overtakenStamp).stamps = [stamp] ∧ stamp.generation = 1 ∧ stamp.packet = lanePacket ∧
      stamp.captureTime = reportedTimeline.captureTime lanePacket.timestamp (Time.ofUnix 1 0) 48000 (10 * second) ∧
      stamp.captureTime ≠ none) ∧
    (∀ x ∈ stampedHistory overtakenStamp, clocks 1 = some 0 ∧ x.before.timelines[0]? = some (.new 7)) ∧
    ∀ rtpTimestamp now, (Timeline.new 7).captureTime rtpTimestamp now 48000 (10 * second) = none := by
  refine ⟨runs_overtakenStamp, ?_, by decide +kernel, fun _ _ => rfl⟩
  refine ⟨⟨"voice", 1, lanePacket, reportedTimeline.captureTime lanePacket.timestamp (Time.ofUnix 1 0) 48000 (10 * second),
    ⟨Time.ofUnix 1 0, some 1, 2⟩⟩, by decide +kernel, rfl, rfl, rfl, by decide +kernel⟩

open Plain in
theorem capture_time_of_own_source_first :
    (stampedAfter ownStamp).stamps =
      [⟨"voice", 1, lanePacket, some (ntpTime 0x9000000000000000), ⟨Time.ofUnix 1 0, some 0, 1⟩⟩] ∧
    ∀ x ∈ stampedHistory ownStamp, ∀ busID i, x.event = .lane (.loop busID i .deliver) →
      ∃ l a stamp, x.before.session.lanes.lookup busID = some l ∧ l.attachments[i]? = some a ∧
        a.phase = .delivering stamp.packet ∧ x.after.stamps = x.before.stamps ++ [stamp] ∧
        stamp.busID = busID ∧ stamp.generation = i + 1 ∧
        (stamp.lookup.newest = stamp.generation → stamp.captureTime = none ∨
          ∃ n t, clocks a.source = some n ∧ x.before.timelines[n]? = some t ∧
            stamp.captureTime = t.captureTime stamp.packet.timestamp stamp.lookup.now 48000 (10 * second)) :=
  ⟨by decide +kernel, ClockedSession.capture_time_of_own_source runs_ownStamp⟩

end Relay
