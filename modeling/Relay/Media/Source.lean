import Relay.Downlink.Forwarder
import Relay.Media.Pacing

/-! The source behind a WebSocket publisher: messages are parsed, put on the timeline and handed
to the bus as RTP packets, until the capability expires or something is wrong with one. -/
namespace Relay.Ingress

inductive SourceError where
  | expired
  | disconnected
  | frame
  | admission (e : AdmitError)
deriving DecidableEq

/-- What a round of the loop of `ReadRTP` meets, with the clock at its beginning: a failure of
the connection, a message that is not binary, or a binary one. -/
inductive Round where
  | failed (now later : Time)
  | text (now : Time)
  | binary (now arrivedAt : Time) (message : List UInt8)

def Round.now : Round → Time
  | .failed now _ => now
  | .text now => now
  | .binary now _ _ => now

structure OpusSource where
  expiresAt : Time
  timeline : Timeline
  packetDropCount : Nat
  closed : Option (Nat × String)

def Frame.packet (f : Frame) : RtpPacket :=
  { RtpPacket.zero with
    sequenceNumber := f.sequence.toUInt16, timestamp := f.timestampSamples, payload := f.payload }

namespace OpusSource

def new (expiresAt : Time) : OpusSource := ⟨expiresAt, .zero, 0, none⟩

def close (s : OpusSource) (code : Nat) (reason : String) : OpusSource :=
  { s with closed := s.closed <|> some (code, reason) }

def expire (s : OpusSource) : OpusSource × Except SourceError (Option RtpPacket) :=
  (s.close 1008 "source capability expired", .error .expired)

/-- A message that was read. A late frame is dropped and the loop goes on. -/
def accept (s : OpusSource) (arrivedAt : Time) (message : List UInt8) :
    OpusSource × Except SourceError (Option RtpPacket) :=
  if s.expiresAt ≤ arrivedAt then s.expire
  else if maxMessageBytes < message.length then (s.close 1002 "frame size rejected", .error .frame)
  else
    match parse message with
    | .error _ => (s.close 1002 "Opus frame rejected", .error .frame)
    | .ok frame =>
      match s.timeline.admitFrame frame arrivedAt with
      | (_, .error e) => (s.close 1002 "Opus continuity rejected", .error (.admission e))
      | (timeline, .ok true) => ({ s with timeline := timeline, packetDropCount := s.packetDropCount + 1 }, .ok none)
      | (timeline, .ok false) => ({ s with timeline := timeline }, .ok (some frame.packet))

def round (s : OpusSource) (r : Round) : OpusSource × Except SourceError (Option RtpPacket) :=
  if s.expiresAt ≤ r.now then s.expire
  else
    match r with
    | .failed _ later =>
      if s.expiresAt ≤ later then s.expire else (s.close 1001 "source disconnected", .error .disconnected)
    | .text _ => (s.close 1002 "binary Opus frame required", .error .frame)
    | .binary _ arrivedAt message => s.accept arrivedAt message

/-- The loop of `ReadRTP` within the one of `forwardLoop`: the packets read up to an error. -/
def forward (s : OpusSource) : List Round → OpusSource × List RtpPacket
  | [] => (s, [])
  | r :: rounds =>
    match s.round r with
    | (s', .error _) => (s', [])
    | (s', .ok none) => s'.forward rounds
    | (s', .ok (some packet)) => ((s'.forward rounds).1, packet :: (s'.forward rounds).2)

end OpusSource

def Round.message (expiresAt : Time) : Round → Option (Time × List UInt8)
  | .binary _ arrivedAt message => if arrivedAt < expiresAt then some (arrivedAt, message) else none
  | _ => none

def Round.arrival (expiresAt : Time) (r : Round) : Option Arrival :=
  (r.message expiresAt).bind fun m => (parse m.2).toOption.map fun frame => ⟨frame, m.1⟩

def arrivals (expiresAt : Time) (rounds : List Round) : List Arrival := rounds.filterMap (Round.arrival expiresAt)

def punctual (h : List Admission) : List Admission := (accepted h).filter fun x => x.result = .ok false

namespace OpusSource

variable {s s' : OpusSource} {r : Round} {rounds : List Round}

/-- A round that is not the last one takes a frame that its timeline admits. -/
theorem round_taken {out : Option RtpPacket} (taken : s.round r = (s', .ok out)) :
    ∃ a late, r.arrival s.expiresAt = some a ∧ s.timeline.admitFrame a.frame a.now = (s'.timeline, .ok late) ∧
      s'.expiresAt = s.expiresAt ∧ s'.closed = s.closed ∧ s'.packetDropCount = s.packetDropCount + late.toNat ∧
      out = if late then none else some a.frame.packet := by
  unfold round at taken
  split_ifs at taken
  · simp [expire] at taken
  · cases r with
    | failed now later =>
      dsimp only at taken
      split_ifs at taken <;> simp [expire] at taken
    | text now => simp at taken
    | binary now arrivedAt message =>
      simp only [accept] at taken
      split_ifs at taken with late
      · simp [expire] at taken
      · simp at taken
      · cases parsed : parse message with
        | error e => simp [parsed] at taken
        | ok frame =>
          rw [parsed] at taken
          dsimp only at taken
          have arrives : (Round.binary now arrivedAt message).arrival s.expiresAt = some ⟨frame, arrivedAt⟩ := by
            simp [Round.arrival, Round.message, not_le.mp late, parsed, Except.toOption]
          split at taken
          · simp at taken
          · rename_i timeline admitted
            cases taken
            exact ⟨_, true, arrives, admitted, rfl, rfl, rfl, rfl⟩
          · rename_i timeline admitted
            cases taken
            exact ⟨_, false, arrives, admitted, rfl, rfl, rfl, rfl⟩

theorem round_refused {e : SourceError} (refused : s.round r = (s', .error e)) : s'.closed ≠ none := by
  have closes (code : Nat) (reason : String) : (s.close code reason).closed ≠ none := by
    unfold close
    cases s.closed <;> simp
  unfold round expire at refused
  split_ifs at refused
  · cases refused
    exact closes _ _
  · split at refused
    · split_ifs at refused <;> cases refused <;> exact closes _ _
    · cases refused
      exact closes _ _
    · unfold accept expire at refused
      split_ifs at refused
      · cases refused
        exact closes _ _
      · cases refused
        exact closes _ _
      · split at refused
        · cases refused
          exact closes _ _
        · split at refused <;> cases refused
          exact closes _ _

/-- The packets are punctual frames of the stream, in its order, and while nothing is wrong every
round has handed one on or counted it as dropped. -/
theorem forward_sublist (s : OpusSource) (rounds : List Round) :
    (∃ xs, List.Sublist xs (punctual (s.timeline.admitAll (arrivals s.expiresAt rounds))) ∧
      (s.forward rounds).2 = xs.map fun x => x.arrival.frame.packet) ∧
    ((s.forward rounds).1.closed = none →
      (s.forward rounds).2.length + (s.forward rounds).1.packetDropCount = rounds.length + s.packetDropCount) := by
  induction rounds generalizing s with
  | nil => exact ⟨⟨[], List.nil_sublist _, rfl⟩, fun _ => rfl⟩
  | cons r rounds ih =>
    rcases taken : s.round r with ⟨s', result⟩
    cases result with
    | error e =>
      simp only [forward, taken]
      exact ⟨⟨[], List.nil_sublist _, rfl⟩, fun opened => absurd opened (round_refused taken)⟩
    | ok out =>
      obtain ⟨a, late, arrives, admitted, expires, -, dropped, rfl⟩ := round_taken taken
      obtain ⟨⟨xs, sublist, read⟩, counted⟩ := ih s'
      have stream : s.timeline.admitAll (arrivals s.expiresAt (r :: rounds)) =
          ⟨s.timeline, a, .ok late, s'.timeline⟩ :: s'.timeline.admitAll (arrivals s'.expiresAt rounds) := by
        rw [arrivals, List.filterMap_cons_some arrives, Timeline.admitAll_cons, admitted, expires]
        rfl
      rw [stream]
      cases late with
      | true =>
        simp only [forward, taken, if_true, List.length_cons, Bool.toNat_true] at dropped ⊢
        exact ⟨⟨xs, sublist, read⟩, fun opened => by have := counted opened; omega⟩
      | false =>
        simp only [forward, taken, Bool.false_eq_true, if_false, List.length_cons, Bool.toNat_false] at dropped ⊢
        refine ⟨⟨_ :: xs, sublist.cons_cons _, by rw [read]; rfl⟩, fun opened => ?_⟩
        have := counted opened
        omega

end OpusSource

theorem Timeline.admitAll_arrivals (t : Timeline) (l : List Arrival) : (t.admitAll l).map Admission.arrival = l := by
  induction l generalizing t with
  | nil => rfl
  | cons a l ih => rw [admitAll_cons, List.map_cons, ih]

/-- Every frame on the timeline is the contents of one message of the connection. -/
theorem arrivals_sublist (expiresAt : Time) (rounds : List Round) :
    List.Sublist ((arrivals expiresAt rounds).map fun a => (a.now, a.frame.wire))
        (rounds.filterMap (Round.message expiresAt)) ∧
      ∀ a ∈ arrivals expiresAt rounds, a.frame.Contract := by
  induction rounds with
  | nil => exact ⟨.slnil, nofun⟩
  | cons r rounds ih =>
    cases read : r.message expiresAt with
    | none =>
      have nothing : r.arrival expiresAt = none := by rw [Round.arrival, read]; rfl
      rwa [arrivals, List.filterMap_cons_none nothing, List.filterMap_cons_none read]
    | some m =>
      rw [List.filterMap_cons_some read]
      rcases parse_cases m.2 with ⟨f, contract, wire, parsed⟩ | ⟨_, failed⟩
      · have arrives : r.arrival expiresAt = some ⟨f, m.1⟩ := by rw [Round.arrival, read, Option.bind_some, parsed]; rfl
        rw [arrivals, List.filterMap_cons_some arrives]
        refine ⟨?_, List.forall_mem_cons.mpr ⟨contract, ih.2⟩⟩
        rw [List.map_cons, ← wire]
        exact ih.1.cons_cons m
      · have nothing : r.arrival expiresAt = none := by rw [Round.arrival, read, Option.bind_some, failed]; rfl
        rw [arrivals, List.filterMap_cons_none nothing]
        exact ⟨ih.1.cons m, ih.2⟩

/-- A source hands on what its publisher sent. The packets of the bus are those of frames that
follow one another, each the contents of one message, in the order of the messages and before
the capability expires; and while the source is open every message is handed on or dropped. -/
theorem opus_source_faithful {expiresAt : Time} {rounds : List Round}
    (ordered : (arrivals expiresAt rounds).Pairwise fun a b => a.now ≤ b.now) :
    (∃ l : List Arrival, ((OpusSource.new expiresAt).forward rounds).2 = l.map (fun a => a.frame.packet) ∧
      (l.Pairwise fun a b => Timeline.Follows a.frame b.frame) ∧ (∀ a ∈ l, a.frame.Contract) ∧
      List.Sublist (l.map fun a => (a.now, a.frame.wire)) (rounds.filterMap (Round.message expiresAt))) ∧
    (((OpusSource.new expiresAt).forward rounds).1.closed = none →
      ((OpusSource.new expiresAt).forward rounds).2.length +
        ((OpusSource.new expiresAt).forward rounds).1.packetDropCount = rounds.length) := by
  obtain ⟨⟨xs, sublist, read⟩, counted⟩ := (OpusSource.new expiresAt).forward_sublist rounds
  obtain ⟨sent, contract⟩ := arrivals_sublist expiresAt rounds
  have accepted := sublist.trans List.filter_sublist
  have listed : List.Sublist (xs.map Admission.arrival) (arrivals expiresAt rounds) := by
    conv_rhs => rw [← Timeline.zero.admitAll_arrivals (arrivals expiresAt rounds)]
    exact (accepted.trans List.filter_sublist).map _
  refine ⟨⟨xs.map Admission.arrival, ?_, ?_, fun a member => contract a (listed.subset member),
    (listed.map _).trans sent⟩, counted⟩
  · rw [read, List.map_map]
    rfl
  · rw [List.pairwise_map]
    refine List.Pairwise.sublist accepted ?_
    change (Ingress.accepted (Timeline.zero.admitAll (arrivals expiresAt rounds))).Pairwise _
    cases stream : arrivals expiresAt rounds with
    | nil => exact .nil
    | cons first rest =>
      rw [stream] at ordered
      exact accepted_pairwise (List.pairwise_cons.mp ordered).1

def Plain.spoken : List Round := [.binary 0 0 (Plain.speech 0).wire, .binary 1 frameDuration (Plain.speech 1).wire]

theorem opus_source_faithful_spoken : ((OpusSource.new second).forward Plain.spoken).2.length +
    ((OpusSource.new second).forward Plain.spoken).1.packetDropCount = 2 :=
  (opus_source_faithful (by decide +kernel)).2 (by decide +kernel)

end Relay.Ingress
