import Relay.Downlink.Reconnect
import Relay.Downlink.Pacer

/-! The translator and the unwrapper follow one frontier: the furthest number given out. The
translator knows it through the numbers of the current source, the unwrapper through the
numbers it is shown. -/
namespace Relay

structure ForwardState where
  translator : RtpForwardTranslator
  unwrapper : SequenceUnwrapper

structure Forwarded where
  call : TranslateCall
  before : ForwardState
  after : ForwardState
  packet : RtpPacket
  extSeq : Int

namespace ForwardState

def zero : ForwardState := ⟨.zero, .zero⟩

def prepareForwardItem (s : ForwardState) (c : TranslateCall) : Forwarded :=
  let translated := s.translator.translateAt c.packet c.source c.arrival
  let unwrapped := s.unwrapper.unwrap translated.2.1.sequenceNumber
  ⟨c, s, ⟨translated.1, unwrapped.1⟩, translated.2.1, unwrapped.2⟩

def prepareAll (s : ForwardState) : List TranslateCall → List Forwarded
  | [] => []
  | c :: calls => s.prepareForwardItem c :: (s.prepareForwardItem c).after.prepareAll calls

structure Linked (s : ForwardState) : Prop where
  translating : s.translator.initialized = true
  unwrapping : s.unwrapper.initialized = true
  offset : s.translator.lastInputSequence + s.translator.sequenceOffset = s.translator.lastOutputSequence
  frontier : s.translator.lastOutputSequence = UInt16.ofInt s.unwrapper.highestExt

def InStep (s : ForwardState) : Prop := s = zero ∨ s.Linked

end ForwardState

theorem Pacer.prepareForwardItem_eq (p : Pacer) (item : PacedPacket) :
    let x := ForwardState.prepareForwardItem ⟨p.worker.translator, p.worker.unwrapper⟩
      ⟨p.ownedPackets.packet item.owned, item.source, item.enqueuedAt⟩
    (p.prepareForwardItem item).2 = { item with extSeq := x.extSeq } ∧
      (p.prepareForwardItem item).1 = { p with
        ownedPackets := p.ownedPackets.write item.owned x.packet
        worker := { p.worker with translator := x.after.translator, unwrapper := x.after.unwrapper } } :=
  ⟨rfl, rfl⟩

namespace SequenceUnwrapper

variable {u : SequenceUnwrapper}

theorem unwrap_next (used : u.initialized = true) (seq : UInt16) :
    u.unwrap seq =
      (⟨true, max u.highestExt (u.highestExt + seq.ahead (UInt16.ofInt u.highestExt))⟩,
        u.highestExt + seq.ahead (UInt16.ofInt u.highestExt)) := by
  obtain ⟨initialized, highestExt⟩ := u
  cases used
  change (if highestExt < highestExt + seq.ahead (UInt16.ofInt highestExt) then _ else _, _) = _
  split_ifs with above
  · rw [max_eq_right above.le]
    rfl
  · rw [max_eq_left (not_lt.mp above)]
    rfl

end SequenceUnwrapper

namespace RtpForwardTranslator

theorem follow_keeps (t : RtpForwardTranslator) (pkt : RtpPacket) (arrival : Time) :
    (t.follow pkt arrival).1.initialized = t.initialized ∧ (t.follow pkt arrival).1.source = t.source ∧
      (t.follow pkt arrival).1.sequenceOffset = t.sequenceOffset ∧
      (t.follow pkt arrival).1.timestampOffset = t.timestampOffset := by
  unfold follow
  dsimp only
  split_ifs <;> exact ⟨rfl, rfl, rfl, rfl⟩

theorem follow_numbers (t : RtpForwardTranslator) (pkt : RtpPacket) (arrival : Time) :
    (t.follow pkt arrival).2.sequenceNumber = pkt.sequenceNumber + t.sequenceOffset ∧
      (t.follow pkt arrival).2.timestamp = pkt.timestamp + t.timestampOffset := by
  unfold follow
  dsimp only
  split_ifs <;> exact ⟨rfl, rfl⟩

end RtpForwardTranslator

namespace ForwardState

variable {s : ForwardState} {c : TranslateCall}

structure Placed (x : Forwarded) : Prop where
  linked : x.after.Linked
  number : UInt16.ofInt x.extSeq = x.packet.sequenceNumber
  source : x.after.translator.source = x.call.source
  sequence : x.packet.sequenceNumber = x.call.packet.sequenceNumber + x.after.translator.sequenceOffset
  timestamp : x.packet.timestamp = x.call.packet.timestamp + x.after.translator.timestampOffset

theorem placed_start (c : TranslateCall) : Placed (zero.prepareForwardItem c) where
  linked := by
    refine ⟨rfl, rfl, add_zero _, ?_⟩
    exact (UInt16.ofInt_toNat _).symm
  number := UInt16.ofInt_toNat _
  source := rfl
  sequence := (add_zero _).symm
  timestamp := (add_zero _).symm

theorem unwrapped (linked : s.Linked) (c : TranslateCall) :
    (s.prepareForwardItem c).extSeq = s.unwrapper.highestExt +
        (s.prepareForwardItem c).packet.sequenceNumber.ahead (UInt16.ofInt s.unwrapper.highestExt) ∧
      (s.prepareForwardItem c).after.unwrapper =
        ⟨true, max s.unwrapper.highestExt (s.prepareForwardItem c).extSeq⟩ := by
  simp only [prepareForwardItem, SequenceUnwrapper.unwrap_next linked.unwrapping, and_self]

theorem ofInt_extSeq (linked : s.Linked) (c : TranslateCall) :
    UInt16.ofInt (s.prepareForwardItem c).extSeq = (s.prepareForwardItem c).packet.sequenceNumber := by
  rw [(unwrapped linked c).1, UInt16.ofInt_add, UInt16.ofInt_ahead, add_sub_cancel]

theorem placed_rebase (linked : s.Linked) (other : c.source ≠ s.translator.source) :
    Placed (s.prepareForwardItem c) ∧ (s.prepareForwardItem c).extSeq = s.unwrapper.highestExt + 1 := by
  obtain ⟨ext, highest⟩ := unwrapped linked c
  have number := ofInt_extSeq linked c
  have translated : (s.prepareForwardItem c).after.translator = (s.translator.rebase c.packet c.source c.arrival).1 ∧
      (s.prepareForwardItem c).packet = (s.translator.rebase c.packet c.source c.arrival).2 := by
    rw [prepareForwardItem, RtpForwardTranslator.translateAt_rebase linked.translating c.packet other]
    exact ⟨rfl, rfl⟩
  have next : (s.prepareForwardItem c).packet.sequenceNumber = s.translator.lastOutputSequence + 1 := by
    rw [translated.2]
    exact (s.translator.rebase_numbers c.packet c.source c.arrival).1
  have one : (s.prepareForwardItem c).extSeq = s.unwrapper.highestExt + 1 := by
    rw [ext, next, ← linked.frontier, UInt16.ahead, add_sub_cancel_left]
    rfl
  refine ⟨⟨⟨?_, ?_, ?_, ?_⟩, number, ?_, ?_, ?_⟩, one⟩
  · rw [translated.1]
    exact linked.translating
  · rw [highest]
  · rw [translated.1]
    exact sub_add_cancel _ _
  · rw [highest, max_eq_right (by omega), number, translated.1, translated.2]
    rfl
  · rw [translated.1]
    rfl
  · rw [translated.1, translated.2]
    rfl
  · rw [translated.1, translated.2]
    rfl

theorem placed_follow (linked : s.Linked) (same : c.source = s.translator.source) :
    Placed (s.prepareForwardItem c) ∧
      (s.prepareForwardItem c).after.translator.sequenceOffset = s.translator.sequenceOffset ∧
      (s.prepareForwardItem c).after.translator.timestampOffset = s.translator.timestampOffset := by
  obtain ⟨pkt, source, arrival⟩ := c
  obtain rfl : source = s.translator.source := same
  obtain ⟨ext, highest⟩ := unwrapped linked ⟨pkt, s.translator.source, arrival⟩
  have number := ofInt_extSeq linked ⟨pkt, s.translator.source, arrival⟩
  have translated : (s.prepareForwardItem ⟨pkt, s.translator.source, arrival⟩).after.translator =
        (s.translator.follow pkt arrival).1 ∧
      (s.prepareForwardItem ⟨pkt, s.translator.source, arrival⟩).packet = (s.translator.follow pkt arrival).2 := by
    rw [prepareForwardItem, RtpForwardTranslator.translateAt_follow linked.translating]
    exact ⟨rfl, rfl⟩
  generalize item : s.prepareForwardItem ⟨pkt, s.translator.source, arrival⟩ = x at ext highest number translated ⊢
  have call : x.call.packet = pkt ∧ x.call.source = s.translator.source := by
    rw [← item]
    exact ⟨rfl, rfl⟩
  obtain ⟨initialized, source, sequenceOffset, timestampOffset⟩ := s.translator.follow_keeps pkt arrival
  have sent : x.packet.sequenceNumber = pkt.sequenceNumber + s.translator.sequenceOffset ∧
      x.packet.timestamp = pkt.timestamp + s.translator.timestampOffset := by
    rw [translated.2]
    exact s.translator.follow_numbers pkt arrival
  have distance : x.extSeq = s.unwrapper.highestExt + pkt.sequenceNumber.ahead s.translator.lastInputSequence := by
    rw [ext, sent.1, ← linked.frontier, ← linked.offset, UInt16.ahead, add_sub_add_right_eq_sub]
    rfl
  have frontier : x.after.translator.lastInputSequence + s.translator.sequenceOffset =
      x.after.translator.lastOutputSequence ∧
      x.after.translator.lastOutputSequence = UInt16.ofInt x.after.unwrapper.highestExt := by
    rw [translated.1, highest, RtpForwardTranslator.follow]
    by_cases ahead : 0 < pkt.sequenceNumber.ahead s.translator.lastInputSequence
    · rw [if_pos (UInt16.pos_iff_ahead.mpr ahead), max_eq_right (by omega), number, sent.1]
      exact ⟨rfl, rfl⟩
    · rw [if_neg (fun positive => ahead (UInt16.pos_iff_ahead.mp positive)), max_eq_left (by omega)]
      exact ⟨linked.offset, linked.frontier⟩
  rw [← translated.1] at initialized source sequenceOffset timestampOffset
  refine ⟨⟨⟨?_, ?_, ?_, frontier.2⟩, number, ?_, ?_, ?_⟩, sequenceOffset, timestampOffset⟩
  · rw [initialized, linked.translating]
  · rw [highest]
  · rw [sequenceOffset, frontier.1]
  · rw [source, call.2]
  · rw [sent.1, call.1, sequenceOffset]
  · rw [sent.2, call.1, timestampOffset]

theorem InStep.placed (inStep : s.InStep) (c : TranslateCall) : Placed (s.prepareForwardItem c) := by
  rcases inStep with rfl | linked
  · exact placed_start c
  · by_cases same : c.source = s.translator.source
    · exact (placed_follow linked same).1
    · exact (placed_rebase linked same).1

theorem InStep.next (inStep : s.InStep) (c : TranslateCall) : (s.prepareForwardItem c).after.InStep :=
  .inr (inStep.placed c).linked

variable {x : Forwarded} {calls : List TranslateCall}

theorem placed_of_mem (inStep : s.InStep) (member : x ∈ s.prepareAll calls) : Placed x := by
  induction calls generalizing s with
  | nil => exact absurd member List.not_mem_nil
  | cons c calls ih =>
    rcases List.mem_cons.mp member with rfl | later
    · exact inStep.placed c
    · exact ih (inStep.next c) later

theorem prepareAll_split (inStep : s.InStep) {before rest : List Forwarded}
    (split : s.prepareAll calls = before ++ rest) : ∃ t later, InStep t ∧ rest = t.prepareAll later := by
  induction before generalizing s calls with
  | nil => exact ⟨s, calls, inStep, split.symm⟩
  | cons x before ih =>
    cases calls with
    | nil => exact absurd split (by simp [prepareAll])
    | cons c calls => exact ih (inStep.next c) (List.cons.inj split).2

variable {after run : List Forwarded}

theorem offsets_kept (linked : s.Linked) (split : s.prepareAll calls = run ++ after)
    (same : ∀ x ∈ run, x.call.source = s.translator.source) :
    ∀ x ∈ run, x.after.translator.sequenceOffset = s.translator.sequenceOffset ∧
      x.after.translator.timestampOffset = s.translator.timestampOffset := by
  induction run generalizing s calls with
  | nil => exact fun _ member => absurd member List.not_mem_nil
  | cons y run ih =>
    cases calls with
    | nil => exact absurd split (by simp [prepareAll])
    | cons c calls =>
      obtain ⟨here, rest⟩ := List.cons.inj split
      subst here
      have first := same _ List.mem_cons_self
      obtain ⟨placed, kept⟩ := placed_follow linked first
      have source : (s.prepareForwardItem c).after.translator.source = s.translator.source := placed.source.trans first
      intro x member
      rcases List.mem_cons.mp member with rfl | later
      · exact kept
      · have same' : ∀ z ∈ run, z.call.source = (s.prepareForwardItem c).after.translator.source := by
          intro z inside
          rw [source]
          exact same z (List.mem_cons_of_mem _ inside)
        obtain ⟨sequence, timestamp⟩ := ih placed.linked rest same' x later
        exact ⟨sequence.trans kept.1, timestamp.trans kept.2⟩

theorem differences_kept (inStep : s.InStep) (split : s.prepareAll calls = run ++ after)
    (same : ∀ x ∈ run, ∀ y ∈ run, x.call.source = y.call.source) {y : Forwarded} (hx : x ∈ run) (hy : y ∈ run) :
    x.packet.sequenceNumber - y.packet.sequenceNumber =
        x.call.packet.sequenceNumber - y.call.packet.sequenceNumber ∧
      x.packet.timestamp - y.packet.timestamp = x.call.packet.timestamp - y.call.packet.timestamp := by
  cases run with
  | nil => exact absurd hx List.not_mem_nil
  | cons first run =>
    cases calls with
    | nil => exact absurd split (by simp [prepareAll])
    | cons c calls =>
      obtain ⟨here, rest⟩ := List.cons.inj split
      subst here
      have placed := inStep.placed c
      have same' : ∀ z ∈ run, z.call.source = (s.prepareForwardItem c).after.translator.source := by
        intro z inside
        rw [placed.source]
        exact same z (List.mem_cons_of_mem _ inside) _ List.mem_cons_self
      have moved : ∀ z ∈ s.prepareForwardItem c :: run,
          z.packet.sequenceNumber = z.call.packet.sequenceNumber +
              (s.prepareForwardItem c).after.translator.sequenceOffset ∧
            z.packet.timestamp = z.call.packet.timestamp +
              (s.prepareForwardItem c).after.translator.timestampOffset := by
        intro z member
        rcases List.mem_cons.mp member with rfl | later
        · exact ⟨placed.sequence, placed.timestamp⟩
        · obtain ⟨sequence, timestamp⟩ := offsets_kept placed.linked rest same' z later
          have inside : z ∈ (s.prepareForwardItem c).after.prepareAll calls := by
            rw [rest]
            exact List.mem_append_left _ later
          have own := placed_of_mem (inStep.next c) inside
          exact ⟨by rw [own.sequence, sequence], by rw [own.timestamp, timestamp]⟩
      rw [(moved x hx).1, (moved x hx).2, (moved y hy).1, (moved y hy).2]
      exact ⟨add_sub_add_right_eq_sub _ _ _, add_sub_add_right_eq_sub _ _ _⟩

end ForwardState

end Relay
