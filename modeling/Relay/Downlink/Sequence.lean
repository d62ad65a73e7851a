import Relay.Downlink.Forwarder
import Relay.Lib.Serial
import Mathlib.Data.List.Nodup
import Mathlib.Tactic.Abel

/-! The sequence numbers a subscriber sees. The inputs alone say how far the output has
advanced: every switch of the source takes the next number, and a source that goes on
keeps its distances. -/
namespace Relay

abbrev SourceNumber : Type := SourceIdentity × UInt16

structure TranslateCall where
  packet : RtpPacket
  source : SourceIdentity
  arrival : Time

def TranslateCall.number (c : TranslateCall) : SourceNumber := (c.source, c.packet.sequenceNumber)

def RtpForwardTranslator.outputs (t : RtpForwardTranslator) : List TranslateCall → List UInt16
  | [] => []
  | c :: calls =>
    let r := t.translateAt c.packet c.source c.arrival
    r.2.1.sequenceNumber :: r.1.outputs calls

/-- How far a list of calls has come: the current source, its furthest number, the distance
of that number from the packet on which the source was taken up, and the whole advance. -/
structure Course where
  source : SourceIdentity
  highest : UInt16
  span : Nat
  switched : Bool
  total : Nat

namespace Course

def start (k : SourceNumber) : Course := ⟨k.1, k.2, 0, false, 0⟩

def position (c : Course) (k : SourceNumber) : Int :=
  if k.1 = c.source then c.total + k.2.ahead c.highest else c.total + 1

def next (c : Course) (k : SourceNumber) : Course :=
  if k.1 = c.source then
    if 0 < k.2.ahead c.highest then
      let step := (k.2.ahead c.highest).toNat
      { c with highest := k.2, span := c.span + step, total := c.total + step }
    else c
  else ⟨k.1, k.2, 0, true, c.total + 1⟩

/-- The packet is not behind the one on which its source was switched to. -/
def Behaves (c : Course) (k : SourceNumber) : Prop :=
  k.1 = c.source → c.switched = true → 0 ≤ c.span + k.2.ahead c.highest

instance (c : Course) (k : SourceNumber) : Decidable (c.Behaves k) :=
  inferInstanceAs (Decidable (_ → _ → _))

def Steady (c : Course) : List SourceNumber → Prop
  | [] => True
  | k :: ks => c.Behaves k ∧ (c.next k).total < 2 ^ 15 ∧ (c.next k).Steady ks

instance decidableSteady : (c : Course) → (ks : List SourceNumber) → Decidable (c.Steady ks)
  | _, [] => .isTrue trivial
  | c, k :: ks =>
    have := decidableSteady (c.next k) ks
    inferInstanceAs (Decidable (_ ∧ _ ∧ _))

def positions (c : Course) : List SourceNumber → List Int
  | [] => []
  | k :: ks => c.position k :: (c.next k).positions ks

end Course

/-- After a switch no packet of the new source is behind the packet of the switch, and the
numbers advance by less than half a round. -/
def Steady : List SourceNumber → Prop
  | [] => True
  | k :: ks => (Course.start k).Steady ks

instance : (ks : List SourceNumber) → Decidable (Steady ks)
  | [] => .isTrue trivial
  | k :: ks => Course.decidableSteady (.start k) ks

structure Agrees (first : UInt16) (t : RtpForwardTranslator) (c : Course) : Prop where
  initialized : t.initialized = true
  source : t.source = c.source
  input : t.lastInputSequence = c.highest
  output : t.lastOutputSequence = UInt16.ofInt (first.toNat + c.total)
  offset : t.lastInputSequence + t.sequenceOffset = t.lastOutputSequence

namespace Agrees

variable {first : UInt16} {t : RtpForwardTranslator} {c : Course}

theorem start (pkt : RtpPacket) (source : SourceIdentity) (arrival : Time) :
    Agrees pkt.sequenceNumber (RtpForwardTranslator.zero.translateAt pkt source arrival).1
      (.start (source, pkt.sequenceNumber)) where
  initialized := rfl
  source := rfl
  input := rfl
  output := by
    rw [Course.start, Nat.cast_zero, add_zero, UInt16.ofInt_toNat]
    rfl
  offset := add_zero _

theorem follow (agrees : Agrees first t c) (pkt : RtpPacket) (arrival : Time) :
    Agrees first (t.follow pkt arrival).1 (c.next (c.source, pkt.sequenceNumber)) ∧
      (t.follow pkt arrival).2.sequenceNumber =
        UInt16.ofInt (first.toNat + c.position (c.source, pkt.sequenceNumber)) := by
  have out : pkt.sequenceNumber + t.sequenceOffset =
      UInt16.ofInt (first.toNat + (c.total + pkt.sequenceNumber.ahead c.highest)) := by
    rw [← add_assoc, UInt16.ofInt_add, ← agrees.output, UInt16.ofInt_ahead, ← agrees.offset, agrees.input]
    abel
  have position : c.position (c.source, pkt.sequenceNumber) =
      c.total + pkt.sequenceNumber.ahead c.highest := if_pos rfl
  unfold RtpForwardTranslator.follow
  rw [agrees.input]
  by_cases ahead : 0 < pkt.sequenceNumber.ahead c.highest
  · rw [if_pos (UInt16.pos_iff_ahead.mpr ahead), position]
    refine ⟨?_, out⟩
    have moved : c.next (c.source, pkt.sequenceNumber) =
        { c with
          highest := pkt.sequenceNumber
          span := c.span + (pkt.sequenceNumber.ahead c.highest).toNat
          total := c.total + (pkt.sequenceNumber.ahead c.highest).toNat } := by
      rw [Course.next, if_pos rfl, if_pos ahead]
    rw [moved]
    refine ⟨agrees.initialized, agrees.source, rfl, ?_, rfl⟩
    rw [out, Nat.cast_add, Int.toNat_of_nonneg ahead.le]
  · have same : c.next (c.source, pkt.sequenceNumber) = c := by
      rw [Course.next, if_pos rfl, if_neg ahead]
    rw [if_neg (fun positive => ahead (UInt16.pos_iff_ahead.mp positive)), position, same]
    exact ⟨agrees, out⟩

theorem rebase (agrees : Agrees first t c) (pkt : RtpPacket) {source : SourceIdentity} (arrival : Time)
    (other : source ≠ c.source) :
    Agrees first (t.rebase pkt source arrival).1 (c.next (source, pkt.sequenceNumber)) ∧
      (t.rebase pkt source arrival).2.sequenceNumber =
        UInt16.ofInt (first.toNat + c.position (source, pkt.sequenceNumber)) := by
  have out : pkt.sequenceNumber + (t.lastOutputSequence + 1 - pkt.sequenceNumber) =
      UInt16.ofInt (first.toNat + (c.total + 1)) := by
    rw [← add_assoc, UInt16.ofInt_add, ← agrees.output, add_sub_cancel]
    rfl
  have position : c.position (source, pkt.sequenceNumber) = c.total + 1 := if_neg other
  have moved : c.next (source, pkt.sequenceNumber) = ⟨source, pkt.sequenceNumber, 0, true, c.total + 1⟩ :=
    if_neg other
  rw [position, moved]
  refine ⟨⟨agrees.initialized, rfl, ?_, ?_, ?_⟩, out⟩
  · exact add_sub_cancel_right _ _
  · exact out
  · exact sub_add_cancel _ _

theorem translate (agrees : Agrees first t c) (call : TranslateCall) :
    Agrees first (t.translateAt call.packet call.source call.arrival).1 (c.next call.number) ∧
      (t.translateAt call.packet call.source call.arrival).2.1.sequenceNumber =
        UInt16.ofInt (first.toNat + c.position call.number) := by
  unfold RtpForwardTranslator.translateAt
  rw [agrees.initialized]
  by_cases same : call.source = c.source
  · have number : call.number = (c.source, call.packet.sequenceNumber) := by rw [← same]; rfl
    rw [number]
    simpa [agrees.source, same] using agrees.follow call.packet call.arrival
  · have number : call.number = (call.source, call.packet.sequenceNumber) := rfl
    rw [number]
    simpa [agrees.source, same] using agrees.rebase call.packet call.arrival same

theorem outputs (agrees : Agrees first t c) (calls : List TranslateCall) :
    t.outputs calls =
      (c.positions (calls.map TranslateCall.number)).map fun n => UInt16.ofInt (first.toNat + n) := by
  induction calls generalizing t c with
  | nil => rfl
  | cons call calls ih =>
    obtain ⟨next, out⟩ := agrees.translate call
    simp only [RtpForwardTranslator.outputs, List.map_cons, Course.positions, out, ih next]

end Agrees

/-- Every packet seen is in the course, and below the packet of the last switch unless it
belongs to the current source with the current offset. -/
structure Course.Tracks (c : Course) (seen : SourceNumber → Int → Prop) : Prop where
  low : ∀ k n, seen k n → -2 ^ 15 ≤ n
  high : ∀ k n, seen k n → n ≤ c.total
  placed : ∀ k n, seen k n → (c.switched = true ∧ n < c.total - c.span) ∨
    (k.1 = c.source ∧ k.2 = c.highest + UInt16.ofInt (n - c.total))

namespace Course

variable {c : Course} {k : SourceNumber} {seen : SourceNumber → Int → Prop}

theorem position_new (tracks : c.Tracks seen) (behaves : c.Behaves k) (fresh : ∀ n, ¬ seen k n) {k' : SourceNumber}
    {n : Int} (old : seen k' n) : n ≠ c.position k := by
  intro same
  have high := tracks.high k' n old
  unfold position at same
  split_ifs at same with source
  · rcases tracks.placed k' n old with ⟨switched, before⟩ | ⟨source', number⟩
    · have late := behaves source switched
      omega
    · -- the same source and the same offset: the number was seen
      have number' : k'.2 = k.2 := by
        rw [number, same, add_sub_cancel_left, UInt16.ofInt_ahead, add_sub_cancel]
      have equal : k' = k := Prod.ext (source'.trans source.symm) number'
      exact fresh n (equal ▸ old)
  · omega

theorem total_le_next (c : Course) (k : SourceNumber) : c.total ≤ (c.next k).total := by
  unfold next
  split_ifs
  · exact Nat.le_add_right _ _
  · exact le_rfl
  · exact Nat.le_succ _

theorem position_le_next (c : Course) (k : SourceNumber) : c.position k ≤ (c.next k).total := by
  unfold next position
  split_ifs with source ahead
  · simp only
    omega
  · omega
  · exact le_rfl

theorem le_position (c : Course) (k : SourceNumber) : -2 ^ 15 ≤ c.position k := by
  have low := UInt16.le_ahead k.2 c.highest
  unfold position
  split_ifs
  · omega
  · omega

theorem placed_next (tracks : c.Tracks seen) {k' : SourceNumber} {n : Int} (old : seen k' n) :
    ((c.next k).switched = true ∧ n < (c.next k).total - (c.next k).span) ∨
      (k'.1 = (c.next k).source ∧
        k'.2 = (c.next k).highest + UInt16.ofInt (n - (c.next k).total)) := by
  have high := tracks.high k' n old
  unfold next
  split_ifs with source ahead
  · rcases tracks.placed k' n old with ⟨switched, before⟩ | ⟨source', number⟩
    · left
      refine ⟨switched, ?_⟩
      simp only
      omega
    · right
      refine ⟨source', ?_⟩
      have step : ((k.2.ahead c.highest).toNat : Int) = k.2.ahead c.highest := Int.toNat_of_nonneg ahead.le
      have back : n - ((c.total + (k.2.ahead c.highest).toNat : Nat) : Int) + k.2.ahead c.highest = n - c.total := by
        omega
      rw [number, ← back, UInt16.ofInt_add, UInt16.ofInt_ahead]
      abel
  · exact tracks.placed k' n old
  · left
    refine ⟨rfl, ?_⟩
    simp only
    omega

theorem placed_self (c : Course) (k : SourceNumber) :
    k.1 = (c.next k).source ∧
      k.2 = (c.next k).highest + UInt16.ofInt (c.position k - (c.next k).total) := by
  unfold next position
  split_ifs with source ahead
  · refine ⟨source, ?_⟩
    have step : ((k.2.ahead c.highest).toNat : Int) = k.2.ahead c.highest := Int.toNat_of_nonneg ahead.le
    have zero : (c.total : Int) + k.2.ahead c.highest - ((c.total + (k.2.ahead c.highest).toNat : Nat) : Int) = 0 := by
      omega
    rw [zero]
    exact (add_zero _).symm
  · refine ⟨source, ?_⟩
    rw [add_sub_cancel_left, UInt16.ofInt_ahead, add_sub_cancel]
  · refine ⟨rfl, ?_⟩
    rw [Nat.cast_add, Nat.cast_one, sub_self]
    exact (add_zero _).symm

theorem tracks_next (tracks : c.Tracks seen) :
    (c.next k).Tracks fun k' n => seen k' n ∨ (k' = k ∧ n = c.position k) where
  low := by
    rintro k' n (old | ⟨rfl, rfl⟩)
    · exact tracks.low k' n old
    · exact le_position c _
  high := by
    rintro k' n (old | ⟨rfl, rfl⟩)
    · exact (tracks.high k' n old).trans (Int.ofNat_le.mpr (total_le_next c k))
    · exact position_le_next c _
  placed := by
    rintro k' n (old | ⟨rfl, rfl⟩)
    · exact placed_next tracks old
    · exact .inr (placed_self c _)

theorem positions_distinct (tracks : c.Tracks seen) {ks : List SourceNumber} (steady : c.Steady ks)
    (once : ks.Nodup) (fresh : ∀ k ∈ ks, ∀ n, ¬ seen k n) :
    (c.positions ks).Nodup ∧
      ∀ n ∈ c.positions ks, (∀ k, ¬ seen k n) ∧ -2 ^ 15 ≤ n ∧ n < 2 ^ 15 := by
  induction ks generalizing c seen with
  | nil => exact ⟨List.nodup_nil, nofun⟩
  | cons k ks ih =>
    obtain ⟨behaves, small, rest⟩ := steady
    obtain ⟨absent, once⟩ := List.nodup_cons.mp once
    have fresh' : ∀ k' ∈ ks, ∀ n, ¬ (seen k' n ∨ (k' = k ∧ n = c.position k)) := by
      rintro k' member n (old | ⟨rfl, _⟩)
      · exact fresh k' (List.mem_cons_of_mem _ member) n old
      · exact absent member
    obtain ⟨distinct, others⟩ := ih (tracks_next tracks) rest once fresh'
    have new := fun k' n (old : seen k' n) =>
      position_new tracks behaves (fresh k List.mem_cons_self) old
    constructor
    · apply List.nodup_cons.mpr
      refine ⟨fun again => ?_, distinct⟩
      exact (others _ again).1 k (.inr ⟨rfl, rfl⟩)
    · intro n member
      rcases List.mem_cons.mp member with rfl | later
      · refine ⟨fun k' old => new k' _ old rfl, le_position c k, ?_⟩
        have high := position_le_next c k
        omega
      · obtain ⟨unseen, range⟩ := others n later
        exact ⟨fun k' old => unseen k' (.inl old), range⟩

end Course

theorem ofInt_nodup {l : List Int} (first : Int) (distinct : l.Nodup)
    (range : ∀ n ∈ l, -2 ^ 15 ≤ n ∧ n < 2 ^ 15) : (l.map fun n => UInt16.ofInt (first + n)).Nodup := by
  apply distinct.map_on
  intro m hm n hn same
  obtain ⟨low, high⟩ := range m hm
  obtain ⟨low', high'⟩ := range n hn
  have equal := UInt16.eq_of_ofInt_eq same (by omega) (by omega)
  omega

theorem Course.tracks_start (k : SourceNumber) : (Course.start k).Tracks fun k' n => k' = k ∧ n = 0 where
  low := by
    rintro k' n ⟨_, rfl⟩
    decide
  high := by
    rintro k' n ⟨_, rfl⟩
    exact le_rfl
  placed := by
    rintro k' n ⟨rfl, rfl⟩
    exact .inr ⟨rfl, (add_zero _).symm⟩

/-- In a steady list of calls in which no source repeats a number, no two packets are given
the same number. -/
theorem translated_numbers_distinct {calls : List TranslateCall}
    (once : (calls.map TranslateCall.number).Nodup) (steady : Steady (calls.map TranslateCall.number)) :
    (RtpForwardTranslator.zero.outputs calls).Nodup := by
  cases calls with
  | nil => exact List.nodup_nil
  | cons call calls =>
    obtain ⟨absent, once⟩ := List.nodup_cons.mp once
    have fresh : ∀ k ∈ calls.map TranslateCall.number, ∀ n, ¬ (k = call.number ∧ n = (0 : Int)) := by
      rintro k member n ⟨rfl, _⟩
      exact absent member
    obtain ⟨distinct, others⟩ :=
      Course.positions_distinct (Course.tracks_start call.number) steady once fresh
    -- the first packet is at place zero
    have all : RtpForwardTranslator.zero.outputs (call :: calls) =
        (0 :: (Course.start call.number).positions (calls.map TranslateCall.number)).map fun n =>
          UInt16.ofInt (call.packet.sequenceNumber.toNat + n) := by
      rw [List.map_cons, add_zero, UInt16.ofInt_toNat]
      exact congrArg (_ :: ·) ((Agrees.start call.packet call.source call.arrival).outputs calls)
    rw [all]
    apply ofInt_nodup
    · exact List.nodup_cons.mpr ⟨fun again => (others 0 again).1 call.number ⟨rfl, rfl⟩, distinct⟩
    · intro n member
      rcases List.mem_cons.mp member with rfl | later
      · decide
      · exact (others n later).2

/-- The numbers of one source: some order of consecutive numbers in which every packet is at
most `k` places from its own. -/
def NearOrder (k : Nat) (numbers : List UInt16) : Prop :=
  ∃ (base : UInt16) (order : List Nat), order.Perm (List.range numbers.length) ∧
    numbers = order.map (fun n => base + UInt16.ofNat n) ∧
    ∀ i < order.length, ∀ n ∈ order[i]?, n ≤ i + k ∧ i ≤ n + k

namespace Plain

def translateCall (bus : String) (sequenceNumber : UInt16) : TranslateCall :=
  ⟨{ RtpPacket.zero with sequenceNumber := sequenceNumber }, ⟨bus, 1, 7⟩, 0⟩

def steadyCalls : List TranslateCall :=
  [translateCall "voice" 10, translateCall "voice" 12, translateCall "voice" 11,
    translateCall "music" 100, translateCall "music" 101, translateCall "voice" 13]

def lateCalls : List TranslateCall :=
  [translateCall "voice" 10, translateCall "music" 100, translateCall "music" 99]

end Plain

open Plain in
theorem translated_numbers_distinct_mix :
    RtpForwardTranslator.zero.outputs steadyCalls = [10, 12, 11, 13, 14, 15] ∧
      (RtpForwardTranslator.zero.outputs steadyCalls).Nodup :=
  ⟨by decide, translated_numbers_distinct (by decide) (by decide)⟩

open Plain in
/-- The late packet is given the number of the first. -/
theorem translated_number_repeated :
    lateCalls.length < 2 ^ 15 ∧ (lateCalls.map TranslateCall.number).Nodup ∧
      (∀ source, NearOrder 32 ((lateCalls.filter fun c => c.source = source).map fun c => c.packet.sequenceNumber)) ∧
      RtpForwardTranslator.zero.outputs lateCalls = [10, 11, 10] := by
  refine ⟨by decide, by decide, ?_, by decide⟩
  intro source
  by_cases voice : (⟨"voice", 1, 7⟩ : SourceIdentity) = source
  · subst voice
    exact ⟨10, [0], by decide, by decide, by decide⟩
  · by_cases music : (⟨"music", 1, 7⟩ : SourceIdentity) = source
    · subst music
      exact ⟨99, [1, 0], by decide, by decide, by decide⟩
    · have none : (lateCalls.filter fun c => c.source = source) = [] := by
        simp [lateCalls, translateCall, voice, music]
      rw [none]
      exact ⟨0, [], List.Perm.refl _, rfl, nofun⟩

end Relay
