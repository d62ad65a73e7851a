import Relay.ClockLineage.Timeline
import Relay.Downlink.Frontier
import Mathlib.Algebra.Order.SuccPred.PartialSups
import Mathlib.Data.Nat.SuccPred

/-! The index behind a 16-bit number. The unwrapper finds it again as long as every index is
less than half the range away from the furthest one before it, and as long as it fits the
signed 64-bit word that the unwrapper counts in. -/
namespace Relay

namespace SequenceUnwrapper

/-- `unwrap` in machine words: the sum is a signed 64-bit one. -/
def unwrapInt64 (u : SequenceUnwrapper) (seq : UInt16) : SequenceUnwrapper × Int :=
  if !u.initialized then (⟨true, seq.toNat⟩, seq.toNat)
  else
    let ext := (u.highestExt + (seq - UInt16.ofInt u.highestExt).toInt16.toInt).bmod (2 ^ 64)
    (if u.highestExt < ext then { u with highestExt := ext } else u, ext)

variable {u : SequenceUnwrapper}

theorem unwrapInt64_eq_unwrap {seq : UInt16} (fits : FitsInt64 (u.unwrap seq).2) :
    u.unwrapInt64 seq = u.unwrap seq := by
  unfold unwrapInt64 unwrap
  unfold unwrap at fits
  split_ifs at fits ⊢ with fresh
  · rfl
  · dsimp only at fits ⊢
    rw [bmod_of_fits fits]

theorem unwrapInt64_next (used : u.initialized = true) (seq : UInt16) :
    (u.unwrapInt64 seq).2 = (u.highestExt + seq.ahead (UInt16.ofInt u.highestExt)).bmod (2 ^ 64) := by
  unfold unwrapInt64
  rw [used]
  rfl

theorem unwrapInt64_near (used : u.initialized = true) {x : Int} (low : -2 ^ 15 ≤ x - u.highestExt)
    (high : x - u.highestExt < 2 ^ 15) (fits : FitsInt64 x) :
    u.unwrapInt64 (UInt16.ofInt x) = (⟨true, max u.highestExt x⟩, x) := by
  have found : u.unwrap (UInt16.ofInt x) = (⟨true, max u.highestExt x⟩, x) := by
    rw [unwrap_next used, UInt16.ahead_ofInt low high, add_sub_cancel]
  rw [unwrapInt64_eq_unwrap (by rwa [found]), found]

theorem unwrapInt64_zero {x : Int} (low : 0 ≤ x) (high : x < 2 ^ 16) :
    zero.unwrapInt64 (UInt16.ofInt x) = (⟨true, x⟩, x) := by
  have value : ((UInt16.ofInt x).toNat : Int) = x := by
    rw [UInt16.toNat_ofInt]
    omega
  change (SequenceUnwrapper.mk true ((UInt16.ofInt x).toNat : Int), ((UInt16.ofInt x).toNat : Int)) = _
  rw [value]

def fed (x : Nat → Int) : Nat → SequenceUnwrapper
  | 0 => zero
  | i + 1 => ((fed x i).unwrapInt64 (UInt16.ofInt (x i))).1

def returned (x : Nat → Int) (i : Nat) : Int := ((fed x i).unwrapInt64 (UInt16.ofInt (x i))).2

/-- The indices of a stream: the first is its number, and each later one is less than half the
range away from the furthest before it. -/
structure Stream (x : Nat → Int) : Prop where
  start : 0 ≤ x 0 ∧ x 0 < 2 ^ 16
  near : ∀ i, -2 ^ 15 ≤ x (i + 1) - partialSups x i ∧ x (i + 1) - partialSups x i < 2 ^ 15

variable {x : Nat → Int} {i : Nat}

namespace Stream

theorem frontier_nonneg (stream : Stream x) (i : Nat) : 0 ≤ partialSups x i :=
  le_trans stream.start.1 (le_partialSups_of_le x (Nat.zero_le i))

theorem fits (stream : Stream x) (below : x i < 2 ^ 63) : FitsInt64 (x i) := by
  refine ⟨?_, below⟩
  cases i with
  | zero => exact le_trans (by decide) stream.start.1
  | succ i =>
    have near := (stream.near i).1
    have frontier := stream.frontier_nonneg i
    omega

theorem follows (stream : Stream x) (below : ∀ j ≤ i, x j < 2 ^ 63) :
    (fed x i).unwrapInt64 (UInt16.ofInt (x i)) = (⟨true, partialSups x i⟩, x i) := by
  induction i with
  | zero =>
    rw [partialSups_zero]
    exact unwrapInt64_zero stream.start.1 stream.start.2
  | succ i ih =>
    have before : fed x (i + 1) = ⟨true, partialSups x i⟩ :=
      congrArg Prod.fst (ih fun j past => below j (Nat.le_succ_of_le past))
    rw [before, partialSups_add_one]
    exact unwrapInt64_near rfl (stream.near i).1 (stream.near i).2 (stream.fits (below (i + 1) le_rfl))

theorem frontier (stream : Stream x) (below : ∀ j ≤ i, x j < 2 ^ 63) : fed x (i + 1) = ⟨true, partialSups x i⟩ :=
  congrArg Prod.fst (stream.follows below)

theorem frontier_lt (below : ∀ j ≤ i, x j < 2 ^ 63) : partialSups x i < 2 ^ 63 := by
  have most : partialSups x i ≤ 2 ^ 63 - 1 := partialSups_le x i _ fun j past => Int.le_sub_one_of_lt (below j past)
  omega

theorem overflows (stream : Stream x) (below : ∀ j ≤ i, x j < 2 ^ 63) (past : 2 ^ 63 ≤ x (i + 1)) :
    returned x (i + 1) = x (i + 1) - 2 ^ 64 := by
  have near := stream.near i
  have last := frontier_lt below
  have wrapped : FitsInt64 (x (i + 1) - (2 ^ 64 : Nat)) := by
    unfold FitsInt64
    omega
  unfold returned
  rw [stream.frontier below, unwrapInt64_next rfl, UInt16.ahead_ofInt near.1 near.2, add_sub_cancel,
    ← Int.sub_bmod_right, bmod_of_fits wrapped]
  rfl

end Stream

theorem returned_lt (x : Nat → Int) (i : Nat) : returned x i < 2 ^ 63 := by
  unfold returned unwrapInt64
  split_ifs with fresh
  · have bound := (UInt16.ofInt (x i)).toNat_lt
    dsimp only
    omega
  · exact Int.bmod_lt (by decide)

end SequenceUnwrapper

open SequenceUnwrapper

/-- Every index of a stream is returned, up to the first that does not fit a signed 64-bit
word: late and negative ones included, and through any number of wraps. -/
theorem unwrap_recovers_index {x : Nat → Int} (start : 0 ≤ x 0 ∧ x 0 < 2 ^ 16)
    (near : ∀ i, -2 ^ 15 ≤ x (i + 1) - partialSups x i ∧ x (i + 1) - partialSups x i < 2 ^ 15) (i : Nat) :
    (∀ j ≤ i, returned x j = x j) ↔ ∀ j ≤ i, x j < 2 ^ 63 := by
  have stream : Stream x := ⟨start, near⟩
  constructor
  · intro recovered j past
    rw [← recovered j past]
    exact returned_lt x j
  · intro below j past
    exact congrArg Prod.snd (stream.follows fun k sooner => below k (sooner.trans past))

def staggered (i : Nat) : Int := if i % 2 = 0 then 10000 * i else 10000 * i - 30000

theorem partialSups_staggered (i : Nat) : partialSups staggered i = 20000 * (i / 2 : Nat) := by
  induction i with
  | zero => rw [partialSups_zero]; rfl
  | succ i ih =>
    rw [partialSups_add_one, ih]
    unfold staggered
    split_ifs <;> omega

theorem unwrap_recovers_index_staggered :
    returned staggered 1 = -20000 ∧ returned staggered 7 = 40000 ∧ returned staggered 8 = 80000 := by
  have recovered := (unwrap_recovers_index (x := staggered) (by decide) (fun i => by
    rw [partialSups_staggered]
    unfold staggered
    split_ifs <;> omega) 8).mpr (by decide)
  exact ⟨recovered 1 (by decide), recovered 7 (by decide), recovered 8 (by decide)⟩

def strides (i : Nat) : Int := 32767 * i

theorem partialSups_strides : ⇑(partialSups strides) = strides := by
  apply Monotone.partialSups_eq
  intro i j sooner
  unfold strides
  omega

theorem stream_strides : Stream strides where
  start := by decide
  near i := by
    rw [partialSups_strides]
    unfold strides
    omega

/-- The sum passes the largest signed 64-bit word, and a negative index is returned. -/
theorem unwrap_index_overflows :
    (0 ≤ strides 0 ∧ strides 0 < 2 ^ 16) ∧
      (∀ i, -2 ^ 15 ≤ strides (i + 1) - partialSups strides i ∧
        strides (i + 1) - partialSups strides i < 2 ^ 15) ∧
      strides 281483566907401 = 9223372036854808567 ∧
      returned strides 281483566907401 = -9223372036854743049 := by
  have below : ∀ j ≤ 281483566907400, strides j < 2 ^ 63 := by
    intro j past
    unfold strides
    omega
  exact ⟨stream_strides.start, stream_strides.near, rfl, stream_strides.overflows below (by decide)⟩

end Relay
