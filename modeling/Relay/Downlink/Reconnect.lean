import Relay.Downlink.Sequence
import Relay.Downlink.RetransmissionCache

/-! The timestamp step of a source switch. The step is wanted in unbounded arithmetic: the
time since the last arrival as samples at 48 kHz, rounded to whole frames. The source
multiplies in 64 bits. -/
namespace Relay

def roundedToFrames (n samples : Nat) : Nat := n * ((samples + n / 2) / n)

def frameStep (n samples : Nat) : Nat :=
  if n < roundedToFrames n samples ∧ roundedToFrames n samples ≤ 2 ^ 32 - 1 then roundedToFrames n samples else n

def reconnectStep (n D : Nat) : Nat := frameStep n (D * 48000 / 10 ^ 9)

/-- The product fits 64 bits, or what is left of it does not count as a step. -/
def StepFits (n D : Nat) : Prop := D * 48000 < 2 ^ 64 ∨ frameStep n (D * 48000 % 2 ^ 64 / 10 ^ 9) = n

instance (n D : Nat) : Decidable (StepFits n D) := inferInstanceAs (Decidable (_ ∨ _))

theorem roundedToFrames_le (n samples : Nat) : roundedToFrames n samples ≤ samples + n / 2 :=
  Nat.mul_div_le _ _

theorem le_roundedToFrames {n : Nat} (positive : 0 < n) (samples : Nat) : samples < roundedToFrames n samples + n := by
  have rest : (samples + n / 2) % n < n := Nat.mod_lt _ positive
  have parts := Nat.div_add_mod (samples + n / 2) n
  unfold roundedToFrames
  omega

theorem frameStep_long {n samples : Nat} (positive : 0 < n) (long : 2 ^ 32 + n ≤ samples) :
    frameStep n samples = n := by
  have low := le_roundedToFrames positive samples
  exact if_neg (by omega)

theorem frameStep_lt {n samples : Nat} (small : n < 2 ^ 32) : frameStep n samples < 2 ^ 32 := by
  unfold frameStep
  split_ifs <;> omega

namespace RtpForwardTranslator

def after (t : RtpForwardTranslator) : List TranslateCall → RtpForwardTranslator
  | [] => t
  | c :: calls => (t.translateAt c.packet c.source c.arrival).1.after calls

def divisors (t : RtpForwardTranslator) (c : TranslateCall) : List Nat :=
  if !t.initialized then []
  else if c.source ≠ t.source then
    let step := if t.nominalSamples = 0 then defaultAudioFrameSamples else t.nominalSamples
    if !c.arrival.isZero && !t.lastArrival.isZero && 0 < c.arrival.sub t.lastArrival then
      [(UInt64.ofInt second).toNat, 2, step.toUInt64.toNat]
    else []
  else
    let sequenceDelta := (c.packet.sequenceNumber - t.lastInputSequence).toInt16
    let timestampDelta := (c.packet.timestamp - t.lastInputTimestamp).toInt32
    if 0 < sequenceDelta ∧ 0 < timestampDelta then [sequenceDelta.toInt32.toUInt32.toNat] else []

variable {t : RtpForwardTranslator}

structure Framed (t : RtpForwardTranslator) : Prop where
  initialized : t.initialized = true
  positive : 1 ≤ t.nominalSamples.toNat
  bounded : t.nominalSamples.toNat ≤ 4800

theorem frameSize_framed (framed : t.Framed) (pkt : RtpPacket) :
    1 ≤ (t.frameSize pkt).toNat ∧ (t.frameSize pkt).toNat ≤ 4800 := by
  unfold frameSize
  dsimp only
  split_ifs with ahead range
  · exact ⟨UInt32.lt_iff_toNat_lt.mp range.1, UInt32.le_iff_toNat_le.mp range.2⟩
  · exact ⟨framed.positive, framed.bounded⟩
  · exact ⟨framed.positive, framed.bounded⟩

theorem translateAt_start (fresh : t.initialized = false) (pkt : RtpPacket) (source : SourceIdentity) (arrival : Time) :
    t.translateAt pkt source arrival = (t.start pkt source arrival, pkt, false) := by
  rw [translateAt, fresh]
  rfl

theorem translateAt_rebase (used : t.initialized = true) (pkt : RtpPacket) {source : SourceIdentity}
    (other : source ≠ t.source) (arrival : Time) :
    t.translateAt pkt source arrival =
      ((t.rebase pkt source arrival).1, (t.rebase pkt source arrival).2, true) := by
  rw [translateAt, used]
  exact if_pos other

theorem translateAt_follow (used : t.initialized = true) (pkt : RtpPacket) (arrival : Time) :
    t.translateAt pkt t.source arrival = ((t.follow pkt arrival).1, (t.follow pkt arrival).2, false) := by
  rw [translateAt, used]
  exact if_neg (not_not.mpr rfl)

theorem Framed.translate (used : t.initialized = true → t.Framed) (c : TranslateCall) :
    (t.translateAt c.packet c.source c.arrival).1.Framed := by
  by_cases fresh : t.initialized = false
  · rw [translateAt_start fresh]
    exact ⟨rfl, show 1 ≤ defaultAudioFrameSamples.toNat by decide, show defaultAudioFrameSamples.toNat ≤ 4800 by decide⟩
  · have framed := used (Bool.not_eq_false _ ▸ fresh)
    by_cases other : c.source = t.source
    · rw [other, translateAt_follow framed.initialized]
      unfold follow
      split_ifs
      · exact ⟨framed.initialized, (frameSize_framed framed c.packet).1, (frameSize_framed framed c.packet).2⟩
      · exact framed
    · rw [translateAt_rebase framed.initialized c.packet other]
      exact ⟨framed.initialized, framed.positive, framed.bounded⟩

theorem framed_after (used : t.initialized = true → t.Framed) {calls : List TranslateCall} (some : calls ≠ []) :
    (t.after calls).Framed := by
  induction calls generalizing t with
  | nil => exact absurd rfl some
  | cons c calls ih =>
    have next := Framed.translate used c
    cases calls with
    | nil => exact next
    | cons c' calls => exact ih (fun _ => next) (List.cons_ne_nil _ _)

theorem framed_of_reached {calls : List TranslateCall} (some : calls ≠ []) : (zero.after calls).Framed :=
  framed_after (fun used => Bool.noConfusion used) some

theorem quantizedSamples_toNat {n : UInt32} (bounded : n.toNat ≤ 4800) {D : Int} (positive : 0 < D)
    (fits : D ≤ maxDuration) :
    ((UInt64.ofInt D * 48000 / UInt64.ofInt second + n.toUInt64 / 2) / n.toUInt64 * n.toUInt64).toNat =
      roundedToFrames n.toNat (D.toNat * 48000 % 2 ^ 64 / 10 ^ 9) := by
  have duration : (UInt64.ofInt D).toNat = D.toNat := by
    have small : D < 2 ^ 63 := lt_of_le_of_lt fits (by decide)
    rw [UInt64.ofInt, UInt64.toNat_ofNat']
    omega
  have samples : (UInt64.ofInt D * 48000 / UInt64.ofInt second).toNat = D.toNat * 48000 % 2 ^ 64 / 10 ^ 9 := by
    rw [UInt64.toNat_div, UInt64.toNat_mul, duration]
    rfl
  have few : D.toNat * 48000 % 2 ^ 64 / 10 ^ 9 < 2 ^ 35 := by omega
  have rounded := roundedToFrames_le n.toNat (D.toNat * 48000 % 2 ^ 64 / 10 ^ 9)
  have sum : (UInt64.ofInt D * 48000 / UInt64.ofInt second + n.toUInt64 / 2).toNat =
      D.toNat * 48000 % 2 ^ 64 / 10 ^ 9 + n.toNat / 2 := by
    rw [UInt64.toNat_add, samples, UInt64.toNat_div, UInt32.toNat_toUInt64, show (2 : UInt64).toNat = 2 from rfl]
    apply Nat.mod_eq_of_lt
    omega
  rw [UInt64.toNat_mul, UInt64.toNat_div, sum, UInt32.toNat_toUInt64, Nat.mul_comm]
  apply Nat.mod_eq_of_lt
  change roundedToFrames _ _ < _
  omega

theorem timestampStep_toNat (framed : t.Framed) {arrival : Time} {D : Duration} (now : arrival.isZero = false)
    (last : t.lastArrival.isZero = false) (later : arrival = t.lastArrival + D) (positive : 0 < D)
    (fits : D ≤ maxDuration) :
    (t.timestampStep arrival).toNat = frameStep t.nominalSamples.toNat (D.toNat * 48000 % 2 ^ 64 / 10 ^ 9) := by
  have elapsed : arrival.sub t.lastArrival = D := by
    rw [later, Time.sub, add_sub_cancel_left, min_eq_right fits]
    exact max_eq_right (le_trans (by decide) positive.le)
  have frame : t.nominalSamples ≠ 0 := by
    intro zero
    have one := framed.positive
    rw [zero] at one
    exact absurd one (by decide)
  unfold timestampStep
  simp only [now, last, elapsed, positive, frame, Bool.not_false, Bool.and_self, if_true, if_false]
  have quantized := quantizedSamples_toNat framed.bounded positive fits
  generalize (UInt64.ofInt D * 48000 / UInt64.ofInt second + t.nominalSamples.toUInt64 / 2) /
    t.nominalSamples.toUInt64 * t.nominalSamples.toUInt64 = q at quantized ⊢
  have range : (t.nominalSamples.toUInt64 < q ∧ q ≤ 0xffffffff) ↔
      t.nominalSamples.toNat < q.toNat ∧ q.toNat ≤ 2 ^ 32 - 1 := by
    rw [UInt64.lt_iff_toNat_lt, UInt64.le_iff_toNat_le, UInt32.toNat_toUInt64]
    rfl
  unfold frameStep
  rw [← quantized]
  by_cases counts : t.nominalSamples.toNat < q.toNat ∧ q.toNat ≤ 2 ^ 32 - 1
  · rw [if_pos (range.mpr counts), if_pos counts, UInt64.toNat_toUInt32]
    omega
  · rw [if_neg (fun wrapped => counts (range.mp wrapped)), if_neg counts]

theorem timestampStep_exact_iff {n D : Nat} (low : 1 ≤ n) (high : n ≤ 4800) :
    frameStep n (D * 48000 % 2 ^ 64 / 10 ^ 9) = reconnectStep n D ↔ StepFits n D := by
  unfold StepFits reconnectStep
  by_cases fits : D * 48000 < 2 ^ 64
  · rw [Nat.mod_eq_of_lt fits]
    exact ⟨fun _ => .inl fits, fun _ => rfl⟩
  · have long : frameStep n (D * 48000 / 10 ^ 9) = n := frameStep_long low (by omega)
    rw [long]
    exact ⟨.inr, fun step => step.resolve_left fits⟩

theorem zero_not_mem_divisors (t : RtpForwardTranslator) (c : TranslateCall) : 0 ∉ t.divisors c := by
  have frame : (if t.nominalSamples = 0 then defaultAudioFrameSamples else t.nominalSamples) ≠ 0 := by
    split_ifs with unset
    · decide
    · exact unset
  unfold divisors
  dsimp only
  generalize (if t.nominalSamples = 0 then defaultAudioFrameSamples else t.nominalSamples) = step at frame ⊢
  split_ifs with fresh other arrivals ahead
  · exact List.not_mem_nil
  · have size : (UInt64.ofInt second).toNat ≠ 0 := by decide
    have word : step.toNat ≠ 0 := fun zero => frame (UInt32.toNat_inj.mp zero)
    simp [size.symm, word.symm]
  · exact List.not_mem_nil
  · generalize (c.packet.sequenceNumber - t.lastInputSequence).toInt16 = delta at ahead
    have positive : 0 < delta.toInt := Int16.lt_iff_toInt_lt.mp ahead.1
    have word : delta.toInt32.toUInt32.toNat ≠ 0 := by
      intro zero
      have signed : delta.toInt32 = 0 := congrArg UInt32.toInt32 (UInt32.toNat_inj.mp zero)
      rw [← Int16.toInt_toInt32, signed] at positive
      exact absurd positive (by decide)
    simpa using word.symm
  · exact List.not_mem_nil

theorem rebase_numbers (t : RtpForwardTranslator) (pkt : RtpPacket) (source : SourceIdentity) (arrival : Time) :
    (t.rebase pkt source arrival).2.sequenceNumber = t.lastOutputSequence + 1 ∧
      (t.rebase pkt source arrival).2.timestamp = t.lastOutputTimestamp + t.timestampStep arrival :=
  ⟨add_sub_cancel _ _, add_sub_cancel _ _⟩

end RtpForwardTranslator

namespace Plain

def reconnectCalls : List TranslateCall := [⟨.zero, ⟨"voice", 1, 7⟩, second⟩]

def longPause : Duration := 384308168202283

end Plain

end Relay
