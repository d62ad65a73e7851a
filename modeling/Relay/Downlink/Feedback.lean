import Relay.ClockLineage.Timeline
import Mathlib.Data.Rat.Floor

/-! The round trip that a reception report shows. The sender compares the compact NTP time
of now with the middle bits of the last report it sent, as the receiver returns them; a
timeline may have rewritten that report before it was sent. -/
namespace Relay

structure ReceptionReport where
  fractionLost : UInt8
  jitter : UInt32
  lastSenderReport : UInt32
  delay : UInt32

structure SenderStats where
  receiverReportCount : Nat
  fractionLostLast : UInt32
  jitterLastUs : Int
  rttLastUs : Int

def compactNTP (t : Time) : UInt32 :=
  let seconds := UInt64.ofInt t.unix + ntpUnixEpochOffsetSeconds
  let fraction := UInt64.ofInt t.nanosecond * ((1 : UInt64) <<< 32) / UInt64.ofInt second
  ((seconds <<< 32 ||| fraction) >>> 16).toUInt32

def receptionReportRTT (report : ReceptionReport) (now : Time) : Option Duration :=
  if report.lastSenderReport = 0 then none
  else
    let rttCompact := compactNTP now - report.lastSenderReport - report.delay
    let rtt := (rttCompact.toUInt64 * UInt64.ofInt second / ((1 : UInt64) <<< 16)).toInt64.toInt
    if rtt < 0 ∨ rtt > minute then none else some rtt

/-- The callback for lost packets is left out. -/
def handleReport (stats : SenderStats) (report : ReceptionReport) (now : Time) : SenderStats :=
  { receiverReportCount := stats.receiverReportCount + 1
    fractionLostLast := report.fractionLost.toUInt32
    jitterLastUs := ((report.jitter.toNat : Int) * 1000000).tdiv 48000
    rttLastUs := ((receptionReportRTT report now).map fun rtt : Int => rtt.tdiv 1000).getD stats.rttLastUs }

/-- `BindRTCPWriter` on one report: the timeline of its SSRC, if there is one, may rewrite the
NTP time, and keeps what is sent. -/
def writeSenderReport (timeline : Option Timeline) (sr : SenderReport) (now : Time) : Option Timeline × SenderReport :=
  match timeline with
  | none => (none, sr)
  | some t =>
    match t.normalizeSenderReport sr now 48000 with
    | some sr' => (some (t.observe sr' now true), sr')
    | none => (some (t.observe sr now false), sr)

def middleBits (ntp : UInt64) : UInt32 := (ntp >>> 16).toUInt32

/-- The wanted round trip in seconds: the time between the instants without the delay. -/
def roundTrip (t0 t1 : Time) (d : ℚ) : ℚ := ((t1 - t0 : Int) : ℚ) / 10 ^ 9 - d

/-- Every answer to a report that carries `lsr` and was sent at `t0` is measured, with an error
of at most 2/65536 s. The receiver states its delay in whole units. -/
def Measured (lsr : UInt32) (t0 : Time) : Prop :=
  ∀ (report : ReceptionReport) (d : ℚ) (t1 : Time), report.lastSenderReport = lsr → 0 ≤ d →
    (report.delay.toNat : ℤ) = ⌊d * 65536⌋ → 0 ≤ roundTrip t0 t1 d → roundTrip t0 t1 d ≤ 59 →
      ∃ rtt, receptionReportRTT report t1 = some rtt ∧ |((rtt : Int) : ℚ) / 10 ^ 9 - roundTrip t0 t1 d| ≤ 2 / 65536

/-- The report that was sent carries the compact time of the instant, or one unit less where the
instant is on a unit. -/
def OnTime (lsr : UInt32) (t0 : Time) : Prop :=
  compactNTP t0 - lsr = 0 ∨ (compactNTP t0 - lsr = 1 ∧ (t0 - ntpEpoch) * 65536 % 1000000000 = 0)

instance (lsr : UInt32) (t0 : Time) : Decidable (OnTime lsr t0) := inferInstanceAs (Decidable (_ ∨ _))

theorem compactNTP_eq_middleBits (t : Time) : compactNTP t = middleBits (timeToNTP t) := rfl

theorem toNat_compactNTP (t : Time) :
    ((compactNTP t).toNat : Int) = (t - ntpEpoch) * 65536 / 1000000000 % 2 ^ 32 := by
  have ntp := timeToNTP_eq t
  rw [compactNTP_eq_middleBits, middleBits, UInt64.toNat_toUInt32, UInt64.toNat_shiftRight, Nat.shiftRight_eq_div_pow,
    show UInt64.toNat 16 % 64 = 16 from rfl]
  push_cast
  rw [ntp]
  generalize (t - ntpEpoch : Int) = n
  have coarse : n * 65536 / 1000000000 = n * 2 ^ 32 / 1000000000 / 65536 := by
    rw [Int.ediv_ediv_of_nonneg (by decide), show n * 2 ^ 32 = n * 65536 * 65536 by ring,
      Int.mul_ediv_mul_of_pos_left _ _ (by decide)]
  rw [coarse]
  generalize n * 2 ^ 32 / 1000000000 = fine
  omega

theorem receptionReportRTT_eq {report : ReceptionReport} (nonzero : report.lastSenderReport ≠ 0) (now : Time) :
    receptionReportRTT report now =
      let compact : Int := (compactNTP now - report.lastSenderReport - report.delay).toNat
      if compact * 1000000000 / 65536 ≤ 60000000000 then some (compact * 1000000000 / 65536) else none := by
  rw [receptionReportRTT, if_neg nonzero]
  dsimp only
  generalize compactNTP now - report.lastSenderReport - report.delay = compact
  have bound := compact.toNat_lt
  have word : (compact.toUInt64 * UInt64.ofInt second / ((1 : UInt64) <<< 16)).toNat =
      compact.toNat * 1000000000 / 65536 := by
    rw [UInt64.toNat_div, UInt64.toNat_mul, UInt32.toNat_toUInt64,
      show (UInt64.ofInt second).toNat = 1000000000 from rfl,
      show ((1 : UInt64) <<< 16).toNat = 65536 from rfl]
    omega
  have signed : (compact.toUInt64 * UInt64.ofInt second / ((1 : UInt64) <<< 16)).toInt64.toInt =
      (compact.toNat : Int) * 1000000000 / 65536 := by
    generalize compact.toUInt64 * UInt64.ofInt second / ((1 : UInt64) <<< 16) = rtt at word
    have bmod : rtt.toInt64.toInt = (rtt.toNat : Int).bmod (2 ^ 64) := BitVec.toInt_eq_toNat_bmod _
    rw [bmod, word, Int.bmod_eq_of_le (by omega) (by omega)]
    push_cast
    rfl
  rw [signed]
  generalize value : (compact.toNat : Int) * 1000000000 / 65536 = rtt
  change (if rtt < 0 ∨ rtt > 60000000000 then none else some rtt) = _
  by_cases long : rtt ≤ 60000000000
  · rw [if_pos long, if_neg (by omega)]
  · rw [if_neg long, if_pos (by omega)]

theorem toNat_compact (lsr delay : UInt32) (t0 t1 : Time) :
    ((compactNTP t1 - lsr - delay).toNat : Int) =
      ((t1 - ntpEpoch) * 65536 / 1000000000 - (t0 - ntpEpoch) * 65536 / 1000000000 - delay.toNat +
        (compactNTP t0 - lsr).toNat) % 2 ^ 32 := by
  have first := toNat_compactNTP t0
  have second := toNat_compactNTP t1
  have low := lsr.toNat_lt
  have late := delay.toNat_lt
  rw [UInt32.toNat_sub, UInt32.toNat_sub, UInt32.toNat_sub]
  generalize (t0 - ntpEpoch) * 65536 / 1000000000 = c0 at first ⊢
  generalize (t1 - ntpEpoch) * 65536 / 1000000000 = c1 at second ⊢
  omega

theorem roundTrip_scaled (t0 t1 : Time) (d : ℚ) :
    roundTrip t0 t1 d * (65536 * 1000000000) =
      (((t1 - ntpEpoch) * 65536 : Int) : ℚ) - (((t0 - ntpEpoch) * 65536 : Int) : ℚ) - d * 65536 * 1000000000 := by
  unfold roundTrip
  push_cast
  ring

theorem error_scaled {rtt : Int} {trip : ℚ} :
    |(rtt : ℚ) / 10 ^ 9 - trip| ≤ 2 / 65536 ↔
      |(rtt : ℚ) * 65536 - trip * (65536 * 1000000000)| ≤ 2 * 1000000000 := by
  have scaled : (rtt : ℚ) * 65536 - trip * (65536 * 1000000000) =
      ((rtt : ℚ) / 10 ^ 9 - trip) * (65536 * 1000000000) := by ring
  rw [scaled, abs_mul, abs_of_pos (show (0 : ℚ) < 65536 * 1000000000 by norm_num),
    ← le_div_iff₀ (show (0 : ℚ) < 65536 * 1000000000 by norm_num)]
  norm_num

/-- The instants and the delay are each rounded down to a unit: two of the three errors have
opposite signs, and `w` makes up for the one of the report. -/
theorem measured_units {u0 u1 D w : Int} {y x : ℚ} (delay : (D : ℚ) ≤ y) (delay' : y < D + 1)
    (trip : x = u1 - u0 - y * 1000000000) (start : 0 ≤ x) (short : x ≤ 59 * (65536 * 1000000000)) (low : 0 ≤ w)
    (high : w * 1000000000 + u0 % 1000000000 ≤ 1000000000) {q : Int}
    (compact : q = (u1 / 1000000000 - u0 / 1000000000 - D + w) % 2 ^ 32) :
    q * 1000000000 / 65536 ≤ 60000000000 ∧
      |((q * 1000000000 / 65536 : Int) : ℚ) * 65536 - x| ≤ 2 * 1000000000 := by
  have parts := Int.mul_ediv_add_emod u0 1000000000
  have parts' := Int.mul_ediv_add_emod u1 1000000000
  have rest := Int.emod_nonneg u0 (show (1000000000 : Int) ≠ 0 by decide)
  have rest' := Int.emod_nonneg u1 (show (1000000000 : Int) ≠ 0 by decide)
  have below := Int.emod_lt_of_pos u0 (show (0 : Int) < 1000000000 by decide)
  have below' := Int.emod_lt_of_pos u1 (show (0 : Int) < 1000000000 by decide)
  generalize u0 / 1000000000 = c0 at *
  generalize u1 / 1000000000 = c1 at *
  generalize u0 % 1000000000 = f0 at *
  generalize u1 % 1000000000 = f1 at *
  subst parts parts'
  push_cast at trip
  have f0' : (0 : ℚ) ≤ f0 := by exact_mod_cast rest
  have f1' : (0 : ℚ) ≤ f1 := by exact_mod_cast rest'
  have g1 : (f1 : ℚ) < 1000000000 := by exact_mod_cast below'
  have w0 : (0 : ℚ) ≤ w := by exact_mod_cast low
  have w1 : (w : ℚ) * 1000000000 + f0 ≤ 1000000000 := by exact_mod_cast high
  -- the round trip in whole units is neither negative nor too long
  have nonneg : 0 ≤ c1 - c0 - D := by
    have above : (0 : ℚ) < c1 - c0 - D + 1 := by linarith
    have above' : 0 < c1 - c0 - D + 1 := by exact_mod_cast above
    omega
  have few : c1 - c0 - D ≤ 59 * 65536 + 1 := by
    have near : ((c1 - c0 - D : Int) : ℚ) < 59 * 65536 + 2 := by
      push_cast
      linarith
    have near' : c1 - c0 - D < 59 * 65536 + 2 := by exact_mod_cast near
    omega
  have exact : q = c1 - c0 - D + w := by
    rw [compact]
    apply Int.emod_eq_of_lt <;> omega
  have floor := Int.mul_ediv_add_emod (q * 1000000000) 65536
  have left := Int.emod_nonneg (q * 1000000000) (show (65536 : Int) ≠ 0 by decide)
  have left' := Int.emod_lt_of_pos (q * 1000000000) (show (0 : Int) < 65536 by decide)
  generalize q * 1000000000 / 65536 = rtt at *
  generalize q * 1000000000 % 65536 = lost at *
  subst exact
  refine ⟨by omega, ?_⟩
  have lost0 : (0 : ℚ) ≤ lost := by exact_mod_cast left
  have lost1 : (lost : ℚ) < 65536 := by exact_mod_cast left'
  have value : (65536 : ℚ) * rtt + lost = (c1 - c0 - D + w) * 1000000000 := by exact_mod_cast floor
  rw [abs_le]
  constructor
  · linarith
  · linarith

theorem measured_of_onTime {lsr : UInt32} (nonzero : lsr ≠ 0) {t0 : Time} (onTime : OnTime lsr t0) :
    Measured lsr t0 := by
  rintro report d t1 rfl positive whole start short
  have delay := Int.floor_le (d * 65536)
  have delay' := Int.lt_floor_add_one (d * 65536)
  rw [← whole] at delay delay'
  have trip := roundTrip_scaled t0 t1 d
  have high : ((compactNTP t0 - report.lastSenderReport).toNat : Int) * 1000000000 +
      (t0 - ntpEpoch) * 65536 % 1000000000 ≤ 1000000000 := by
    rcases onTime with same | ⟨one, unit⟩
    · rw [same, show ((0 : UInt32).toNat : Int) = 0 from rfl]
      omega
    · rw [one, unit]
      decide
  obtain ⟨inTime, error⟩ := measured_units delay delay' trip (by positivity) (by linarith) (Int.natCast_nonneg _) high
    (toNat_compact report.lastSenderReport report.delay t0 t1)
  refine ⟨_, ?_, error_scaled.mpr error⟩
  rw [receptionReportRTT_eq nonzero]
  exact if_pos inTime

theorem measured_answer {lsr : UInt32} (nonzero : lsr ≠ 0) {t0 : Time} (measured : Measured lsr t0) {D : Nat}
    (fits : D < 2 ^ 32) {φ : ℚ} (low : 0 ≤ φ) (high : φ < 1) (t1 : Time) {x : ℚ}
    (trip : x = (((t1 - ntpEpoch) * 65536 : Int) : ℚ) - (((t0 - ntpEpoch) * 65536 : Int) : ℚ) - (D + φ) * 1000000000)
    (start : 0 ≤ x) (short : x ≤ 59 * (65536 * 1000000000)) {q : Int}
    (compact : q = ((t1 - ntpEpoch) * 65536 / 1000000000 - (t0 - ntpEpoch) * 65536 / 1000000000 - D +
      (compactNTP t0 - lsr).toNat) % 2 ^ 32) :
    |((q * 1000000000 / 65536 : Int) : ℚ) * 65536 - x| ≤ 2 * 1000000000 := by
  have delay : (UInt32.ofNat D).toNat = D := by
    rw [UInt32.toNat_ofNat']
    omega
  have scaled := roundTrip_scaled t0 t1 ((D + φ) / 65536)
  have whole : (D + φ) / 65536 * 65536 = (D : ℚ) + φ := by ring
  rw [whole, ← trip] at scaled
  have floor : ((UInt32.ofNat D).toNat : ℤ) = ⌊((D : ℚ) + φ) / 65536 * 65536⌋ := by
    rw [whole, delay, eq_comm, Int.floor_eq_iff]
    push_cast
    constructor
    · linarith
    · linarith
  obtain ⟨rtt, answer, error⟩ := measured ⟨0, 0, lsr, UInt32.ofNat D⟩ ((D + φ) / 65536) t1 rfl (by positivity) floor
    (by linarith) (by linarith)
  rw [error_scaled, scaled] at error
  rw [receptionReportRTT_eq nonzero] at answer
  dsimp only at answer
  rw [toNat_compact lsr (UInt32.ofNat D) t0 t1, delay, ← compact] at answer
  split_ifs at answer
  cases answer
  exact error

/-- An answer at once shows a distance of at most two units; one at a whole multiple of 128
units, at which nothing is rounded, shows the rest. -/
theorem onTime_of_measured {lsr : UInt32} (nonzero : lsr ≠ 0) {t0 : Time} (measured : Measured lsr t0) :
    OnTime lsr t0 := by
  have answer := fun {D : Nat} => measured_answer (D := D) nonzero measured
  have word := (compactNTP t0 - lsr).toNat_lt
  unfold OnTime
  rw [← UInt32.toNat_inj, ← UInt32.toNat_inj, show (0 : UInt32).toNat = 0 from rfl,
    show (1 : UInt32).toNat = 1 from rfl]
  generalize (compactNTP t0 - lsr).toNat = w at word answer ⊢
  have two : w ≤ 2 := by
    have compact : (w : Int) = ((t0 - ntpEpoch) * 65536 / 1000000000 - (t0 - ntpEpoch) * 65536 / 1000000000 -
        (0 : Nat) + w) % 2 ^ 32 := by omega
    have atOnce := answer (by decide) le_rfl (zero_lt_one' ℚ) t0 (x := 0) (by simp) le_rfl (by norm_num) compact
    rw [sub_zero, abs_le] at atOnce
    have bound : (w : Int) * 1000000000 / 65536 * 65536 ≤ 2 * 1000000000 := by exact_mod_cast atOnce.2
    omega
  have parts := Int.mul_ediv_add_emod ((t0 - ntpEpoch) * 65536) 1000000000
  have rest := Int.emod_nonneg ((t0 - ntpEpoch) * 65536) (show (1000000000 : Int) ≠ 0 by decide)
  have below := Int.emod_lt_of_pos ((t0 - ntpEpoch) * 65536) (show (0 : Int) < 1000000000 by decide)
  generalize (t0 - ntpEpoch) * 65536 / 1000000000 = c0 at answer parts
  generalize (t0 - ntpEpoch) * 65536 % 1000000000 = f0 at parts rest below ⊢
  -- the delay is `φ` more than whole units, and the compact round trip is 128
  have aligned : ∀ φ : ℚ, 0 ≤ φ → φ < 1 → (w + φ) * 1000000000 + f0 ≤ 2 * 1000000000 := by
    intro φ low high
    obtain ⟨k, D, unit, few⟩ : ∃ (k : Int) (D : Nat), 128 * k = c0 + 128 - w + D ∧ D < 2 ^ 32 := by
      refine ⟨(c0 + 128 - w + 127) / 128, (128 * ((c0 + 128 - w + 127) / 128) - (c0 + 128 - w)).toNat, ?_, ?_⟩ <;> omega
    have instant : ((ntpEpoch + 1953125 * k : Int) - ntpEpoch) * 65536 = 128 * k * 1000000000 := by ring
    have compact : (128 : Int) =
        (((ntpEpoch + 1953125 * k : Int) - ntpEpoch) * 65536 / 1000000000 - c0 - D + w) % 2 ^ 32 := by
      rw [instant, Int.mul_ediv_cancel _ (by decide)]
      omega
    have value : ((128 : Int) * 1000000000 / 65536 : Int) = 1953125 := by decide
    have f0' : (0 : ℚ) ≤ f0 := by exact_mod_cast rest
    have g0' : (f0 : ℚ) < 1000000000 := by exact_mod_cast below
    have w' : (w : ℚ) ≤ 2 := by exact_mod_cast two
    have start : (((t0 - ntpEpoch) * 65536 : Int) : ℚ) = 1000000000 * c0 + f0 := by exact_mod_cast parts.symm
    have place : (128 : ℚ) * k = c0 + 128 - w + D := by exact_mod_cast unit
    have trip : (128 - w - φ) * 1000000000 - f0 =
        ((((ntpEpoch + 1953125 * k : Int) - ntpEpoch) * 65536 : Int) : ℚ) - (((t0 - ntpEpoch) * 65536 : Int) : ℚ) -
          (D + φ) * 1000000000 := by
      rw [instant, start]
      push_cast
      linarith
    have shown := answer few low high (ntpEpoch + 1953125 * k : Int) trip (by linarith) (by linarith) compact
    rw [value, abs_le] at shown
    push_cast at shown
    linarith [shown.2]
  rcases show w = 0 ∨ w = 1 ∨ w = 2 by omega with rfl | rfl | rfl
  · exact .inl rfl
  · refine .inr ⟨rfl, ?_⟩
    by_contra off
    have positive : (0 : ℚ) < f0 := by exact_mod_cast lt_of_le_of_ne rest (Ne.symm off)
    have less : (f0 : ℚ) < 1000000000 := by exact_mod_cast below
    have shown := aligned (1 - f0 / 2000000000) (by linarith) (by linarith)
    push_cast at shown
    linarith
  · have positive : (0 : ℚ) ≤ f0 := by exact_mod_cast rest
    have shown := aligned (1 / 2) (by norm_num) (by norm_num)
    push_cast at shown
    linarith

theorem handleReport_measured {report : ReceptionReport} {t0 t1 : Time} {d : ℚ}
    (measured : Measured report.lastSenderReport t0) (positive : 0 ≤ d)
    (whole : (report.delay.toNat : ℤ) = ⌊d * 65536⌋) (start : 0 ≤ roundTrip t0 t1 d)
    (short : roundTrip t0 t1 d ≤ 59) (stats : SenderStats) :
    ∃ rtt : Int, (handleReport stats report t1).rttLastUs = rtt.tdiv 1000 ∧
      |(rtt : ℚ) / 10 ^ 9 - roundTrip t0 t1 d| ≤ 2 / 65536 := by
  obtain ⟨rtt, answer, error⟩ := measured report d t1 rfl positive whole start short
  refine ⟨rtt, ?_, error⟩
  simp only [handleReport, answer, Option.map_some, Option.getD_some]

theorem writeSenderReport_kept {timeline : Option Timeline} {sr : SenderReport} {now : Time}
    (kept : ∀ t ∈ timeline, t.normalizeSenderReport sr now 48000 = none) :
    (writeSenderReport timeline sr now).2 = sr := by
  cases timeline with
  | none => rfl
  | some t => rw [writeSenderReport, kept t rfl]

/-- A report generated at `t0` and written then: the answers to it are measured exactly if the
NTP time that was sent is still that of the instant, up to one unit. A report that no timeline
rewrites is measured. -/
theorem measured_iff_onTime (timeline : Option Timeline) (sr : SenderReport) (t0 : Time)
    (generated : sr.ntpTime = timeToNTP t0) (nonzero : middleBits (writeSenderReport timeline sr t0).2.ntpTime ≠ 0) :
    (Measured (middleBits (writeSenderReport timeline sr t0).2.ntpTime) t0 ↔
        OnTime (middleBits (writeSenderReport timeline sr t0).2.ntpTime) t0) ∧
      ((∀ t ∈ timeline, t.normalizeSenderReport sr t0 48000 = none) →
        Measured (middleBits (writeSenderReport timeline sr t0).2.ntpTime) t0) := by
  have both := (⟨onTime_of_measured nonzero, measured_of_onTime nonzero⟩ : Measured _ t0 ↔ OnTime _ t0)
  refine ⟨both, ?_⟩
  intro kept
  apply both.mpr
  left
  rw [writeSenderReport_kept kept, generated, ← compactNTP_eq_middleBits]
  exact sub_self _

namespace Plain

def sentAt : Time := Time.ofUnix 1700000000 500000000

def generatedReport : SenderReport := ⟨9, timeToNTP sentAt, 100, 1, 1⟩

def capturedBefore : Option Timeline := (Timeline.new 9).observeCapture 100 (sentAt - second : Int) sentAt

end Plain

open Plain in
theorem measured_iff_onTime_kept :
    Measured (middleBits (writeSenderReport none generatedReport sentAt).2.ntpTime) sentAt :=
  (measured_iff_onTime none generatedReport sentAt rfl (by decide +kernel)).2 nofun

open Plain in
/-- The report is rewritten to the capture clock, and an answer at once seems to take a second. -/
theorem round_trip_of_capture :
    capturedBefore.isSome = true ∧
      receptionReportRTT
          ⟨0, 0, middleBits (writeSenderReport capturedBefore generatedReport sentAt).2.ntpTime, 0⟩ sentAt =
        some second ∧
      roundTrip sentAt sentAt 0 = 0 ∧
      ¬ Measured (middleBits (writeSenderReport capturedBefore generatedReport sentAt).2.ntpTime) sentAt := by
  have trip : roundTrip sentAt sentAt 0 = 0 := by simp [roundTrip]
  have shown : receptionReportRTT
      ⟨0, 0, middleBits (writeSenderReport capturedBefore generatedReport sentAt).2.ntpTime, 0⟩ sentAt =
        some second := by decide +kernel
  refine ⟨by decide +kernel, shown, trip, ?_⟩
  generalize middleBits (writeSenderReport capturedBefore generatedReport sentAt).2.ntpTime = lsr at shown ⊢
  intro measured
  obtain ⟨rtt, answer, error⟩ :=
    measured ⟨0, 0, lsr, 0⟩ 0 sentAt rfl le_rfl (by simp) (by rw [trip]) (by rw [trip]; norm_num)
  rw [shown] at answer
  cases answer
  rw [trip, sub_zero, show ((second : Int) : ℚ) = 10 ^ 9 by norm_num [second]] at error
  norm_num at error

end Relay
