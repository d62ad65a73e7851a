import Relay.ClockLineage.Ntp
import Mathlib.Algebra.Order.Field.Rat
import Mathlib.Data.UInt
import Mathlib.Tactic.FieldSimp
import Mathlib.Tactic.Linarith

/-! The timelines that carry the capture clock of a publisher to the sender reports of a
subscriber, and the error of the whole way. A timeline is read and written here without a
concurrent writer; `captureVersion` is its seqlock. -/
namespace Relay

structure SenderReport where
  ssrc : UInt32
  ntpTime : UInt64
  rtpTime : UInt32
  packetCount : UInt32
  octetCount : UInt32
deriving DecidableEq

structure SenderReportSnapshot where
  ssrc : UInt32
  ntpTime : UInt64
  rtpTime : UInt32
  packetCount : UInt32
  octetCount : UInt32
  observedAtNs : Int
  reportCount : Nat
  normalized : Bool
deriving DecidableEq

structure Timeline where
  ssrc : UInt32
  latest : Option SenderReportSnapshot
  captureVersion : Nat
  captureRTPTime : UInt32
  captureNTPTime : UInt64
  captureObservedNs : Int
deriving DecidableEq

def defaultMaxReportAge : Duration := 10 * second

namespace Timeline

def new (ssrc : UInt32) : Timeline := ⟨ssrc, none, 0, 0, 0, 0⟩

def observe (t : Timeline) (sr : SenderReport) (observedAt : Time) (normalized : Bool) : Timeline :=
  if sr.ssrc ≠ t.ssrc then t
  else
    { t with
      latest := some
        { ssrc := sr.ssrc
          ntpTime := sr.ntpTime
          rtpTime := sr.rtpTime
          packetCount := sr.packetCount
          octetCount := sr.octetCount
          observedAtNs := observedAt.unixNano
          reportCount := (t.latest.elim 0 (·.reportCount)) + 1
          normalized := normalized } }

def fresh (now : Time) (observedAtNs : Int) (maxAge : Duration) : Bool :=
  let age := now.sub (Time.ofUnix 0 observedAtNs)
  0 ≤ age && age ≤ maxAge

/-- A distance in samples as a duration: a 64-bit product and a division that truncates. -/
def sampleDuration (distance : UInt32) (clockRateHz : UInt32) : Duration :=
  ((distance.toInt32.toInt * second).bmod (2 ^ 64)).tdiv clockRateHz.toNat

def captureTime (t : Timeline) (rtpTimestamp : UInt32) (now : Time) (clockRateHz : UInt32) (maxAge : Duration) :
    Option Time :=
  match t.latest with
  | none => none
  | some snapshot =>
    if clockRateHz = 0 then none
    else if fresh now snapshot.observedAtNs (if maxAge ≤ 0 then defaultMaxReportAge else maxAge) then
      some (ntpTime snapshot.ntpTime + sampleDuration (rtpTimestamp - snapshot.rtpTime) clockRateHz)
    else none

/-- A writer waits while another one holds the version. -/
def observeCapture (t : Timeline) (rtpTimestamp : UInt32) (captureTime observedAt : Time) : Option Timeline :=
  if t.captureVersion % 2 = 0 then
    some { t with
      captureRTPTime := rtpTimestamp
      captureNTPTime := timeToNTP captureTime
      captureObservedNs := observedAt.unixNano
      captureVersion := t.captureVersion + 2 }
  else none

def captureMapping (t : Timeline) : Option (UInt32 × UInt64 × Int) :=
  if t.captureVersion = 0 ∨ t.captureVersion % 2 ≠ 0 then none
  else some (t.captureRTPTime, t.captureNTPTime, t.captureObservedNs)

def normalizeSenderReport (t : Timeline) (sr : SenderReport) (now : Time) (clockRateHz : UInt32) :
    Option SenderReport :=
  if sr.ssrc ≠ t.ssrc ∨ clockRateHz = 0 then none
  else
    match t.captureMapping with
    | none => none
    | some (rtpTime, captureNTP, observedAtNs) =>
      if fresh now observedAtNs defaultMaxReportAge then
        some { sr with ntpTime := timeToNTP (ntpTime captureNTP + sampleDuration (sr.rtpTime - rtpTime) clockRateHz) }
      else none

end Timeline

def FitsInt64 (x : Int) : Prop := -2 ^ 63 ≤ x ∧ x < 2 ^ 63

theorem sample_product (distance : UInt32) : FitsInt64 (distance.toInt32.toInt * second) := by
  have low := distance.toInt32.le_toInt
  have high := distance.toInt32.toInt_lt
  unfold FitsInt64 second
  omega

theorem bmod_of_fits {x : Int} (fits : FitsInt64 x) : x.bmod (2 ^ 64) = x := by
  unfold FitsInt64 at fits
  apply Int.bmod_eq_of_le <;> omega

theorem truncated_error (a : Int) : |48000 * a.tdiv 48000 - a| < 48000 := by
  have parts := Int.mul_tdiv_add_tmod a 48000
  have above := Int.tmod_lt_of_pos a (show (0 : Int) < 48000 by decide)
  have below := Int.lt_tmod_of_pos a (show (0 : Int) < 48000 by decide)
  rw [abs_lt]
  constructor <;> omega

theorem sampleDuration_error (distance : UInt32) :
    |48000 * (Timeline.sampleDuration distance 48000 : Int) - distance.toInt32.toInt * 1000000000| < 48000 := by
  have value : Timeline.sampleDuration distance 48000 = (distance.toInt32.toInt * 1000000000).tdiv 48000 := by
    have fits := bmod_of_fits (sample_product distance)
    unfold Timeline.sampleDuration
    rw [fits]
    rfl
  rw [value]
  exact truncated_error _

/-- The whole way from a publisher's report to a subscriber's: each rounding as it happens,
in units of 2^-32 nanoseconds over 48000. -/
theorem lineage_error {N M out q₁ q₂ d₁ d₂ : Int}
    (first : |48000 * q₁ - d₁ * 1000000000| < 48000) (second : |48000 * q₂ - d₂ * 1000000000| < 48000)
    (capture : M = (N * 1000000000 / 2 ^ 32 + q₁) * 2 ^ 32 / 1000000000 % 2 ^ 64)
    (report : out = (M * 1000000000 / 2 ^ 32 + q₂) * 2 ^ 32 / 1000000000 % 2 ^ 64) :
    ∃ era : Int, |48000 * 1000000000 * (out - N - era * 2 ^ 64) - (d₁ + d₂) * 1000000000 * 2 ^ 32| <
      5 * 2 ^ 32 * 48000 := by
  rw [abs_lt] at first second
  generalize nanos : N * 1000000000 / 2 ^ 32 = n at capture
  generalize units : (n + q₁) * 2 ^ 32 / 1000000000 = m at capture
  generalize nanos' : M * 1000000000 / 2 ^ 32 = n' at report
  generalize units' : (n' + q₂) * 2 ^ 32 / 1000000000 = m' at report
  -- the eras dropped at the two conversions back to 64 bits
  have wrap : M + m / 2 ^ 64 * 2 ^ 64 = m := by omega
  have wrap' : out + m' / 2 ^ 64 * 2 ^ 64 = m' := by omega
  use - (m / 2 ^ 64) - m' / 2 ^ 64
  generalize m / 2 ^ 64 = k at *
  generalize m' / 2 ^ 64 = k' at *
  rw [abs_lt]
  constructor <;> omega

namespace Timeline

variable {t t' : Timeline} {rtp rate : UInt32} {now observedAt : Time}

theorem captureTime_eq {snapshot : SenderReportSnapshot} {maxAge : Duration} {capture : Time}
    (latest : t.latest = some snapshot) (captured : t.captureTime rtp now rate maxAge = some capture) :
    capture = ntpTime snapshot.ntpTime + sampleDuration (rtp - snapshot.rtpTime) rate := by
  unfold captureTime at captured
  rw [latest] at captured
  dsimp only at captured
  generalize (if maxAge ≤ 0 then defaultMaxReportAge else maxAge) = limit at captured
  split at captured
  · cases captured
  split at captured
  · exact (Option.some.inj captured).symm
  · cases captured

theorem captureMapping_of_observeCapture {capture : Time} (observed : t.observeCapture rtp capture observedAt = some t') :
    t'.captureMapping = some (rtp, timeToNTP capture, observedAt.unixNano) := by
  unfold observeCapture at observed
  split at observed
  case isFalse => cases observed
  case isTrue even =>
    cases Option.some.inj observed
    have settled : ¬ (t.captureVersion + 2 = 0 ∨ (t.captureVersion + 2) % 2 ≠ 0) := by omega
    exact if_neg settled

theorem normalizeSenderReport_eq {report report' : SenderReport} {captureRTP : UInt32} {captureNTP : UInt64}
    {observedAtNs : Int} (mapping : t.captureMapping = some (captureRTP, captureNTP, observedAtNs))
    (normalized : t.normalizeSenderReport report now rate = some report') :
    report' = { report with
      ntpTime := timeToNTP (ntpTime captureNTP + sampleDuration (report.rtpTime - captureRTP) rate) } := by
  unfold normalizeSenderReport at normalized
  rw [mapping] at normalized
  dsimp only at normalized
  split at normalized
  · cases normalized
  split at normalized
  · exact (Option.some.inj normalized).symm
  · cases normalized

end Timeline

/-- No product of the two conversions to an instant and back overflows 64 bits. -/
structure ProductsFit (ntp : UInt64) (distance : UInt32) (t : Time) : Prop where
  samples : FitsInt64 (distance.toInt32.toInt * second)
  fraction : (ntp &&& 0xffffffff).toNat * 1000000000 < 2 ^ 64
  nanoseconds : t.nanosecond.toNat * 2 ^ 32 < 2 ^ 64

theorem productsFit (ntp : UInt64) (distance : UInt32) (t : Time) : ProductsFit ntp distance t where
  samples := sample_product distance
  fraction := fraction_product ntp
  nanoseconds := nanosecond_product t

theorem convertedBack_eq (ntp : UInt64) (distance : UInt32) :
    ((timeToNTP (ntpTime ntp + Timeline.sampleDuration distance 48000)).toNat : Int) =
      ((ntp.toNat : Int) * 1000000000 / 2 ^ 32 + (Timeline.sampleDuration distance 48000 : Int)) * 2 ^ 32 /
        1000000000 % 2 ^ 64 := by
  have start := ntpTime_eq ntp
  have elapsed : (ntpTime ntp : Int) + (Timeline.sampleDuration distance 48000 : Int) - (ntpEpoch : Int) =
      (ntp.toNat : Int) * 1000000000 / 2 ^ 32 + (Timeline.sampleDuration distance 48000 : Int) := by
    rw [start]
    ring
  rw [← elapsed]
  exact timeToNTP_eq _

theorem error_in_seconds {out N d era : Int}
    (small : |48000 * 1000000000 * (out - N - era * 2 ^ 64) - d * 1000000000 * 2 ^ 32| < 5 * 2 ^ 32 * 48000) :
    |(out : ℚ) / 2 ^ 32 - ((N : ℚ) / 2 ^ 32 + (d : ℚ) / 48000) - era * 2 ^ 32| < 5 / 10 ^ 9 := by
  have scaled : (out : ℚ) / 2 ^ 32 - ((N : ℚ) / 2 ^ 32 + (d : ℚ) / 48000) - era * 2 ^ 32 =
      ((48000 * 1000000000 * (out - N - era * 2 ^ 64) - d * 1000000000 * 2 ^ 32 : Int) : ℚ) /
        (48000 * 1000000000 * 2 ^ 32) := by
    push_cast
    field_simp
    ring
  rw [abs_lt] at small
  obtain ⟨low, high⟩ := small
  have low' : ((-(5 * 2 ^ 32 * 48000) : Int) : ℚ) <
      ((48000 * 1000000000 * (out - N - era * 2 ^ 64) - d * 1000000000 * 2 ^ 32 : Int) : ℚ) := Int.cast_lt.mpr low
  have high' : ((48000 * 1000000000 * (out - N - era * 2 ^ 64) - d * 1000000000 * 2 ^ 32 : Int) : ℚ) <
      ((5 * 2 ^ 32 * 48000 : Int) : ℚ) := Int.cast_lt.mpr high
  rw [scaled, abs_lt]
  constructor
  · rw [lt_div_iff₀ (by norm_num)]
    refine lt_of_eq_of_lt ?_ low'
    norm_num
  · rw [div_lt_iff₀ (by norm_num)]
    refine lt_of_lt_of_eq high' ?_
    norm_num

/-- The report a subscriber gets is on the clock of the publisher: less than five nanoseconds
from the instant its RTP time stands for, modulo the NTP era. -/
theorem clock_lineage_survives {source sender sender' : Timeline} {snapshot : SenderReportSnapshot}
    {r r' offset : UInt32} {now observedAt later capture : Time} {maxAge : Duration} {report report' : SenderReport}
    (latest : source.latest = some snapshot)
    (captured : source.captureTime r now 48000 maxAge = some capture)
    (observed : sender.observeCapture (r + offset) capture observedAt = some sender')
    (outgoing : report.rtpTime = r' + offset)
    (normalized : sender'.normalizeSenderReport report later 48000 = some report') :
    (∃ era : ℤ, |(report'.ntpTime.toNat : ℚ) / 2 ^ 32 -
        ((snapshot.ntpTime.toNat : ℚ) / 2 ^ 32 +
          (((r - snapshot.rtpTime).toInt32.toInt + (r' - r).toInt32.toInt : ℤ) : ℚ) / 48000) - era * 2 ^ 32| <
        5 / 10 ^ 9) ∧
      ProductsFit snapshot.ntpTime (r - snapshot.rtpTime) capture ∧
      ProductsFit (timeToNTP capture) (r' - r)
        (ntpTime (timeToNTP capture) + Timeline.sampleDuration (r' - r) 48000) := by
  refine ⟨?_, productsFit .., productsFit ..⟩
  have captureEq := Timeline.captureTime_eq latest captured
  have reportEq := Timeline.normalizeSenderReport_eq (Timeline.captureMapping_of_observeCapture observed) normalized
  -- the translator's offset cancels
  have distance : report.rtpTime - (r + offset) = r' - r := by
    rw [outgoing]
    exact add_sub_add_right_eq_sub r' r offset
  rw [distance] at reportEq
  have ntp : report'.ntpTime =
      timeToNTP (ntpTime (timeToNTP capture) + Timeline.sampleDuration (r' - r) 48000) := by
    rw [reportEq]
  rw [ntp]
  obtain ⟨era, small⟩ := lineage_error (sampleDuration_error (r - snapshot.rtpTime)) (sampleDuration_error (r' - r))
    (captureEq ▸ convertedBack_eq snapshot.ntpTime (r - snapshot.rtpTime))
    (convertedBack_eq (timeToNTP capture) (r' - r))
  exact ⟨era, error_in_seconds small⟩

namespace Timeline

def eraSnapshot : SenderReportSnapshot := ⟨7, 0xffffffffffffffff, 100, 0, 0, 0, 1, false⟩

def eraSource : Timeline := (new 7).observe ⟨7, 0xffffffffffffffff, 100, 0, 0⟩ (Time.ofUnix 0 0) false

def eraCapture : Time := ntpTime 0xffffffffffffffff + sampleDuration (50 - 100) 48000

def eraSender : Timeline := ⟨9, none, 2, 46, timeToNTP eraCapture, 0⟩

def eraReport (ntp : UInt64) : SenderReport := ⟨9, ntp, 48050 + 0xfffffffc, 1, 1⟩

end Timeline

open Timeline in
/-- The packet is captured before the rollover, the report's NTP time is in the next era. -/
theorem clock_lineage_survives_rollover :
    (eraSource.latest = some eraSnapshot ∧
      eraSource.captureTime 50 (Time.ofUnix 0 0) 48000 0 = some eraCapture ∧
      (new 9).observeCapture (50 + 0xfffffffc) eraCapture (Time.ofUnix 0 0) = some eraSender ∧
      eraSender.normalizeSenderReport (eraReport 0) (Time.ofUnix 0 0) 48000 = some (eraReport 4290493366)) ∧
    ∃ era : ℤ, |((eraReport 4290493366).ntpTime.toNat : ℚ) / 2 ^ 32 -
      ((eraSnapshot.ntpTime.toNat : ℚ) / 2 ^ 32 +
        (((50 - eraSnapshot.rtpTime).toInt32.toInt + (48050 - 50 : UInt32).toInt32.toInt : ℤ) : ℚ) / 48000) -
      era * 2 ^ 32| < 5 / 10 ^ 9 := by
  have latest : eraSource.latest = some eraSnapshot := by decide +kernel
  have captured : eraSource.captureTime 50 (Time.ofUnix 0 0) 48000 0 = some eraCapture := by decide +kernel
  have observed : (new 9).observeCapture (50 + 0xfffffffc) eraCapture (Time.ofUnix 0 0) = some eraSender := by
    decide +kernel
  have outgoing : (eraReport 0).rtpTime = 48050 + 0xfffffffc := by decide
  have normalized : eraSender.normalizeSenderReport (eraReport 0) (Time.ofUnix 0 0) 48000 =
      some (eraReport 4290493366) := by decide +kernel
  exact ⟨⟨latest, captured, observed, normalized⟩,
    (clock_lineage_survives latest captured observed outgoing normalized).1⟩

end Relay
