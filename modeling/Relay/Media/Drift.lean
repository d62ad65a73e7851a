import Relay.Media.Pacing
import Mathlib.Data.Rat.Floor
import Mathlib.Tactic.Linarith

/-! A publisher whose clock runs at a constant rate of its own. Its frames are measured against
the first arrival, so the difference to the local clock adds up over the whole stream. -/
namespace Relay.Ingress

structure Consecutive (frames : Nat → Frame) (n : Nat) : Prop where
  sequence : ∀ i < n, (frames (i + 1)).sequence.toNat = (frames i).sequence.toNat + 1
  timestamp : ∀ i < n, (frames (i + 1)).timestampSamples = (frames i).timestampSamples + 960
  capture : ∀ i < n, (frames i).captureTimestampNs < (frames (i + 1)).captureTimestampNs

def arrivalAt (start : Time) (rate : ℚ) (i : Nat) : Time := start + ⌊(i * frameDuration : ℚ) / rate⌋

def sent (frames : Nat → Frame) (start : Time) (rate : ℚ) (n : Nat) : List Arrival :=
  (List.range (n + 1)).map fun i => ⟨frames i, arrivalAt start rate i⟩

def drift (rate : ℚ) (n : Nat) : Int := ⌊(n * frameDuration : ℚ) / rate⌋ - n * frameDuration

def OnPace (rate : ℚ) (n : Nat) : Prop := -maxAhead ≤ drift rate n ∧ drift rate n ≤ maxLate

instance (rate : ℚ) (n : Nat) : Decidable (OnPace rate n) := inferInstanceAs (Decidable (_ ∧ _))

theorem drift_eq (rate : ℚ) (n : Nat) : drift rate n = ⌊(n : ℚ) * (frameDuration / rate - frameDuration)⌋ := by
  have whole : (n : ℚ) * (frameDuration / rate - frameDuration) =
      (n * frameDuration : ℚ) / rate - ((n * frameDuration : Int) : ℚ) := by
    push_cast
    ring
  rw [whole, Int.floor_sub_intCast, drift]

theorem OnPace.earlier {rate : ℚ} {i n : Nat} (paced : OnPace rate n) (earlier : i ≤ n) : OnPace rate i := by
  have order : (i : ℚ) ≤ n := by exact_mod_cast earlier
  have ahead : maxAhead = 100000000 := by decide
  have late : maxLate = 250000000 := by decide
  unfold OnPace at paced ⊢
  rw [drift_eq] at paced ⊢
  rcases le_total 0 ((frameDuration : ℚ) / rate - frameDuration) with slow | fast
  · have start : 0 ≤ ⌊(i : ℚ) * (frameDuration / rate - frameDuration)⌋ :=
      Int.floor_nonneg.mpr (mul_nonneg i.cast_nonneg slow)
    have grows := Int.floor_le_floor (mul_le_mul_of_nonneg_right order slow)
    omega
  · have start : ⌊(i : ℚ) * (frameDuration / rate - frameDuration)⌋ ≤ 0 :=
      Int.floor_nonpos (mul_nonpos_of_nonneg_of_nonpos i.cast_nonneg fast)
    have falls := Int.floor_le_floor (mul_le_mul_of_nonpos_right order fast)
    omega

theorem onPace_of_short {rate : ℚ} {n : Nat} (close : |rate - 1| ≤ 20 / 10 ^ 6)
    (short : (n : Int) * frameDuration ≤ 5000 * second) : OnPace rate n := by
  obtain ⟨low, high⟩ := abs_le.mp close
  have ahead : maxAhead = 100000000 := by decide
  have late : maxLate = 250000000 := by decide
  have frames : frameDuration = 20000000 := by decide
  have seconds : second = 1000000000 := rfl
  have count : (n : ℚ) ≤ 250000 := by
    have : n ≤ 250000 := by
      rw [frames, seconds] at short
      omega
    exact_mod_cast this
  have start : (0 : ℚ) ≤ n := n.cast_nonneg
  have positive : 0 < rate := by linarith
  unfold OnPace
  rw [drift_eq, ahead, late, frames]
  have share : (n : ℚ) * ((20000000 : Int) / rate - (20000000 : Int)) = n * 20000000 * (1 - rate) / rate := by
    push_cast
    field_simp
  rw [share]
  constructor
  · apply Int.le_floor.mpr
    push_cast
    rw [le_div_iff₀ positive]
    nlinarith
  · apply Int.floor_le_iff.mpr
    push_cast
    rw [div_lt_iff₀ positive]
    nlinarith

theorem start_le_arrivalAt (start : Time) {rate : ℚ} (positive : 0 < rate) (i : Nat) :
    start ≤ arrivalAt start rate i := by
  have later : 0 ≤ ⌊(i * frameDuration : ℚ) / rate⌋ := by
    apply Int.floor_nonneg.mpr
    have frames : (frameDuration : ℚ) = 20000000 := by
      rw [show frameDuration = 20000000 by decide]
      norm_num
    rw [frames]
    positivity
  exact Int.le_add_of_nonneg_right later

/-! The timeline along the stream. -/

namespace Timeline

def reach (t : Timeline) : List Arrival → Timeline
  | [] => t
  | a :: arrivals => (t.admitFrame a.frame a.now).1.reach arrivals

theorem admitAll_snoc (t : Timeline) (arrivals : List Arrival) (a : Arrival) :
    t.admitAll (arrivals ++ [a]) = t.admitAll arrivals ++
      [⟨t.reach arrivals, a, ((t.reach arrivals).admitFrame a.frame a.now).2,
        ((t.reach arrivals).admitFrame a.frame a.now).1⟩] := by
  induction arrivals generalizing t with
  | nil => rfl
  | cons b arrivals ih =>
    rw [List.cons_append, admitAll_cons, admitAll_cons, ih, List.cons_append]
    rfl

theorem reach_snoc (t : Timeline) (arrivals : List Arrival) (a : Arrival) :
    t.reach (arrivals ++ [a]) = ((t.reach arrivals).admitFrame a.frame a.now).1 := by
  induction arrivals generalizing t with
  | nil => rfl
  | cons b arrivals ih => exact ih _

end Timeline

section Publisher

variable {frames : Nat → Frame} {n : Nat} {start : Time} {rate : ℚ}

def following (frames : Nat → Frame) (start : Time) (i : Nat) : Timeline :=
  ⟨true, (frames 0).captureTimestampNs, (frames 0).sequence, start, frames i⟩

theorem sent_succ (frames : Nat → Frame) (start : Time) (rate : ℚ) (n : Nat) :
    sent frames start rate (n + 1) = sent frames start rate n ++ [⟨frames (n + 1), arrivalAt start rate (n + 1)⟩] := by
  rw [sent, List.range_succ, List.map_append]
  rfl

theorem arrivalAt_zero (start : Time) (rate : ℚ) : arrivalAt start rate 0 = start := by
  simp [arrivalAt]

namespace Consecutive

section

variable (consecutive : Consecutive frames n)

include consecutive

theorem shorter {i : Nat} (earlier : i ≤ n) : Consecutive frames i where
  sequence := fun j below => consecutive.sequence j (below.trans_le earlier)
  timestamp := fun j below => consecutive.timestamp j (below.trans_le earlier)
  capture := fun j below => consecutive.capture j (below.trans_le earlier)

theorem number : (frames n).sequence.toNat = (frames 0).sequence.toNat + n := by
  induction n with
  | zero => rfl
  | succ n ih =>
    rw [consecutive.sequence n (Nat.lt_succ_self n), ih (consecutive.shorter (Nat.le_succ n))]
    omega

theorem captured : (frames 0).captureTimestampNs.toNat ≤ (frames n).captureTimestampNs.toNat := by
  induction n with
  | zero => exact le_rfl
  | succ n ih =>
    have next := UInt64.lt_iff_toNat_lt.mp (consecutive.capture n (Nat.lt_succ_self n))
    exact (ih (consecutive.shorter (Nat.le_succ n))).trans next.le

theorem sound (start : Time) (age : n ≤ 4320000) : (following frames start n).Sound where
  started := rfl
  capture := consecutive.captured
  sequence := by
    change (frames 0).sequence.toNat ≤ (frames n).sequence.toNat
    have number := consecutive.number
    omega
  span := by
    change (frames n).sequence.toNat ≤ (frames 0).sequence.toNat + 4320000
    have number := consecutive.number
    omega

end

theorem continues_iff (consecutive : Consecutive frames (n + 1)) (start : Time) (age : n + 1 ≤ 4320000)
    (captured : (frames (n + 1)).captureTimestampNs.toNat ≤ (frames 0).captureTimestampNs.toNat + 86400000000000) :
    (following frames start n).Continues (frames (n + 1)) ↔ (frames (n + 1)).channels = (frames n).channels := by
  have last := consecutive.sequence n (Nat.lt_succ_self n)
  have number := consecutive.number
  constructor
  · exact fun continues => continues.channels
  · intro channels
    refine ⟨⟨channels, ?_, ?_, ?_⟩, ?_, captured, ?_⟩
    · change (frames n).sequence.toNat < (frames (n + 1)).sequence.toNat
      omega
    · exact UInt64.lt_iff_toNat_lt.mp (consecutive.capture n (Nat.lt_succ_self n))
    · change (frames (n + 1)).timestampSamples - (frames n).timestampSamples =
        UInt32.ofNat (960 * ((frames (n + 1)).sequence.toNat - (frames n).sequence.toNat))
      rw [consecutive.timestamp n (Nat.lt_succ_self n), last, Nat.add_sub_cancel_left]
      grind
    · change (frames (n + 1)).sequence.toNat ≤ (frames n).sequence.toNat + 1500
      omega
    · change (frames (n + 1)).sequence.toNat ≤ (frames 0).sequence.toNat + 4320000
      omega

end Consecutive

theorem media_following (consecutive : Consecutive frames (n + 1)) (start : Time) :
    (following frames start n).media (frames (n + 1)) = ((n + 1 : Nat) : Int) * frameDuration := by
  have number := consecutive.number
  have duration : frameDuration = 20000000 := by decide
  change ((frames (n + 1)).sequence.toNat - (frames 0).sequence.toNat : Int) * 20000000 = _
  rw [duration]
  omega

theorem since_following (frames : Nat → Frame) (start : Time) (rate : ℚ) (n i : Nat) :
    (following frames start n).since (arrivalAt start rate i) = drift rate i + i * frameDuration := by
  have since : (following frames start n).since (arrivalAt start rate i) = ⌊(i * frameDuration : ℚ) / rate⌋ :=
    add_sub_cancel_left start _
  rw [since, drift, Int.sub_add_cancel]

theorem admitFrame_following (consecutive : Consecutive frames (n + 1)) (positive : 0 < rate)
    (age : n + 1 ≤ 4320000)
    (captured : (frames (n + 1)).captureTimestampNs.toNat ≤ (frames 0).captureTimestampNs.toNat + 86400000000000)
    (channels : (frames (n + 1)).channels = (frames n).channels) :
    (following frames start n).admitFrame (frames (n + 1)) (arrivalAt start rate (n + 1)) =
      if drift rate (n + 1) < -maxAhead then (following frames start n, .error .future)
      else (following frames start (n + 1), .ok (decide (maxLate < drift rate (n + 1)))) := by
  have sound := (consecutive.shorter (Nat.le_succ n)).sound start (Nat.le_of_succ_le age)
  have continues := (consecutive.continues_iff start age captured).mpr channels
  have ordered := start_le_arrivalAt start positive (n + 1)
  have media := media_following consecutive start
  have since := since_following frames start rate n (n + 1)
  split_ifs with early
  · apply Timeline.admitFrame_ahead sound continues ordered
    rw [media, since]
    omega
  · rw [Timeline.admitFrame_accepted sound continues ordered (by rw [media, since]; omega), media, since]
    congr 2
    apply decide_eq_decide.mpr
    omega

theorem next_iff (consecutive : Consecutive frames (n + 1)) (positive : 0 < rate)
    (age : n + 1 ≤ 4320000)
    (captured : (frames (n + 1)).captureTimestampNs.toNat ≤ (frames 0).captureTimestampNs.toNat + 86400000000000) :
    ((following frames start n).admitFrame (frames (n + 1)) (arrivalAt start rate (n + 1))).2 = .ok false ↔
      (frames (n + 1)).channels = (frames n).channels ∧ OnPace rate (n + 1) := by
  by_cases channels : (frames (n + 1)).channels = (frames n).channels
  · rw [admitFrame_following consecutive positive age captured channels]
    unfold OnPace
    split_ifs with early
    · simp [channels]
      omega
    · simp [channels]
      omega
  · have sound := (consecutive.shorter (Nat.le_succ n)).sound start (Nat.le_of_succ_le age)
    have broken := mt (consecutive.continues_iff start age captured).mp channels
    rw [Timeline.admitFrame_refused sound broken]
    simp [channels]

def Undisturbed (frames : Nat → Frame) (start : Time) (rate : ℚ) (n : Nat) : Prop :=
  ∀ x ∈ Timeline.zero.admitAll (sent frames start rate n), x.result = .ok false

theorem sent_zero (frames : Nat → Frame) (start : Time) (rate : ℚ) :
    sent frames start rate 0 = [⟨frames 0, start⟩] := by
  simp [sent, arrivalAt_zero]

theorem undisturbed_zero (frames : Nat → Frame) (start : Time) (rate : ℚ) : Undisturbed frames start rate 0 := by
  intro x member
  rw [sent_zero] at member
  rw [List.mem_singleton.mp member]
  rfl

theorem undisturbed_succ : Undisturbed frames start rate (n + 1) ↔ Undisturbed frames start rate n ∧
    ((Timeline.zero.reach (sent frames start rate n)).admitFrame (frames (n + 1))
      (arrivalAt start rate (n + 1))).2 = .ok false := by
  unfold Undisturbed
  rw [sent_succ, Timeline.admitAll_snoc]
  simp only [List.mem_append, List.mem_singleton, or_imp, forall_and, forall_eq]

theorem reach_of_undisturbed (consecutive : Consecutive frames n) (positive : 0 < rate) (age : n ≤ 4320000)
    (captured : (frames n).captureTimestampNs.toNat ≤ (frames 0).captureTimestampNs.toNat + 86400000000000)
    (start : Time) (undisturbed : Undisturbed frames start rate n) :
    Timeline.zero.reach (sent frames start rate n) = following frames start n := by
  induction n with
  | zero =>
    rw [sent_zero]
    rfl
  | succ n ih =>
    have next := UInt64.lt_iff_toNat_lt.mp (consecutive.capture n (Nat.lt_succ_self n))
    obtain ⟨before, last⟩ := undisturbed_succ.mp undisturbed
    have reached := ih (consecutive.shorter (Nat.le_succ n)) (Nat.le_of_succ_le age) (next.le.trans captured) before
    rw [reached] at last
    obtain ⟨channels, paced, _⟩ := (next_iff consecutive positive age captured).mp last
    rw [sent_succ, Timeline.reach_snoc, reached, admitFrame_following consecutive positive age captured channels,
      if_neg (not_lt.mpr paced)]

theorem undisturbed_iff (consecutive : Consecutive frames n) (positive : 0 < rate) (age : n ≤ 4320000)
    (captured : (frames n).captureTimestampNs.toNat ≤ (frames 0).captureTimestampNs.toNat + 86400000000000) :
    Undisturbed frames start rate n ↔ (∀ i ≤ n, (frames i).channels = (frames 0).channels) ∧ OnPace rate n := by
  induction n with
  | zero =>
    have still : OnPace rate 0 := by
      simp [OnPace, drift, maxAhead, maxLate, millisecond]
    refine ⟨fun _ => ⟨?_, still⟩, fun _ => undisturbed_zero frames start rate⟩
    intro i below
    rw [Nat.le_zero.mp below]
  | succ n ih =>
    have next := UInt64.lt_iff_toNat_lt.mp (consecutive.capture n (Nat.lt_succ_self n))
    have shorter := consecutive.shorter (Nat.le_succ n)
    have earlier := next.le.trans captured
    have settled := ih shorter (Nat.le_of_succ_le age) earlier
    have reached := reach_of_undisturbed shorter positive (Nat.le_of_succ_le age) earlier start
    rw [undisturbed_succ]
    constructor
    · rintro ⟨before, last⟩
      rw [reached before] at last
      obtain ⟨channels, paced⟩ := (next_iff consecutive positive age captured).mp last
      obtain ⟨same, _⟩ := settled.mp before
      refine ⟨?_, paced⟩
      intro i below
      rcases Nat.le_succ_iff.mp below with old | rfl
      · exact same i old
      · exact channels.trans (same n le_rfl)
    · rintro ⟨same, paced⟩
      have before := settled.mpr ⟨fun i below => same i (below.trans (Nat.le_succ n)), paced.earlier (Nat.le_succ n)⟩
      rw [reached before]
      refine ⟨before, (next_iff consecutive positive age captured).mpr ⟨?_, paced⟩⟩
      rw [same (n + 1) le_rfl, same n (Nat.le_succ n)]

end Publisher

theorem frames_of_age {n : Nat} (age : (n : Int) * frameDuration ≤ maxSessionAge) : n ≤ 4320000 := by
  have duration : frameDuration = 20000000 := by decide
  have limit : maxSessionAge = 86400000000000 := by decide
  rw [duration, limit] at age
  omega

/-- A publisher of consecutive frames at a constant rate, within 20 parts per million of real
time and within the age of a session, is undisturbed exactly while it keeps its channels and
the drift added up since its first frame stays within the limits. That is so for at least the
first 5000 seconds. -/
theorem honest_publisher_on_pace {frames : Nat → Frame} {n : Nat} (consecutive : Consecutive frames n)
    {rate : ℚ} (close : |rate - 1| ≤ 20 / 10 ^ 6) (start : Time)
    (age : (n : Int) * frameDuration ≤ maxSessionAge)
    (captured : ((frames n).captureTimestampNs.toNat : Int) - (frames 0).captureTimestampNs.toNat ≤ maxSessionAge) :
    (Undisturbed frames start rate n ↔ (∀ i ≤ n, (frames i).channels = (frames 0).channels) ∧ OnPace rate n) ∧
      ((n : Int) * frameDuration ≤ 5000 * second → OnPace rate n) := by
  have positive : 0 < rate := by
    have low := (abs_le.mp close).1
    linarith
  have limit : maxSessionAge = 86400000000000 := by decide
  refine ⟨undisturbed_iff consecutive positive (frames_of_age age) ?_, onPace_of_short close⟩
  rw [limit] at captured
  omega

namespace Plain

theorem speech_consecutive {n : Nat} (age : n ≤ 4320000) : Consecutive speech n where
  sequence := by
    intro i below
    change (UInt64.ofNat (i + 1)).toNat = (UInt64.ofNat i).toNat + 1
    rw [UInt64.toNat_ofNat', UInt64.toNat_ofNat']
    omega
  timestamp := by
    intro i _
    change UInt32.ofNat (960 * (i + 1)) = UInt32.ofNat (960 * i) + 960
    rw [Nat.mul_succ, UInt32.ofNat_add]
    rfl
  capture := by
    intro i below
    apply UInt64.lt_iff_toNat_lt.mpr
    change (UInt64.ofNat (20000000 * i)).toNat < (UInt64.ofNat (20000000 * (i + 1))).toNat
    rw [UInt64.toNat_ofNat', UInt64.toNat_ofNat', Nat.mod_eq_of_lt (by omega), Nat.mod_eq_of_lt (by omega)]
    omega

theorem speech_captured {n : Nat} (age : n ≤ 4320000) :
    (speech n).captureTimestampNs.toNat ≤ (speech 0).captureTimestampNs.toNat + 86400000000000 := by
  change (UInt64.ofNat (20000000 * n)).toNat ≤ 0 + 86400000000000
  rw [UInt64.toNat_ofNat', Nat.mod_eq_of_lt (by omega)]
  omega

def widened (n : Nat) : Frame := { speech n with channels := if n = 0 then 1 else 2 }

theorem widened_consecutive {n : Nat} (age : n ≤ 4320000) : Consecutive widened n :=
  ⟨(speech_consecutive age).sequence, (speech_consecutive age).timestamp, (speech_consecutive age).capture⟩

def fast : ℚ := 50001 / 50000
def slow : ℚ := 49999 / 50000

theorem drift_fast : OnPace fast 250005 ∧ drift fast 250006 < -maxAhead := by decide +kernel

theorem drift_slow : OnPace slow 624987 ∧ -maxAhead ≤ drift slow 624988 ∧ maxLate < drift slow 624988 := by
  decide +kernel

end Plain

open Plain in
theorem honest_publisher_on_pace_fast : OnPace fast 250005 ∧ Undisturbed speech second fast 250005 := by
  have close : |fast - 1| ≤ 20 / 10 ^ 6 := by norm_num [fast]
  have consecutive : Consecutive speech 250005 := speech_consecutive (by decide)
  have onPace := (honest_publisher_on_pace consecutive close second (by decide) (by decide)).1
  exact ⟨drift_fast.1, onPace.mpr ⟨fun _ _ => rfl, drift_fast.1⟩⟩

open Plain in
/-- Within 20 parts per million, a fast clock is cut off after 84 minutes, and a slow one is
reported late after three and a half hours; and a stream whose channels change is cut off at
once. -/
theorem honest_publisher_disturbed :
    (Consecutive speech 624988 ∧ (624988 : Int) * frameDuration ≤ maxSessionAge ∧
      ((speech 624988).captureTimestampNs.toNat : Int) - (speech 0).captureTimestampNs.toNat ≤ maxSessionAge) ∧
    (|fast - 1| ≤ 20 / 10 ^ 6 ∧
      ∃ x ∈ Timeline.zero.admitAll (sent speech second fast 250006), x.result = .error .future) ∧
    (|slow - 1| ≤ 20 / 10 ^ 6 ∧
      ∃ x ∈ Timeline.zero.admitAll (sent speech second slow 624988), x.result = .ok true) ∧
    (Consecutive widened 1 ∧
      ∃ x ∈ Timeline.zero.admitAll (sent widened second 1 1), x.result = .error .continuity) := by
  have reach : ∀ {rate : ℚ} {n : Nat}, 0 < rate → n ≤ 4320000 → OnPace rate n →
      Timeline.zero.reach (sent speech second rate n) = following speech second n := by
    intro rate n positive age paced
    have consecutive := speech_consecutive age
    have captured := speech_captured age
    exact reach_of_undisturbed consecutive positive age captured second
      ((undisturbed_iff consecutive positive age captured).mpr ⟨fun _ _ => rfl, paced⟩)
  refine ⟨⟨speech_consecutive (by decide), by decide, by decide⟩, ⟨by norm_num [fast], ?_⟩, ⟨by norm_num [slow], ?_⟩,
    widened_consecutive (by decide), ?_⟩
  · rw [sent_succ, Timeline.admitAll_snoc, reach (by norm_num [fast]) (by decide) drift_fast.1,
      admitFrame_following (speech_consecutive (by decide)) (by norm_num [fast]) (by decide)
        (speech_captured (by decide)) rfl,
      if_pos drift_fast.2]
    exact ⟨_, List.mem_append_right _ List.mem_cons_self, rfl⟩
  · rw [sent_succ, Timeline.admitAll_snoc, reach (by norm_num [slow]) (by decide) drift_slow.1,
      admitFrame_following (speech_consecutive (by decide)) (by norm_num [slow]) (by decide)
        (speech_captured (by decide)) rfl,
      if_neg (not_lt.mpr drift_slow.2.1)]
    exact ⟨_, List.mem_append_right _ List.mem_cons_self, congrArg Except.ok (decide_eq_true drift_slow.2.2)⟩
  · have sound : (following widened second 0).Sound := (widened_consecutive (Nat.zero_le _)).sound second (Nat.zero_le _)
    have broken : ¬(following widened second 0).Continues (widened 1) := fun continues =>
      absurd continues.channels (by decide)
    have refused : (following widened second 0).admitFrame (widened 1) (arrivalAt second 1 1) =
        (following widened second 0, .error .continuity) := Timeline.admitFrame_refused sound broken
    rw [sent_succ, sent_zero, Timeline.admitAll_snoc]
    exact ⟨_, List.mem_append_right _ List.mem_cons_self, congrArg Prod.snd refused⟩

end Relay.Ingress
