import Relay.ClockLineage.Timeline
import Relay.Media.Ingress

/-! The timeline of a WebSocket publisher. It admits frames against the last one and against
the first, in machine words; on the timelines that a stream of arrivals reaches, every one of
its operations gives the number it stands for. -/
namespace Relay.Ingress

def frameDuration : Int := 20 * millisecond
def maxSessionAge : Int := 24 * hour
def maxLate : Int := 250 * millisecond
def maxAhead : Int := 100 * millisecond

inductive AdmitError where
  | continuity
  | future
deriving DecidableEq

def AdmitError.message : AdmitError → String
  | .continuity => "invalid pks-opus-v1 continuity"
  | .future => "pks-opus-v1 publisher exceeds realtime pacing"

structure Timeline where
  started : Bool
  originNs : UInt64
  originSequence : UInt64
  originAt : Time
  last : Frame
deriving DecidableEq

def int64 (x : Int) : Int := x.bmod (2 ^ 64)

namespace Timeline

def zero : Timeline := ⟨false, 0, 0, 0, ⟨0, 0, 0, 0, 0, []⟩⟩

/-- The first tests of `Admit`, in their order: the last two subtractions are reached only when
the first three tests pass. -/
def discontinuous (t : Timeline) (frame : Frame) : Bool :=
  frame.channels != t.last.channels || decide (frame.sequence ≤ t.last.sequence) ||
    decide (frame.captureTimestampNs ≤ t.last.captureTimestampNs) ||
    decide (frame.captureTimestampNs - t.originNs > UInt64.ofInt maxSessionAge) ||
    decide (frame.sequence - t.originSequence > UInt64.ofInt (maxSessionAge.tdiv frameDuration))

def delta (t : Timeline) (frame : Frame) : UInt64 := frame.sequence - t.last.sequence

def skips (t : Timeline) (frame : Frame) : Bool :=
  decide (t.delta frame > 1500) ||
    frame.timestampSamples - t.last.timestampSamples != (t.delta frame * frameSamples.toUInt64).toUInt32

def elapsed (t : Timeline) (frame : Frame) : Int :=
  int64 (int64 (frame.sequence - t.originSequence).toNat * frameDuration)

def arrivalElapsed (t : Timeline) (now : Time) : Int := now.sub t.originAt

def admitFrame (t : Timeline) (frame : Frame) (now : Time) : Timeline × Except AdmitError Bool :=
  if t.started = false then
    (⟨true, frame.captureTimestampNs, frame.sequence, now, frame⟩, .ok false)
  else if t.discontinuous frame then (t, .error .continuity)
  else if t.skips frame then (t, .error .continuity)
  else if int64 (t.elapsed frame - t.arrivalElapsed now) > maxAhead then (t, .error .future)
  else ({ t with last := frame }, .ok (int64 (t.arrivalElapsed now - t.elapsed frame) > maxLate))

end Timeline

structure Arrival where
  frame : Frame
  now : Time

structure Admission where
  before : Timeline
  arrival : Arrival
  result : Except AdmitError Bool
  after : Timeline

def Admission.accepted (x : Admission) : Bool := x.result.isOk

def Timeline.admitAll (t : Timeline) : List Arrival → List Admission
  | [] => []
  | a :: arrivals => ⟨t, a, (t.admitFrame a.frame a.now).2, (t.admitFrame a.frame a.now).1⟩ ::
    (t.admitFrame a.frame a.now).1.admitAll arrivals

def accepted (h : List Admission) : List Admission := h.filter Admission.accepted

namespace Timeline

/-! The tests in numbers. -/

structure Sound (t : Timeline) : Prop where
  started : t.started = true
  capture : t.originNs.toNat ≤ t.last.captureTimestampNs.toNat
  sequence : t.originSequence.toNat ≤ t.last.sequence.toNat
  span : t.last.sequence.toNat ≤ t.originSequence.toNat + 4320000

structure Follows (g f : Frame) : Prop where
  channels : f.channels = g.channels
  sequence : g.sequence.toNat < f.sequence.toNat
  capture : g.captureTimestampNs.toNat < f.captureTimestampNs.toNat
  timestamp : f.timestampSamples - g.timestampSamples =
    UInt32.ofNat (960 * (f.sequence.toNat - g.sequence.toNat))

structure Continues (t : Timeline) (f : Frame) : Prop extends Follows t.last f where
  gap : f.sequence.toNat ≤ t.last.sequence.toNat + 1500
  age : f.captureTimestampNs.toNat ≤ t.originNs.toNat + 86400000000000
  span : f.sequence.toNat ≤ t.originSequence.toNat + 4320000

def media (t : Timeline) (f : Frame) : Int := (f.sequence.toNat - t.originSequence.toNat : Int) * 20000000

def since (t : Timeline) (now : Time) : Int := now - t.originAt

variable {t : Timeline} {f : Frame} {now : Time}

section

variable (sound : t.Sound)

include sound

theorem discontinuous_iff : t.discontinuous f = false ↔
    f.channels = t.last.channels ∧ t.last.sequence.toNat < f.sequence.toNat ∧
      t.last.captureTimestampNs.toNat < f.captureTimestampNs.toNat ∧
      f.captureTimestampNs.toNat ≤ t.originNs.toNat + 86400000000000 ∧
      f.sequence.toNat ≤ t.originSequence.toNat + 4320000 := by
  have captured := sound.capture
  have numbered := sound.sequence
  have aged : (UInt64.ofInt maxSessionAge).toNat = 86400000000000 := by decide
  have spanned : (UInt64.ofInt (maxSessionAge.tdiv frameDuration)).toNat = 4320000 := by decide
  simp only [discontinuous, Bool.or_eq_false_iff, bne_eq_false_iff_eq, decide_eq_false_iff_not,
    gt_iff_lt, not_lt, not_le, UInt64.lt_iff_toNat_lt, UInt64.le_iff_toNat_le, aged, spanned]
  constructor
  · rintro ⟨⟨⟨⟨same, later⟩, fresh⟩, age⟩, span⟩
    rw [UInt64.toNat_sub_of_le _ _ (UInt64.le_iff_toNat_le.mpr (by omega))] at age span
    exact ⟨same, later, fresh, by omega, by omega⟩
  · rintro ⟨same, later, fresh, age, span⟩
    rw [UInt64.toNat_sub_of_le _ _ (UInt64.le_iff_toNat_le.mpr (by omega)),
      UInt64.toNat_sub_of_le _ _ (UInt64.le_iff_toNat_le.mpr (by omega))]
    exact ⟨⟨⟨⟨same, later⟩, fresh⟩, by omega⟩, by omega⟩

omit sound in
theorem skips_iff (later : t.last.sequence.toNat < f.sequence.toNat) : t.skips f = false ↔
    f.sequence.toNat ≤ t.last.sequence.toNat + 1500 ∧
      f.timestampSamples - t.last.timestampSamples =
        UInt32.ofNat (960 * (f.sequence.toNat - t.last.sequence.toNat)) := by
  have gap : (t.delta f).toNat = f.sequence.toNat - t.last.sequence.toNat :=
    UInt64.toNat_sub_of_le _ _ (UInt64.le_iff_toNat_le.mpr later.le)
  have samples : (t.delta f).toNat ≤ 1500 → (t.delta f * frameSamples.toUInt64).toUInt32 =
      UInt32.ofNat (960 * (f.sequence.toNat - t.last.sequence.toNat)) := by
    intro short
    have frames : frameSamples.toUInt64.toNat = 960 := rfl
    apply UInt32.toNat_inj.mp
    rw [UInt64.toNat_toUInt32, UInt64.toNat_mul, frames, UInt32.toNat_ofNat', gap]
    omega
  have limit : (1500 : UInt64).toNat = 1500 := rfl
  simp only [skips, Bool.or_eq_false_iff, decide_eq_false_iff_not, gt_iff_lt, not_lt,
    UInt64.lt_iff_toNat_lt, limit, bne_eq_false_iff_eq]
  constructor
  · rintro ⟨short, step⟩
    exact ⟨by omega, step.trans (samples short)⟩
  · rintro ⟨short, step⟩
    have short : (t.delta f).toNat ≤ 1500 := by omega
    exact ⟨short, step.trans (samples short).symm⟩

theorem continues_iff : t.Continues f ↔ t.discontinuous f = false ∧ t.skips f = false := by
  constructor
  · intro c
    exact ⟨(discontinuous_iff sound).mpr ⟨c.channels, c.sequence, c.capture, c.age, c.span⟩,
      (skips_iff c.sequence).mpr ⟨c.gap, c.timestamp⟩⟩
  · rintro ⟨continuous, unskipped⟩
    obtain ⟨channels, sequence, capture, age, span⟩ := (discontinuous_iff sound).mp continuous
    obtain ⟨gap, timestamp⟩ := (skips_iff sequence).mp unskipped
    exact ⟨⟨channels, sequence, capture, timestamp⟩, gap, age, span⟩

omit sound in
theorem int64_of_fits {x : Int} (fits : FitsInt64 x) : int64 x = x := bmod_of_fits fits

theorem toNat_sub_origin (continues : t.Continues f) :
    (f.sequence - t.originSequence).toNat = f.sequence.toNat - t.originSequence.toNat :=
  UInt64.toNat_sub_of_le _ _ (UInt64.le_iff_toNat_le.mpr (sound.sequence.trans continues.sequence.le))

theorem elapsed_eq (continues : t.Continues f) : t.elapsed f = t.media f := by
  have later := continues.sequence
  have origin := sound.sequence
  have span := continues.span
  have frames : frameDuration = 20000000 := by decide
  unfold elapsed media
  rw [toNat_sub_origin sound continues, frames,
    int64_of_fits (x := ((f.sequence.toNat - t.originSequence.toNat : Nat) : Int)) (by unfold FitsInt64; omega),
    int64_of_fits (by unfold FitsInt64; omega)]
  push_cast [sound.sequence.trans later.le]
  rfl

theorem media_nonneg (continues : t.Continues f) : 0 ≤ t.media f ∧ t.media f ≤ 86400000000000 := by
  have later := continues.sequence
  have origin := sound.sequence
  have span := continues.span
  unfold media
  omega

omit sound in
theorem arrivalElapsed_eq (ordered : t.originAt ≤ now) :
    t.arrivalElapsed now = min (2 ^ 63 - 1) (t.since now) := by
  have later : 0 ≤ t.since now := Int.sub_nonneg_of_le ordered
  change max (-2 ^ 63) (min (2 ^ 63 - 1) (t.since now)) = _
  omega

section

variable (continues : t.Continues f)

include continues

theorem differences_fit (ordered : t.originAt ≤ now) :
    FitsInt64 (t.elapsed f - t.arrivalElapsed now) ∧ FitsInt64 (t.arrivalElapsed now - t.elapsed f) := by
  have later : 0 ≤ t.since now := Int.sub_nonneg_of_le ordered
  have arrived := arrivalElapsed_eq ordered
  have shown := media_nonneg sound continues
  rw [elapsed_eq sound continues]
  unfold FitsInt64
  omega

theorem ahead_iff (ordered : t.originAt ≤ now) :
    int64 (t.elapsed f - t.arrivalElapsed now) > maxAhead ↔ t.since now + maxAhead < t.media f := by
  have later : 0 ≤ t.since now := Int.sub_nonneg_of_le ordered
  have arrived := arrivalElapsed_eq ordered
  have shown := media_nonneg sound continues
  have limit : maxAhead = 100000000 := by decide
  rw [int64_of_fits (differences_fit sound continues ordered).1, elapsed_eq sound continues, limit]
  omega

theorem late_iff (ordered : t.originAt ≤ now) :
    int64 (t.arrivalElapsed now - t.elapsed f) > maxLate ↔ t.media f + maxLate < t.since now := by
  have later : 0 ≤ t.since now := Int.sub_nonneg_of_le ordered
  have arrived := arrivalElapsed_eq ordered
  have shown := media_nonneg sound continues
  have limit : maxLate = 250000000 := by decide
  rw [int64_of_fits (differences_fit sound continues ordered).2, elapsed_eq sound continues, limit]
  omega

omit continues in
theorem admitFrame_refused (broken : ¬ t.Continues f) : t.admitFrame f now = (t, .error .continuity) := by
  rw [admitFrame, if_neg (by simp [sound.started])]
  cases gone : t.discontinuous f with
  | true => rfl
  | false =>
    cases jumped : t.skips f with
    | true => rfl
    | false => exact absurd ((continues_iff sound).mpr ⟨gone, jumped⟩) broken

theorem admitFrame_ahead (ordered : t.originAt ≤ now) (ahead : t.since now + maxAhead < t.media f) :
    t.admitFrame f now = (t, .error .future) := by
  obtain ⟨continuous, unskipped⟩ := (continues_iff sound).mp continues
  rw [admitFrame, if_neg (by simp [sound.started]), continuous, unskipped, if_neg Bool.false_ne_true,
    if_neg Bool.false_ne_true, if_pos ((ahead_iff sound continues ordered).mpr ahead)]

theorem admitFrame_accepted (ordered : t.originAt ≤ now) (paced : t.media f ≤ t.since now + maxAhead) :
    t.admitFrame f now = ({ t with last := f }, .ok (decide (t.media f + maxLate < t.since now))) := by
  obtain ⟨continuous, unskipped⟩ := (continues_iff sound).mp continues
  rw [admitFrame, if_neg (by simp [sound.started]), continuous, unskipped, if_neg Bool.false_ne_true,
    if_neg Bool.false_ne_true, if_neg (mt (ahead_iff sound continues ordered).mp (not_lt.mpr paced))]
  simp only [late_iff sound continues ordered]

omit continues in
theorem admitFrame_cases (ordered : t.originAt ≤ now) :
    (∃ e, t.admitFrame f now = (t, .error e)) ∨
      t.Continues f ∧ t.media f ≤ t.since now + maxAhead ∧
        t.admitFrame f now = ({ t with last := f }, .ok (decide (t.media f + maxLate < t.since now))) := by
  by_cases continues : t.Continues f
  · by_cases ahead : t.since now + maxAhead < t.media f
    · exact .inl ⟨_, admitFrame_ahead sound continues ordered ahead⟩
    · have paced := not_lt.mp ahead
      exact .inr ⟨continues, paced, admitFrame_accepted sound continues ordered paced⟩
  · exact .inl ⟨_, admitFrame_refused sound continues⟩

theorem Sound.next : Sound { t with last := f } where
  started := sound.started
  capture := sound.capture.trans continues.capture.le
  sequence := sound.sequence.trans continues.sequence.le
  span := continues.span

end

end

theorem sound_first (f : Frame) (now : Time) :
    Sound ⟨true, f.captureTimestampNs, f.sequence, now, f⟩ :=
  ⟨rfl, le_rfl, le_rfl, Nat.le_add_right _ _⟩

/-- Every operation that `Admit` reaches on a started timeline gives the number it stands for:
no subtraction goes below zero, no product and no conversion exceeds its word. The difference
of the timestamps alone is meant modulo 2^32. -/
structure Exact (t : Timeline) (f : Frame) (now : Time) : Prop where
  capture : f.channels = t.last.channels → t.last.sequence < f.sequence →
    t.last.captureTimestampNs < f.captureTimestampNs → t.originNs ≤ f.captureTimestampNs
  sequence : f.channels = t.last.channels → t.last.sequence < f.sequence →
    t.last.captureTimestampNs < f.captureTimestampNs → t.originSequence ≤ f.sequence
  delta : t.discontinuous f = false → t.last.sequence ≤ f.sequence
  samples : t.discontinuous f = false → t.delta f ≤ 1500 → (t.delta f).toNat * frameSamples.toNat < 2 ^ 32
  frames : t.discontinuous f = false → t.skips f = false →
    FitsInt64 (f.sequence - t.originSequence).toNat ∧
      FitsInt64 ((f.sequence - t.originSequence).toNat * frameDuration)
  differences : t.discontinuous f = false → t.skips f = false →
    FitsInt64 (t.elapsed f - t.arrivalElapsed now) ∧ FitsInt64 (t.arrivalElapsed now - t.elapsed f)

theorem Sound.exact (sound : t.Sound) (ordered : t.originAt ≤ now) : t.Exact f now where
  capture := by
    intro _ _ fresh
    exact UInt64.le_iff_toNat_le.mpr (sound.capture.trans (UInt64.lt_iff_toNat_lt.mp fresh).le)
  sequence := by
    intro _ later _
    exact UInt64.le_iff_toNat_le.mpr (sound.sequence.trans (UInt64.lt_iff_toNat_lt.mp later).le)
  delta := by
    intro continuous
    exact UInt64.le_iff_toNat_le.mpr ((discontinuous_iff sound).mp continuous).2.1.le
  samples := by
    intro _ short
    have short := UInt64.le_iff_toNat_le.mp short
    have frames : frameSamples.toNat = 960 := rfl
    have limit : (1500 : UInt64).toNat = 1500 := rfl
    rw [frames]
    omega
  frames := by
    intro continuous unskipped
    have continues := (continues_iff sound).mpr ⟨continuous, unskipped⟩
    have span := continues.span
    have frames : frameDuration = 20000000 := by decide
    unfold FitsInt64
    rw [toNat_sub_origin sound continues, frames]
    omega
  differences := by
    intro continuous unskipped
    exact differences_fit sound ((continues_iff sound).mpr ⟨continuous, unskipped⟩) ordered

/-! A stream of arrivals. -/

theorem Follows.trans {g h : Frame} (first : Follows f g) (second : Follows g h) : Follows f h where
  channels := second.channels.trans first.channels
  sequence := first.sequence.trans second.sequence
  capture := first.capture.trans second.capture
  timestamp := by
    have sequence := first.sequence
    have later := second.sequence
    have sum : h.timestampSamples - f.timestampSamples =
        (h.timestampSamples - g.timestampSamples) + (g.timestampSamples - f.timestampSamples) := by
      grind
    rw [sum, second.timestamp, first.timestamp, ← UInt32.ofNat_add]
    congr 1
    omega

structure Reached (t : Timeline) (x : Admission) : Prop where
  sound : x.before.Sound
  sequence : x.before.originSequence = t.originSequence
  arrived : x.before.originAt = t.originAt
  ordered : t.originAt ≤ x.arrival.now
  admits : (x.after, x.result) = x.before.admitFrame x.arrival.frame x.arrival.now

variable {arrivals : List Arrival}

theorem admitAll_cons (t : Timeline) (a : Arrival) :
    t.admitAll (a :: arrivals) =
      ⟨t, a, (t.admitFrame a.frame a.now).2, (t.admitFrame a.frame a.now).1⟩ ::
        (t.admitFrame a.frame a.now).1.admitAll arrivals :=
  rfl

theorem reached_of_mem (sound : t.Sound) (ordered : ∀ a ∈ arrivals, t.originAt ≤ a.now) :
    ∀ x ∈ t.admitAll arrivals, Reached t x := by
  induction arrivals generalizing t with
  | nil => exact fun _ member => absurd member List.not_mem_nil
  | cons a arrivals ih =>
    have now := ordered a List.mem_cons_self
    have rest := fun b member => ordered b (List.mem_cons_of_mem a member)
    intro x member
    rcases List.mem_cons.mp member with rfl | later
    · exact ⟨sound, rfl, rfl, now, rfl⟩
    · rcases admitFrame_cases (f := a.frame) sound now with ⟨e, refused⟩ | ⟨continues, _, taken⟩
      · rw [refused] at later
        exact ih sound rest x later
      · rw [taken] at later
        have reached := ih (sound.next continues) rest x later
        exact ⟨reached.sound, reached.sequence, reached.arrived, reached.ordered, reached.admits⟩

theorem accepted_follow (sound : t.Sound) (ordered : ∀ a ∈ arrivals, t.originAt ≤ a.now) :
    (∀ x ∈ accepted (t.admitAll arrivals), Follows t.last x.arrival.frame) ∧
      (accepted (t.admitAll arrivals)).Pairwise fun x y => Follows x.arrival.frame y.arrival.frame := by
  induction arrivals generalizing t with
  | nil => exact ⟨fun _ member => absurd member List.not_mem_nil, .nil⟩
  | cons a arrivals ih =>
    have now := ordered a List.mem_cons_self
    have rest := fun b member => ordered b (List.mem_cons_of_mem a member)
    rcases admitFrame_cases (f := a.frame) sound now with ⟨e, refused⟩ | ⟨continues, _, taken⟩
    · have same : accepted (t.admitAll (a :: arrivals)) = accepted (t.admitAll arrivals) := by
        rw [admitAll_cons, refused]
        rfl
      rw [same]
      exact ih sound rest
    · obtain ⟨after, pairs⟩ := ih (sound.next continues) rest
      have more : accepted (t.admitAll (a :: arrivals)) =
          ⟨t, a, .ok (decide (t.media a.frame + maxLate < t.since a.now)), { t with last := a.frame }⟩ ::
            accepted (Timeline.admitAll { t with last := a.frame } arrivals) := by
        rw [admitAll_cons, taken]
        rfl
      rw [more]
      refine ⟨?_, List.pairwise_cons.mpr ⟨after, pairs⟩⟩
      intro x member
      rcases List.mem_cons.mp member with rfl | later
      · exact continues.toFollows
      · exact continues.toFollows.trans (after x later)

theorem Reached.paced {x : Admission} (reached : Reached t x) {late : Bool} (ok : x.result = .ok late) :
    t.media x.arrival.frame ≤ t.since x.arrival.now + maxAhead ∧
      (late = false → t.since x.arrival.now - maxLate ≤ t.media x.arrival.frame) := by
  have media : x.before.media x.arrival.frame = t.media x.arrival.frame := by
    rw [Timeline.media, Timeline.media, reached.sequence]
  have since : x.before.since x.arrival.now = t.since x.arrival.now := by
    rw [Timeline.since, Timeline.since, reached.arrived]
  have admits := reached.admits
  rw [ok] at admits
  rcases admitFrame_cases (f := x.arrival.frame) reached.sound (reached.arrived ▸ reached.ordered) with
    ⟨e, refused⟩ | ⟨_, paced, taken⟩
  · rw [refused] at admits
    cases congrArg Prod.snd admits
  · rw [taken, media, since] at admits
    rw [media, since] at paced
    refine ⟨paced, ?_⟩
    intro early
    have shown := Except.ok.inj (congrArg Prod.snd admits)
    rw [early] at shown
    have := of_decide_eq_false shown.symm
    omega

theorem admitFrame_unchanged {e : AdmitError} (refused : (t.admitFrame f now).2 = .error e) :
    (t.admitFrame f now).1 = t := by
  unfold admitFrame at refused ⊢
  split_ifs at refused ⊢ <;> rfl

end Timeline

theorem length_le_of_rising {l : List Nat} {b : Nat} (rising : l.Pairwise (· < ·)) (below : ∀ n ∈ l, n ≤ b) :
    l.length ≤ b + 1 := by
  have distinct : l.Nodup := rising.imp Nat.ne_of_lt
  have inside : l ⊆ List.range (b + 1) :=
    fun n member => List.mem_range.mpr (Nat.lt_succ_of_le (below n member))
  simpa using (distinct.subperm inside).length_le

theorem admitAll_first (first : Arrival) (rest : List Arrival) :
    Timeline.zero.admitAll (first :: rest) =
      ⟨.zero, first, .ok false, ⟨true, first.frame.captureTimestampNs, first.frame.sequence, first.now, first.frame⟩⟩ ::
        Timeline.admitAll ⟨true, first.frame.captureTimestampNs, first.frame.sequence, first.now, first.frame⟩ rest :=
  rfl

theorem accepted_first (first : Arrival) (rest : List Arrival) :
    accepted (Timeline.zero.admitAll (first :: rest)) =
      ⟨.zero, first, .ok false, ⟨true, first.frame.captureTimestampNs, first.frame.sequence, first.now, first.frame⟩⟩ ::
        accepted (Timeline.admitAll
          ⟨true, first.frame.captureTimestampNs, first.frame.sequence, first.now, first.frame⟩ rest) :=
  rfl

variable {rest : List Arrival} {first : Arrival}

section

variable (ordered : ∀ a ∈ rest, first.now ≤ a.now)

include ordered

theorem accepted_paced :
    ∀ x ∈ accepted (Timeline.zero.admitAll (first :: rest)),
      ((x.arrival.frame.sequence.toNat : Int) - first.frame.sequence.toNat) * frameDuration ≤
          x.arrival.now - first.now + maxAhead ∧
        (x.result = .ok false → x.arrival.now - first.now - maxLate ≤
          ((x.arrival.frame.sequence.toNat : Int) - first.frame.sequence.toNat) * frameDuration) := by
  intro x member
  rw [accepted_first] at member
  rcases List.mem_cons.mp member with rfl | later
  · simp [maxAhead, maxLate, millisecond]
  · obtain ⟨listed, ok⟩ := List.mem_filter.mp later
    have reached := Timeline.reached_of_mem (Timeline.sound_first first.frame first.now) ordered x listed
    cases result : x.result with
    | error e => simp [Admission.accepted, result, Except.isOk, Except.toBool] at ok
    | ok late =>
      obtain ⟨ahead, early⟩ := reached.paced result
      refine ⟨ahead, ?_⟩
      intro same
      cases same
      exact early rfl

theorem accepted_pairwise :
    (accepted (Timeline.zero.admitAll (first :: rest))).Pairwise fun x y =>
      Timeline.Follows x.arrival.frame y.arrival.frame := by
  have follow := Timeline.accepted_follow (Timeline.sound_first first.frame first.now) ordered
  rw [accepted_first]
  exact List.pairwise_cons.mpr follow

theorem first_le_accepted :
    ∀ x ∈ accepted (Timeline.zero.admitAll (first :: rest)),
      first.frame.sequence.toNat ≤ x.arrival.frame.sequence.toNat := by
  intro x member
  rw [accepted_first] at member
  rcases List.mem_cons.mp member with rfl | later
  · exact le_rfl
  · have follow := Timeline.accepted_follow (Timeline.sound_first first.frame first.now) ordered
    exact (follow.1 x later).sequence.le

theorem accepted_count {A : Int} (elapsed : 0 ≤ A) :
    ((accepted (Timeline.zero.admitAll (first :: rest))).countP fun x => x.arrival.now - first.now ≤ A : Int) ≤
      (A + maxAhead) / frameDuration + 1 := by
  have paced := accepted_paced ordered
  have pairs := accepted_pairwise ordered
  have after := first_le_accepted ordered
  have limit : maxAhead = 100000000 := by decide
  have frames : frameDuration = 20000000 := by decide
  rw [limit, frames] at *
  generalize accepted (Timeline.zero.admitAll (first :: rest)) = l at paced pairs after
  rw [List.countP_eq_length_filter]
  have rising : ((l.filter fun x => decide (x.arrival.now - first.now ≤ A)).map fun x =>
      x.arrival.frame.sequence.toNat - first.frame.sequence.toNat).Pairwise (· < ·) := by
    rw [List.pairwise_map]
    apply (pairs.filter _).imp_of_mem
    intro x y here there follows
    have start := after x (List.mem_of_mem_filter here)
    have next := follows.sequence
    omega
  have bounded := length_le_of_rising (b := ((A + 100000000) / 20000000).toNat) rising (by
    intro n member
    obtain ⟨x, listed, rfl⟩ := List.mem_map.mp member
    obtain ⟨here, early⟩ := List.mem_filter.mp listed
    have early : (x.arrival.now - first.now : Int) ≤ A := of_decide_eq_true early
    have start := after x here
    have far : ((x.arrival.frame.sequence.toNat : Int) - first.frame.sequence.toNat) * 20000000 ≤ A + 100000000 :=
      (paced x here).1.trans (Int.add_le_add_right early _)
    omega)
  rw [List.length_map] at bounded
  omega

end

/-- What one timeline makes of any stream whose arrivals are in order. -/
theorem ingress_fenced {arrivals : List Arrival} (ordered : arrivals.Pairwise fun a b => a.now ≤ b.now) :
    ((accepted (Timeline.zero.admitAll arrivals)).Pairwise fun x y =>
      Timeline.Follows x.arrival.frame y.arrival.frame) ∧
    (∀ x ∈ Timeline.zero.admitAll arrivals, ∀ e, x.result = .error e → x.after = x.before) ∧
    (∀ first ∈ arrivals.head?, ∀ x ∈ accepted (Timeline.zero.admitAll arrivals), x.result = .ok false →
      x.arrival.now - first.now - maxLate ≤
          ((x.arrival.frame.sequence.toNat : Int) - first.frame.sequence.toNat) * frameDuration ∧
        ((x.arrival.frame.sequence.toNat : Int) - first.frame.sequence.toNat) * frameDuration ≤
          x.arrival.now - first.now + maxAhead) ∧
    (∀ first ∈ arrivals.head?, ∀ A : Int, 0 ≤ A →
      ((accepted (Timeline.zero.admitAll arrivals)).countP fun x => x.arrival.now - first.now ≤ A : Int) ≤
        (A + maxAhead) / frameDuration + 1) ∧
    ∀ x ∈ Timeline.zero.admitAll arrivals, x.before.started = true →
      x.before.Exact x.arrival.frame x.arrival.now := by
  cases arrivals with
  | nil =>
    refine ⟨.nil, ?_, ?_, ?_, ?_⟩
    · exact fun _ member => absurd member List.not_mem_nil
    · exact fun _ none => absurd none (by simp)
    · exact fun _ none => absurd none (by simp)
    · exact fun _ member => absurd member List.not_mem_nil
  | cons first rest =>
    obtain ⟨ordered, _⟩ := List.pairwise_cons.mp ordered
    refine ⟨accepted_pairwise ordered, ?_, ?_, ?_, ?_⟩
    · intro x member e refused
      rw [admitAll_first] at member
      rcases List.mem_cons.mp member with rfl | later
      · cases refused
      · have reached := Timeline.reached_of_mem (Timeline.sound_first first.frame first.now) ordered x later
        obtain ⟨after, result⟩ := Prod.mk.inj reached.admits
        rw [after]
        exact Timeline.admitFrame_unchanged (result.symm.trans refused)
    · intro first' same x member early
      cases same
      obtain ⟨ahead, late⟩ := accepted_paced ordered x member
      exact ⟨late early, ahead⟩
    · intro first' same A elapsed
      cases same
      exact accepted_count ordered elapsed
    · intro x member started
      rw [admitAll_first] at member
      rcases List.mem_cons.mp member with rfl | later
      · cases started
      · have reached := Timeline.reached_of_mem (Timeline.sound_first first.frame first.now) ordered x later
        exact reached.sound.exact (reached.arrived ▸ reached.ordered)

namespace Plain

def speech (n : Nat) : Frame :=
  ⟨UInt64.ofNat n, UInt32.ofNat (960 * n), UInt64.ofNat (20000000 * n), 1, 1, [0xf8, 0xff, 0xfe]⟩

def mixedArrivals : List Arrival :=
  [⟨speech 0, second⟩, ⟨speech 2, second + 40 * millisecond⟩, ⟨speech 2, second + 60 * millisecond⟩,
    ⟨speech 20, second + 80 * millisecond⟩, ⟨speech 4, 2 * second⟩]

end Plain

theorem ingress_fenced_mixed :
    (Timeline.zero.admitAll Plain.mixedArrivals).map Admission.result =
        [.ok false, .ok false, .error .continuity, .error .future, .ok true] ∧
      (accepted (Timeline.zero.admitAll Plain.mixedArrivals)).Pairwise fun x y =>
        Timeline.Follows x.arrival.frame y.arrival.frame := by
  have ordered : Plain.mixedArrivals.Pairwise fun a b => a.now ≤ b.now := by decide +kernel
  exact ⟨by decide +kernel, (ingress_fenced ordered).1⟩

end Relay.Ingress
