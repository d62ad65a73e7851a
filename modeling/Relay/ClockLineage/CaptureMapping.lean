import Relay.ClockLineage.Timeline
import Relay.Lib.Run
import Relay.Lib.Seqlock
import Relay.Lib.Shared

/-! The capture mapping of a timeline under concurrent calls. Every step is one atomic
operation: any number of calls of `ObserveCapture` and `captureMapping` take turns in any
order. -/
namespace Relay.Capture

structure Cells where
  captureRTPTime : UInt32
  captureNTPTime : UInt64
  captureObservedNs : Int
deriving DecidableEq

inductive Cell where
  | captureRTPTime
  | captureNTPTime
  | captureObservedNs
deriving DecidableEq

def Cells.copy (cell : Cell) (source target : Cells) : Cells :=
  match cell with
  | .captureRTPTime => { target with captureRTPTime := source.captureRTPTime }
  | .captureNTPTime => { target with captureNTPTime := source.captureNTPTime }
  | .captureObservedNs => { target with captureObservedNs := source.captureObservedNs }

def cellOrder : List Cell := [.captureRTPTime, .captureNTPTime, .captureObservedNs]

structure Observation where
  rtpTimestamp : UInt32
  captureTime : Time
  observedAt : Time
deriving DecidableEq

def Observation.written (o : Observation) : Cells :=
  ⟨o.rtpTimestamp, timeToNTP o.captureTime, o.observedAt.unixNano⟩

inductive Observing where
  | loading
  | swapping (version : UInt64)
  /-- The swap succeeded. With no word left the version is stored next. -/
  | storing (version : UInt64) (todo : List Cell)
  | returned
deriving DecidableEq

structure Observer where
  observation : Observation
  stage : Observing
deriving DecidableEq

def Observer.completes : Observer → Option Observation
  | ⟨o, .storing _ []⟩ => some o
  | _ => none

inductive Reader where
  | starting (attempts : Nat)
  | loading (attempts : Nat) (before : UInt64) (loaded : Cells) (todo : List Cell)
  | returned (mapping : Option Cells)
deriving DecidableEq

structure World where
  captureVersion : UInt64
  cells : Cells
  observers : List Observer
  readers : List Reader
deriving DecidableEq

inductive Event where
  | observeCapture (o : Observation)
  | observer (i : Nat)
  | captureMapping
  | reader (k : Nat)
deriving DecidableEq

def maxAttempts : Nat := 4

def Reader.retry (attempts : Nat) : Reader :=
  if attempts + 1 < maxAttempts then .starting (attempts + 1) else .returned none

namespace World

def new : World := ⟨0, ⟨0, 0, 0⟩, [], []⟩

def setStage (w : World) (i : Nat) (o : Observation) (stage : Observing) : World :=
  { w with observers := w.observers.set i ⟨o, stage⟩ }

def observe (w : World) (i : Nat) : Observer → Option World
  | ⟨o, .loading⟩ =>
    if w.captureVersion % 2 ≠ 0 then some (w.setStage i o .loading)
    else some (w.setStage i o (.swapping w.captureVersion))
  | ⟨o, .swapping version⟩ =>
    if w.captureVersion = version then
      some { w.setStage i o (.storing version cellOrder) with captureVersion := version + 1 }
    else some (w.setStage i o .loading)
  | ⟨o, .storing version (cell :: todo)⟩ =>
    some { w.setStage i o (.storing version todo) with cells := Cells.copy cell o.written w.cells }
  | ⟨o, .storing version []⟩ => some { w.setStage i o .returned with captureVersion := version + 2 }
  | ⟨_, .returned⟩ => none

def read (w : World) : Reader → Option Reader
  | .starting attempts =>
    if w.captureVersion = 0 ∨ w.captureVersion % 2 ≠ 0 then some (.retry attempts)
    else some (.loading attempts w.captureVersion ⟨0, 0, 0⟩ cellOrder)
  | .loading attempts before loaded (cell :: todo) =>
    some (.loading attempts before (Cells.copy cell w.cells loaded) todo)
  | .loading attempts before loaded [] =>
    if before = w.captureVersion then some (.returned (some loaded)) else some (.retry attempts)
  | .returned _ => none

def step (w : World) : Event → Option World
  | .observeCapture o => some { w with observers := w.observers ++ [⟨o, .loading⟩] }
  | .observer i => w.observers[i]?.bind (w.observe i)
  | .captureMapping => some { w with readers := w.readers ++ [.starting 0] }
  | .reader k => (w.readers[k]?.bind w.read).map fun r => { w with readers := w.readers.set k r }

def completes (x : Step World Event) : Option Observation :=
  match x.event with
  | .observer i => x.before.observers[i]?.bind Observer.completes
  | _ => none

end World

def completed (h : List (Step World Event)) : List Observation := h.filterMap World.completes

/-! ### One holder at a time -/

def Observer.holds (p : Observer) : Bool :=
  match p.stage with
  | .storing _ _ => true
  | _ => false

def Stands (done : List Observation) (g : Seqlock.Guarded Cells) : Observer → Prop
  | ⟨_, .swapping version⟩ => version % 2 = 0
  | ⟨o, .storing version todo⟩ =>
    g.version = 2 * done.length + 1 ∧ version = .ofNat (2 * done.length) ∧
      Seqlock.transfer Cells.copy o.written todo g.record = o.written
  | _ => True

/-- The words and how often the version has moved: twice for every observation completed, and
once more while one of them is written. -/
structure Sound (done : List Observation) (w : World) (g : Seqlock.Guarded Cells) : Prop where
  version : w.captureVersion = .ofNat g.version
  record : g.record = w.cells
  each : ∀ (j : Nat) (p : Observer), w.observers[j]? = some p → Stands done g p
  alone : ∀ (i j : Nat) (p q : Observer), w.observers[i]? = some p → w.observers[j]? = some q →
    p.holds = true → q.holds = true → i = j
  last : g.version = 2 * done.length + 1 ∨ g.version = 2 * done.length ∧ ∀ o ∈ done.getLast?, w.cells = o.written

variable {done done' : List Observation} {w w' : World} {g g' : Seqlock.Guarded Cells} {i k : Nat} {o : Observation}
  {p : Observer} {stage stage' : Observing}

theorem transfer_cellOrder (source target : Cells) : Seqlock.transfer Cells.copy source cellOrder target = source :=
  rfl

theorem Stands.idle (stands : Stands done g p) (idle : p.holds = false) : Stands done' g' p := by
  obtain ⟨o, stage⟩ := p
  cases stage with
  | storing => cases idle
  | swapping => exact stands
  | loading | returned => trivial

theorem Stands.outside (stands : Stands done g p) (even : g.version ≠ 2 * done.length + 1) : p.holds = false := by
  obtain ⟨o, stage⟩ := p
  cases stage with
  | storing => exact absurd stands.1 even
  | loading | swapping | returned => rfl

namespace Sound

theorem new : Sound [] World.new ⟨0, ⟨0, 0, 0⟩⟩ where
  version := rfl
  record := rfl
  each := fun _ _ there => by cases there
  alone := fun _ _ _ _ there => by cases there
  last := .inr ⟨rfl, fun _ none => by cases none⟩

section

variable (sound : Sound done w g)

include sound

theorem proceed {version : UInt64} {cells : Cells}
    (others : ∀ (j : Nat) (p : Observer), j ≠ i → w.observers[j]? = some p →
      Stands done' g' p ∧ (Observer.holds ⟨o, stage⟩ = true → p.holds = false)) (own : Stands done' g' ⟨o, stage⟩)
    (shown : version = .ofNat g'.version) (same : g'.record = cells)
    (last : g'.version = 2 * done'.length + 1 ∨ g'.version = 2 * done'.length ∧ ∀ o ∈ done'.getLast?, cells = o.written) :
    Sound done' { w with captureVersion := version, cells := cells, observers := w.observers.set i ⟨o, stage⟩ } g' where
  version := shown
  record := same
  each j p there := by
    rcases Objects.getElem?_set_some there with ⟨_, rfl⟩ | ⟨other, old⟩
    · exact own
    · exact (others j p other old).1
  alone j k p q at_j at_k first second := by
    rcases Objects.getElem?_set_some at_j with ⟨rfl, rfl⟩ | ⟨other, old⟩ <;>
      rcases Objects.getElem?_set_some at_k with ⟨rfl, rfl⟩ | ⟨other', old'⟩
    · rfl
    · rw [(others k q other' old').2 first] at second
      cases second
    · rw [(others j p other old).2 second] at first
      cases first
    · exact sound.alone j k p q old old' first second
  last := last

theorem restage (outside : Observer.holds ⟨o, stage⟩ = false) (own : Stands done g ⟨o, stage⟩) :
    Sound done (w.setStage i o stage) g := by
  refine sound.proceed (fun j p _ there => ⟨sound.each j p there, ?_⟩) own sound.version sound.record sound.last
  rw [outside]
  exact nofun

theorem observe (here : w.observers[i]? = some ⟨o, stage⟩) (taken : w.observe i ⟨o, stage⟩ = some w') :
    ∃ g', Seqlock.Move g g' ∧ Sound (done ++ (Observer.completes ⟨o, stage⟩).toList) w' g' := by
  cases stage with
  | loading =>
    simp only [World.observe] at taken
    simp only [Observer.completes, Option.toList_none, List.append_nil]
    split at taken
    · cases taken
      exact ⟨g, .stay, sound.restage rfl trivial⟩
    · rename_i even
      cases taken
      exact ⟨g, .stay, sound.restage rfl (not_not.mp even)⟩
  | swapping version =>
    simp only [World.observe] at taken
    simp only [Observer.completes, Option.toList_none, List.append_nil]
    split at taken
    · rename_i found
      cases taken
      subst found
      -- the version is free when an even one is found
      have even : w.captureVersion % 2 = 0 := sound.each i _ here
      rw [sound.version, UInt64.ofNat_even_iff] at even
      obtain ⟨free, _⟩ := sound.last.resolve_left (by omega)
      refine ⟨⟨2 * done.length + 1, g.record⟩, .advance (by omega), sound.proceed (fun j p _ there => ?_) ?_ ?_
        sound.record (.inl rfl)⟩
      · have outside := (sound.each j p there).outside (by omega)
        exact ⟨(sound.each j p there).idle outside, fun _ => outside⟩
      · exact ⟨rfl, free ▸ sound.version, transfer_cellOrder _ _⟩
      · rw [sound.version, free, UInt64.ofNat_add]
        rfl
    · cases taken
      exact ⟨g, .stay, sound.restage rfl trivial⟩
  | storing version todo =>
    obtain ⟨odd, rfl, writes⟩ : g.version = 2 * done.length + 1 ∧ version = .ofNat (2 * done.length) ∧ _ :=
      sound.each i _ here
    have others (j : Nat) (p : Observer) (other : j ≠ i) (there : w.observers[j]? = some p) : p.holds = false := by
      by_contra holds
      exact other (sound.alone j i p _ there here (Bool.eq_true_of_not_eq_false holds) rfl)
    have idle {done' : List Observation} {g' : Seqlock.Guarded Cells} (j : Nat) (p : Observer) (other : j ≠ i)
        (there : w.observers[j]? = some p) : Stands done' g' p :=
      (sound.each j p there).idle (others j p other there)
    cases todo with
    | nil =>
      cases taken
      have more : (done ++ [o]).length = done.length + 1 := List.length_append
      refine ⟨⟨2 * (done ++ [o]).length, g.record⟩, .advance (by omega), sound.proceed
        (fun j p other there => ⟨idle j p other there, nofun⟩) trivial ?_ sound.record (.inr ⟨rfl, ?_⟩)⟩
      · rw [more, Nat.mul_add, UInt64.ofNat_add]
        rfl
      · intro newest last
        change newest ∈ (done ++ [o]).getLast? at last
        rw [List.getLast?_concat, Option.mem_some_iff] at last
        rw [← last]
        exact sound.record ▸ writes
    | cons cell todo =>
      cases taken
      simp only [Observer.completes, Option.toList_none, List.append_nil]
      rw [← sound.record]
      exact ⟨_, .store (by omega) (Cells.copy cell o.written g.record), sound.proceed
        (fun j p other there => ⟨idle j p other there, fun _ => others j p other there⟩) ⟨odd, rfl, writes⟩
        sound.version rfl (.inl odd)⟩
  | returned => cases taken

theorem join (o : Observation) : Sound done { w with observers := w.observers ++ [⟨o, .loading⟩] } g where
  version := sound.version
  record := sound.record
  each j p there := by
    rcases Objects.getElem?_snoc_some there with ⟨_, rfl⟩ | ⟨_, old⟩
    · trivial
    · exact sound.each j p old
  alone j k p q at_j at_k first second := by
    rcases Objects.getElem?_snoc_some at_j with ⟨_, rfl⟩ | ⟨_, old⟩
    · cases first
    · rcases Objects.getElem?_snoc_some at_k with ⟨_, rfl⟩ | ⟨_, old'⟩
      · cases second
      · exact sound.alone j k p q old old' first second
  last := sound.last

theorem reread (readers : List Reader) : Sound done { w with readers := readers } g :=
  ⟨sound.version, sound.record, sound.each, sound.alone, sound.last⟩

theorem step {e : Event} (taken : w.step e = some w') :
    ∃ g', Seqlock.Move g g' ∧ Sound (done ++ (World.completes ⟨w, e, w'⟩).toList) w' g' := by
  cases e with
  | observeCapture o =>
    cases taken
    simp only [World.completes, Option.toList_none, List.append_nil]
    exact ⟨g, .stay, sound.join o⟩
  | observer i =>
    obtain ⟨⟨o, stage⟩, here, moved⟩ := Option.bind_eq_some_iff.mp taken
    simp only [World.completes, here, Option.bind_some]
    exact sound.observe here moved
  | captureMapping =>
    cases taken
    simp only [World.completes, Option.toList_none, List.append_nil]
    exact ⟨g, .stay, sound.reread _⟩
  | reader k =>
    obtain ⟨r, _, rfl⟩ := Option.map_eq_some_iff.mp taken
    simp only [World.completes, Option.toList_none, List.append_nil]
    exact ⟨g, .stay, sound.reread _⟩

end

end Sound

/-! ### One call of `captureMapping` -/

variable {floor : Nat} {r r' : Reader} {e : Event}

def Reads (floor : Nat) (done : List Observation) (g : Seqlock.Guarded Cells) : Reader → Prop
  | .starting _ => floor ≤ done.length
  | .loading _ before loaded todo =>
    ∃ version, before = .ofNat version ∧ before ≠ 0 ∧ 2 * floor ≤ version ∧
      Seqlock.Consistent Cells.copy ⟨version, loaded, todo⟩ g
  | .returned none => True
  | .returned (some mapping) =>
    done.length < 2 ^ 63 →
      ∃ (n : Nat) (o : Observation), done[n]? = some o ∧ mapping = o.written ∧ floor ≤ n + 1

namespace Reads

theorem move (reads : Reads floor done g r) (moved : Seqlock.Move g g') (more : List Observation) :
    Reads floor (done ++ more) g' r := by
  have grown : done.length ≤ (done ++ more).length := by simp
  cases r with
  | starting => exact le_trans reads grown
  | loading =>
    obtain ⟨version, same, used, above, consistent⟩ := reads
    exact ⟨version, same, used, above, consistent.move moved⟩
  | returned mapping =>
    cases mapping with
    | none => exact trivial
    | some mapping =>
      intro few
      obtain ⟨n, o, there, written, above⟩ := reads (lt_of_le_of_lt grown few)
      refine ⟨n, o, ?_, written, above⟩
      rw [List.getElem?_append_left (List.getElem?_eq_some_iff.mp there).1]
      exact there

theorem retry (attempts : Nat) (above : floor ≤ done.length) : Reads floor done g (.retry attempts) := by
  unfold Reader.retry
  split
  · exact above
  · exact trivial

theorem unchanged (sound : Sound done w g) (few : done.length < 2 ^ 63) {version : Nat} {loaded : Cells}
    (consistent : Seqlock.Consistent Cells.copy ⟨version, loaded, []⟩ g)
    (again : UInt64.ofNat version = w.captureVersion) (used : UInt64.ofNat version ≠ 0) :
    version = 2 * done.length ∧ ∃ o, done.getLast? = some o ∧ loaded = o.written := by
  have even : version % 2 = 0 := consistent.even
  have met : version ≤ g.version := consistent.met
  have same : g.version = version := by
    have last := sound.last
    rw [sound.version, UInt64.ofNat_eq_ofNat_iff] at again
    omega
  obtain ⟨settled, last⟩ := sound.last.resolve_left (by omega)
  refine ⟨same.symm.trans settled, ?_⟩
  cases newest : done.getLast? with
  | none =>
    rw [List.getLast?_eq_none_iff] at newest
    rw [← same, settled, newest] at used
    exact absurd rfl used
  | some o => exact ⟨o, rfl, (consistent.record_eq same).trans (sound.record.trans (last o newest))⟩

theorem read (sound : Sound done w g) (reads : Reads floor done g r) (taken : w.read r = some r') :
    Reads floor done g r' := by
  have last := sound.last
  cases r with
  | starting attempts =>
    change floor ≤ done.length at reads
    simp only [World.read] at taken
    split at taken
    · cases taken
      exact retry attempts reads
    · rename_i settled
      cases taken
      rw [not_or, not_not, sound.version, UInt64.ofNat_even_iff] at settled
      rw [sound.version]
      exact ⟨g.version, rfl, settled.1, by omega, .start transfer_cellOrder settled.2 _⟩
  | loading attempts before loaded todo =>
    obtain ⟨seen, same, used, above, consistent⟩ := reads
    have met : seen ≤ g.version := consistent.met
    cases todo with
    | cons cell todo =>
      cases taken
      rw [← sound.record]
      exact ⟨seen, same, used, above, consistent.load⟩
    | nil =>
      simp only [World.read] at taken
      split at taken
      · rename_i again
        cases taken
        intro few
        subst same
        obtain ⟨last, o, newest, copied⟩ := unchanged sound few consistent again used
        rw [List.getLast?_eq_getElem?] at newest
        exact ⟨done.length - 1, o, newest, copied, by omega⟩
      · cases taken
        exact retry attempts (by omega)
  | returned => cases taken

end Reads

theorem World.observe_readers (moved : w.observe i p = some w') : w'.readers = w.readers := by
  unfold World.observe at moved
  repeat' split at moved
  all_goals
    cases moved
    try rfl

theorem World.step_readers (taken : w.step e = some w') (other : e ≠ .reader k) (there : w.readers[k]? = some r) :
    w'.readers[k]? = some r := by
  cases e with
  | observeCapture o =>
    cases taken
    exact there
  | observer i =>
    obtain ⟨p, _, moved⟩ := Option.bind_eq_some_iff.mp taken
    rw [World.observe_readers moved]
    exact there
  | captureMapping =>
    cases taken
    exact Objects.getElem?_snoc_of_some there
  | reader j =>
    obtain ⟨_, _, rfl⟩ := Option.map_eq_some_iff.mp taken
    have apart : j ≠ k := fun same => other (congrArg Event.reader same)
    exact (List.getElem?_set_ne apart).trans there

def Follows (floor k : Nat) (done : List Observation) (w : World) : Prop :=
  ∃ g, Sound done w g ∧ ∃ r, w.readers[k]? = some r ∧ Reads floor done g r

theorem Follows.step (follows : Follows floor k done w) (taken : w.step e = some w') :
    Follows floor k (done ++ (World.completes ⟨w, e, w'⟩).toList) w' := by
  obtain ⟨g, sound, r, there, reads⟩ := follows
  by_cases own : e = .reader k
  · subst own
    obtain ⟨r', read, rfl⟩ := Option.map_eq_some_iff.mp taken
    rw [there, Option.bind_some] at read
    simp only [World.completes, Option.toList_none, List.append_nil]
    exact ⟨g, sound.reread _, r', List.getElem?_set_self (List.getElem?_eq_some_iff.mp there).1, reads.read sound read⟩
  · obtain ⟨g', moved, sound'⟩ := sound.step taken
    exact ⟨g', sound', r, World.step_readers taken own there, reads.move moved _⟩

theorem sound_of_run {h : List (Step World Event)} (run : Exec (Machine.Moves World.step) World.new h w) :
    ∃ g, Sound (completed h) w g := by
  refine run.collected (g := []) (I := fun done w => ∃ g, Sound done w g) ?_ ⟨_, .new⟩
  rintro done w e w' ⟨g, sound⟩ taken
  obtain ⟨g', _, sound'⟩ := sound.step taken
  exact ⟨g', sound'⟩

/-- The mapping that a call of `captureMapping` returns was written by one call of
`ObserveCapture`, and by none older than the last one completed before the call. -/
theorem captureMapping_untorn {h : List (Step World Event)}
    (run : Exec (Machine.Moves World.step) World.new h w) (few : (completed h).length < 2 ^ 63)
    {before after : List (Step World Event)} {x : Step World Event} (split : h = before ++ x :: after)
    (called : x.event = .captureMapping) {mapping : Cells}
    (returned : w.readers[x.before.readers.length]? = some (.returned (some mapping))) :
    ∃ (n : Nat) (o : Observation), (completed h)[n]? = some o ∧
      mapping = ⟨o.rtpTimestamp, timeToNTP o.captureTime, o.observedAt.unixNano⟩ ∧
      (completed before).length ≤ n + 1 := by
  subst split
  obtain ⟨first, taken, rest⟩ := run.split_step
  obtain ⟨g, sound⟩ := sound_of_run first
  have started : Follows (completed before).length x.before.readers.length (completed before) x.after := by
    unfold Machine.Moves at taken
    rw [called] at taken
    rw [← Option.some.inj taken]
    exact ⟨g, sound.reread _, .starting 0, List.getElem?_concat_length, le_refl _⟩
  have nothing : World.completes x = none := by
    unfold World.completes
    rw [called]
  have whole : completed (before ++ x :: after) = completed before ++ completed after := by
    unfold completed
    rw [List.filterMap_append, List.filterMap_cons_none nothing]
  obtain ⟨g', _, r, there, reads⟩ := rest.collected (I := Follows _ _) (fun follows => follows.step) started
  obtain rfl := Option.some.inj (there.symm.trans returned)
  rw [whole] at few ⊢
  exact reads few

def observationOf (n : Nat) : Observation := ⟨.ofNat n, ntpEpoch + n * second, ntpEpoch + n⟩

def observed : List Event :=
  [.observeCapture (observationOf 1), .observeCapture (observationOf 2), .observeCapture (observationOf 3),
    .observer 0, .observer 0, .observer 0, .observer 0, .observer 0, .observer 0]

def contended : List Event :=
  [.reader 0, .reader 0, .observer 1, .observer 1, .observer 1, .observer 1, .reader 0, .observer 2, .observer 1,
    .observer 1, .reader 0, .reader 0, .observer 2, .reader 0, .reader 0, .reader 0, .reader 0, .reader 0, .observer 2]

def historyOf (events : List Event) : List (Step World Event) := Machine.trail World.step World.new events

def after (events : List Event) : World := Machine.final World.step World.new events

theorem contended_run :
    Machine.allows World.step World.new (observed ++ .captureMapping :: contended) = true ∧
      (completed (historyOf (observed ++ .captureMapping :: contended))).length < 2 ^ 63 ∧
      (after (observed ++ .captureMapping :: contended)).readers[(after observed).readers.length]? =
        some (.returned (some (observationOf 2).written)) := by
  decide +kernel

theorem captureMapping_untorn_contended :
    ∃ (n : Nat) (o : Observation),
      (completed (historyOf (observed ++ .captureMapping :: contended)))[n]? = some o ∧
      (observationOf 2).written = ⟨o.rtpTimestamp, timeToNTP o.captureTime, o.observedAt.unixNano⟩ ∧
      (completed (historyOf observed)).length ≤ n + 1 :=
  captureMapping_untorn (Machine.exec_of_allows contended_run.1) contended_run.2.1
    (Machine.trail_split contended_run.1) rfl contended_run.2.2

/-! ### A call on its own

Where no other call takes a step in between, the operations make up what the functions of
`Timeline` do at once. -/

def World.Shows (w : World) (t : Timeline) : Prop :=
  w.captureVersion = .ofNat t.captureVersion ∧ w.cells = ⟨t.captureRTPTime, t.captureNTPTime, t.captureObservedNs⟩

namespace World

theorem observe_alone (w : World) (free : w.captureVersion % 2 = 0) (o : Observation) :
    ∃ h, Exec (Machine.Moves World.step) w h
      { w with captureVersion := w.captureVersion + 2
               cells := o.written
               observers := w.observers ++ [⟨o, .returned⟩] } := by
  apply Machine.exec_of_foldlM (.observeCapture o :: List.replicate 6 (.observer w.observers.length))
  simp [List.replicate, World.step, World.observe, World.setStage, free, cellOrder, Cells.copy]

theorem map_alone (w : World) :
    ∃ h, Exec (Machine.Moves World.step) w h
      { w with readers := w.readers ++
        [.returned (if w.captureVersion = 0 ∨ w.captureVersion % 2 ≠ 0 then none else some w.cells)] } := by
  by_cases early : w.captureVersion = 0 ∨ w.captureVersion % 2 ≠ 0
  · apply Machine.exec_of_foldlM (.captureMapping :: List.replicate 4 (.reader w.readers.length))
    simp [List.replicate, World.step, World.read, early, Reader.retry, maxAttempts]
  · apply Machine.exec_of_foldlM (.captureMapping :: List.replicate 5 (.reader w.readers.length))
    simp [List.replicate, World.step, World.read, early, cellOrder, Cells.copy]

end World

theorem observeCapture_alone {t t' : Timeline} (shows : w.Shows t)
    (observed : t.observeCapture o.rtpTimestamp o.captureTime o.observedAt = some t') :
    ∃ h w', Exec (Machine.Moves World.step) w h w' ∧ w'.Shows t' := by
  obtain ⟨version, words⟩ := shows
  unfold Timeline.observeCapture at observed
  split at observed
  case isFalse => cases observed
  case isTrue free =>
    rw [← UInt64.ofNat_even_iff, ← version] at free
    obtain ⟨h, run⟩ := w.observe_alone free o
    refine ⟨h, _, run, ?_⟩
    rw [← Option.some.inj observed]
    refine ⟨?_, rfl⟩
    change w.captureVersion + 2 = UInt64.ofNat (t.captureVersion + 2)
    rw [version, UInt64.ofNat_add]
    rfl

theorem captureMapping_alone {t : Timeline} (shows : w.Shows t) (fits : t.captureVersion < 2 ^ 64) :
    ∃ h, Exec (Machine.Moves World.step) w h
      { w with readers := w.readers ++
        [.returned (t.captureMapping.map fun mapping => ⟨mapping.1, mapping.2.1, mapping.2.2⟩)] } := by
  obtain ⟨version, words⟩ := shows
  have zero : UInt64.ofNat t.captureVersion = 0 ↔ t.captureVersion = 0 := by
    rw [show (0 : UInt64) = UInt64.ofNat 0 from rfl, UInt64.ofNat_eq_ofNat_iff]
    omega
  have early : (w.captureVersion = 0 ∨ w.captureVersion % 2 ≠ 0) ↔
      (t.captureVersion = 0 ∨ t.captureVersion % 2 ≠ 0) := by
    rw [version, zero, ne_eq, UInt64.ofNat_even_iff]
  obtain ⟨h, run⟩ := w.map_alone
  refine ⟨h, ?_⟩
  unfold Timeline.captureMapping
  split
  · rename_i unsettled
    rwa [if_pos (early.mpr unsettled)] at run
  · rename_i settled
    rw [if_neg (mt early.mp settled)] at run
    rw [Option.map_some, ← words]
    exact run

end Relay.Capture
