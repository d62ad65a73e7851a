import Relay.Server.MediaWriter

/-! Takeover between media processes. While a Session is not known to be gone, every attempt
of one process expects the same term, however often it is retried, and only one acquisition
with that expectation can succeed. -/
namespace Relay

namespace MediaProcess

def Owns (p : MediaProcess) (writer : Nat) (id : String) : Prop :=
  ∃ w, p.heap[writer]? = some w ∧ w.sessionID = id

def Fits (p : MediaProcess) : Task → Prop
  | .asking _ id call => call.inquiry.sessionID = id
  | .acquiring id writer call => call.inquiry.sessionID = id ∧ p.Owns writer id
  | .looked id _ writer => p.Owns writer id
  | .pushing id call => call.inquiry.sessionID = id
  | _ => True

structure Tidy (gone : String → Prop) (p : MediaProcess) : Prop where
  uniform : ∀ w ∈ p.heap, ∀ w' ∈ p.heap, w.sessionID = w'.sessionID → ¬ gone w.sessionID →
    w.expected = w'.expected
  registered : ∀ w ∈ p.heap, ¬ gone w.sessionID → ∃ writer, p.mediaWriters.lookup w.sessionID = some writer
  entries : ∀ {id writer}, p.mediaWriters.lookup id = some writer → p.Owns writer id
  absent : ∀ w ∈ p.heap, w.err = some .notFound → gone w.sessionID
  fits : ∀ i, p.Fits (p.tasks i)

def Extends (p p' : MediaProcess) : Prop :=
  ∀ (writer : Nat) (w : MediaWriter), p.heap[writer]? = some w →
    ∃ w' : MediaWriter, p'.heap[writer]? = some w' ∧ w'.sessionID = w.sessionID ∧ w'.expected = w.expected

variable {gone gone' : String → Prop} {p p' : MediaProcess} {id : String} {writer i : Nat}

theorem tidy_start (maxRooms : Nat) : (start maxRooms).Tidy gone := by
  constructor <;> simp [start, Fits]

theorem Tidy.mono (tidy : p.Tidy gone) (more : ∀ id, gone id → gone' id) : p.Tidy gone' where
  uniform w member w' member' same live := tidy.uniform w member w' member' same fun g => live (more _ g)
  registered w member live := tidy.registered w member fun g => live (more _ g)
  entries := tidy.entries
  absent w member failed := more _ (tidy.absent w member failed)
  fits := tidy.fits

theorem Extends.owns (grown : p.Extends p') (owns : p.Owns writer id) : p'.Owns writer id := by
  obtain ⟨w, found, rfl⟩ := owns
  obtain ⟨w', found', same, _⟩ := grown writer w found
  exact ⟨w', found', same⟩

variable {calls : List Call} {task : Task} {expected : Nat} {outcome : Except Failure Nat}

theorem Extends.fits (grown : p.Extends p') (fits : p.Fits task) : p'.Fits task := by
  cases task with
  | acquiring id writer call => exact ⟨fits.1, grown.owns fits.2⟩
  | looked id snapshot writer => exact grown.owns fits
  | asking admitting id call => exact fits
  | pushing id call => exact fits
  | idle => trivial
  | holding metadata => trivial
  | waiting metadata writer => trivial

theorem Extends.refl (p : MediaProcess) : p.Extends p := fun _ w found => ⟨w, found, rfl, rfl⟩

theorem extends_register (p : MediaProcess) (id : String) (expected : Nat) :
    p.Extends (p.register id expected) := by
  intro writer w found
  have bound : writer < p.heap.length := (List.getElem?_eq_some_iff.mp found).1
  refine ⟨w, ?_, rfl, rfl⟩
  simp only [register]
  rw [List.getElem?_append_left bound]
  exact found

theorem owns_register (p : MediaProcess) (id : String) (expected : Nat) :
    (p.register id expected).Owns p.heap.length id := by
  simp [Owns, register]

theorem Tidy.register (tidy : p.Tidy gone) (same : ∀ w ∈ p.heap, w.sessionID = id → ¬ gone id → w.expected = expected) :
    (p.register id expected).Tidy gone := by
  have grown := p.extends_register id expected
  constructor
  · intro w member w' member' session live
    simp only [MediaProcess.register, List.mem_append, List.mem_singleton] at member member'
    rcases member with member | rfl
    · rcases member' with member' | rfl
      · exact tidy.uniform w member w' member' session live
      · have own : w.sessionID = id := session
        exact same w member own (own ▸ live)
    · rcases member' with member' | rfl
      · exact (same w' member' session.symm live).symm
      · rfl
  · intro w member live
    by_cases here : w.sessionID = id
    · subst here
      exact ⟨p.heap.length, AList.lookup_insert _⟩
    · simp only [MediaProcess.register, List.mem_append, List.mem_singleton] at member
      rcases member with member | rfl
      · obtain ⟨writer, found⟩ := tidy.registered w member live
        refine ⟨writer, ?_⟩
        simp only [MediaProcess.register]
        rw [AList.lookup_insert_ne here]
        exact found
      · exact absurd rfl here
  · intro k writer found
    by_cases here : k = id
    · subst here
      simp only [MediaProcess.register, AList.lookup_insert, Option.some.injEq] at found
      subst found
      exact p.owns_register k expected
    · simp only [MediaProcess.register] at found
      rw [AList.lookup_insert_ne here] at found
      exact grown.owns (tidy.entries found)
  · intro w member failed
    simp only [MediaProcess.register, List.mem_append, List.mem_singleton] at member
    rcases member with member | rfl
    · exact tidy.absent w member failed
    · cases failed
  · intro i
    exact grown.fits (tidy.fits i)

theorem Tidy.forget (tidy : p.Tidy gone) (dead : gone id) : (p.forget id).Tidy gone where
  uniform := tidy.uniform
  registered w member live := by
    obtain ⟨writer, found⟩ := tidy.registered w member live
    refine ⟨writer, Table.lookup_erase_some.mpr ⟨?_, found⟩⟩
    intro same
    exact live (same ▸ dead)
  entries found := tidy.entries (Table.lookup_erase_some.mp found).2
  absent := tidy.absent
  fits i := (Extends.refl p).fits (tidy.fits i)

theorem heap_settle {k : Nat} {w : MediaWriter} (found : (p.settle writer outcome).heap[k]? = some w) :
    ∃ old : MediaWriter, p.heap[k]? = some old ∧ w.sessionID = old.sessionID ∧
      w.expected = old.expected ∧
      (w.err = old.err ∨ (k = writer ∧ (w.err = some .notFound → outcome = .error .notFound))) := by
  simp only [settle, List.getElem?_modify, Option.map_eq_map, Option.map_eq_some_iff] at found
  obtain ⟨old, stored, rfl⟩ := found
  refine ⟨old, stored, ?_⟩
  by_cases here : writer = k
  · cases outcome with
    | ok term => simp [here]
    | error e => simp [here]
  · simp [here]

theorem extends_settle (p : MediaProcess) (writer : Nat) (outcome : Except Failure Nat) :
    p.Extends (p.settle writer outcome) := by
  intro k w found
  have there : (p.settle writer outcome).heap[k]?.isSome := by
    simp [settle, List.getElem?_modify, found]
  obtain ⟨w', found'⟩ := Option.isSome_iff_exists.mp there
  obtain ⟨old, stored, session, expected, _⟩ := heap_settle found'
  rw [found] at stored
  cases stored
  exact ⟨w', found', session, expected⟩

theorem Tidy.settle (tidy : p.Tidy gone) (owns : p.Owns writer id) (dead : outcome = .error .notFound → gone id) :
    (p.settle writer outcome).Tidy gone := by
  have grown := p.extends_settle writer outcome
  -- every writer of the new heap is an old one, but for its outcome
  have origin : ∀ w ∈ (p.settle writer outcome).heap, ∃ old ∈ p.heap,
      w.sessionID = old.sessionID ∧ w.expected = old.expected ∧
      (w.err = some .notFound → gone old.sessionID) := by
    intro w member
    obtain ⟨k, found⟩ := List.getElem?_of_mem member
    obtain ⟨old, stored, session, expected, failed⟩ := heap_settle found
    refine ⟨old, List.mem_of_getElem? stored, session, expected, ?_⟩
    intro missing
    rcases failed with same | ⟨rfl, cause⟩
    · exact tidy.absent old (List.mem_of_getElem? stored) (same ▸ missing)
    · obtain ⟨w', found', own⟩ := owns
      rw [stored] at found'
      cases found'
      rw [own]
      exact dead (cause missing)
  constructor
  · intro w member w' member' same live
    obtain ⟨old, stored, session, expected, _⟩ := origin w member
    obtain ⟨old', stored', session', expected', _⟩ := origin w' member'
    rw [expected, expected']
    apply tidy.uniform old stored old' stored'
    · rw [← session, ← session', same]
    · rw [← session]
      exact live
  · intro w member live
    obtain ⟨old, stored, session, _, _⟩ := origin w member
    rw [session] at live ⊢
    exact tidy.registered old stored live
  · intro k writer found
    exact grown.owns (tidy.entries found)
  · intro w member missing
    obtain ⟨old, _, session, _, failed⟩ := origin w member
    rw [session]
    exact failed missing
  · intro i
    exact grown.fits (tidy.fits i)

theorem Tidy.setTask (tidy : p.Tidy gone) (fits : p.Fits task) :
    (p.setTask i task).Tidy gone where
  uniform := tidy.uniform
  registered := tidy.registered
  entries := tidy.entries
  absent := tidy.absent
  fits k := by
    have same : ∀ t, p.Fits t → (p.setTask i task).Fits t := fun t => (Extends.refl p).fits
    apply same
    by_cases here : k = i
    · subst here
      simpa [MediaProcess.setTask] using fits
    · simpa [MediaProcess.setTask, here] using tidy.fits k

structure Progress (gone : String → Prop) (epoch : String) (p p' : MediaProcess) (calls : List Call) :
    Prop where
  tidy : p'.Tidy gone
  grown : p.Extends p'
  backed : ∀ call ∈ calls, ∀ id epoch' expected, call.inquiry = .acquire id epoch' expected →
    epoch' = epoch ∧ ∃ w ∈ p'.heap, w.sessionID = id ∧ w.expected = expected

variable {epoch : String}

theorem Progress.quiet (tidy : p.Tidy gone) (fits : p.Fits task) : Progress gone epoch p (p.setTask i task) [] :=
  ⟨tidy.setTask fits, Extends.refl p, by simp⟩

theorem Progress.forget (tidy : p.Tidy gone) (dead : gone id) :
    Progress gone epoch p ((p.forget id).setTask i .idle) [] :=
  ⟨(tidy.forget dead).setTask trivial, Extends.refl p, by simp⟩

theorem Progress.settle (tidy : p.Tidy gone) (owns : p.Owns writer id) (dead : outcome = .error .notFound → gone id) :
    Progress gone epoch p ((p.settle writer outcome).setTask i .idle) [] :=
  ⟨(tidy.settle owns dead).setTask trivial, p.extends_settle writer outcome, by simp⟩

theorem Progress.send {inquiry : Inquiry} {wait : Call → Task} (tidy : p'.Tidy gone)
    (grown : p.Extends p') (fits : ∀ call, call.inquiry = inquiry → p'.Fits (wait call))
    (backed : ∀ id epoch' expected, inquiry = .acquire id epoch' expected →
      epoch' = epoch ∧ ∃ w ∈ p'.heap, w.sessionID = id ∧ w.expected = expected) :
    Progress gone epoch p (p'.send epoch i inquiry wait).1 (p'.send epoch i inquiry wait).2 := by
  have counted : { p' with tickets := p'.tickets + 1 }.Tidy gone :=
    ⟨tidy.uniform, tidy.registered, tidy.entries, tidy.absent,
      fun k => (Extends.refl p').fits (tidy.fits k)⟩
  refine ⟨counted.setTask ((Extends.refl p').fits (fits _ rfl)), grown, ?_⟩
  intro call member id epoch' expected asked
  rw [List.mem_singleton.mp member] at asked
  exact backed id epoch' expected asked

inductive Admitted (gone : String → Prop) (p : MediaProcess) (id : String) :
    MediaProcess × Admission → Prop
  | refused : Admitted gone p id (p, .refused)
  | wait (writer : Nat) : Admitted gone p id (p, .wait writer)
  | acquire (p' : MediaProcess) (writer expected : Nat) :
    p'.Tidy gone → p.Extends p' → p'.Owns writer id →
    (∃ w ∈ p'.heap, w.sessionID = id ∧ w.expected = expected) →
    Admitted gone p id (p', .acquire writer expected)

section

variable (tidy : p.Tidy gone)

include tidy

theorem admitted_register (same : ∀ w ∈ p.heap, w.sessionID = id → ¬ gone id → w.expected = expected) :
    Admitted gone p id (p.register id expected, .acquire p.heap.length expected) :=
  .acquire _ _ _ (tidy.register same) (p.extends_register id expected) (p.owns_register id expected)
    ⟨_, List.mem_append_right _ (List.mem_singleton.mpr rfl), rfl, rfl⟩

theorem ensureMediaWriter_admitted (metadata : AuthorityMetadata) :
    Admitted gone p metadata.sessionID (p.ensureMediaWriter metadata) := by
  unfold ensureMediaWriter
  split
  · rename_i writer found
    obtain ⟨w, stored, own⟩ := tidy.entries found
    rw [stored]
    dsimp only
    split
    · apply admitted_register tidy
      intro w' member own' live
      apply tidy.uniform w' member w (List.mem_of_getElem? stored)
      · rw [own, own']
      · rw [own']
        exact live
    · exact .wait writer
  · rename_i found
    split
    · exact .refused
    · apply admitted_register tidy
      -- a Session without an entry has no writer yet, unless it is gone
      intro w member own live
      obtain ⟨writer, entry⟩ := tidy.registered w member (own.symm ▸ live)
      rw [own, found] at entry
      cases entry

theorem ask_progress {admitting : Bool} (moved : p.ask epoch i admitting id = some (p', calls)) :
    Progress gone epoch p p' calls := by
  unfold ask at moved
  split at moved
  · cases moved
    apply Progress.send tidy (Extends.refl p)
    · intro call asked
      simp [Fits, asked, Inquiry.sessionID]
    · intro _ _ _ asked
      cases asked
  · cases moved

theorem push_progress {state : RelayState} (moved : p.push epoch i id state = some p') :
    Progress gone epoch p p' [] := by
  unfold push at moved
  split at moved
  · rename_i writer _ found
    cases moved
    exact .quiet tidy (tidy.entries found)
  · cases moved

theorem resume_progress (moved : p.resume epoch i = some (p', calls)) : Progress gone epoch p p' calls := by
  unfold resume at moved
  have fits := tidy.fits i
  cases task : p.tasks i with
  | holding metadata =>
    rw [task] at moved
    have admitted := ensureMediaWriter_admitted tidy metadata
    cases out : p.ensureMediaWriter metadata with
    | mk q admission =>
      rw [out] at admitted
      simp only [out] at moved
      cases admitted with
      | refused | wait writer =>
        cases moved
        exact .quiet tidy trivial
      | acquire _ writer expected tidy' grown owns placed =>
        cases moved
        apply Progress.send tidy' grown
        · intro call asked
          exact ⟨by rw [asked]; rfl, owns⟩
        · intro _ _ _ asked
          cases asked
          exact ⟨rfl, placed⟩
  | waiting metadata writer =>
    rw [task] at moved
    dsimp only at moved
    split at moved
    · cases moved
    · split at moved
      · cases moved
      · split at moved
        · cases moved
          apply Progress.send tidy (Extends.refl p)
          · intro call asked
            simp [Fits, asked, Inquiry.sessionID]
          · intro _ _ _ asked
            cases asked
        · cases moved
          exact .quiet tidy trivial
  | looked id snapshot writer =>
    rw [task] at moved fits
    obtain ⟨w, stored, own⟩ := fits
    simp only [stored] at moved
    split at moved
    · cases moved
      exact .quiet tidy trivial
    · split at moved
      · rename_i missing
        cases moved
        have dead := tidy.absent w (List.mem_of_getElem? stored) missing
        exact .forget tidy (own ▸ dead)
      · cases moved
        exact .quiet tidy trivial
      · cases moved
        apply Progress.send tidy (Extends.refl p)
        · intro call asked
          simp [Fits, asked, Inquiry.sessionID]
        · intro _ _ _ asked
          cases asked
  | idle | asking | acquiring | pushing =>
    rw [task] at moved
    cases moved

theorem receive_progress {outcome : Except Failure Answer}
    (dead : outcome = .error .notFound → ∀ call, (p.tasks i).call = some call → gone call.inquiry.sessionID)
    (moved : p.receive i outcome = some p') : Progress gone epoch p p' [] := by
  unfold receive at moved
  have fits := tidy.fits i
  split at moved
  · rename_i admitting id call metadata task
    cases moved
    apply Progress.quiet tidy
    split <;> trivial
  · rename_i admitting id call task
    rw [task] at fits dead
    cases moved
    have absent : gone id := fits ▸ dead rfl call rfl
    exact .forget tidy absent
  · cases moved
    exact .quiet tidy trivial
  · rename_i id writer call term task
    rw [task] at fits
    cases moved
    exact .settle tidy fits.2 (fun failed => by cases failed)
  · rename_i id writer call answer _ task
    rw [task] at fits
    cases moved
    exact .settle tidy fits.2 (fun failed => by cases failed)
  · rename_i id writer call e task
    rw [task] at fits dead
    cases moved
    apply Progress.settle tidy fits.2
    intro failed
    cases failed
    exact fits.1 ▸ dead rfl call rfl
  · rename_i id call task
    rw [task] at fits dead
    cases moved
    have absent : gone id := fits ▸ dead rfl call rfl
    exact .forget tidy absent
  · cases moved
    exact .quiet tidy trivial
  · cases moved

theorem giveUp_progress (moved : p.giveUp i = some p') : Progress gone epoch p p' [] := by
  unfold giveUp at moved
  split at moved
  · cases moved
    exact .quiet tidy trivial
  · exact receive_progress tidy (fun failed => by cases failed) moved

end

end MediaProcess

namespace Cluster

/-- A Session that some media process has asked about and that no service can act on. -/
def Dead (c : Cluster) (id : String) : Prop :=
  (∃ call ∈ c.sent, call.inquiry.sessionID = id) ∧ c.world.store.data.Gone id c.world.clock

inductive Moved (P : Primitives) (c : Cluster) : Label → Cluster → Prop
  | access (e : Event) :
    c.world.Allows e → e.action.acquires = false →
    Moved P c (.access e) { c with world := c.world.next P e }
  | serve (n : Nat) (s : Service) (env : Env) (call : Call) :
    c.sent[n]? = some call → c.world.Allows ⟨env, .call s call.inquiry.request⟩ →
    Moved P c (.serve n s env)
      { c with
        world := c.world.next P ⟨env, .call s call.inquiry.request⟩
        replied := c.replied ++
          [(call, (c.world.exec P ⟨env, .call s call.inquiry.request⟩).reply.mapError Failure.of)] }
  | goroutine (label : Label) (epoch : String) (p : MediaProcess) (calls : List Call) :
    (∀ c', accessStep ⟨c, label, c'⟩ = none) →
    (∀ gone, (c.processes epoch).Tidy gone →
      (∀ call, (call, .error .notFound) ∈ c.replied → gone call.inquiry.sessionID) →
      MediaProcess.Progress gone epoch (c.processes epoch) p calls) →
    Moved P c label (c.setProcess epoch p calls)

variable {P : Primitives} {c c' : Cluster} {label : Label}

theorem step_moved (stepped : c.step P label = some c') : Moved P c label c' := by
  cases label with
  | access e =>
    simp only [step, Option.ite_none_right_eq_some] at stepped
    obtain ⟨⟨allowed, other⟩, result⟩ := stepped
    cases result
    exact .access e allowed other
  | serve n s env =>
    cases sent : c.sent[n]? with
    | none => simp [step, sent] at stepped
    | some call =>
      simp only [step, sent, Option.ite_none_right_eq_some] at stepped
      obtain ⟨allowed, result⟩ := stepped
      cases result
      exact .serve n s env call sent allowed
  | ask epoch i admitting id =>
    simp only [step, Option.map_eq_some_iff] at stepped
    obtain ⟨⟨p, calls⟩, moved, rfl⟩ := stepped
    exact .goroutine _ epoch p calls (fun _ => rfl) fun _ tidy _ => MediaProcess.ask_progress tidy moved
  | push epoch i id state =>
    simp only [step, Option.map_eq_some_iff] at stepped
    obtain ⟨p, moved, rfl⟩ := stepped
    exact .goroutine _ epoch p [] (fun _ => rfl) fun _ tidy _ => MediaProcess.push_progress tidy moved
  | resume epoch i =>
    simp only [step, Option.map_eq_some_iff] at stepped
    obtain ⟨⟨p, calls⟩, moved, rfl⟩ := stepped
    exact .goroutine _ epoch p calls (fun _ => rfl) fun _ tidy _ =>
      MediaProcess.resume_progress tidy moved
  | receive epoch i n =>
    cases replied : c.replied[n]? with
    | none => simp [step, replied] at stepped
    | some reply =>
      obtain ⟨call, outcome⟩ := reply
      simp only [step, replied, Option.ite_none_right_eq_some, Option.map_eq_some_iff] at stepped
      obtain ⟨waits, p, moved, rfl⟩ := stepped
      refine .goroutine _ epoch p [] (fun _ => rfl) fun gone tidy told => ?_
      apply MediaProcess.receive_progress tidy _ moved
      intro absent call' waits'
      rw [waits] at waits'
      cases waits'
      exact told call (absent ▸ List.mem_of_getElem? replied)
  | giveUp epoch i =>
    simp only [step, Option.map_eq_some_iff] at stepped
    obtain ⟨p, moved, rfl⟩ := stepped
    exact .goroutine _ epoch p [] (fun _ => rfl) fun _ tidy _ => MediaProcess.giveUp_progress tidy moved

end Cluster

theorem accessSteps_snoc (h : ClusterHistory) (x : Step Cluster Label) :
    accessSteps (h ++ [x]) = accessSteps h ++ (accessStep x).toList := by
  cases here : accessStep x <;> simp [accessSteps, here]

variable {maxRooms : String → Nat} {P : Primitives} {h : ClusterHistory} {c : Cluster}

theorem accessStep_serve {c' : Cluster} {n : Nat} {s : Service} {env : Env} {call : Call}
    (sent : c.sent[n]? = some call) : accessStep ⟨c, .serve n s env, c'⟩ =
      some ⟨c.world, ⟨env, .call s call.inquiry.request⟩, c'.world⟩ := by
  simp only [accessStep, sent]
  rfl

theorem access_runs (run : ClusterRuns P maxRooms h c) : Runs P (accessSteps h) c.world := by
  induction run with
  | nil => exact .nil
  | @snoc h c c' label before moved ih =>
    rw [accessSteps_snoc]
    cases Cluster.step_moved moved with
    | access e allowed _ => exact .snoc ih allowed.moves
    | serve n s env call sent allowed =>
      simp only [accessStep, sent]
      exact .snoc ih allowed.moves
    | goroutine _ epoch p calls silent _ =>
      rw [silent, Option.toList, List.append_nil]
      exact ih

/-- An identifier that a service draws is new: it was not drawn before, and no media
process has asked about it. -/
structure NewIDs (P : Primitives) (h : ClusterHistory) : Prop where
  unrepeated : Unrepeated P (accessSteps h)
  unasked : ∀ x ∈ h, ∀ y ∈ accessStep x, ∀ id ∈ (ran P y).drawn, ∀ call ∈ x.before.sent,
    call.inquiry.sessionID ≠ id

theorem NewIDs.early {x : Step Cluster Label} (new : NewIDs P (h ++ [x])) : NewIDs P h where
  unrepeated := by
    have whole := new.unrepeated
    rw [accessSteps_snoc] at whole
    exact whole.early
  unasked y member := new.unasked y (List.mem_append_left _ member)

structure Cluster.Safe (P : Primitives) (h : ClusterHistory) (c : Cluster) : Prop where
  tidy : ∀ epoch, (c.processes epoch).Tidy c.Dead
  backed : ∀ call ∈ c.sent, ∀ id epoch expected, call.inquiry = .acquire id epoch expected →
    ∃ w ∈ (c.processes epoch).heap, w.sessionID = id ∧ w.expected = expected
  told : ∀ call, (call, .error .notFound) ∈ c.replied → c.Dead call.inquiry.sessionID
  placed : ∀ id epoch term, (epoch, term) ∈ placements P id (accessSteps h) →
    ∃ call ∈ c.sent, ∃ expected, call.inquiry = .acquire id epoch expected ∧ term = expected + 1
  single : ∀ id, ((placements P id (accessSteps h)).map Prod.fst).Nodup

namespace Cluster

variable {P : Primitives} {h : ClusterHistory} {c c' : Cluster}

theorem safe_init (P : Primitives) (maxRooms : String → Nat) : Safe P [] (init maxRooms) where
  tidy epoch := MediaProcess.tidy_start _
  backed := by simp [init]
  told := by simp [init]
  placed := by simp [accessSteps, placements]
  single := by simp [accessSteps, placements]

variable {h' : ClusterHistory} {epoch : String}

theorem Safe.of_same (safe : Safe P h c) (same : accessSteps h' = accessSteps h) : Safe P h' c where
  tidy := safe.tidy
  backed := safe.backed
  told := safe.told
  placed := by
    rw [same]
    exact safe.placed
  single := by
    rw [same]
    exact safe.single

theorem Safe.goroutine {p : MediaProcess} {calls : List Call} (safe : Safe P h c)
    (progress : MediaProcess.Progress c.Dead epoch (c.processes epoch) p calls) :
    Safe P h (c.setProcess epoch p calls) := by
  have more : ∀ id, c.Dead id → (c.setProcess epoch p calls).Dead id := by
    rintro id ⟨⟨call, member, about⟩, gone⟩
    exact ⟨⟨call, List.mem_append_left _ member, about⟩, gone⟩
  have self : (c.setProcess epoch p calls).processes epoch = p := by simp [setProcess]
  have other : ∀ k, k ≠ epoch → (c.setProcess epoch p calls).processes k = c.processes k := by
    intro k away
    simp [setProcess, away]
  constructor
  · intro k
    by_cases here : k = epoch
    · subst here
      rw [self]
      exact progress.tidy.mono more
    · rw [other k here]
      exact (safe.tidy k).mono more
  · intro call member id k expected asked
    rcases List.mem_append.mp member with earlier | sent
    · obtain ⟨w, stored, session, same⟩ := safe.backed call earlier id k expected asked
      by_cases here : k = epoch
      · subst here
        obtain ⟨writer, found⟩ := List.getElem?_of_mem stored
        obtain ⟨w', found', session', same'⟩ := progress.grown writer w found
        rw [self]
        exact ⟨w', List.mem_of_getElem? found', session'.trans session, same'.trans same⟩
      · rw [other k here]
        exact ⟨w, stored, session, same⟩
    · obtain ⟨rfl, placed⟩ := progress.backed call sent id k expected asked
      rw [self]
      exact placed
  · intro call member
    exact more _ (safe.told call member)
  · intro id k term member
    obtain ⟨call, sent, rest⟩ := safe.placed id k term member
    exact ⟨call, List.mem_append_left _ sent, rest⟩
  · exact safe.single

/-- A process that was placed and lost the Session cannot be placed again: whatever it still
sends expects the term it once found. -/
theorem Safe.unplaced {id : String} {r : SessionRecord} {now : Time} {s : Service} {call : Call} (safe : Safe P h c)
    (ranked : Ranked id (drawn P (accessSteps h)) (placements P id (accessSteps h)) c.world.store.data)
    (active : s.Active c.world.store.data now id r) (order : c.world.clock ≤ now) (sent : call ∈ c.sent)
    (asked : call.inquiry = .acquire id epoch r.mediaTerm) :
    epoch ∉ (placements P id (accessSteps h)).map Prod.fst := by
  intro member
  obtain ⟨⟨_, term⟩, earlier, rfl⟩ := List.mem_map.mp member
  obtain ⟨call', sent', expected, asked', rfl⟩ := safe.placed id _ term earlier
  obtain ⟨w, stored, session, same⟩ := safe.backed call sent id _ _ asked
  obtain ⟨w', stored', session', same'⟩ := safe.backed call' sent' id _ _ asked'
  have alive : ¬ c.Dead id := by
    rintro ⟨_, gone⟩
    exact absurd active.live (not_lt.mpr (le_trans (gone r active.found) order))
  have uniform : w.expected = w'.expected := by
    apply (safe.tidy _).uniform w stored w' stored'
    · rw [session, session']
    · rw [session]
      exact alive
  have bound : expected + 1 ≤ r.mediaTerm := ranked.le_latest active.found _ earlier
  omega

theorem Safe.access {e : Event} {replied : List (Call × Except Failure Answer)} (safe : Safe P h c)
    (run : Runs P (accessSteps h) c.world) (new : Unrepeated P (accessSteps h'))
    (extended : accessSteps h' = accessSteps h ++ [⟨c.world, e, c.world.next P e⟩]) (allowed : c.world.Allows e)
    (unasked : ∀ id ∈ (c.world.exec P e).drawn, ∀ call ∈ c.sent, call.inquiry.sessionID ≠ id)
    (told : ∀ call, (call, .error .notFound) ∈ replied → (call, .error .notFound) ∈ c.replied ∨
      (call ∈ c.sent ∧ c.world.store.data.Gone call.inquiry.sessionID e.env.now))
    (asked : ∀ s id epoch expected, e.action = .call s (.acquire id epoch expected) →
      ∃ call ∈ c.sent, call.inquiry = .acquire id epoch expected) :
    Safe P h' { c with world := c.world.next P e, replied := replied } := by
  have keyed := keyed_of_run run
  have move := allowed.moves (P := P)
  have gone : ∀ call ∈ c.sent, c.world.store.data.Gone call.inquiry.sessionID e.env.now →
      (c.world.next P e).store.data.Gone call.inquiry.sessionID e.env.now := by
    intro call sent gone
    apply (move.change keyed).gone keyed _ gone
    exact fun drew => unasked _ drew call sent rfl
  have more : ∀ id, c.Dead id → Dead { c with world := c.world.next P e, replied := replied } id := by
    rintro id ⟨⟨call, sent, rfl⟩, dead⟩
    exact ⟨⟨call, sent, rfl⟩, gone call sent (dead.later allowed.1)⟩
  have made : ∀ id, placements P id (accessSteps h') = placements P id (accessSteps h) ++
      (placement P id ⟨c.world, e, c.world.next P e⟩).toList := by
    intro id
    rw [extended, placements_snoc]
  constructor
  · intro epoch
    exact (safe.tidy epoch).mono more
  · exact safe.backed
  · intro call member
    rcases told call member with earlier | ⟨sent, dead⟩
    · exact more _ (safe.told call earlier)
    · exact ⟨⟨call, sent, rfl⟩, gone call sent dead⟩
  · intro id epoch term member
    rw [made, List.mem_append] at member
    rcases member with earlier | here
    · exact safe.placed id epoch term earlier
    · obtain ⟨s, r, _, _, next, calls, _⟩ :=
        placement_some (x := ⟨c.world, e, c.world.next P e⟩) move keyed (Option.mem_toList.mp here)
      obtain ⟨call, sent, inquiry⟩ := asked s id epoch r.mediaTerm calls
      exact ⟨call, sent, r.mediaTerm, inquiry, next⟩
  · intro id
    rw [made, List.map_append]
    cases fresh : placement P id ⟨c.world, e, c.world.next P e⟩ with
    | none => simpa using safe.single id
    | some p =>
      obtain ⟨epoch, term⟩ := p
      obtain ⟨s, r, _, active, _, calls, _⟩ :=
        placement_some (x := ⟨c.world, e, c.world.next P e⟩) move keyed fresh
      obtain ⟨call, sent, inquiry⟩ := asked s id epoch r.mediaTerm calls
      have unrepeated : Unrepeated P (accessSteps h) := by
        rw [extended] at new
        exact new.early
      have first := safe.unplaced (ranked_of_run id run unrepeated) active allowed.1 sent inquiry
      simp only [Option.toList, List.map_cons, List.map_nil]
      rw [List.nodup_append]
      refine ⟨safe.single id, List.nodup_singleton _, ?_⟩
      intro k earlier k' here same
      rw [List.mem_singleton.mp here] at same
      exact first (same ▸ earlier)

end Cluster

theorem missing_of_notFound {reply : Except Err Answer}
    (told : reply.mapError Failure.of = .error .notFound) :
    ∃ failure, reply = .error failure ∧ failure.Missing := by
  cases reply with
  | ok a => cases told
  | error failure =>
    refine ⟨failure, rfl, ?_⟩
    have kind : Failure.of failure = .notFound := Except.error.inj told
    cases failure <;> simp [Failure.of] at kind <;> simp [Err.Missing]

theorem Inquiry.request_acquire {q : Inquiry} {id epoch : String} {expected : Nat}
    (asked : q.request = .acquire id epoch expected) : q = .acquire id epoch expected := by
  cases q with
  | acquire id' epoch' expected' =>
    cases asked
    rfl
  | metadata => cases asked
  | apply => cases asked

theorem safe_of_run (run : ClusterRuns P maxRooms h c) (new : NewIDs P h) : c.Safe P h := by
  refine Exec.history (G := NewIDs P) (I := fun h c => c.Safe P h) NewIDs.early
    (Cluster.safe_init P maxRooms) ?_ run new
  intro h c label c' before new safe moved
  have access := access_runs before
  have unasked := new.unasked ⟨c, label, c'⟩ (by simp)
  have unrepeated := new.unrepeated
  cases Cluster.step_moved moved with
  | access e allowed other =>
    apply safe.access access unrepeated (accessSteps_snoc h _) allowed (unasked _ rfl)
    · exact fun call member => .inl member
    · intro s id epoch expected acquires
      rw [acquires] at other
      cases other
  | serve n s env call sent allowed =>
    apply safe.access access unrepeated _ allowed (unasked _ (accessStep_serve sent))
    · intro call' member
      rcases List.mem_append.mp member with earlier | here
      · exact .inl earlier
      · obtain ⟨rfl, outcome⟩ := Prod.mk.inj (List.mem_singleton.mp here)
        obtain ⟨failure, failed, missing⟩ := missing_of_notFound outcome.symm
        right
        refine ⟨List.mem_of_getElem? sent, ?_⟩
        exact missing_gone (homed_of_run access) rfl call'.inquiry.visits failed missing
    · intro s' id epoch expected acquires
      exact ⟨call, List.mem_of_getElem? sent, Inquiry.request_acquire (Action.call.inj acquires).2⟩
    · rw [accessSteps_snoc, accessStep_serve sent]
      rfl
  | goroutine _ epoch p calls silent progress =>
    have moved := safe.goroutine (progress c.Dead (safe.tidy epoch) safe.told)
    apply moved.of_same
    rw [accessSteps_snoc, silent, Option.toList, List.append_nil]

/-- The placement protocol of one Session, in the events that reached the access service. -/
structure PlacementProtocol (P : Primitives) (id : String) (k : History) : Prop where
  raises : ∀ x ∈ k, ∀ epoch term, placement P id x = some (epoch, term) →
    ∃ r r', x.before.store.data.sessions.lookup id = some r ∧
      x.after.store.data.sessions.lookup id = some r' ∧ r.mediaTerm < r'.mediaTerm ∧
      r'.placement = (epoch, term)
  rising : (placements P id k).Pairwise fun p q => p.2 < q.2
  granted : ∀ x ∈ k, ∀ s epoch expected term,
    x.event.action = .call s (.acquire id epoch expected) → (ran P x).reply = .ok (.term term) →
    (epoch, term) ∈ placements P id k
  holder : ∀ p ∈ placements P id k, ∀ q ∈ placements P id k, p.2 = q.2 → p.1 = q.1
  once : ∀ p ∈ placements P id k, ∀ q ∈ placements P id k, p.1 = q.1 → p.2 = q.2
  accepted : ∀ before x after, k = before ++ x :: after → ∀ s snapshot a,
    x.event.action = .call s (.apply id snapshot) → (ran P x).reply = .ok a →
    (placements P id before).getLast? = some (snapshot.relayEpoch, snapshot.writerTerm) ∧
      ∀ earlier p later, placements P id before = earlier ++ p :: later → later ≠ [] →
        snapshot.relayEpoch ≠ p.1

def Plain.tookOver : List Label :=
  (started []).map Label.access ++
    ([.ask "first" 0 true sessionID, .serve 0 service ⟨3, [], false⟩, .receive "first" 0 0,
      .resume "first" 0, .serve 1 service ⟨4, [], false⟩, .receive "first" 0 1,
      .ask "second" 0 true sessionID, .serve 2 service ⟨5, [], false⟩, .receive "second" 0 2,
      .resume "second" 0, .serve 3 service ⟨6, [], false⟩, .receive "second" 0 3,
      .serve 1 service ⟨7, [], false⟩] : List Label)

def Plain.takeover : ClusterHistory :=
  Machine.trail (Cluster.step primitives) (Cluster.init fun _ => 8) tookOver

end Relay
