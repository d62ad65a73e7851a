import Relay.Session.Control
import Relay.Session.Acceptance
import Relay.Lib.Register

/-! What a revision says about the attachments. A call of `ControlState` that returns with
nothing left unannounced returns the current attachments, and the revision tells them from
all others; while a change is made and not announced it does not. -/
namespace Relay

def unannounced (h : SharedHistory) : Bool :=
  h.foldl (fun dirty x => !x.event.notifies && (dirty || x.after.session.content ≠ x.before.session.content)) false

theorem unannounced_snoc (h : SharedHistory) (x : Step SharedSession SharedEvent) :
    unannounced (h ++ [x]) =
      (!x.event.notifies && (unannounced h || x.after.session.content ≠ x.before.session.content)) := by
  simp [unannounced]

def returnedBy (x : Step SharedSession SharedEvent) : Option ControlState :=
  match x.event with
  | .read i (.compare _ _) =>
    match x.after.calls[i]? with
    | some (.returned state) => some state
    | _ => none
  | _ => none

namespace ControlRound

variable {q q' : RelaySession} {a : ControlAct} {c c' : ControlRound}

def Agrees (q : RelaySession) : ControlRound → Prop
  | .idle | .loaded _ | .returned _ => True
  | .listing _ left half buses =>
    (∀ b ∈ buses, b ∈ q.controlBuses) ∧
      (∀ k active, half = some (k, active) → ∀ b ∈ q.controlBuses, b.busID = k → b.sourceActive = active) ∧
      (buses.map (·.busID) ++ ((half.map Prod.fst).toList ++ left)).Perm (q.controlBuses.map (·.busID))
  | .copied _ buses => buses = q.controlBuses
  | .payload _ buses subscriptions => (buses, subscriptions) = q.content

theorem Agrees.congr (agrees : c.Agrees q) (same : q'.content = q.content) : c.Agrees q' := by
  have buses : q'.controlBuses = q.controlBuses := congrArg Prod.fst same
  cases c with
  | idle | loaded | returned => trivial
  | listing => simpa only [Agrees, buses] using agrees
  | copied => exact agrees.trans buses.symm
  | payload => exact agrees.trans same.symm

theorem mem_controlBuses_of_lookup {k : String} {b : AudioBus} (found : q.buses.lookup k = some b) :
    b.controlState k ∈ q.controlBuses := by
  rw [RelaySession.controlBuses, List.mem_insertionSort]
  exact List.mem_map.mpr ⟨⟨k, b⟩, AList.mem_lookup_iff.mp found, rfl⟩

theorem controlBuses_once (q : RelaySession) : (q.controlBuses.map (·.busID)).Nodup :=
  (RelaySession.controlBuses_ids q).nodup_iff.mpr q.buses.nodupKeys

theorem sorted_eq_controlBuses {buses : List BusState} (there : ∀ b ∈ buses, b ∈ q.controlBuses)
    (all : (buses.map (·.busID)).Perm (q.controlBuses.map (·.busID))) :
    buses.insertionSort (fun a b => a.busID ≤ b.busID) = q.controlBuses := by
  have once : (buses.map (·.busID)).Nodup := all.nodup_iff.mpr (controlBuses_once q)
  have perm : buses.Perm q.controlBuses := by
    apply (List.subperm_of_subset (List.Nodup.of_map _ once) there).perm_of_length_le
    have lengths := all.length_eq
    simp only [List.length_map] at lengths
    omega
  have listed : q.controlBuses.Perm (q.buses.entries.map fun e => e.2.controlState e.1) :=
    List.perm_insertionSort _ _
  exact List.insertionSort_eq_of_perm (perm.trans listed) once

theorem active_of_lookup {k : String} {b : AudioBus} {other : BusState} (found : q.buses.lookup k = some b)
    (listed : other ∈ q.controlBuses) (same : other.busID = k) : other.sourceActive = b.sourceActive := by
  have one : other = b.controlState k :=
    List.inj_on_of_nodup_map (controlBuses_once q) listed (mem_controlBuses_of_lookup found) same
  rw [one]
  rfl

theorem act_agrees (acted : c.act q a = some c') (agrees : c.Agrees q) : c'.Agrees q := by
  unfold act at acted
  split at acted
  · cases acted
    trivial
  · cases acted
    exact ⟨by simp, by simp, by simpa using (RelaySession.controlBuses_ids q).symm⟩
  · rename_i k revision left buses
    split at acted
    · rename_i member
      obtain ⟨b, found, rfl⟩ := Option.map_eq_some_iff.mp acted
      obtain ⟨there, _, all⟩ := agrees
      refine ⟨there, ?_, ?_⟩
      · intro k' active half other listed same
        cases half
        exact active_of_lookup found listed same
      · apply List.Perm.trans _ all
        exact List.Perm.append_left _ (List.perm_cons_erase member).symm
    · cases acted
  · rename_i revision left k active buses
    obtain ⟨b, found, rfl⟩ := Option.map_eq_some_iff.mp acted
    obtain ⟨there, half, all⟩ := agrees
    have listed := mem_controlBuses_of_lookup found
    have same : b.sourceActive = active := half k active rfl _ listed rfl
    refine ⟨?_, by simp, by simpa using all⟩
    intro other member
    rcases List.mem_append.mp member with old | new
    · exact there other old
    · rw [List.mem_singleton.mp new, ← same]
      exact listed
  · cases acted
    obtain ⟨there, _, all⟩ := agrees
    exact sorted_eq_controlBuses there (by simpa using all)
  · cases acted
    exact Prod.ext agrees rfl
  · cases acted
    split <;> trivial
  · cases acted

theorem act_revision (acted : c.act q a = some c') :
    c' = .loaded q.revision ∨ c'.revision = none ∨ c'.revision = c.revision := by
  unfold act at acted
  split at acted
  · cases acted
    exact .inl rfl
  · cases acted
    exact .inr (.inr rfl)
  · split at acted
    · obtain ⟨b, _, rfl⟩ := Option.map_eq_some_iff.mp acted
      exact .inr (.inr rfl)
    · cases acted
  · obtain ⟨b, _, rfl⟩ := Option.map_eq_some_iff.mp acted
    exact .inr (.inr rfl)
  · cases acted
    exact .inr (.inr rfl)
  · cases acted
    exact .inr (.inr rfl)
  · cases acted
    right
    left
    split <;> rfl
  · cases acted

theorem act_returned {state : ControlState} (acted : c.act q a = some (.returned state)) :
    state.revision = q.revision ∧ c.revision = some q.revision ∧ (c.Agrees q → state.content = q.content) := by
  unfold act at acted
  split at acted
  · cases acted
  · cases acted
  · split at acted
    · obtain ⟨b, _, other⟩ := Option.map_eq_some_iff.mp acted
      cases other
    · cases acted
  · obtain ⟨b, _, other⟩ := Option.map_eq_some_iff.mp acted
    cases other
  · cases acted
  · cases acted
  · rename_i epoch now revision buses subscriptions
    split at acted
    · rename_i current
      cases acted
      exact ⟨current, congrArg some current, fun agrees => agrees⟩
    · cases acted
  · cases acted

end ControlRound

structure Coherent (h : SharedHistory) (l : SharedSession) : Prop where
  bounded : ∀ c ∈ l.calls, ∀ revision ∈ c.revision, revision ≤ l.session.revision
  agrees : unannounced h = false → ∀ c ∈ l.calls, c.revision = some l.session.revision → c.Agrees l.session

section Runs

variable {id : String} {maxBuses maxSubscriptions : Nat} {h k : SharedHistory} {l l' : SharedSession}
  {e : SharedEvent}

theorem unannounced_quiet (silent : e.notifies = false)
    (announced : unannounced (h ++ [⟨l, e, l'⟩]) = false) :
    unannounced h = false ∧ l'.session.content = l.session.content := by
  rw [unannounced_snoc, silent] at announced
  simpa using announced

theorem Coherent.change (coherent : Coherent h l) (change : l.Change e l') : Coherent (h ++ [⟨l, e, l'⟩]) l' := by
  obtain ⟨bounded, agrees⟩ := coherent
  cases change with
  | wrote q attaching due writes own same =>
    constructor
    · intro c member revision loaded
      exact (bounded c member revision loaded).trans (le_of_eq same.symm)
    · intro announced c member current
      obtain ⟨earlier, content⟩ := unannounced_quiet (SharedEvent.silent_of_writes writes) announced
      exact (agrees earlier c member (current.trans (congrArg some same))).congr content
  | notified n _ =>
    constructor
    · exact fun c member revision loaded => Nat.le_succ_of_le (bounded c member revision loaded)
    · -- no call can have loaded the new revision
      intro _ c member current
      have below := bounded c member _ current
      exact absurd below (Nat.not_succ_le_self _)
  | started =>
    constructor
    · intro c member revision loaded
      rcases List.mem_append.mp member with old | new
      · exact bounded c old revision loaded
      · rw [List.mem_singleton.mp new] at loaded
        cases loaded
    · intro announced c member current
      rcases List.mem_append.mp member with old | new
      · exact agrees (unannounced_quiet rfl announced).1 c old current
      · rw [List.mem_singleton.mp new] at current
        cases current
  | read i a c c' here acted =>
    have old := List.mem_of_getElem? here
    constructor
    · intro d member revision loaded
      rcases List.mem_or_eq_of_mem_set member with other | rfl
      · exact bounded d other revision loaded
      · rcases ControlRound.act_revision acted with rfl | ended | same
        · cases loaded
          exact le_refl _
        · rw [ended] at loaded
          cases loaded
        · exact bounded c old revision (same ▸ loaded)
    · intro announced d member current
      have earlier := (unannounced_quiet rfl announced).1
      rcases List.mem_or_eq_of_mem_set member with other | rfl
      · exact agrees earlier d other current
      · rcases ControlRound.act_revision acted with rfl | ended | same
        · trivial
        · rw [ended] at current
          cases current
        · exact ControlRound.act_agrees acted (agrees earlier c old (same ▸ current))

theorem coherent_of_run (run : SharedRuns id maxBuses maxSubscriptions h l) : Coherent h l := by
  refine Exec.history (G := fun _ => True) (I := Coherent) (fun _ => trivial) ?_ ?_ run trivial
  · exact ⟨by simp [SharedSession.new], by simp [SharedSession.new]⟩
  · intro h t e u _ _ coherent move
    exact coherent.change (SharedSession.step_change move)

theorem returnedBy_some {x : Step SharedSession SharedEvent} {state : ControlState}
    (run : SharedRuns id maxBuses maxSubscriptions h x.before)
    (move : Machine.Moves SharedSession.step x.before x.event x.after) (returns : returnedBy x = some state) :
    x.after.session = x.before.session ∧ state.revision = x.before.session.revision ∧
      (unannounced h = false → state.content = x.before.session.content) := by
  have coherent := coherent_of_run run
  have change := SharedSession.step_change move
  obtain ⟨l, e, l'⟩ := x
  dsimp only at *
  cases change with
  | read i a c c' here acted =>
    refine ⟨rfl, ?_⟩
    have inside : i < l.calls.length := (List.getElem?_eq_some_iff.mp here).1
    cases a with
    | compare epoch now =>
      simp only [returnedBy, List.getElem?_set_self inside] at returns
      split at returns
      · rename_i state' same
        cases returns
        cases same
        obtain ⟨revision, loaded, exactly⟩ := ControlRound.act_returned acted
        exact ⟨revision, fun announced =>
          exactly (coherent.agrees announced c (List.mem_of_getElem? here) loaded)⟩
      · cases returns
    | _ => cases returns
  | wrote _ _ _ writes => cases e <;> first | cases returns | cases writes
  | notified | started => cases returns

theorem revision_of_change (change : l.Change e l') :
    (e.notifies = false ∧ l'.session.revision = l.session.revision) ∨
      (l'.session.revision = l.session.revision + 1 ∧ l'.session.content = l.session.content) := by
  cases change with
  | wrote _ _ _ writes _ same => exact .inl ⟨SharedEvent.silent_of_writes writes, same⟩
  | notified => exact .inr ⟨rfl, rfl⟩
  | started | read => exact .inl ⟨rfl, rfl⟩

theorem revision_le_of_exec (rest : Exec (Machine.Moves SharedSession.step) l k l') :
    l.session.revision ≤ l'.session.revision := by
  induction rest with
  | nil => exact le_refl _
  | snoc _ move ih =>
    rcases revision_of_change (SharedSession.step_change move) with ⟨_, same⟩ | ⟨next, _⟩ <;> omega

theorem content_of_exec (rest : Exec (Machine.Moves SharedSession.step) l k l')
    (same : l'.session.revision = l.session.revision) (announced : unannounced (h ++ k) = false) :
    unannounced h = false ∧ l'.session.content = l.session.content := by
  induction rest with
  | nil => exact ⟨by simpa using announced, rfl⟩
  | @snoc k t u e before move ih =>
    have grown := revision_le_of_exec before
    rw [← List.append_assoc] at announced
    rcases revision_of_change (SharedSession.step_change move) with ⟨silent, kept⟩ | ⟨next, _⟩
    · obtain ⟨earlier, content⟩ := unannounced_quiet silent announced
      obtain ⟨start, unchanged⟩ := ih (kept.symm.trans same) earlier
      exact ⟨start, content.trans unchanged⟩
    · omega

theorem content_eq_of_returned {before between after : SharedHistory} {x y : Step SharedSession SharedEvent}
    {s t : ControlState} (run : SharedRuns id maxBuses maxSubscriptions h l)
    (order : h = before ++ x :: (between ++ y :: after)) (first : returnedBy x = some s)
    (second : returnedBy y = some t) (same : s.revision = t.revision)
    (announced : unannounced (before ++ x :: between) = false) : s.content = t.content := by
  subst order
  obtain ⟨start, move, rest⟩ := run.split_step
  obtain ⟨middle, move', _⟩ := rest.split_step
  have reached := (start.snoc move).append middle
  rw [show before ++ [x] ++ between = before ++ x :: between by simp] at reached
  obtain ⟨frozen, revision, exactly⟩ := returnedBy_some start move first
  obtain ⟨_, revision', exactly'⟩ := returnedBy_some reached move' second
  have still : y.before.session.revision = x.after.session.revision := by
    rw [← revision', ← same, revision, frozen]
  rw [show before ++ x :: between = before ++ [x] ++ between by simp] at announced
  obtain ⟨early, content⟩ := content_of_exec middle still announced
  have silent : x.event.notifies = false := by
    unfold returnedBy at first
    cases event : x.event <;> first | rfl | (rw [event] at first; cases first)
  have calm : unannounced before = false := (unannounced_quiet silent early).1
  rw [exactly calm, exactly' (by simpa using announced), content, frozen]

def ReturnsAnnounced (h : SharedHistory) : Prop :=
  ∀ before x after, h = before ++ x :: after → (returnedBy x).isSome = true → unannounced before = false

end Runs

namespace Plain

def controlRun (i : Nat) (buses : List String) (now : Time) : List SharedEvent :=
  ([.controlState, .read i .loadRevision, .read i .lockBuses] : List SharedEvent) ++
    buses.flatMap (fun k => [SharedEvent.read i (.sourceActive k), .read i .sourceGeneration]) ++
    ([.read i .unlockBuses, .read i .loadSubscriptions, .read i (.compare "epoch" now)] : List SharedEvent)

def shared (events : List SharedEvent) : SharedHistory :=
  Machine.trail SharedSession.step (.new sessionID 16 0) events

def sharedAfter (events : List SharedEvent) : SharedSession :=
  Machine.final SharedSession.step (.new sessionID 16 0) events

def attachedTwice : List SharedEvent :=
  [.attachSource "microphone" .voice, .setSource "microphone" 0, .notify (.attached "microphone")] ++
    controlRun 0 ["microphone"] 1 ++ controlRun 1 ["microphone"] 2

def createdBetween : List SharedEvent :=
  controlRun 0 [] 1 ++ [.getOrCreateBus "microphone" .voice] ++ controlRun 1 ["microphone"] 2

def subscribedBetween : List SharedEvent :=
  controlRun 0 [] 1 ++ [.addBusSubscription "listener" mix] ++ controlRun 1 [] 2 ++ [.notify (.subscribed "listener")]

end Plain

end Relay
