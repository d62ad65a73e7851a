import Relay.Access.Placement

/-! The revision of the public state. Every operation that rewrites a record either keeps
the public state or raises its revision, so that two public states of one Session with one
revision are the same state. -/
namespace Relay

structure SessionRecord.HeldBy (r : SessionRecord) (snapshot : RelayState) : Prop where
  term : snapshot.writerTerm = r.mediaTerm
  placed : r.mediaTerm ≠ 0
  epoch : snapshot.relayEpoch = r.relay.relayEpoch

inductive Service.Reported (s : Service) (now : Time) (d : Records) (snapshot : RelayState)
    (r : SessionRecord) : State × Bool → Records → Prop
  | older : snapshot.revision < r.relay.revision → Reported s now d snapshot r (r.state, false) d
  | taken : r.relay.revision ≤ snapshot.revision →
    (∀ bus ∈ snapshot.buses, bus.busID ∈ r.requiredBuses) →
    Reported s now d snapshot r
      ((s.observe r (normalizeRelaySnapshot snapshot) now).state, changes r (normalizeRelaySnapshot snapshot))
      (d.putSession (s.observe r (normalizeRelaySnapshot snapshot) now))

theorem mem_normalizeRelaySnapshot {snapshot : RelayState} {bus : BusState} :
    bus ∈ (normalizeRelaySnapshot snapshot).buses ↔ bus ∈ snapshot.buses :=
  (List.perm_insertionSort _ snapshot.buses).mem_iff

variable {s : Service} {now : Time} {r r' : SessionRecord} {before h : History} {id : String} {x y : Step World Event}
  {u v : State} {out : State × Bool} {w : World} {P : Primitives}

theorem Service.apply_reported {env : Env} {st : Store} {snapshot : RelayState}
    (ok : (s.applyRelayStateContext P id snapshot env st).reply = .ok out) :
    snapshot.sessionID = id ∧ snapshot.WellFormed ∧
      ∃ r, s.Active (s.prologue env.now st.data) env.now id r ∧ r.HeldBy snapshot ∧
        s.Reported env.now (s.prologue env.now st.data) snapshot r out
          (s.applyRelayStateContext P id snapshot env st).store.data := by
  unfold applyRelayStateContext at ok ⊢
  split at ok
  · cases ok
  rename_i named
  rw [if_neg named]
  split at ok
  · cases ok
  rename_i valid
  refine ⟨not_not.mp named, validateRelaySnapshot_iff.mp valid, ?_⟩
  unfold update at ok ⊢
  obtain ⟨tx, guarded, _, _, stored⟩ := Store.update_ok ok
  obtain ⟨_, ran⟩ := guarded_ok guarded
  obtain ⟨r, active, term, placed, epoch, cases⟩ := applyBody_ok ran
  refine ⟨r, active, ⟨term, placed, epoch⟩, ?_⟩
  rw [stored]
  rcases cases with ⟨older, rfl, rfl⟩ | ⟨newer, declared, rfl, rfl⟩
  · exact .older older
  · have offered : ∀ bus ∈ snapshot.buses, bus.busID ∈ r.requiredBuses :=
      fun bus member => declared bus (mem_normalizeRelaySnapshot.mpr member)
    exact .taken newer offered

namespace SessionRecord

/-- A later record of one Session: its revision is not lower, and if it is the same then so
is the public state. -/
structure Precedes (r r' : SessionRecord) : Prop where
  le : r.stateRevision ≤ r'.stateRevision
  same : r.stateRevision = r'.stateRevision → r.state = r'.state

namespace Precedes

variable {r r' r'' : SessionRecord}

theorem refl (r : SessionRecord) : r.Precedes r := ⟨le_refl _, fun _ => rfl⟩

theorem trans (first : r.Precedes r') (second : r'.Precedes r'') : r.Precedes r'' := by
  refine ⟨le_trans first.le second.le, ?_⟩
  intro equal
  have lower := first.le
  have upper := second.le
  have here : r.stateRevision = r'.stateRevision := by omega
  have there : r'.stateRevision = r''.stateRevision := by omega
  exact (first.same here).trans (second.same there)

theorem of_lt (raised : r.stateRevision < r'.stateRevision) : r.Precedes r' :=
  ⟨le_of_lt raised, fun equal => absurd equal (ne_of_lt raised)⟩

end Precedes

theorem precedes_clear (r : SessionRecord) : r.Precedes r.clear := .of_lt (Nat.lt_succ_self _)

theorem precedes_extend (r : SessionRecord) (ttl : Duration) (now : Time) : r.Precedes (r.extend ttl now) :=
  ⟨le_refl _, fun _ => rfl⟩

end SessionRecord

namespace Service

variable (s : Service) {r : SessionRecord} {snapshot : RelayState} (now : Time)

theorem observe_stateRevision (r : SessionRecord) (snapshot : RelayState) :
    (s.observe r snapshot now).stateRevision =
      if changes r snapshot then r.stateRevision + 1 else r.stateRevision := by
  unfold observe
  dsimp only
  split <;> rfl

theorem changes_false_iff : changes r snapshot = false ↔
    snapshot.revision = r.relay.revision ∧ snapshot.buses = r.relay.buses ∧
      snapshot.subscriptions = r.relay.subscriptions := by
  simp [changes, and_assoc]

theorem observe_state_of_unchanged (unchanged : changes r snapshot = false)
    (epoch : snapshot.relayEpoch = r.relay.relayEpoch) : (s.observe r snapshot now).state = r.state := by
  obtain ⟨revision, buses, subscriptions⟩ := changes_false_iff.mp unchanged
  unfold observe SessionRecord.state
  dsimp only
  rw [unchanged]
  split <;> simp [SessionRecord.extend, revision, buses, subscriptions, epoch]

theorem precedes_observe (epoch : snapshot.relayEpoch = r.relay.relayEpoch) :
    r.Precedes (s.observe r snapshot now) := by
  have revision := s.observe_stateRevision now r snapshot
  cases changed : changes r snapshot with
  | true =>
    rw [changed, if_pos rfl] at revision
    apply SessionRecord.Precedes.of_lt
    omega
  | false =>
    rw [changed] at revision
    exact ⟨le_of_eq revision.symm, fun _ => (s.observe_state_of_unchanged now changed epoch).symm⟩

end Service

theorem Revision.precedes {request : Request} {a : Answer} (revision : Revision s now request a id r r') :
    r.Precedes r' := by
  cases revision with
  | clear => exact r.precedes_clear
  | extend => exact r.precedes_extend _ _
  | observe snapshot _ epoch => exact s.precedes_observe now epoch
  | place => exact .of_lt (Nat.lt_succ_self _)

def creates (P : Primitives) (id : String) (x : Step World Event) : Prop :=
  ∃ s required a, x.event.action = .call s (.create required) ∧ (ran P x).reply = .ok a ∧ id ∈ (ran P x).drawn

theorem World.Moves.precedes {k : String} (move : World.Moves P x.before x.event x.after)
    (keyed : x.before.store.data.Keyed) (stored : x.after.store.data.sessions.lookup k = some r') :
    (∃ r, x.before.store.data.sessions.lookup k = some r ∧ r.Precedes r') ∨ creates P k x := by
  rcases (move.change keyed).fate keyed stored with ⟨r, found, rfl | rfl⟩ | ⟨s, request, a, calls, ok, fate⟩
  · exact .inl ⟨r', found, .refl r'⟩
  · exact .inl ⟨r, found, r.precedes_clear⟩
  · cases fate with
    | kept found => exact .inl ⟨r', found, .refl r'⟩
    | revised found revision => exact .inl ⟨_, found, revision.precedes⟩
    | created asked drew =>
      subst asked
      exact .inr ⟨s, _, a, calls, ok, drew⟩

theorem precedes_of_exec {k : History} {w' : World} (run : Runs P h w) (rest : Exec (World.Moves P) w k w')
    (one : ∀ x ∈ k, ¬ creates P id x) (stored : w'.store.data.sessions.lookup id = some r') :
    ∃ r, w.store.data.sessions.lookup id = some r ∧ r.Precedes r' := by
  induction rest generalizing r' with
  | nil => exact ⟨r', stored, .refl r'⟩
  | @snoc k t u e before move ih =>
    have keyed := keyed_of_run (run.append before)
    rcases World.Moves.precedes (x := ⟨t, e, u⟩) move keyed stored with ⟨r, found, step⟩ | created
    · obtain ⟨first, start, steps⟩ := ih (fun x member => one x (List.mem_append_left _ member)) found
      exact ⟨first, start, steps.trans step⟩
    · exact absurd created (one _ (by simp))

def published (P : Primitives) (x : Step World Event) : Option State :=
  match (ran P x).reply with
  | .ok (.session v) => some v.record.state
  | .ok (.state v) => some v.1
  | _ => none

theorem Service.Reported.stored {d d' : Records} {snapshot : RelayState} (reported : s.Reported now d snapshot r out d')
    (found : d.sessions.lookup id = some r) (own : r.id = id) :
    ∃ r', d'.sessions.lookup id = some r' ∧ r'.state = out.1 := by
  cases reported with
  | older => exact ⟨r, found, rfl⟩
  | taken =>
    have same := (s.same_observe r (normalizeRelaySnapshot snapshot) now).id.trans own
    exact ⟨_, Records.putSession_sessions.mpr (.inl ⟨same.symm, rfl⟩), rfl⟩

section Published

variable {P : Primitives} {x : Step World Event}

theorem called_of_reply {a : Answer} (ok : (ran P x).reply = .ok a) (full : a ≠ .done)
    (unopened : ∀ s, a ≠ .opened s) : ∃ s request, x.event.action = .call s request := by
  cases action : x.event.action with
  | call s request => exact ⟨s, request, rfl⟩
  | openService secret config =>
    simp only [ran, World.exec, action] at ok
    obtain ⟨s, _, opened⟩ := Ran.map_ok ok
    exact absurd opened.symm (unopened s)
  | reset maxSessions =>
    simp only [ran, World.exec, action] at ok
    obtain ⟨_, _, done⟩ := Ran.map_ok ok
    exact absurd done.symm full
  | close =>
    simp only [ran, World.exec, action, Except.ok.injEq] at ok
    exact absurd ok.symm full

section

variable (move : World.Moves P x.before x.event x.after)

include move

theorem session_stored {v : Session} (keyed : x.before.store.data.Keyed) (ok : (ran P x).reply = .ok (.session v)) :
    x.after.store.data.sessions.lookup v.record.id = some v.record := by
  obtain ⟨s, request, calls⟩ := called_of_reply ok (by simp) (by simp)
  have succeeded := ran_succeeded move calls ok
  have pruned := keyed.shrink (s.shrinks_prologue x.event.env.now x.before.store.data)
  generalize (ran P x).signed = signed, (ran P x).drawn = drawn, x.after.store.data = d at succeeded ⊢
  cases succeeded with
  | read read => cases read
  | performed performed =>
    cases performed with
    | create | clear => exact Records.putSession_lookup_self _ _
    | get active =>
      have own := pruned.sessions active.found
      exact own.symm ▸ active.found

theorem apply_of_state {v : State × Bool} (ok : (ran P x).reply = .ok (.state v)) :
    ∃ s id snapshot, x.event.action = .call s (.apply id snapshot) := by
  obtain ⟨s, request, calls⟩ := called_of_reply ok (by simp) (by simp)
  have succeeded := ran_succeeded move calls ok
  generalize (ran P x).signed = signed, (ran P x).drawn = drawn, x.after.store.data = d at succeeded
  cases succeeded with
  | read read => cases read
  | performed performed =>
    cases performed with
    | ignore | observe => exact ⟨s, _, _, calls⟩

theorem ran_reported {s : Service} {id : String} {snapshot : RelayState} {out : State × Bool}
    (calls : x.event.action = .call s (.apply id snapshot)) (ok : (ran P x).reply = .ok (.state out)) :
    snapshot.sessionID = id ∧ snapshot.WellFormed ∧
      ∃ r, s.Active (s.prologue x.event.env.now x.before.store.data) x.event.env.now id r ∧ r.HeldBy snapshot ∧
        s.Reported x.event.env.now (s.prologue x.event.env.now x.before.store.data) snapshot r out
          x.after.store.data := by
  have unfolded : ran P x = (s.applyRelayStateContext P id snapshot x.event.env x.before.store).map .state := by
    simp only [ran, World.exec, calls, Service.answer]
  have stored : x.after.store = (ran P x).store := by
    rw [move.result]
    rfl
  rw [unfolded] at ok stored
  rw [stored, Ran.map_store]
  obtain ⟨a, accepted, same⟩ := Ran.map_ok ok
  cases same
  exact Service.apply_reported accepted

theorem published_stored {v : State} (keyed : x.before.store.data.Keyed) (shown : published P x = some v) :
    ∃ r, x.after.store.data.sessions.lookup v.sessionID = some r ∧ r.state = v := by
  unfold published at shown
  split at shown
  · rename_i session ok
    cases shown
    exact ⟨session.record, session_stored move keyed ok, rfl⟩
  · rename_i out ok
    cases shown
    obtain ⟨s, id, snapshot, calls⟩ := apply_of_state move ok
    obtain ⟨_, _, r, active, _, reported⟩ := ran_reported move calls ok
    have pruned := keyed.shrink (s.shrinks_prologue x.event.env.now x.before.store.data)
    obtain ⟨r', found, same⟩ := reported.stored active.found (pruned.sessions active.found)
    have keyed' := (move.change keyed).keyed keyed
    have own : out.1.sessionID = id := by
      rw [← same]
      exact keyed'.sessions found
    exact ⟨r', own ▸ found, same⟩
  · cases shown

end

end Published

theorem published_precedes {between after : History} (run : Runs P (before ++ x :: (between ++ y :: after)) w)
    (first : published P x = some u) (second : published P y = some v) (session : v.sessionID = u.sessionID)
    (one : ∀ z ∈ between ++ [y], ¬ creates P u.sessionID z) :
    u.stateRevision ≤ v.stateRevision ∧ (u.stateRevision = v.stateRevision → u = v) := by
  obtain ⟨start, move, rest⟩ := run.split_step
  obtain ⟨middle, move', _⟩ := rest.split_step
  have reached : Runs P (before ++ [x]) x.after := start.snoc move
  have keyed := keyed_of_run start
  have keyed' := keyed_of_run (reached.append middle)
  obtain ⟨r, stored, rfl⟩ := published_stored move keyed first
  obtain ⟨r', stored', rfl⟩ := published_stored move' keyed' second
  rw [session] at stored'
  obtain ⟨r₀, found, precedes⟩ := precedes_of_exec reached (middle.snoc move') one stored'
  have same : some r₀ = some r := found.symm.trans stored
  cases same
  exact ⟨precedes.le, precedes.same⟩

theorem created_of_stored (run : Runs P h w) (stored : w.store.data.sessions.lookup id = some r) :
    ∃ z ∈ h, creates P id z := by
  induction run generalizing r with
  | nil => cases stored
  | @snoc h t u e before move ih =>
    rcases World.Moves.precedes (x := ⟨t, e, u⟩) move (keyed_of_run before) stored with ⟨r', found, _⟩ | created
    · obtain ⟨z, member, created⟩ := ih found
      exact ⟨z, List.mem_append_left _ member, created⟩
    · exact ⟨_, List.mem_append_right _ (List.mem_singleton_self _), created⟩

/-- The identifier of a Session is drawn for it alone. -/
def CreatedOnce (P : Primitives) (id : String) (h : History) : Prop :=
  h.Pairwise fun z z' => ¬(creates P id z ∧ creates P id z')

theorem not_created_again {rest : History} (run : Runs P (before ++ x :: rest) w)
    (once : CreatedOnce P u.sessionID (before ++ x :: rest)) (shown : published P x = some u) :
    ∀ z ∈ rest, ¬ creates P u.sessionID z := by
  intro z later again
  obtain ⟨start, move, _⟩ := run.split_step
  obtain ⟨r, stored, _⟩ := published_stored move (keyed_of_run start) shown
  obtain ⟨z₀, member, created⟩ := created_of_stored (start.snoc move) stored
  rw [CreatedOnce, show before ++ x :: rest = (before ++ [x]) ++ rest by simp, List.pairwise_append] at once
  exact once.2.2 z₀ member z later ⟨created, again⟩

theorem published_same (run : Runs P h w) (once : CreatedOnce P u.sessionID h) (here : x ∈ h) (there : y ∈ h)
    (first : published P x = some u) (second : published P y = some v) (session : v.sessionID = u.sessionID)
    (revision : u.stateRevision = v.stateRevision) : u = v := by
  have ordered : ∀ {before between after : History} {x y : Step World Event} {u v : State},
      h = before ++ x :: (between ++ y :: after) → published P x = some u → published P y = some v →
      CreatedOnce P u.sessionID h → v.sessionID = u.sessionID → u.stateRevision = v.stateRevision → u = v := by
    rintro before between after x y u v rfl first second once session revision
    have again := not_created_again run once first
    refine (published_precedes run first second session fun z member => again z ?_).2 revision
    rcases List.mem_append.mp member with inner | last
    · exact List.mem_append_left _ inner
    · exact List.mem_append_right _ (List.mem_cons.mpr (.inl (List.mem_singleton.mp last)))
  obtain ⟨before, after, split⟩ := List.append_of_mem here
  rw [split] at there
  rcases List.mem_append.mp there with early | late
  · obtain ⟨front, between, rfl⟩ := List.append_of_mem early
    have order : h = front ++ y :: (between ++ x :: after) := by simp [split]
    exact (ordered order second first (by rw [session]; exact once) session.symm revision.symm).symm
  · rcases List.mem_cons.mp late with rfl | later
    · exact Option.some.inj (first.symm.trans second)
    · obtain ⟨between, rear, rfl⟩ := List.append_of_mem later
      exact ordered split first second once session revision

namespace Plain

def assigned : List Event := started [] ++ [event 3 [] (.call service (.acquire sessionID "epoch" 0))]

def stepAfter (events : List Event) (e : Event) : Step World Event :=
  let w := World.empty.after primitives events
  ⟨w, e, w.next primitives e⟩

def report : Event := event 4 [] (.call service (.apply sessionID snapshot))

def lookUp : Event := event 5 [] (.call service (.get sessionID))

end Plain

end Relay
