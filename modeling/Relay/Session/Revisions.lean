import Relay.Session.Acceptance
import Relay.Session.Registry

/-! The revisions that one media process reports. The counter belongs to a RelaySession and
the epoch to the process. Revisions stay in order while no RelaySession is created again for
a Session that was reported past its first revision. -/
namespace Relay

def owners (objects : List LiveSession) : List String := objects.map (·.session.id)

def Latest (ids : List String) (i : Nat) : Prop := ∀ j < ids.length, i < j → ids[j]? ≠ ids[i]?

instance (ids : List String) (i : Nat) : Decidable (Latest ids i) :=
  inferInstanceAs (Decidable (∀ j < ids.length, i < j → ids[j]? ≠ ids[i]?))

variable {ids : List String} {i maxBuses maxSubscriptions : Nat} {h : ProcessHistory} {epoch id : String}
  {P : Primitives} {p : RelayProcess}

theorem Latest.unique {j : Nat} (first : Latest ids i) (second : Latest ids j) (here : ids[i]? = some id)
    (there : ids[j]? = some id) : i = j := by
  have inside : i < ids.length := (List.getElem?_eq_some_iff.mp here).1
  have inside' : j < ids.length := (List.getElem?_eq_some_iff.mp there).1
  rcases lt_trichotomy i j with less | same | more
  · exact absurd (there.trans here.symm) (first j inside' less)
  · exact same
  · exact absurd (here.trans there.symm) (second i inside more)

theorem Latest.early (latest : Latest (ids ++ [id]) i) (inside : i < ids.length) : Latest ids i := by
  intro j bound after
  have apart := latest j (by simp; omega) after
  rwa [List.getElem?_append_left bound, List.getElem?_append_left inside] at apart

def Registry.Ordered (reg : Registry) : Prop :=
  ∀ id i, reg.rooms.lookup id = some i →
    (owners reg.objects)[i]? = some id ∧ Latest (owners reg.objects) i

namespace Registry.Ordered

variable {reg reg' : Registry}

theorem fewer (ordered : reg.Ordered) (same : owners reg'.objects = owners reg.objects)
    (subset : ∀ {id i}, reg'.rooms.lookup id = some i → reg.rooms.lookup id = some i) :
    reg'.Ordered := by
  intro id i registered
  rw [same]
  exact ordered id i (subset registered)

theorem removeClosed (ordered : reg.Ordered) : reg.removeClosed.Ordered :=
  ordered.fewer rfl fun registered => (Table.lookup_eraseWhere.mp registered).1

theorem create (ordered : reg.Ordered) {id : String} (absent : reg.rooms.lookup id = none) :
    (reg.create id).Ordered := by
  have extended : owners (reg.create id).objects = owners reg.objects ++ [id] := by
    simp [owners, Registry.create, LiveSession.new, RelaySession.new]
  have count : (owners reg.objects).length = reg.objects.length := by simp [owners]
  intro k i registered
  rw [extended]
  rcases Table.lookup_insert_some.mp registered with ⟨rfl, rfl⟩ | ⟨other, old⟩
  · refine ⟨by simp [← count], ?_⟩
    intro j bound after
    simp only [List.length_append, List.length_singleton] at bound
    omega
  · obtain ⟨here, latest⟩ := ordered k i old
    have inside : i < (owners reg.objects).length := (List.getElem?_eq_some_iff.mp here).1
    rw [List.getElem?_append_left inside]
    refine ⟨here, ?_⟩
    intro j bound after
    rw [List.getElem?_append_left inside]
    by_cases early : j < (owners reg.objects).length
    · rw [List.getElem?_append_left early]
      exact latest j early after
    · simp only [List.length_append, List.length_singleton] at bound
      have last : j = (owners reg.objects).length := by omega
      rw [last, List.getElem?_concat_length, here]
      exact fun same => other (Option.some.inj same).symm

end Registry.Ordered

structure LiveSession.Follows (epoch : String) (l l' : LiveSession) : Prop where
  id : l'.session.id = l.session.id
  revision : l.session.revision ≤ l'.session.revision
  returns : ∀ state : ControlState, l'.read = .returned state → l.read = .returned state ∨
    (state.sessionID = l.session.id ∧ state.relayEpoch = epoch ∧
      l.session.revision ≤ state.revision ∧ state.revision ≤ l'.session.revision)

namespace LiveSession.Follows

variable {epoch : String} {l l' : LiveSession}

theorem refl (epoch : String) (l : LiveSession) : l.Follows epoch l :=
  ⟨rfl, le_refl _, fun _ returned => .inl returned⟩

theorem idle (epoch : String) (l : LiveSession) : l.Follows epoch { l with read := .idle } :=
  ⟨rfl, le_refl _, fun _ returned => by cases returned⟩

theorem of_effect {e : SessionEvent} (effect : LiveSession.Effect l e l')
    (domestic : e.foreign epoch = false) : l.Follows epoch l' := by
  obtain ⟨own, grown, returns⟩ := effect.reports
  refine ⟨own, grown, ?_⟩
  intro state returned
  rcases returns state returned with old | ⟨named, revision, rfl⟩
  · exact .inl old
  · have mine : state.relayEpoch = epoch := by simpa [SessionEvent.foreign] using domestic
    exact .inr ⟨named, mine, le_of_eq revision.symm, revision ▸ grown⟩

end LiveSession.Follows

structure Succeeds (epoch : String) (objects objects' : List LiveSession) : Prop where
  length : objects'.length = objects.length
  each : ∀ (i : Nat) (l l' : LiveSession), objects[i]? = some l → objects'[i]? = some l' →
    l.Follows epoch l'

namespace Succeeds

variable {epoch : String} {objects objects' : List LiveSession}

theorem refl (epoch : String) (objects : List LiveSession) : Succeeds epoch objects objects := by
  refine ⟨rfl, ?_⟩
  intro i l l' here here'
  cases here.symm.trans here'
  exact .refl epoch l

variable {l' : LiveSession} {i : Nat}

theorem origin (succeeds : Succeeds epoch objects objects') (here : objects'[i]? = some l') :
    ∃ l, objects[i]? = some l ∧ l.Follows epoch l' := by
  have inside : i < objects.length := succeeds.length ▸ (List.getElem?_eq_some_iff.mp here).1
  have there := List.getElem?_eq_getElem inside
  exact ⟨objects[i], there, succeeds.each i _ l' there here⟩

theorem owners_eq (succeeds : Succeeds epoch objects objects') : owners objects' = owners objects := by
  apply List.ext_getElem
  · simp [owners, succeeds.length]
  · intro i inside' inside
    simp only [owners, List.length_map] at inside inside'
    simp only [owners, List.getElem_map]
    exact (succeeds.each i _ _ (List.getElem?_eq_getElem inside) (List.getElem?_eq_getElem inside')).id

theorem set {l : LiveSession} (here : objects[i]? = some l) (follows : l.Follows epoch l') :
    Succeeds epoch objects (objects.set i l') := by
  refine ⟨List.length_set, ?_⟩
  intro j k k' there there'
  rw [List.getElem?_set] at there'
  split at there'
  · rename_i same
    subst same
    cases here.symm.trans there
    split at there'
    · cases there'
      exact follows
    · cases there'
  · cases there.symm.trans there'
    exact .refl epoch k

theorem modify {f : LiveSession → LiveSession} (follows : ∀ l : LiveSession, l.Follows epoch (f l)) :
    Succeeds epoch objects (objects.modify i f) := by
  refine ⟨List.length_modify .., ?_⟩
  intro j k k' there there'
  rw [List.getElem?_modify, there] at there'
  cases there'
  split
  · exact follows k
  · exact .refl epoch k

end Succeeds

structure Registry.Follows (epoch : String) (reg reg' : Registry) : Prop where
  objects : Succeeds epoch reg.objects reg'.objects
  rooms : ∀ {id i}, reg'.rooms.lookup id = some i → reg.rooms.lookup id = some i

namespace Registry.Follows

theorem removeClosed (epoch : String) (reg : Registry) : reg.Follows epoch reg.removeClosed :=
  ⟨.refl _ _, fun registered => (Table.lookup_eraseWhere.mp registered).1⟩

theorem set {epoch : String} {reg : Registry} {i : Nat} {l l' : LiveSession}
    (here : reg.objects[i]? = some l) (follows : l.Follows epoch l') : reg.Follows epoch (reg.set i l') :=
  ⟨.set here follows, id⟩

theorem delete (epoch : String) (reg : Registry) (id : String) : reg.Follows epoch (reg.delete id) := by
  unfold Registry.delete
  split
  · exact ⟨.refl _ _, fun registered => registered⟩
  · exact ⟨.modify fun l => ⟨rfl, le_refl _, fun _ returned => .inl returned⟩,
      fun registered => (Table.lookup_erase_some.mp registered).2⟩

theorem delete_if (epoch : String) (reg : Registry) (id : String) (b : Bool) :
    reg.Follows epoch (if b then reg.delete id else reg) := by
  split
  · exact delete epoch reg id
  · exact ⟨.refl _ _, fun registered => registered⟩

end Registry.Follows

structure Tally (epoch : String) (revs : String → List Nat) (objects : List LiveSession) : Prop where
  reads : ∀ (i : Nat) (l : LiveSession) (state : ControlState),
    objects[i]? = some l → l.read = .returned state →
    state.sessionID = l.session.id ∧ state.relayEpoch = epoch ∧ state.revision ≤ l.session.revision
  ahead : ∀ (i : Nat) (l : LiveSession), objects[i]? = some l → Latest (owners objects) i →
    ∀ ρ ∈ revs l.session.id,
      ρ ≤ l.session.revision ∧ ∀ state : ControlState, l.read = .returned state → ρ ≤ state.revision

namespace Tally

variable {epoch : String} {revs : String → List Nat} {objects objects' : List LiveSession}

theorem later (tally : Tally epoch revs objects) (succeeds : Succeeds epoch objects objects') :
    Tally epoch revs objects' := by
  constructor
  · intro i l' state here returned
    obtain ⟨l, there, follows⟩ := succeeds.origin here
    rw [follows.id]
    rcases follows.returns state returned with old | ⟨named, mine, _, bound⟩
    · obtain ⟨named, mine, bound⟩ := tally.reads i l state there old
      exact ⟨named, mine, bound.trans follows.revision⟩
    · exact ⟨named, mine, bound⟩
  · intro i l' here latest ρ member
    obtain ⟨l, there, follows⟩ := succeeds.origin here
    rw [follows.id] at member
    obtain ⟨behind, older⟩ := tally.ahead i l there (succeeds.owners_eq ▸ latest) ρ member
    refine ⟨behind.trans follows.revision, ?_⟩
    intro state returned
    rcases follows.returns state returned with old | ⟨_, _, fresh, _⟩
    · exact older state old
    · exact behind.trans fresh

theorem create {id : String} {maxBuses maxSubscriptions : Nat} (tally : Tally epoch revs objects)
    (first : ∀ ρ ∈ revs id, ρ ≤ 1) :
    Tally epoch revs (objects ++ [.new id maxBuses maxSubscriptions]) := by
  have cases : ∀ {i : Nat} {l : LiveSession},
      (objects ++ [LiveSession.new id maxBuses maxSubscriptions])[i]? = some l →
      (objects[i]? = some l ∧ i < objects.length) ∨ l = .new id maxBuses maxSubscriptions := by
    intro i l here
    by_cases inside : i < objects.length
    · rw [List.getElem?_append_left inside] at here
      exact .inl ⟨here, inside⟩
    · rw [List.getElem?_append_right (not_lt.mp inside), List.getElem?_singleton] at here
      split at here
      · exact .inr (Option.some.inj here).symm
      · cases here
  constructor
  · intro i l state here returned
    rcases cases here with ⟨old, _⟩ | rfl
    · exact tally.reads i l state old returned
    · cases returned
  · intro i l here latest
    rcases cases here with ⟨old, inside⟩ | rfl
    · apply tally.ahead i l old
      simp only [owners, List.map_append, List.map_cons, List.map_nil] at latest
      exact latest.early (by simpa using inside)
    · intro ρ member
      exact ⟨first ρ member, fun state returned => by cases returned⟩

theorem build {i : Nat} {l : LiveSession} {state : ControlState} {revs' : String → List Nat}
    (tally : Tally epoch revs objects) (here : objects[i]? = some l)
    (returned : l.read = .returned state) (latest : Latest (owners objects) i)
    (appended : ∀ id ρ, ρ ∈ revs' id → ρ ∈ revs id ∨ (id = state.sessionID ∧ ρ = state.revision)) :
    Tally epoch revs' (objects.set i { l with read := .idle }) := by
  have succeeds := Succeeds.set here (LiveSession.Follows.idle epoch l)
  have after := tally.later succeeds
  obtain ⟨named, _, bound⟩ := tally.reads i l state here returned
  refine ⟨after.reads, ?_⟩
  intro j k there final ρ member
  rcases appended _ ρ member with old | ⟨owner, rfl⟩
  · exact after.ahead j k there final ρ old
  · obtain ⟨k', before, follows⟩ := succeeds.origin there
    -- only one RelaySession is the latest of its Session
    rw [succeeds.owners_eq] at final
    have own : k'.session.id = l.session.id := by rw [← follows.id, owner, named]
    have holds : (owners objects)[j]? = some l.session.id := by simp [owners, before, own]
    have same : j = i := final.unique latest holds (by simp [owners, here])
    subst same
    have inside := (List.getElem?_eq_some_iff.mp here).1
    rw [List.getElem?_set_self inside] at there
    cases there
    exact ⟨bound, fun state returned => by cases returned⟩

end Tally

def builtBy (x : Step RelayProcess ProcessEvent) : Option RelayState :=
  match x.event with
  | .build _ _ => x.after.pushing
  | _ => none

def revisionOf (id : String) (x : Step RelayProcess ProcessEvent) : Option Nat :=
  ((builtBy x).filter fun snapshot => snapshot.sessionID = id).map (·.revision)

def revisions (id : String) (h : ProcessHistory) : List Nat := h.filterMap (revisionOf id)

def createdBy (x : Step RelayProcess ProcessEvent) : Option String :=
  match x.event with
  | .join id _ =>
    if x.before.registry.objects.length < x.after.registry.objects.length then some id else none
  | _ => none

def ProcessEvent.reported : ProcessEvent → Option Nat
  | .build i _ => some i
  | _ => none

/-- A RelaySession is created only for a Session that was not reported past the first
revision, and only the latest RelaySession of a Session is reported. -/
def Continuing (h : ProcessHistory) : Prop :=
  ∀ before x after, h = before ++ x :: after →
    (∀ id ∈ createdBy x, ∀ ρ ∈ revisions id before, ρ ≤ 1) ∧
      ∀ i ∈ x.event.reported, Latest (owners x.before.registry.objects) i

theorem Continuing.early {x : Step RelayProcess ProcessEvent} (continuing : Continuing (h ++ [x])) : Continuing h := by
  intro before y after split
  exact continuing before y (after ++ [x]) (by simp [split])

theorem revisions_snoc (id : String) (h : ProcessHistory) (x : Step RelayProcess ProcessEvent) :
    revisions id (h ++ [x]) = revisions id h ++ (revisionOf id x).toList := by
  cases here : revisionOf id x <;> simp [revisions, here]

namespace RelayProcess

inductive Moved (P : Primitives) (p : RelayProcess) : ProcessEvent → RelayProcess → Prop
  | created (id : String) (maxSessions : Nat) :
    p.registry.removeClosed.rooms.lookup id = none →
    Moved P p (.join id maxSessions) { p with registry := p.registry.removeClosed.create id }
  | followed (e : ProcessEvent) (registry : Registry) :
    e.reported = none → p.registry.Follows p.relayEpoch registry →
    Moved P p e { p with registry := registry }
  | built (i term : Nat) (l : LiveSession) (state : ControlState) :
    p.pushing = none → p.registry.objects[i]? = some l → l.read = .returned state →
    Moved P p (.build i term)
      { p with
        registry := p.registry.set i { l with read := .idle }
        pushing := some (state.snapshot term) }
  | released (e : ProcessEvent) (registry : Registry) (world : World) :
    e.reported = none → p.registry.Follows p.relayEpoch registry →
    (world = p.world ∨ ∃ snapshot s env, p.pushing = some snapshot ∧
      p.world.Allows (delivery snapshot s env) ∧ world = p.world.next P (delivery snapshot s env)) →
    Moved P p e { p with registry := registry, pushing := none, world := world }
  | accessed (e : Event) :
    p.world.Allows e → e.action.reports p.relayEpoch = false →
    Moved P p (.access e) { p with world := p.world.next P e }

theorem step_moved {P : Primitives} {p p' : RelayProcess} {e : ProcessEvent}
    (moved : p.step P e = some p') : Moved P p e p' := by
  cases e with
  | join id maxSessions =>
    cases moved
    unfold Registry.getOrCreateWithinLimit
    split
    · exact .followed _ _ rfl (.removeClosed _ _)
    · rename_i absent
      split
      · exact .followed _ _ rfl (.removeClosed _ _)
      · exact .created id maxSessions absent
  | sweep =>
    cases moved
    exact .followed _ _ rfl (.removeClosed _ _)
  | attach i e =>
    simp only [step] at moved
    split at moved
    · cases moved
    · rename_i l here
      split at moved
      · cases moved
      · rename_i domestic
        obtain ⟨l', stepped, rfl⟩ := Option.map_eq_some_iff.mp moved
        have follows := LiveSession.Follows.of_effect (LiveSession.step_effect stepped)
          (by simpa using domestic)
        exact .followed _ _ rfl (.set here follows)
  | build i term =>
    simp only [step] at moved
    split at moved
    · rename_i l unused here
      split at moved
      · rename_i state returned
        cases moved
        exact .built i term l state unused here returned
      · cases moved
    · cases moved
  | deliver s env =>
    simp only [step] at moved
    split at moved
    · cases moved
    · rename_i snapshot held
      split at moved
      · rename_i allowed
        cases moved
        exact .released _ _ _ rfl (.delete_if _ _ _ _) (.inr ⟨snapshot, s, env, held, allowed, rfl⟩)
      · cases moved
  | drop remove =>
    simp only [step] at moved
    split at moved
    · cases moved
    · cases moved
      exact .released _ _ _ rfl (.delete_if _ _ _ _) (.inl rfl)
  | access e =>
    obtain ⟨allowed, rfl⟩ := Option.guarded moved
    exact .accessed e allowed.1 allowed.2

end RelayProcess

theorem ordered_of_run (run : ProcessRuns P epoch maxBuses maxSubscriptions h p) : p.registry.Ordered := by
  refine run.invariant (I := fun p => p.registry.Ordered) ?_ ?_
  · intro p e p' ordered move
    cases RelayProcess.step_moved move with
    | created id _ absent => exact ordered.removeClosed.create absent
    | followed _ _ _ follows | released _ _ _ _ follows =>
      exact ordered.fewer follows.objects.owners_eq follows.rooms
    | built i term l state _ here _ =>
      have follows := Registry.Follows.set here (LiveSession.Follows.idle p.relayEpoch l)
      exact ordered.fewer follows.objects.owners_eq follows.rooms
    | accessed => exact ordered
  · intro id i registered
    cases registered

structure Aligned (revs : String → List Nat) (p : RelayProcess) : Prop where
  keyed : p.world.store.data.Keyed
  tally : Tally p.relayEpoch revs p.registry.objects
  rising : ∀ id, (revs id).Pairwise (· ≤ ·)
  pushed : ∀ snapshot, p.pushing = some snapshot →
    snapshot.relayEpoch = p.relayEpoch ∧ snapshot.revision ∈ revs snapshot.sessionID ∧
      ∀ ρ ∈ revs snapshot.sessionID, ρ ≤ snapshot.revision
  stored : ∀ id r, p.world.store.data.sessions.lookup id = some r →
    r.relay.relayEpoch = p.relayEpoch → r.relay.revision = 0 ∨ r.relay.revision ∈ revs id

namespace Aligned

variable {P : Primitives} {revs : String → List Nat} {p : RelayProcess}

theorem store_access {e : Event} (aligned : Aligned revs p) (allowed : p.world.Allows e)
    (own : ∀ s id snapshot, e.action = .call s (.apply id snapshot) →
      snapshot.relayEpoch = p.relayEpoch → snapshot.revision ∈ revs id) :
    (p.world.next P e).store.data.Keyed ∧
      ∀ id r, (p.world.next P e).store.data.sessions.lookup id = some r →
        r.relay.relayEpoch = p.relayEpoch → r.relay.revision = 0 ∨ r.relay.revision ∈ revs id := by
  have change := (allowed.moves (P := P)).change aligned.keyed
  refine ⟨change.keyed aligned.keyed, ?_⟩
  intro id r' stored mine
  rcases change.reported aligned.keyed stored with
    ⟨r, found, epoch, revision⟩ | zero | ⟨s, snapshot, calls, epoch, revision⟩
  · rw [revision]
    exact aligned.stored id r found (epoch ▸ mine)
  · exact .inl zero
  · rw [revision]
    exact .inr (own s id snapshot calls (epoch ▸ mine))

theorem current (aligned : Aligned revs p) {snapshot : RelayState} (held : p.pushing = some snapshot)
    {r : SessionRecord} (stored : p.world.store.data.sessions.lookup snapshot.sessionID = some r)
    (epoch : r.relay.relayEpoch = snapshot.relayEpoch) : r.relay.revision ≤ snapshot.revision := by
  obtain ⟨mine, _, last⟩ := aligned.pushed snapshot held
  rcases aligned.stored _ r stored (epoch.trans mine) with zero | member
  · rw [zero]
    exact Nat.zero_le _
  · exact last _ member

theorem silent {e : ProcessEvent} {p' : RelayProcess} (aligned : Aligned revs p)
    (moved : RelayProcess.Moved P p e p') (unreported : e.reported = none)
    (first : ∀ id ∈ createdBy ⟨p, e, p'⟩, ∀ ρ ∈ revs id, ρ ≤ 1) : Aligned revs p' := by
  have ⟨keyed, tally, rising, pushed, stored⟩ := aligned
  cases moved with
  | created id maxSessions =>
    have made : ∀ ρ ∈ revs id, ρ ≤ 1 :=
      first id (by simp [createdBy, Registry.create, Registry.removeClosed])
    exact ⟨keyed, tally.create made, rising, pushed, stored⟩
  | followed _ registry _ follows => exact ⟨keyed, tally.later follows.objects, rising, pushed, stored⟩
  | built => cases unreported
  | released _ registry world _ follows delivered =>
    have tally := tally.later follows.objects
    rcases delivered with rfl | ⟨snapshot, s, env, held, allowed, rfl⟩
    · exact ⟨keyed, tally, rising, by simp, stored⟩
    · obtain ⟨keyed', stored'⟩ := aligned.store_access (P := P) allowed (by
        intro s' id other calls _
        cases calls
        exact (pushed _ held).2.1)
      exact ⟨keyed', tally, rising, by simp, stored'⟩
  | accessed e allowed unrelated =>
    obtain ⟨keyed', stored'⟩ := aligned.store_access (P := P) allowed (by
      intro s id snapshot calls mine
      simp [Action.reports, calls, mine] at unrelated)
    exact ⟨keyed', tally, rising, pushed, stored'⟩

theorem build {revs' : String → List Nat} {i term : Nat} {l : LiveSession} {state : ControlState}
    (aligned : Aligned revs p) (here : p.registry.objects[i]? = some l)
    (returned : l.read = .returned state) (latest : Latest (owners p.registry.objects) i)
    (own : revs' state.sessionID = revs state.sessionID ++ [state.revision])
    (others : ∀ id, id ≠ state.sessionID → revs' id = revs id) :
    Aligned revs'
      { p with
        registry := p.registry.set i { l with read := .idle }
        pushing := some (state.snapshot term) } := by
  obtain ⟨keyed, tally, rising, _, stored⟩ := aligned
  obtain ⟨named, mine, _⟩ := tally.reads i l state here returned
  have behind : ∀ ρ ∈ revs state.sessionID, ρ ≤ state.revision := by
    intro ρ member
    rw [named] at member
    exact (tally.ahead i l here latest ρ member).2 state returned
  have known : ∀ id ρ, ρ ∈ revs id → ρ ∈ revs' id := by
    intro id ρ member
    by_cases same : id = state.sessionID
    · subst same
      rw [own]
      exact List.mem_append_left _ member
    · exact others id same ▸ member
  have appended : ∀ id ρ, ρ ∈ revs' id → ρ ∈ revs id ∨ (id = state.sessionID ∧ ρ = state.revision) := by
    intro id ρ member
    by_cases same : id = state.sessionID
    · subst same
      rw [own] at member
      exact (List.mem_append.mp member).imp_right fun last => ⟨rfl, List.mem_singleton.mp last⟩
    · exact .inl (others id same ▸ member)
  refine ⟨keyed, tally.build here returned latest appended, ?_, ?_, ?_⟩
  · intro id
    by_cases same : id = state.sessionID
    · subst same
      rw [own, List.pairwise_append]
      refine ⟨rising _, List.pairwise_singleton _ _, ?_⟩
      intro ρ member ρ' last
      rw [List.mem_singleton.mp last]
      exact behind ρ member
    · rw [others id same]
      exact rising id
  · rintro snapshot ⟨⟩
    refine ⟨mine, ?_, ?_⟩
    · change state.revision ∈ revs' state.sessionID
      simp [own]
    · intro ρ member
      rcases appended _ ρ member with old | ⟨_, rfl⟩
      · exact behind ρ old
      · exact le_refl _
  · intro id r found epoch
    exact (stored id r found epoch).imp_right (known id _)

end Aligned

theorem aligned_of_run (run : ProcessRuns P epoch maxBuses maxSubscriptions h p) (continuing : Continuing h) :
    Aligned (fun id => revisions id h) p := by
  refine Exec.history (G := Continuing) (I := fun h p => Aligned (fun id => revisions id h) p)
    Continuing.early ?_ ?_ run continuing
  · refine ⟨Records.keyed_empty, ⟨?_, ?_⟩, fun _ => .nil, ?_, ?_⟩
    · simp [RelayProcess.start, Registry.new]
    · simp [RelayProcess.start, Registry.new]
    · simp [RelayProcess.start]
    · simp [RelayProcess.start, World.empty, Store.empty, Records.empty]
  · intro h p e p' _ good aligned move
    obtain ⟨first, latest⟩ := good h ⟨p, e, p'⟩ [] rfl
    have moved := RelayProcess.step_moved move
    cases unreported : e.reported with
    | none =>
      have same : ∀ id, revisions id (h ++ [⟨p, e, p'⟩]) = revisions id h := by
        intro id
        have quiet : builtBy ⟨p, e, p'⟩ = none := by
          cases e <;> first | rfl | cases unreported
        rw [revisions_snoc, revisionOf, quiet]
        simp
      simp only [same]
      exact aligned.silent moved unreported first
    | some i =>
      cases moved with
      | created | accessed => cases unreported
      | followed _ _ silent | released _ _ _ silent => cases silent.symm.trans unreported
      | built i term l state _ here returned =>
        apply aligned.build here returned (latest i rfl)
        · simp [revisions_snoc, revisionOf, builtBy, ControlState.snapshot]
        · intro id other
          simp [revisions_snoc, revisionOf, builtBy, ControlState.snapshot, Ne.symm other]

/-! One process that reports a Session twice, without and with an idle time in between. -/
namespace Plain

def reportedBy (i : Nat) (now : Time) : List ProcessEvent :=
  reporting.map (.attach i) ++ [.build i 1, .deliver service ⟨now, [], false⟩]

def visited : List ProcessEvent :=
  placed.map .access ++ [.join sessionID 0] ++ publishing.map (.attach 0)

def departed : List ProcessEvent :=
  [.attach 0 (.detach "microphone" 0), .attach 0 (.notify (.detached "microphone"))]

def continued : List ProcessEvent := visited ++ reportedBy 0 6 ++ departed ++ reportedBy 0 7

def restarted : List ProcessEvent :=
  visited ++ departed ++ reportedBy 0 6 ++ [.attach 0 (.checkExpiry false), .join sessionID 0] ++
    reportedBy 1 7

def ignored : RelayState := ⟨1, sessionID, "epoch", 1, 1, 5, [], []⟩

def processed (events : List ProcessEvent) : ProcessHistory :=
  Machine.trail (RelayProcess.step primitives) (.start "epoch" 16 0) events

def process (events : List ProcessEvent) : RelayProcess :=
  Machine.final (RelayProcess.step primitives) (.start "epoch" 16 0) events

end Plain

end Relay
