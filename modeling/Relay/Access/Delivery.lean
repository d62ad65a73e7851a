import Relay.Access.StateRevision
import Relay.Lib.Register

/-! The reports that reach a Session under one placement. The stored report is a register
ranked by the revision: it ends with the highest revision delivered, in whatever order and
however often the reports arrive. -/
namespace Relay

def delivered (P : Primitives) (id : String) (x : Step World Event) : Option RelayState :=
  match x.event.action, (ran P x).reply with
  | .call _ (.apply k snapshot), .ok _ => if k = id then some snapshot else none
  | _, _ => none

def deliveries (P : Primitives) (id : String) (k : History) : List RelayState := k.filterMap (delivered P id)

theorem deliveries_snoc (P : Primitives) (id : String) (k : History) (x : Step World Event) :
    deliveries P id (k ++ [x]) = deliveries P id k ++ (delivered P id x).toList := by
  cases here : delivered P id x <;> simp [deliveries, here]

def expires (id : String) (x : Step World Event) : Prop :=
  ∃ s r, x.event.action = .call s (.get id) ∧ x.before.store.data.sessions.lookup id = some r ∧
    s.staleObservation r x.event.env.now ∧ r.observed

/-- A stretch of a history in which a Session keeps its placement and no report is dropped. -/
structure Undisturbed (P : Primitives) (id : String) (k : History) : Prop where
  one : ∀ x ∈ k, ¬ creates P id x
  placed : ∀ x ∈ k, placement P id x = none
  observed : ∀ x ∈ k, ¬ expires id x
  unopened : ∀ x ∈ k, ∀ s, (ran P x).reply ≠ .ok (.opened s)

variable {a b : RelayState} {r r' : SessionRecord} {P : Primitives} {l : List RelayState} {k : History} {id : String}

theorem Undisturbed.early {l : History} (calm : Undisturbed P id (k ++ l)) :
    Undisturbed P id k where
  one x member := calm.one x (List.mem_append_left _ member)
  placed x member := calm.placed x (List.mem_append_left _ member)
  observed x member := calm.observed x (List.mem_append_left _ member)
  unopened x member := calm.unopened x (List.mem_append_left _ member)

theorem Undisturbed.late {l : History} (calm : Undisturbed P id (k ++ l)) :
    Undisturbed P id l where
  one x member := calm.one x (List.mem_append_right _ member)
  placed x member := calm.placed x (List.mem_append_right _ member)
  observed x member := calm.observed x (List.mem_append_right _ member)
  unopened x member := calm.unopened x (List.mem_append_right _ member)

structure SessionRecord.Settled (r r' : SessionRecord) : Prop where
  revision : r'.relay.revision = r.relay.revision
  buses : r'.relay.buses = r.relay.buses
  subscriptions : r'.relay.subscriptions = r.relay.subscriptions
  stateRevision : r'.stateRevision = r.stateRevision

theorem SessionRecord.Settled.refl (r : SessionRecord) : r.Settled r := ⟨rfl, rfl, rfl, rfl⟩

theorem Records.putSession_other {d : Records} {k : String} (stored : (d.putSession r).sessions.lookup k = some r')
    (other : r.id ≠ k) : d.sessions.lookup k = some r' :=
  (Records.putSession_lookup_ne (Ne.symm other)).symm.trans stored

section Steps

variable {P : Primitives} {x : Step World Event} {id : String}
variable {r' : SessionRecord} {a : Answer} {s : Service} {snapshot : RelayState}

theorem get_kept (move : World.Moves P x.before x.event x.after) (calls : x.event.action = .call s (.get id))
    (ok : (ran P x).reply = .ok a) (fresh : ¬ expires id x) :
    x.after.store.data = s.prologue x.event.env.now x.before.store.data := by
  have unfolded : ran P x = (s.getContext P id x.event.env x.before.store).map .session := by
    simp only [ran, World.exec, calls, Service.answer]
  have stored : x.after.store = (ran P x).store := by
    rw [move.result]
    rfl
  rw [unfolded] at ok stored
  obtain ⟨v, read, _⟩ := Ran.map_ok ok
  rw [stored, Ran.map_store]
  unfold Service.getContext Service.update at read ⊢
  obtain ⟨tx, guarded, _, _, left⟩ := Store.update_ok read
  obtain ⟨_, body⟩ := Service.guarded_ok guarded
  rw [left]
  obtain ⟨r, active, ⟨_, rfl⟩ | ⟨⟨stale, observed⟩, _, _⟩⟩ := Service.getBody_ok body
  · rfl
  · exact absurd ⟨s, r, calls, active.of_prologue.found, stale, observed⟩ fresh

theorem delivered_some (arrives : delivered P id x = some snapshot) :
    ∃ s out, x.event.action = .call s (.apply id snapshot) ∧ (ran P x).reply = .ok (.state out) := by
  unfold delivered at arrives
  split at arrives
  · rename_i s k report a calls ok
    split at arrives
    · rename_i same
      subst same
      cases arrives
      have answered := ok
      simp only [ran, World.exec, calls, Service.answer] at answered
      obtain ⟨out, _, rfl⟩ := Ran.map_ok answered
      exact ⟨s, out, calls, ok⟩
    · cases arrives
  · cases arrives

theorem placement_of_place {epoch : String} {r : SessionRecord}
    (calls : x.event.action = .call s (.acquire id epoch r.mediaTerm))
    (ok : (ran P x).reply = .ok (.term (r.mediaTerm + 1))) (found : x.before.store.data.sessions.lookup id = some r) :
    placement P id x = some (epoch, r.mediaTerm + 1) := by
  simp [placement, calls, ok, found]

theorem settled_of_call {request : Request} (move : World.Moves P x.before x.event x.after)
    (keyed : x.before.store.data.Keyed) (calls : x.event.action = .call s request) (ok : (ran P x).reply = .ok a)
    (calm : Undisturbed P id [x]) (nothing : delivered P id x = none)
    (stored : x.after.store.data.sessions.lookup id = some r') :
    ∃ r, x.before.store.data.sessions.lookup id = some r ∧ r.Settled r' := by
  have shrinks := s.shrinks_prologue x.event.env.now x.before.store.data
  have pruned := keyed.shrink shrinks
  have placed := calm.placed x (by simp)
  have fresh := calm.one x (by simp)
  have kept : ∀ {r}, (s.prologue x.event.env.now x.before.store.data).sessions.lookup id = some r →
      ∃ r₀, x.before.store.data.sessions.lookup id = some r₀ ∧ r₀.Settled r :=
    fun found => ⟨_, shrinks.sessions found, .refl _⟩
  -- a read of this very Session is the one call whose effect depends on what it finds
  by_cases reads : request = .get id
  · subst reads
    rw [get_kept move calls ok (calm.observed x (by simp))] at stored
    exact kept stored
  have succeeded := ran_succeeded move calls ok
  generalize drew : (ran P x).drawn = drawn, (ran P x).signed = signed, x.after.store.data = d at succeeded stored
  cases succeeded with
  | read => exact ⟨r', stored, .refl r'⟩
  | performed performed =>
    cases performed with
    | get | absent | ignore | replay | held | invite => exact kept stored
    | create declared made named =>
      rcases Records.putSession_sessions.mp stored with ⟨rfl, rfl⟩ | ⟨_, stored⟩
      · refine absurd ⟨s, _, _, calls, ok, ?_⟩ fresh
        rw [drew]
        exact List.mem_singleton.mpr rfl
      · exact kept stored
    | clear active =>
      apply kept
      apply Records.putSession_other stored
      intro same
      exact reads (by rw [← same, ← pruned.sessions active.found]; rfl)
    | delete active => exact kept ((Records.shrinks_deleteSession _ _).sessions stored)
    | @publish k _ r _ _ active | @subscribe k _ r _ _ active | @renew k _ r _ _ _ active =>
      rcases Records.putSession_sessions.mp stored with ⟨same, rfl⟩ | ⟨_, stored⟩
      · have own := pruned.sessions active.found
        have here : id = k := same.trans own
        exact ⟨r, here ▸ shrinks.sessions active.found, rfl, rfl, rfl, rfl⟩
      · exact kept stored
    | @observe k snapshot r _ _ _ active =>
      apply kept
      apply Records.putSession_other stored
      intro same
      have own := (s.same_observe r (normalizeRelaySnapshot snapshot) x.event.env.now).id.trans
        (pruned.sessions active.found)
      have here : k = id := own.symm.trans same
      simp [delivered, calls, ok, here] at nothing
    | @place k epoch r active =>
      apply kept
      apply Records.putSession_other stored
      intro same
      have here : k = id := (pruned.sessions active.found).symm.trans same
      subst here
      rw [placement_of_place calls ok (shrinks.sessions active.found)] at placed
      cases placed
    | consume consumed =>
      unfold Service.redeemed at stored
      rw [Records.deleteGrant_sessions] at stored
      apply kept
      split at stored <;> exact stored

theorem settled_of_undelivered (move : World.Moves P x.before x.event x.after) (keyed : x.before.store.data.Keyed)
    (calm : Undisturbed P id [x]) (nothing : delivered P id x = none)
    (stored : x.after.store.data.sessions.lookup id = some r') :
    ∃ r, x.before.store.data.sessions.lookup id = some r ∧ r.Settled r' := by
  have opened := calm.unopened x (by simp)
  have change := move.change keyed
  generalize here : x.after.store.data = d, x.after.replicas = replicas at change stored
  cases change with
  | quiet => exact ⟨r', stored, .refl r'⟩
  | opened _ _ _ _ _ _ _ _ _ _ reply _ => exact absurd reply (opened _)
  | reset rows _ _ _ _ _ => exact ⟨r', (Records.shrinks_deleteRows _ rows).sessions stored, .refl r'⟩
  | called s request a d _ calls ok _ _ =>
    rw [← here] at stored
    exact settled_of_call move keyed calls ok calm nothing stored

inductive Taken (r : SessionRecord) (snapshot : RelayState) : State × Bool → SessionRecord → Prop
  | older : snapshot.revision < r.relay.revision → Taken r snapshot (r.state, false) r
  | taken (s : Service) (now : Time) : r.relay.revision ≤ snapshot.revision →
    Taken r snapshot
      ((s.observe r (normalizeRelaySnapshot snapshot) now).state, Service.changes r (normalizeRelaySnapshot snapshot))
      (s.observe r (normalizeRelaySnapshot snapshot) now)

theorem delivered_taken (move : World.Moves P x.before x.event x.after) (keyed : x.before.store.data.Keyed)
    (arrives : delivered P id x = some snapshot) :
    snapshot.WellFormed ∧ ∃ r out r', x.before.store.data.sessions.lookup id = some r ∧ r.HeldBy snapshot ∧
      (ran P x).reply = .ok (.state out) ∧ x.after.store.data.sessions.lookup id = some r' ∧
      Taken r snapshot out r' := by
  obtain ⟨s, out, calls, ok⟩ := delivered_some arrives
  obtain ⟨_, formed, r, active, holds, reported⟩ := ran_reported move calls ok
  have shrinks := s.shrinks_prologue x.event.env.now x.before.store.data
  have found := shrinks.sessions active.found
  refine ⟨formed, r, out, ?_⟩
  generalize x.after.store.data = d at reported ⊢
  cases reported with
  | older stale => exact ⟨r, found, holds, ok, active.found, .older stale⟩
  | taken current =>
    have own := (s.same_observe r (normalizeRelaySnapshot snapshot) x.event.env.now).id.trans (keyed.sessions found)
    exact ⟨_, found, holds, ok, Records.putSession_sessions.mpr (.inl ⟨own.symm, rfl⟩), .taken s _ current⟩

end Steps

/-- The stored report is what the register holds, as the service lists it. -/
def SessionRecord.Shows (r : SessionRecord) : Option RelayState → Prop
  | none => r.relay.revision = 0 ∧ r.relay.buses = [] ∧ r.relay.subscriptions = []
  | some snapshot => r.relay.revision = snapshot.revision ∧
    r.relay.buses = (normalizeRelaySnapshot snapshot).buses ∧
    r.relay.subscriptions = (normalizeRelaySnapshot snapshot).subscriptions

theorem SessionRecord.Settled.shows {held : Option RelayState} (settled : r.Settled r') (shows : r.Shows held) :
    r'.Shows held := by
  cases held <;> simpa [Shows, settled.revision, settled.buses, settled.subscriptions] using shows

theorem Service.observe_shows (s : Service) (r : SessionRecord) (snapshot : RelayState) (now : Time) :
    (s.observe r (normalizeRelaySnapshot snapshot) now).Shows (some snapshot) := by
  unfold Service.observe
  dsimp only
  split <;> exact ⟨rfl, rfl, rfl⟩

namespace Taken

variable {r r' : SessionRecord} {snapshot : RelayState} {out : State × Bool} {held : Option RelayState}

theorem shows (taken : Taken r snapshot out r') (before : r.Shows held) :
    r'.Shows (Register.deliver (·.revision) held snapshot) := by
  cases taken with
  | older stale =>
    cases held with
    | none =>
      have zero := before.1
      omega
    | some a =>
      have outranked : snapshot.revision < a.revision := before.1 ▸ stale
      simpa [Register.deliver, outranked] using before
  | taken s now current =>
    cases held with
    | none => exact s.observe_shows r snapshot now
    | some a =>
      have newest : ¬ snapshot.revision < a.revision := not_lt.mpr (before.1 ▸ current)
      simpa [Register.deliver, newest] using s.observe_shows r snapshot now

theorem stateRevision_of_raised (taken : Taken r snapshot out r') (raised : r.relay.revision < snapshot.revision) :
    r'.stateRevision = r.stateRevision + 1 := by
  cases taken with
  | older stale => omega
  | taken s now current =>
    have changed : Service.changes r (normalizeRelaySnapshot snapshot) = true := by
      by_contra unchanged
      have same := (Service.changes_false_iff.mp (Bool.not_eq_true _ ▸ unchanged)).1
      have revision : (normalizeRelaySnapshot snapshot).revision = snapshot.revision := rfl
      omega
    rw [s.observe_stateRevision, changed, if_pos rfl]

theorem unchanged (taken : Taken r snapshot out r') (holds : r.HeldBy snapshot)
    (unraised : snapshot.revision ≤ r.relay.revision) 
    (same : snapshot.revision = r.relay.revision → r.Shows (some snapshot)) :
    out = (r.state, false) ∧ r'.stateRevision = r.stateRevision := by
  cases taken with
  | older => exact ⟨rfl, rfl⟩
  | taken s now current =>
    obtain ⟨revision, buses, subscriptions⟩ := same (le_antisymm unraised current)
    have still : Service.changes r (normalizeRelaySnapshot snapshot) = false :=
      Service.changes_false_iff.mpr ⟨revision.symm, buses.symm, subscriptions.symm⟩
    refine ⟨?_, ?_⟩
    · rw [still, s.observe_state_of_unchanged now still holds.epoch]
    · rw [s.observe_stateRevision, still]
      rfl

end Taken

/-- Reports with one revision list the same buses and subscriptions, in whatever order. -/
def Consistent (l : List RelayState) : Prop :=
  ∀ a ∈ l, ∀ b ∈ l, a.revision = b.revision → a.buses.Perm b.buses ∧ a.subscriptions.Perm b.subscriptions

theorem normalizeRelaySnapshot_congr (formed : a.WellFormed) (buses : a.buses.Perm b.buses)
    (subscriptions : a.subscriptions.Perm b.subscriptions) :
    (normalizeRelaySnapshot a).buses = (normalizeRelaySnapshot b).buses ∧
      (normalizeRelaySnapshot a).subscriptions = (normalizeRelaySnapshot b).subscriptions :=
  ⟨List.insertionSort_eq_of_perm buses formed.busesOnce,
    List.insertionSort_eq_of_perm subscriptions formed.subscribersOnce⟩

def raises (P : Primitives) (id : String) (x : Step World Event) : Bool :=
  match delivered P id x, x.before.store.data.sessions.lookup id with
  | some snapshot, some r => r.relay.revision < snapshot.revision
  | _, _ => false

theorem Consistent.early {m : List RelayState} (consistent : Consistent (l ++ m)) : Consistent l :=
  fun a first b second => consistent a (List.mem_append_left _ first) b (List.mem_append_left _ second)

theorem Consistent.shows (consistent : Consistent l) (first : a ∈ l) (second : b ∈ l) (formed : a.WellFormed)
    (revision : a.revision = b.revision) (shows : r.Shows (some a)) : r.Shows (some b) := by
  obtain ⟨buses, subscriptions⟩ := consistent a first b second revision
  obtain ⟨sameBuses, sameSubscriptions⟩ := normalizeRelaySnapshot_congr formed buses subscriptions
  exact ⟨shows.1.trans revision, shows.2.1.trans sameBuses, shows.2.2.trans sameSubscriptions⟩

section Stretch

variable {P : Primitives} {id : String} {h k : History} {w w' : World} {r r₀ : SessionRecord}

theorem shows_of_exec {held : Option RelayState} (run : Runs P h w)
    (start : w.store.data.sessions.lookup id = some r₀) (shows : r₀.Shows held)
    (rest : Exec (World.Moves P) w k w') (calm : Undisturbed P id k)
    (stored : w'.store.data.sessions.lookup id = some r) :
    r.Shows ((deliveries P id k).foldl (Register.deliver (·.revision)) held) := by
  induction rest generalizing r with
  | nil =>
    have same : some r₀ = some r := start.symm.trans stored
    cases same
    exact shows
  | @snoc k t u e before move ih =>
    have keyed := keyed_of_run (run.append before)
    rw [deliveries_snoc]
    cases arrives : delivered P id ⟨t, e, u⟩ with
    | none =>
      obtain ⟨r₁, found, settled⟩ :=
        settled_of_undelivered (x := ⟨t, e, u⟩) move keyed calm.late arrives stored
      rw [Option.toList_none, List.append_nil]
      exact settled.shows (ih calm.early found)
    | some snapshot =>
      obtain ⟨_, r₁, out, r', found, _, _, left, taken⟩ :=
        delivered_taken (x := ⟨t, e, u⟩) move keyed arrives
      have same : some r' = some r := left.symm.trans stored
      cases same
      rw [Option.toList_some, List.foldl_append]
      exact taken.shows (ih calm.early found)

theorem formed_of_exec (run : Runs P h w) (rest : Exec (World.Moves P) w k w') :
    ∀ a ∈ deliveries P id k, a.WellFormed := by
  intro a member
  obtain ⟨x, here, arrives⟩ := List.mem_filterMap.mp member
  obtain ⟨front, back, rfl⟩ := List.append_of_mem here
  obtain ⟨before, move, _⟩ := rest.split_step
  exact (delivered_taken move (keyed_of_run (run.append before)) arrives).1

variable {snapshot : RelayState} {x : Step World Event}

theorem shows_repeated {l : List RelayState} (shows : r.Shows (Register.content (·.revision) l))
    (formed : ∀ a ∈ l, a.WellFormed) (revised : snapshot.revision ≠ 0) (consistent : Consistent (l ++ [snapshot]))
    (same : snapshot.revision = r.relay.revision) : r.Shows (some snapshot) := by
  rcases Register.content_cases (·.revision) l with ⟨_, empty⟩ | ⟨a, held, tops⟩
  · rw [empty] at shows
    exact absurd (same.trans shows.1) revised
  · rw [held] at shows
    exact consistent.shows (List.mem_append_left _ tops.mem) (by simp) (formed a tops.mem)
      (shows.1.symm.trans same.symm) shows

theorem counted_of_exec (run : Runs P h w) (start : w.store.data.sessions.lookup id = some r₀)
    (fresh : r₀.Shows none) (rest : Exec (World.Moves P) w k w') (calm : Undisturbed P id k)
    (consistent : Consistent (deliveries P id k)) (stored : w'.store.data.sessions.lookup id = some r) :
    r.stateRevision = r₀.stateRevision + k.countP (raises P id) := by
  induction rest generalizing r with
  | nil =>
    have same : some r₀ = some r := start.symm.trans stored
    cases same
    simp
  | @snoc k t u e before move ih =>
    have keyed := keyed_of_run (run.append before)
    rw [deliveries_snoc] at consistent
    rw [List.countP_append, List.countP_singleton]
    cases arrives : delivered P id ⟨t, e, u⟩ with
    | none =>
      obtain ⟨r₁, found, settled⟩ :=
        settled_of_undelivered (x := ⟨t, e, u⟩) move keyed calm.late arrives stored
      rw [settled.stateRevision, ih calm.early consistent.early found]
      simp [raises, arrives]
    | some snapshot =>
      obtain ⟨formed, r₁, out, r', found, holds, _, left, taken⟩ :=
        delivered_taken (x := ⟨t, e, u⟩) move keyed arrives
      have same : some r' = some r := left.symm.trans stored
      cases same
      have counted := ih calm.early consistent.early found
      rw [arrives, Option.toList_some] at consistent
      have here : raises P id ⟨t, e, u⟩ = decide (r₁.relay.revision < snapshot.revision) := by
        simp [raises, arrives, found]
      by_cases raised : r₁.relay.revision < snapshot.revision
      · have next := taken.stateRevision_of_raised raised
        simp only [here, raised, decide_true, if_true]
        omega
      · have shows := shows_of_exec run start fresh before calm.early found
        have still := (taken.unchanged holds (not_lt.mp raised)
          (shows_repeated shows (formed_of_exec run before) formed.revised consistent)).2
        simp only [here, raised, decide_false, Bool.false_eq_true, if_false]
        omega

theorem placement_shows {p : String × Nat} (move : World.Moves P x.before x.event x.after)
    (keyed : x.before.store.data.Keyed) (fresh : placement P id x = some p) :
    ∃ r₀, x.after.store.data.sessions.lookup id = some r₀ ∧ r₀.Shows none := by
  obtain ⟨s, r, r', active, term, calls, stored, placed⟩ := placement_some move keyed fresh
  refine ⟨r', stored, ?_⟩
  have other : ∀ r₁, x.before.store.data.sessions.lookup id = some r₁ → r'.placement ≠ r₁.placement := by
    intro r₁ found same
    have one : some r₁ = some r := found.symm.trans active.found
    cases one
    have terms : p.2 = r.mediaTerm := congrArg Prod.snd (placed.symm.trans same)
    omega
  rcases (move.change keyed).fate keyed stored with
    ⟨r₁, found, rfl | rfl⟩ | ⟨s', request, a, calls', _, fate⟩
  · exact (other _ found rfl).elim
  · exact (other _ found rfl).elim
  · cases calls.symm.trans calls'
    cases fate with
    | kept found => exact (other _ found rfl).elim
    | @revised r₁ _ found revision =>
      cases revision with
      | clear | extend => exact (other _ found rfl).elim
      | observe snapshot asked => cases asked
      | place => exact ⟨rfl, rfl, rfl⟩
    | created asked => cases asked

def AnswersUnchanged (P : Primitives) (id : String) (x : Step World Event) (snapshot : RelayState) : Prop :=
  ∃ r r', x.before.store.data.sessions.lookup id = some r ∧ x.after.store.data.sessions.lookup id = some r' ∧
    (snapshot.revision ≤ r.relay.revision →
      (ran P x).reply = .ok (.state (r.state, false)) ∧ r'.stateRevision = r.stateRevision)

theorem unraised_of_exec (run : Runs P h w) (start : w.store.data.sessions.lookup id = some r₀) (fresh : r₀.Shows none)
    (rest : Exec (World.Moves P) w k w') (calm : Undisturbed P id k) (consistent : Consistent (deliveries P id k))
    (member : x ∈ k) (arrives : delivered P id x = some snapshot) : AnswersUnchanged P id x snapshot := by
  obtain ⟨front, back, rfl⟩ := List.append_of_mem member
  obtain ⟨first, move, _⟩ := rest.split_step
  have keyed := keyed_of_run (run.append first)
  obtain ⟨formed, r, out, r', found, holds, ok, left, taken⟩ := delivered_taken move keyed arrives
  have sofar : Consistent (deliveries P id (front ++ [x])) := by
    rw [show front ++ x :: back = front ++ [x] ++ back by simp] at consistent
    unfold deliveries at consistent ⊢
    rw [List.filterMap_append] at consistent
    exact consistent.early
  rw [deliveries_snoc, arrives, Option.toList_some] at sofar
  have shows := shows_of_exec run start fresh first calm.early found
  refine ⟨r, r', found, left, ?_⟩
  intro unraised
  obtain ⟨rfl, still⟩ := taken.unchanged holds unraised
    (shows_repeated shows (formed_of_exec run first) formed.revised sofar)
  exact ⟨ok, still⟩

theorem report_failed {s : Service} {e : Err} (homed : x.before.store.data.Homed x.before.replicas)
    (calls : x.event.action = .call s (.apply id snapshot)) (named : snapshot.sessionID = id)
    (formed : snapshot.WellFormed) (declared : ∀ r, x.before.store.data.sessions.lookup id = some r →
      ∀ bus ∈ snapshot.buses, bus.busID ∈ r.requiredBuses) (failed : (ran P x).reply = .error e) :
    e.Operational ∨ x.before.store.data.Gone id x.event.env.now := by
  have inner : (s.applyRelayStateContext P id snapshot x.event.env x.before.store).reply = .error e := by
    apply Ran.map_error (f := Answer.state)
    simpa only [ran, World.exec, calls, Service.answer] using failed
  rcases Service.apply_failed inner with
    operational | ⟨missing, _⟩ | ⟨_, other | malformed | ⟨r, active, bus, listed, undeclared⟩⟩
  · exact .inl operational
  · exact .inr (missing_gone homed calls rfl failed missing)
  · exact absurd named other
  · exact absurd formed malformed
  · exact absurd (declared r active.found bus listed) undeclared

end Stretch

/-- The order of delivery does not matter. After any deliveries to a Session that was just
placed, what is stored is the report of the highest revision; a report that does not raise the
revision is answered as unchanged; the revision of the state counts those that do; and no
valid report is refused while the Session lives. -/
theorem delivery_order_irrelevant {P : Primitives} {id : String} {h k : History} {x₀ : Step World Event}
    {w w' : World} {p : String × Nat} {r : SessionRecord} (run : Runs P (h ++ [x₀]) w)
    (fresh : placement P id x₀ = some p) (rest : Exec (World.Moves P) w k w') (calm : Undisturbed P id k)
    (consistent : Consistent (deliveries P id k)) (stored : w'.store.data.sessions.lookup id = some r) :
    (∀ top, Register.Tops (·.revision) (deliveries P id k) top → r.Shows (some top)) ∧
      (∀ x ∈ k, ∀ snapshot, delivered P id x = some snapshot → AnswersUnchanged P id x snapshot) ∧
      (∃ r₀, w.store.data.sessions.lookup id = some r₀ ∧
        r.stateRevision = r₀.stateRevision + k.countP (raises P id)) ∧
      ∀ x ∈ k, ∀ s snapshot e, x.event.action = .call s (.apply id snapshot) → snapshot.sessionID = id →
        snapshot.WellFormed →
        (∀ r, x.before.store.data.sessions.lookup id = some r →
          ∀ bus ∈ snapshot.buses, bus.busID ∈ r.requiredBuses) →
        (ran P x).reply = .error e → e.Operational ∨ x.before.store.data.Gone id x.event.env.now := by
  obtain ⟨before, move, last⟩ := run.split_step
  obtain rfl := last.eq_of_nil
  obtain ⟨r₀, start, shows⟩ := placement_shows move (keyed_of_run before) fresh
  have formed : ∀ a ∈ deliveries P id k, a.WellFormed := formed_of_exec run rest
  have left := shows_of_exec run start shows rest calm stored
  refine ⟨?_, ?_, ⟨r₀, start, counted_of_exec run start shows rest calm consistent stored⟩, ?_⟩
  · intro top tops
    change r.Shows (Register.content (·.revision) (deliveries P id k)) at left
    rcases Register.content_cases (·.revision) (deliveries P id k) with ⟨empty, _⟩ | ⟨a, held, first⟩
    · exact absurd tops.mem (by simp [empty])
    · rw [held] at left
      exact consistent.shows first.mem tops.mem (formed a first.mem) (first.rank_eq tops) left
  · exact fun x member snapshot arrives => unraised_of_exec run start shows rest calm consistent member arrives
  · intro x member s snapshot e calls named wellFormed declared failed
    obtain ⟨front, back, rfl⟩ := List.append_of_mem member
    have reached := run.append rest.split_step.1
    exact report_failed (homed_of_run reached) calls named wellFormed declared failed

theorem undisturbed_of_reports (id : String)
    (reports : ∀ x ∈ k, ∃ s i snapshot, x.event.action = .call s (.apply i snapshot)) : Undisturbed P id k where
  one := by
    rintro x member ⟨s, required, a, creates, _⟩
    obtain ⟨s', i, snapshot, calls⟩ := reports x member
    cases calls.symm.trans creates
  placed := by
    intro x member
    obtain ⟨s, i, snapshot, calls⟩ := reports x member
    simp [placement, calls]
  observed := by
    rintro x member ⟨s, r, reads, _⟩
    obtain ⟨s', i, snapshot, calls⟩ := reports x member
    cases calls.symm.trans reads
  unopened := by
    intro x member s opened
    obtain ⟨s', i, snapshot, calls⟩ := reports x member
    simp only [ran, World.exec, calls] at opened
    exact s'.answer_ne_opened P _ _ _ s opened

namespace Plain

def reversed : RelayState := { snapshot with revision := 2, buses := snapshot.buses.reverse }

def shuffled : List Event :=
  [event 4 [] (.call service (.apply sessionID reversed)), event 5 [] (.call service (.apply sessionID snapshot)),
    event 6 [] (.call service (.apply sessionID { snapshot with revision := 2 }))]

def assignedWorld : World := World.empty.after primitives assigned

end Plain

open Plain in
theorem delivery_order_irrelevant_shuffled :
    ((deliveries primitives sessionID (assignedWorld.history primitives shuffled)).map (·.revision) = [2, 1, 2] ∧
      (assignedWorld.history primitives shuffled).countP (raises primitives sessionID) = 1) ∧
    ∀ r, (assignedWorld.after primitives shuffled).store.data.sessions.lookup sessionID = some r →
      ∀ top, Register.Tops (·.revision) (deliveries primitives sessionID (assignedWorld.history primitives shuffled)) top →
        r.Shows (some top) := by
  obtain ⟨admissible, fresh⟩ : World.empty.Admissible primitives assigned ∧
      placement primitives sessionID
        (stepAfter (started []) (event 3 [] (.call service (.acquire sessionID "epoch" 0)))) = some ("epoch", 1) := by
    decide +kernel
  obtain ⟨following, revisions, raised⟩ : assignedWorld.Admissible primitives shuffled ∧
      (deliveries primitives sessionID (assignedWorld.history primitives shuffled)).map (·.revision) = [2, 1, 2] ∧
      (assignedWorld.history primitives shuffled).countP (raises primitives sessionID) = 1 := by
    decide +kernel
  have calm : Undisturbed primitives sessionID (assignedWorld.history primitives shuffled) := by
    have reports : ∀ e ∈ shuffled, ∃ s i snapshot, e.action = .call s (.apply i snapshot) := by
      simp [shuffled, event]
    exact undisturbed_of_reports _ fun x member => reports x.event (World.event_mem_of_history member)
  have consistent : Consistent (deliveries primitives sessionID (assignedWorld.history primitives shuffled)) := by
    unfold Consistent
    decide +kernel
  refine ⟨⟨revisions, raised⟩, ?_⟩
  intro r stored
  exact (delivery_order_irrelevant (h := World.empty.history primitives (started [])) admissible.exec fresh
    following.exec calm consistent stored).1

end Relay
