import Relay.Access.Failures
import Relay.Access.Fencing
import Relay.Access.Revocation

/-! The placement of media processes, as the access service keeps it. A placement is an
epoch with its term. It changes only when a process acquires the Session, terms only
grow, and a Session that the service does not find is gone for good. -/
namespace Relay

structure Records.Homed (d : Records) (replicas : List Service) : Prop where
  sessions : ∀ {k r}, d.sessions.lookup k = some r →
    r.incarnation = d.ns.incarnation ∧ d.ns.incarnation ≠ ""
  replicas : ∀ s ∈ replicas, s.incarnation ≠ ""

variable {r r' : SessionRecord} {x : Step World Event} {base ns : Namespace} {P : Primitives} {config : Config}
  {e : Event} {d : Records} {now : Time} {id k : String} {request : Request} {h : History} {replicas : List Service}
  {w : World} {s : Service}

theorem Service.takeOver_incarnation (taken : takeOver config now (adoptWriter config base) = .ok ns) :
    ns.incarnation = base.incarnation := by
  have adopted : (adoptWriter config base).incarnation = base.incarnation := by
    unfold adoptWriter
    split <;> rfl
  unfold takeOver at taken
  split at taken
  · split at taken
    · cases taken
    · cases taken
      exact adopted
  · cases taken
    exact adopted

theorem Service.Base.incarnation {drawn : List String} (start : Service.Base config ns drawn base) :
    base.incarnation ≠ "" ∧ (ns.incarnation ≠ "" → base.incarnation = ns.incarnation) := by
  cases start with
  | first id fresh named => exact ⟨named, fun recorded => absurd fresh recorded⟩
  | recorded named => exact ⟨named, fun _ => rfl⟩

namespace World

variable {P : Primitives} {w : World} {e : Event} {d : Records} {replicas : List Service}

theorem Change.homed (change : Change P w e d replicas) (keyed : w.store.data.Keyed)
    (homed : w.store.data.Homed w.replicas) : d.Homed replicas := by
  cases change with
  | quiet => exact homed
  | opened secret config base ns d _ _ start taken cleared _ _ =>
    have incarnation := Service.takeOver_incarnation taken
    have here : d.ns.incarnation = base.incarnation := by
      rw [cleared.ns]
      exact incarnation
    obtain ⟨started, kept⟩ := start.incarnation
    constructor
    · intro k r stored
      obtain ⟨r', found, same⟩ := cleared.origin stored
      have old := homed.sessions found
      rw [here, same.incarnation, old.1, kept old.2]
      exact ⟨rfl, old.2⟩
    · intro s member
      rcases List.mem_append.mp member with member | member
      · exact homed.replicas s member
      · have opened := List.mem_singleton.mp member
        rw [opened, incarnation]
        exact started
  | reset rows id _ listed _ _ =>
    refine ⟨?_, homed.replicas⟩
    intro k r stored
    obtain ⟨found, others⟩ := Records.deleteRows_sessions.mp stored
    exact absurd (keyed.sessions found).symm (others r ((listed r).mpr ⟨k, found⟩))
  | called s request a d member calls _ passes succeeded =>
    obtain ⟨incarnation, _, _⟩ := succeeded.fence
    refine ⟨?_, homed.replicas⟩
    intro k r stored
    rw [incarnation]
    cases succeeded.fate keyed stored with
    | kept found => exact homed.sessions found
    | revised found revision =>
      have old := homed.sessions found
      exact ⟨revision.same.incarnation.trans old.1, old.2⟩
    | created =>
      have own : s.incarnation = w.store.data.ns.incarnation := passes.2.2.symm
      exact ⟨own, own ▸ homed.replicas s member⟩

end World

theorem homed_of_run (run : Runs P h w) : w.store.data.Homed w.replicas := by
  induction run with
  | nil => exact ⟨by simp [World.empty, Store.empty, Records.empty], by simp [World.empty]⟩
  | snoc before move homed =>
    have keyed := keyed_of_run before
    exact (move.change keyed).homed keyed homed

theorem missing_gone {failure : Err} (homed : w.store.data.Homed w.replicas) (calls : e.action = .call s request)
    (visits : request.Visits id) (failed : (w.exec P e).reply = .error failure) (missing : failure.Missing) :
    w.store.data.Gone id e.env.now := by
  have unfolded : w.exec P e = s.answer P e.env w.store request := by
    simp only [World.exec, calls]
  rw [unfolded] at failed
  obtain ⟨passes, inactive⟩ := Service.answer_missing visits failed missing
  intro r stored
  by_contra live
  have own : r.incarnation = s.incarnation := (homed.sessions stored).1.trans passes.2.2
  exact inactive r ⟨stored, not_le.mp live, own⟩

def SessionRecord.placement (r : SessionRecord) : String × Nat := (r.relay.relayEpoch, r.mediaTerm)

theorem Service.observe_relay (s : Service) (r : SessionRecord) (snapshot : RelayState) (now : Time) :
    (s.observe r (normalizeRelaySnapshot snapshot) now).relay.relayEpoch = snapshot.relayEpoch ∧
      (s.observe r (normalizeRelaySnapshot snapshot) now).relay.revision = snapshot.revision := by
  unfold Service.observe
  dsimp only
  split <;> exact ⟨rfl, rfl⟩

theorem Service.observe_placement (s : Service) {snapshot : RelayState} (now : Time)
    (epoch : snapshot.relayEpoch = r.relay.relayEpoch) :
    (s.observe r (normalizeRelaySnapshot snapshot) now).placement = r.placement := by
  unfold Service.observe
  dsimp only
  split <;> simp only [SessionRecord.placement, SessionRecord.extend, normalizeRelaySnapshot, epoch]

/-- The fresh placement that a step made for a Session. An acquisition that finds its own
epoch placed already answers the stored term and makes none. -/
def placement (P : Primitives) (id : String) (x : Step World Event) : Option (String × Nat) :=
  match x.event.action, (ran P x).reply with
  | .call _ (.acquire k epoch _), .ok (.term term) =>
    if k = id ∧ (x.before.store.data.sessions.lookup id).map (·.mediaTerm) ≠ some term then
      some (epoch, term)
    else none
  | _, _ => none

def placements (P : Primitives) (id : String) (h : History) : List (String × Nat) :=
  h.filterMap (placement P id)

theorem placements_snoc (P : Primitives) (id : String) (h : History) (x : Step World Event) :
    placements P id (h ++ [x]) = placements P id h ++ (placement P id x).toList := by
  cases here : placement P id x <;> simp [placements, here]

theorem Revision.placement {a : Answer} (revision : Revision s now request a k r r') :
    r'.placement = r.placement ∨
      ∃ epoch, request = .acquire k epoch r.mediaTerm ∧ a = .term (r.mediaTerm + 1) ∧
        r'.placement = (epoch, r.mediaTerm + 1) ∧ validIdentifier epoch maxRelayEpochSize = true := by
  cases revision with
  | clear | extend => exact .inl rfl
  | observe snapshot _ epoch => exact .inl (s.observe_placement now epoch)
  | place epoch asked answered valid => exact .inr ⟨epoch, asked, answered, rfl, valid⟩

theorem World.Change.placed (change : Change P w e d replicas) (keyed : w.store.data.Keyed)
    (stored : d.sessions.lookup k = some r') :
    (∃ r, w.store.data.sessions.lookup k = some r ∧ r'.placement = r.placement) ∨
      (k ∈ (w.exec P e).drawn ∧ r'.mediaTerm = 0) ∨
      ∃ s r epoch, w.store.data.sessions.lookup k = some r ∧
        e.action = .call s (.acquire k epoch r.mediaTerm) ∧
        (w.exec P e).reply = .ok (.term (r.mediaTerm + 1)) ∧
        r'.placement = (epoch, r.mediaTerm + 1) ∧ validIdentifier epoch maxRelayEpochSize = true := by
  rcases change.fate keyed stored with ⟨r, found, rfl | rfl⟩ | ⟨s, request, a, calls, ok, fate⟩
  · exact .inl ⟨r', found, rfl⟩
  · exact .inl ⟨r, found, rfl⟩
  · cases fate with
    | kept found => exact .inl ⟨r', found, rfl⟩
    | @revised r _ found revision =>
      rcases revision.placement with same | ⟨epoch, rfl, rfl, placed, valid⟩
      · exact .inl ⟨r, found, same⟩
      · exact .inr (.inr ⟨s, r, epoch, found, calls, ok, placed, valid⟩)
    | created _ drew _ _ => exact .inr (.inl ⟨drew, rfl⟩)

theorem World.Change.reported (change : Change P w e d replicas) (keyed : w.store.data.Keyed)
    (stored : d.sessions.lookup k = some r') :
    (∃ r, w.store.data.sessions.lookup k = some r ∧ r'.relay.relayEpoch = r.relay.relayEpoch ∧
        r'.relay.revision = r.relay.revision) ∨
      r'.relay.revision = 0 ∨
      ∃ s snapshot, e.action = .call s (.apply k snapshot) ∧
        r'.relay.relayEpoch = snapshot.relayEpoch ∧ r'.relay.revision = snapshot.revision := by
  rcases change.fate keyed stored with ⟨r, found, rfl | rfl⟩ | ⟨s, request, a, calls, _, fate⟩
  · exact .inl ⟨r', found, rfl, rfl⟩
  · exact .inl ⟨r, found, rfl, rfl⟩
  · cases fate with
    | kept found => exact .inl ⟨r', found, rfl, rfl⟩
    | @revised r _ found revision =>
      cases revision with
      | clear | extend => exact .inl ⟨r, found, rfl, rfl⟩
      | observe snapshot asked =>
        subst asked
        exact .inr (.inr ⟨s, snapshot, calls, s.observe_relay r snapshot _⟩)
      | place => exact .inr (.inl rfl)
    | created => exact .inr (.inl rfl)

theorem epoch_of_run (run : Runs P h w) (stored : w.store.data.sessions.lookup k = some r) (placed : r.mediaTerm ≠ 0) :
    validIdentifier r.relay.relayEpoch maxRelayEpochSize = true := by
  induction run generalizing r with
  | nil => simp [World.empty, Store.empty, Records.empty] at stored
  | snoc before move ih =>
    have keyed := keyed_of_run before
    rcases (move.change keyed).placed keyed stored with
      ⟨r', found, same⟩ | ⟨_, zero⟩ | ⟨_, _, epoch, _, _, _, same, valid⟩
    · have epoch : r.relay.relayEpoch = r'.relay.relayEpoch := congrArg Prod.fst same
      have term : r.mediaTerm = r'.mediaTerm := congrArg Prod.snd same
      rw [epoch]
      exact ih found (term ▸ placed)
    · exact absurd zero placed
    · have named : r.relay.relayEpoch = epoch := congrArg Prod.fst same
      rw [named]
      exact valid

theorem placement_some {epoch : String} {term : Nat} (move : World.Moves P x.before x.event x.after)
    (keyed : x.before.store.data.Keyed) (fresh : placement P id x = some (epoch, term)) :
    ∃ s r r', s.Active x.before.store.data x.event.env.now id r ∧ term = r.mediaTerm + 1 ∧
      x.event.action = .call s (.acquire id epoch r.mediaTerm) ∧
      x.after.store.data.sessions.lookup id = some r' ∧ r'.placement = (epoch, term) := by
  unfold placement at fresh
  split at fresh
  · rename_i s k epoch' expected term' calls ok
    split at fresh
    · rename_i changed
      obtain ⟨rfl, changed⟩ := changed
      cases fresh
      have succeeded := ran_succeeded move calls ok
      generalize (ran P x).signed = signed, (ran P x).drawn = drawn, x.after.store.data = d
        at succeeded ⊢
      cases succeeded with
      | read read => cases read
      | performed performed =>
        have shrinks := s.shrinks_prologue x.event.env.now x.before.store.data
        cases performed with
        | held active =>
          have found := shrinks.sessions active.found
          simp [found] at changed
        | @place _ _ r active =>
          have found := shrinks.sessions active.found
          have own : (s.place r k epoch x.event.env.now).id = k :=
            (s.same_place r k epoch _).id.trans (keyed.sessions found)
          refine ⟨s, r, s.place r k epoch x.event.env.now,
            ⟨found, active.live, active.incarnation⟩, rfl, calls, ?_, rfl⟩
          exact Records.putSession_sessions.mpr (.inl ⟨own.symm, rfl⟩)
    · cases fresh
  · cases fresh

theorem placement_none (move : World.Moves P x.before x.event x.after) (keyed : x.before.store.data.Keyed)
    (quiet : placement P id x = none) (stored : x.after.store.data.sessions.lookup id = some r') :
    (∃ r, x.before.store.data.sessions.lookup id = some r ∧ r'.placement = r.placement) ∨
      (id ∈ (ran P x).drawn ∧ r'.mediaTerm = 0) := by
  rcases (move.change keyed).placed keyed stored with
    ⟨r, found, same⟩ | created | ⟨s, r, epoch, found, calls, ok, _, _⟩
  · exact .inl ⟨r, found, same⟩
  · exact .inr created
  · have ok : (ran P x).reply = .ok (.term (r.mediaTerm + 1)) := ok
    simp [placement, calls, ok, found] at quiet

structure Ranked (id : String) (known : List String) (l : List (String × Nat)) (d : Records) :
    Prop where
  rising : l.Pairwise fun p q => p.2 < q.2
  unknown : id ∉ known → l = []
  latest : ∀ r, d.sessions.lookup id = some r →
    (l = [] ∧ r.mediaTerm = 0) ∨ l.getLast? = some r.placement

namespace Ranked

variable {id : String} {known : List String} {l : List (String × Nat)} {d : Records}
variable {r : SessionRecord}

theorem le_latest (ranked : Ranked id known l d) (stored : d.sessions.lookup id = some r) :
    ∀ p ∈ l, p.2 ≤ r.mediaTerm := by
  intro p member
  rcases ranked.latest r stored with ⟨rfl, _⟩ | last
  · cases member
  · obtain ⟨front, rfl⟩ := List.getLast?_eq_some_iff.mp last
    rcases List.mem_append.mp member with earlier | here
    · have rising := (List.pairwise_append.mp ranked.rising).2.2 p earlier r.placement (by simp)
      exact le_of_lt rising
    · have same := List.mem_singleton.mp here
      rw [same]
      exact le_refl _

theorem mem_latest (ranked : Ranked id known l d) (stored : d.sessions.lookup id = some r) (placed : r.mediaTerm ≠ 0) :
    l.getLast? = some r.placement := by
  rcases ranked.latest r stored with ⟨_, zero⟩ | last
  · exact absurd zero placed
  · exact last

end Ranked

theorem ranked_of_run (id : String) (run : Runs P h w) (unrepeated : Unrepeated P h) :
    Ranked id (drawn P h) (placements P id h) w.store.data := by
  refine Exec.history (G := Unrepeated P)
    (I := fun h w => Ranked id (drawn P h) (placements P id h) w.store.data)
    Unrepeated.early ?_ ?_ run unrepeated
  · exact ⟨.nil, fun _ => rfl, by simp [World.empty, Store.empty, Records.empty]⟩
  · intro h t e u before good ranked move
    have sound := sound_of_run before good.early
    rw [drawn_snoc, placements_snoc]
    cases made : placement P id ⟨t, e, u⟩ with
    | none =>
      simp only [Option.toList, List.append_nil]
      refine ⟨ranked.rising, ?_, ?_⟩
      · intro unknown
        exact ranked.unknown fun known => unknown (List.mem_append_left _ known)
      · intro r' stored
        rcases placement_none (x := ⟨t, e, u⟩) move sound.keyed made stored with
          ⟨r, found, same⟩ | ⟨drew, zero⟩
        · have term : r'.mediaTerm = r.mediaTerm := congrArg Prod.snd same
          rw [same, term]
          exact ranked.latest r found
        · exact .inl ⟨ranked.unknown (good.fresh (x := ⟨t, e, u⟩) id drew), zero⟩
    | some p =>
      obtain ⟨epoch, term⟩ := p
      obtain ⟨s, r, r', active, next, _, stored, placed⟩ :=
        placement_some (x := ⟨t, e, u⟩) move sound.keyed made
      have known := sound.session_known active.found
      simp only [Option.toList]
      refine ⟨?_, ?_, ?_⟩
      · rw [List.pairwise_append]
        refine ⟨ranked.rising, List.pairwise_singleton _ _, ?_⟩
        intro q earlier p' here
        have bound := ranked.le_latest active.found q earlier
        rw [List.mem_singleton.mp here]
        omega
      · intro unknown
        exact absurd (List.mem_append_left _ known) unknown
      · intro r'' again
        have same : some r'' = some r' := again.symm.trans stored
        cases same
        right
        rw [placed]
        simp

section Answers

variable {P : Primitives} {h : History} {x : Step World Event} {id : String} {s : Service}

theorem acquire_answer {epoch : String} {expected term : Nat} (run : Runs P h x.before)
    (unrepeated : Unrepeated P h) (move : World.Moves P x.before x.event x.after)
    (calls : x.event.action = .call s (.acquire id epoch expected))
    (ok : (ran P x).reply = .ok (.term term)) : (epoch, term) ∈ placements P id (h ++ [x]) := by
  rw [placements_snoc, List.mem_append]
  have ranked := ranked_of_run id run unrepeated
  have succeeded := ran_succeeded move calls ok
  generalize (ran P x).signed = signed, (ran P x).drawn = drawn, x.after.store.data = d at succeeded
  cases succeeded with
  | read read => cases read
  | performed performed =>
    have shrinks := s.shrinks_prologue x.event.env.now x.before.store.data
    cases performed with
    | held active own placed =>
      left
      have latest := ranked.mem_latest (shrinks.sessions active.found) placed
      rw [← own]
      exact List.mem_of_getLast? latest
    | place active =>
      right
      have found := shrinks.sessions active.found
      simp [placement, calls, ok, found]

variable {snapshot : RelayState} {a : Answer}

theorem apply_answer (run : Runs P h x.before) (unrepeated : Unrepeated P h)
    (move : World.Moves P x.before x.event x.after) (calls : x.event.action = .call s (.apply id snapshot))
    (ok : (ran P x).reply = .ok a) :
    (placements P id h).getLast? = some (snapshot.relayEpoch, snapshot.writerTerm) := by
  have ranked := ranked_of_run id run unrepeated
  have succeeded := ran_succeeded move calls ok
  generalize (ran P x).signed = signed, (ran P x).drawn = drawn, x.after.store.data = d at succeeded
  cases succeeded with
  | read read => cases read
  | performed performed =>
    have shrinks := s.shrinks_prologue x.event.env.now x.before.store.data
    cases performed with
    | ignore _ _ active term placed epoch _ | observe _ _ active term placed epoch _ =>
      rw [epoch, term]
      exact ranked.mem_latest (shrinks.sessions active.found) placed

theorem apply_stored (keyed : x.before.store.data.Keyed) (move : World.Moves P x.before x.event x.after)
    (calls : x.event.action = .call s (.apply id snapshot)) (ok : (ran P x).reply = .ok a)
    (current : ∀ r, x.before.store.data.sessions.lookup id = some r →
      r.relay.relayEpoch = snapshot.relayEpoch → r.relay.revision ≤ snapshot.revision) :
    ∃ r', x.after.store.data.sessions.lookup id = some r' ∧ r'.relay.revision = snapshot.revision := by
  have succeeded := ran_succeeded move calls ok
  generalize (ran P x).signed = signed, (ran P x).drawn = drawn, x.after.store.data = d
    at succeeded ⊢
  cases succeeded with
  | read read => cases read
  | performed performed =>
    have shrinks := s.shrinks_prologue x.event.env.now x.before.store.data
    cases performed with
    | ignore _ _ active _ _ epoch older =>
      exact absurd older (not_lt.mpr (current _ (shrinks.sessions active.found) epoch.symm))
    | @observe _ _ r _ _ _ active _ _ epoch _ =>
      have found := shrinks.sessions active.found
      have own : (s.observe r (normalizeRelaySnapshot snapshot) x.event.env.now).id = id :=
        (s.same_observe r _ _).id.trans (keyed.sessions found)
      exact ⟨_, Records.putSession_sessions.mpr (.inl ⟨own.symm, rfl⟩),
        (s.observe_relay r snapshot _).2⟩

end Answers

end Relay
