import Relay.Session.Announcements
import Relay.Access.Delivery

/-! Convergence. Once every change of a RelaySession is announced, `ControlState` returns its
attachments under a revision above that of every other snapshot, and this snapshot prevails
in the access service over all earlier ones, however they arrive. -/
namespace Relay

namespace SharedSession

variable {l l' : SharedSession} {e : SharedEvent}

/-- A change to the attachments leaves a call that will announce it, unless a bus is created
outside `AttachSource`. -/
theorem step_pending (moved : l.step e = some l') (attaches : ∀ id role, e ≠ .getOrCreateBus id role) :
    (l'.session.content = l.session.content ∧ (l'.Quiescent → e.notifies = false → l.Quiescent)) ∨
      ¬ l'.Quiescent := by
  cases e with
  | getOrCreateBus id role => exact absurd rfl (attaches id role)
  | attachSource id role =>
    simp only [step] at moved
    split at moved
    · cases moved
    · cases moved
      exact .inr (by simp [Quiescent])
    · cases moved
      exact .inl ⟨rfl, fun quiet _ => quiet⟩
  | setSource id source =>
    simp only [step] at moved
    split at moved
    · obtain ⟨q, _, rfl⟩ := Option.map_eq_some_iff.mp moved
      exact .inr (by simp [Quiescent])
    · cases moved
  | detach id source =>
    obtain ⟨q, _, rfl⟩ := Option.map_eq_some_iff.mp moved
    exact .inr (by simp [Quiescent])
  | addBusSubscription subscriberID busID =>
    simp only [step] at moved
    split at moved
    · cases moved
    · split at moved
      · cases moved
        exact .inr (by simp [Quiescent])
      · cases moved
        exact .inl ⟨rfl, fun quiet _ => quiet⟩
  | removeSubscription subscriberID =>
    simp only [step] at moved
    split at moved
    · cases moved
    · cases moved
      split
      · exact .inr (by simp [Quiescent])
      · rename_i absent
        left
        refine ⟨?_, fun quiet _ => quiet⟩
        have kept : l.session.subscriptions.filter (fun s => s.subscriberID ≠ subscriberID) =
            l.session.subscriptions := by
          rw [List.filter_eq_self]
          simpa using absent
        have same : l.session.removeSubscription subscriberID = l.session := by
          rw [RelaySession.removeSubscription, kept]
        rw [same]
  | notify n =>
    simp only [step] at moved
    split at moved
    · cases moved
      exact .inl ⟨rfl, fun _ announces => by cases announces⟩
    · cases moved
  | controlState =>
    cases moved
    exact .inl ⟨rfl, fun quiet _ => quiet⟩
  | read i a =>
    simp only [step] at moved
    split at moved
    · cases moved
    · obtain ⟨c', _, rfl⟩ := Option.map_eq_some_iff.mp moved
      exact .inl ⟨rfl, fun quiet _ => quiet⟩

end SharedSession

def Attaching (h : SharedHistory) : Prop := ∀ x ∈ h, ∀ id role, x.event ≠ .getOrCreateBus id role

section Runs

variable {id : String} {maxBuses maxSubscriptions : Nat} {g : SharedHistory} {l : SharedSession}

theorem announced_of_quiescent (run : SharedRuns id maxBuses maxSubscriptions g l) (attaching : Attaching g)
    (quiet : l.Quiescent) : unannounced g = false := by
  revert quiet
  refine Exec.history (G := Attaching) (I := fun g l => l.Quiescent → unannounced g = false) ?_ ?_ ?_ run attaching
  · exact fun all x member => all x (List.mem_append_left _ member)
  · exact fun _ => rfl
  · intro g t e u _ good calm move quiet
    rw [unannounced_snoc]
    rcases SharedSession.step_pending move (good ⟨t, e, u⟩ (by simp)) with ⟨same, settled⟩ | busy
    · cases announces : e.notifies with
      | true => rfl
      | false => simp [same, calm (settled quiet announces)]
    · exact absurd quiet busy

/-- A snapshot returned when every change is announced has the attachments of the moment, and
its revision is above that of every earlier snapshot with others. -/
theorem quiescent_snapshot {y : Step SharedSession SharedEvent} {state : ControlState}
    (run : SharedRuns id maxBuses maxSubscriptions g y.before) (attaching : Attaching g) (quiet : y.before.Quiescent)
    (move : Machine.Moves SharedSession.step y.before y.event y.after) (returns : returnedBy y = some state) :
    state.revision = y.before.session.revision ∧ state.content = y.before.session.content ∧
      ∀ x ∈ g, ∀ s, returnedBy x = some s →
        s.revision ≤ state.revision ∧ (s.content ≠ state.content → s.revision < state.revision) := by
  have announced := announced_of_quiescent run attaching quiet
  obtain ⟨_, revision, exactly⟩ := returnedBy_some run move returns
  refine ⟨revision, exactly announced, ?_⟩
  intro x member s earlier
  obtain ⟨before, between, rfl⟩ := List.append_of_mem member
  obtain ⟨start, moved, rest⟩ := run.split_step
  obtain ⟨frozen, revision', _⟩ := returnedBy_some start moved earlier
  have grown := revision_le_of_exec rest
  rw [frozen, ← revision', ← revision] at grown
  refine ⟨grown, ?_⟩
  intro differ
  apply lt_of_le_of_ne grown
  intro same
  have order : before ++ x :: between ++ [y] = before ++ x :: (between ++ y :: []) := by simp
  exact differ (content_eq_of_returned (run.snoc move) order earlier returns same announced)

end Runs

/-! A call of `ControlState` that nothing disturbs returns. -/
namespace ControlRound

variable {q : RelaySession}

abbrev Reaches (q : RelaySession) : ControlRound → ControlRound → Prop :=
  Relation.ReflTransGen fun c c' => ∃ a, c.act q a = some c'

theorem Reaches.agrees {c c' : ControlRound} (reaches : Reaches q c c') (agrees : c.Agrees q) : c'.Agrees q := by
  induction reaches with
  | refl => exact agrees
  | tail _ step ih =>
    obtain ⟨a, acted⟩ := step
    exact act_agrees acted ih

theorem listing_reaches (revision : Nat) (left : List String) (buses : List BusState)
    (known : ∀ k ∈ left, k ∈ q.buses) :
    ∃ buses', Reaches q (.listing revision left none buses) (.listing revision [] none buses') := by
  induction left generalizing buses with
  | nil => exact ⟨buses, .refl⟩
  | cons k left ih =>
    obtain ⟨b, found⟩ := Option.isSome_iff_exists.mp (AList.lookup_isSome.mpr (known k List.mem_cons_self))
    have active : act q (.sourceActive k) (.listing revision (k :: left) none buses) =
        some (.listing revision left (some (k, b.sourceActive)) buses) := by
      simp [act, found]
    have generation : act q .sourceGeneration (.listing revision left (some (k, b.sourceActive)) buses) =
        some (.listing revision left none
          (buses ++ [⟨k, b.role.string, b.sourceActive, b.sourceGeneration⟩])) := by
      simp [act, found]
    obtain ⟨buses', rest⟩ := ih (buses ++ [⟨k, b.role.string, b.sourceActive, b.sourceGeneration⟩])
      fun k' member => known k' (List.mem_cons_of_mem _ member)
    exact ⟨buses', .head ⟨_, active⟩ (.head ⟨_, generation⟩ rest)⟩

theorem idle_reaches (q : RelaySession) (epoch : String) (now : Time) :
    ∃ state, Reaches q .idle (.returned state) ∧ state.revision = q.revision ∧ state.content = q.content ∧
      state.relayEpoch = epoch ∧ state.observedAt = now := by
  obtain ⟨buses, listed⟩ := listing_reaches q.revision q.buses.keys [] fun k member => AList.mem_keys.mpr member
  have load : act q .loadRevision .idle = some (.loaded q.revision) := rfl
  have lock : act q .lockBuses (.loaded q.revision) = some (.listing q.revision q.buses.keys none []) := rfl
  have unlock : act q .unlockBuses (.listing q.revision [] none buses) =
      some (.copied q.revision (buses.insertionSort fun a b => a.busID ≤ b.busID)) := rfl
  have subscriptions : ∀ sorted, act q .loadSubscriptions (.copied q.revision sorted) =
      some (.payload q.revision sorted q.controlSubscriptions) := fun _ => rfl
  have payload := (((Relation.ReflTransGen.head ⟨_, load⟩ (.head ⟨_, lock⟩ listed)).tail ⟨_, unlock⟩).tail
    ⟨_, subscriptions _⟩)
  have content := Reaches.agrees payload trivial
  have compare : ∀ sorted subs, act q (.compare epoch now) (.payload q.revision sorted subs) =
      some (.returned ⟨relayStateContractVersion, q.id, epoch, q.revision, now, sorted, subs⟩) := by
    intro sorted subs
    simp [act]
  exact ⟨_, payload.tail ⟨_, compare _ _⟩, rfl, content, rfl, rfl⟩

end ControlRound

theorem exec_of_reaches {l : SharedSession} {i : Nat} {c c' : ControlRound} (here : l.calls[i]? = some c)
    (reaches : ControlRound.Reaches l.session c c') :
    ∃ k, Exec (Machine.Moves SharedSession.step) l k { l with calls := l.calls.set i c' } := by
  have inside : i < l.calls.length := (List.getElem?_eq_some_iff.mp here).1
  induction reaches with
  | refl =>
    have same : l.calls.set i c = l.calls := by
      rw [List.getElem?_eq_getElem inside] at here
      rw [← Option.some.inj here, List.set_getElem_self]
    rw [same]
    exact ⟨[], .nil⟩
  | @tail d c' _ step ih =>
    obtain ⟨k, run⟩ := ih
    obtain ⟨a, acted⟩ := step
    refine ⟨_, run.snoc (i := .read i a) ?_⟩
    simp [Machine.Moves, SharedSession.step, List.getElem?_set_self inside, acted, List.set_set]

/-! The snapshot in the access service. -/

structure SessionRecord.Mirrors (r : SessionRecord) (state : ControlState) : Prop where
  revision : r.relay.revision = state.revision
  buses : r.relay.buses = state.buses
  subscriptions : r.relay.subscriptions = state.subscriptions

variable {state : ControlState} {q : RelaySession}

theorem shows_snapshot {r : SessionRecord} {term : Nat} (exactly : state.content = q.content) :
    r.Shows (some (state.snapshot term)) ↔ r.Mirrors state := by
  have buses : (normalizeRelaySnapshot (state.snapshot term)).buses = state.buses := by
    have sorted : state.buses = q.controlBuses := congrArg Prod.fst exactly
    change state.buses.insertionSort (fun a b => a.busID ≤ b.busID) = state.buses
    rw [sorted]
    exact List.insertionSort_idem (fun b : BusState => b.busID) _
  have subscriptions : (normalizeRelaySnapshot (state.snapshot term)).subscriptions = state.subscriptions := by
    have sorted : state.subscriptions = q.controlSubscriptions := congrArg Prod.snd exactly
    change state.subscriptions.insertionSort (fun a b => a.subscriberID ≤ b.subscriberID) = state.subscriptions
    rw [sorted]
    exact List.insertionSort_idem (fun s : SubscriptionState => s.subscriberID) _
  constructor
  · rintro ⟨revision, first, second⟩
    exact ⟨revision, first.trans buses, second.trans subscriptions⟩
  · rintro ⟨revision, first, second⟩
    exact ⟨revision, first.trans buses.symm, second.trans subscriptions.symm⟩

def Outranked (state s : ControlState) : Prop :=
  s.revision ≤ state.revision ∧ (s.revision = state.revision → s.content = state.content)

def ReportsOf (known : ControlState → Prop) (reports : List RelayState) : Prop :=
  ∀ snapshot ∈ reports, ∃ s term, known s ∧ snapshot = s.snapshot term

section Access

variable {P : Primitives} {id : String} {h k : History} {w w' : World} {r r' r₀ : SessionRecord}
  {state s : ControlState} {term : Nat} {out : State × Bool}
variable {q : RelaySession}

theorem shows_of_outranked (exactly : state.content = q.content) (outranked : Outranked state s)
    (same : s.revision = state.revision) : r.Shows (some (s.snapshot term)) ↔ r.Mirrors state := by
  have content := outranked.2 same
  rw [shows_snapshot (content.trans exactly)]
  have buses : s.buses = state.buses := congrArg Prod.fst content
  have subscriptions : s.subscriptions = state.subscriptions := congrArg Prod.snd content
  constructor
  · rintro ⟨revision, first, second⟩
    exact ⟨revision.trans same, first.trans buses, second.trans subscriptions⟩
  · rintro ⟨revision, first, second⟩
    exact ⟨revision.trans same.symm, first.trans buses.symm, second.trans subscriptions.symm⟩

theorem revision_of_exec (run : Runs P h w) (start : w.store.data.sessions.lookup id = some r₀)
    (fresh : r₀.relay.revision = 0) (rest : Exec (World.Moves P) w k w') (one : ∀ x ∈ k, ¬ creates P id x)
    (stored : w'.store.data.sessions.lookup id = some r) :
    r.relay.revision = 0 ∨ ∃ snapshot ∈ deliveries P id k, r.relay.revision = snapshot.revision := by
  induction rest generalizing r with
  | nil =>
    have same : some r₀ = some r := start.symm.trans stored
    cases same
    exact .inl fresh
  | @snoc k t u e before move ih =>
    have keyed := keyed_of_run (run.append before)
    have earlier : ∀ {r₁ : SessionRecord}, t.store.data.sessions.lookup id = some r₁ →
        r.relay.revision = r₁.relay.revision →
        r.relay.revision = 0 ∨ ∃ snapshot ∈ deliveries P id (k ++ [⟨t, e, u⟩]), r.relay.revision = snapshot.revision := by
      intro r₁ found same
      rw [same, deliveries_snoc]
      rcases ih (fun x member => one x (List.mem_append_left _ member)) found with zero | ⟨snapshot, member, revision⟩
      · exact .inl zero
      · exact .inr ⟨snapshot, List.mem_append_left _ member, revision⟩
    rcases (move.change keyed).fate keyed stored with ⟨r₁, found, rfl | rfl⟩ | ⟨s, request, a, calls, ok, fate⟩
    · exact earlier found rfl
    · exact earlier found rfl
    · cases fate with
      | kept found => exact earlier found rfl
      | @revised r₁ _ found revision =>
        cases revision with
        | clear | extend => exact earlier found rfl
        | observe snapshot asked =>
          subst asked
          have arrives : delivered P id ⟨t, e, u⟩ = some snapshot := by
            have ok : (ran P ⟨t, e, u⟩).reply = .ok a := ok
            simp [delivered, calls, ok]
          refine .inr ⟨snapshot, ?_, (s.observe_relay r₁ snapshot _).2⟩
          rw [deliveries_snoc, arrives]
          exact List.mem_append_right _ (by simp)
        | place => exact .inl rfl
      | created asked drew =>
        subst asked
        exact absurd ⟨s, _, a, calls, ok, drew⟩ (one ⟨t, e, u⟩ (by simp))

theorem Taken.mirrors (taken : Taken r (state.snapshot term) out r') (exactly : state.content = q.content)
    (bound : r.relay.revision ≤ state.revision) : r'.Mirrors state := by
  cases taken with
  | older stale => exact absurd stale (not_lt.mpr bound)
  | taken service now => exact (shows_snapshot exactly).mp (service.observe_shows r (state.snapshot term) now)

theorem Taken.keeps (taken : Taken r (s.snapshot term) out r') (exactly : state.content = q.content)
    (outranked : Outranked state s) (mirrors : r.Mirrors state) : r'.Mirrors state := by
  cases taken with
  | older => exact mirrors
  | taken service now current =>
    have same : s.revision = state.revision := le_antisymm outranked.1 (mirrors.revision ▸ current)
    exact (shows_of_outranked exactly outranked same).mp (service.observe_shows r (s.snapshot term) now)

def RelayState.listing (snapshot : RelayState) : List BusState × List SubscriptionState :=
  ((normalizeRelaySnapshot snapshot).buses, (normalizeRelaySnapshot snapshot).subscriptions)

theorem listing_eq {t : Nat} (same : s.content = state.content) :
    (s.snapshot t).listing = (state.snapshot term).listing := by
  have buses : s.buses = state.buses := congrArg Prod.fst same
  have subscriptions : s.subscriptions = state.subscriptions := congrArg Prod.snd same
  simp only [RelayState.listing, normalizeRelaySnapshot, ControlState.snapshot, buses, subscriptions]

theorem mirrors_of_exec (exactly : state.content = q.content) (run : Runs P h w)
    (start : w.store.data.sessions.lookup id = some r₀) (mirrors : r₀.Mirrors state)
    (rest : Exec (World.Moves P) w k w') (calm : Undisturbed P id k)
    (reports : ReportsOf (Outranked state) (deliveries P id k)) (stored : w'.store.data.sessions.lookup id = some r) :
    r.Mirrors state := by
  have held₀ : r₀.Shows (some (state.snapshot 0)) := (shows_snapshot exactly).mpr mirrors
  have shows := shows_of_exec run start held₀ rest calm stored
  have later : ∀ b ∈ deliveries P id k, b.revision ≤ (state.snapshot 0).revision ∧
      (b.revision = (state.snapshot 0).revision → b.listing = (state.snapshot 0).listing) := by
    intro b member
    obtain ⟨s, t, outranked, rfl⟩ := reports b member
    exact ⟨outranked.1, fun same => listing_eq (outranked.2 same)⟩
  obtain ⟨c, held, revision, listed⟩ := Register.said_stays later
  rw [held] at shows
  obtain ⟨first, second, third⟩ := shows
  have shown : r.Shows (some (state.snapshot 0)) :=
    ⟨first.trans revision, second.trans (congrArg Prod.fst listed), third.trans (congrArg Prod.snd listed)⟩
  exact (shows_snapshot exactly).mp shown

end Access

/-- The access service stores what the RelaySession has, once it got this snapshot, and no
report of the given snapshots changes that. -/
def Prevails (P : Primitives) (id : String) (known : ControlState → Prop) (state : ControlState) (q : RelaySession) :
    Prop :=
  ∀ (h front back : History) (x₀ x : Step World Event) (w w' : World) (p : String × Nat) (term : Nat),
    Runs P (h ++ [x₀]) w → placement P id x₀ = some p →
    Exec (World.Moves P) w (front ++ x :: back) w' → (∀ y ∈ front ++ x :: back, ¬ creates P id y) →
    ReportsOf known (deliveries P id (front ++ x :: back)) → delivered P id x = some (state.snapshot term) →
    (∃ r, x.after.store.data.sessions.lookup id = some r ∧ r.relay.buses = q.controlBuses ∧
      r.relay.subscriptions = q.controlSubscriptions) ∧
    (∀ y ∈ back, ∀ snapshot, delivered P id y = some snapshot →
      ∃ r r', y.before.store.data.sessions.lookup id = some r ∧ y.after.store.data.sessions.lookup id = some r' ∧
        (r.Mirrors state → r'.Mirrors state)) ∧
    (Undisturbed P id back → ∀ r, w'.store.data.sessions.lookup id = some r →
      r.relay.buses = q.controlBuses ∧ r.relay.subscriptions = q.controlSubscriptions)

theorem prevails_of_outranked {P : Primitives} {id : String} {known : ControlState → Prop}
    (exactly : state.content = q.content) (outranks : ∀ s, known s → Outranked state s) :
    Prevails P id known state q := by
  intro h front back x₀ x w w' p term run fresh rest one reports arrives
  have reports : ReportsOf (Outranked state) (deliveries P id (front ++ x :: back)) := by
    intro snapshot member
    obtain ⟨s, t, there, same⟩ := reports snapshot member
    exact ⟨s, t, outranks s there, same⟩
  have split : deliveries P id (front ++ x :: back) =
      deliveries P id front ++ (state.snapshot term :: deliveries P id back) := by
    simp [deliveries, arrives]
  rw [split] at reports
  obtain ⟨placed, placing, last⟩ := run.split_step
  obtain rfl := last.eq_of_nil
  obtain ⟨r₀, start, empty⟩ := placement_shows placing (keyed_of_run placed) fresh
  obtain ⟨before, move, after⟩ := rest.split_step
  have reached := run.append before
  obtain ⟨_, r, out, r', found, _, _, left, taken⟩ := delivered_taken move (keyed_of_run reached) arrives
  have bound : r.relay.revision ≤ state.revision := by
    rcases revision_of_exec run start empty.1 before (fun y member => one y (List.mem_append_left _ member)) found with
      zero | ⟨snapshot, member, same⟩
    · omega
    · obtain ⟨s, t, outranked, rfl⟩ := reports snapshot (List.mem_append_left _ member)
      rw [same]
      exact outranked.1
  have mirrors := taken.mirrors exactly bound
  have buses : state.buses = q.controlBuses := congrArg Prod.fst exactly
  have subscriptions : state.subscriptions = q.controlSubscriptions := congrArg Prod.snd exactly
  have later : ReportsOf (Outranked state) (deliveries P id back) := fun snapshot member =>
    reports snapshot (List.mem_append_right _ (List.mem_cons_of_mem _ member))
  refine ⟨⟨r', left, mirrors.buses.trans buses, mirrors.subscriptions.trans subscriptions⟩, ?_, ?_⟩
  · intro y member snapshot comes
    obtain ⟨first, second, rfl⟩ := List.append_of_mem member
    obtain ⟨between, moves, _⟩ := after.split_step
    have there := (reached.snoc move).append between
    obtain ⟨_, r₁, out₁, r₂, found₁, _, _, left₁, taken₁⟩ := delivered_taken moves (keyed_of_run there) comes
    refine ⟨r₁, r₂, found₁, left₁, ?_⟩
    obtain ⟨s, t, outranked, rfl⟩ := later snapshot (List.mem_filterMap.mpr ⟨y, member, comes⟩)
    exact fun mirrors => taken₁.keeps exactly outranked mirrors
  · intro calm r₁ stored
    have stays := mirrors_of_exec exactly (reached.snoc move) left mirrors after calm later stored
    exact ⟨stays.buses.trans buses, stays.subscriptions.trans subscriptions⟩

namespace Plain

def announced : List SharedEvent :=
  controlRun 0 [] 1 ++
    ([.attachSource "microphone" .voice, .setSource "microphone" 0, .notify (.attached "microphone")] :
      List SharedEvent) ++
    (controlRun 1 ["microphone"] 2).dropLast

def emptyState : ControlState := ⟨1, sessionID, "epoch", 1, 1, [], []⟩

def attachedState : ControlState := ⟨1, sessionID, "epoch", 2, 2, [⟨"microphone", "voice", true, 1⟩], []⟩

def secondReturn : Step SharedSession SharedEvent :=
  let l := sharedAfter announced
  ⟨l, .read 1 (.compare "epoch" 2), { l with calls := l.calls.set 1 (.returned attachedState) }⟩

def overtaken : List Event :=
  [event 4 [] (.call service (.apply sessionID (emptyState.snapshot 1))),
    event 5 [] (.call service (.apply sessionID (attachedState.snapshot 1))),
    event 6 [] (.call service (.apply sessionID (emptyState.snapshot 1)))]

end Plain

end Relay
