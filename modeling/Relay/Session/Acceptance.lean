import Relay.Access.Placement
import Relay.Session.RelaySession

/-! What a media process reports against what the access service accepts. A snapshot of
admitted attachments is rejected exactly when a receiver in it is on a bus that is not
listed, and no receiver is when every receiver of a bus waits for its first source. -/
namespace Relay

theorem BusRole.string_valid (role : BusRole) :
    validIdentifier role.string maxBusIdentifierSize = true := by
  cases role <;> decide

structure BusesFormed (required : List String) (buses : List BusState) : Prop where
  once : (buses.map (·.busID)).Nodup
  declared : ∀ bus ∈ buses, bus.busID ∈ required
  roles : ∀ bus ∈ buses, validIdentifier bus.role maxBusIdentifierSize = true

structure SubscriptionsFormed (required : List String) (subscriptions : List SubscriptionState) :
    Prop where
  count : subscriptions.length ≤ maxSubscriptionCount
  once : (subscriptions.map (·.subscriberID)).Nodup
  valid : ∀ s ∈ subscriptions, validIdentifier s.subscriberID maxSubscriberIDSize = true
  offered : ∀ s ∈ subscriptions, s.busID = mix ∨ s.busID ∈ required

namespace SubscriptionsFormed

variable {required : List String} {subscriptions : List SubscriptionState}

section

variable (formed : SubscriptionsFormed required subscriptions)

include formed

theorem perm {others : List SubscriptionState} (same : others.Perm subscriptions) :
    SubscriptionsFormed required others := by
  constructor
  · rw [same.length_eq]
    exact formed.count
  · exact (same.map _).nodup_iff.mpr formed.once
  · exact fun s member => formed.valid s (same.subset member)
  · exact fun s member => formed.offered s (same.subset member)

theorem snoc {s : SubscriptionState} (room : subscriptions.length < maxSubscriptionCount)
    (fresh : ∀ t ∈ subscriptions, t.subscriberID ≠ s.subscriberID)
    (valid : validIdentifier s.subscriberID maxSubscriberIDSize = true) (offered : s.busID = mix ∨ s.busID ∈ required) :
    SubscriptionsFormed required (subscriptions ++ [s]) := by
  constructor
  · rw [List.length_append]
    exact room
  · rw [List.map_append, List.nodup_append]
    refine ⟨formed.once, by simp, ?_⟩
    intro name old name' here same
    obtain ⟨t, member, rfl⟩ := List.mem_map.mp old
    have this : name' = s.subscriberID := by simpa using here
    exact fresh t member (same.trans this)
  · intro t member
    rcases List.mem_append.mp member with old | here
    · exact formed.valid t old
    · exact List.mem_singleton.mp here ▸ valid
  · intro t member
    rcases List.mem_append.mp member with old | here
    · exact formed.offered t old
    · exact List.mem_singleton.mp here ▸ offered

theorem filter (p : SubscriptionState → Bool) : SubscriptionsFormed required (subscriptions.filter p) := by
  constructor
  · exact (List.length_filter_le _ _).trans formed.count
  · exact (List.filter_sublist.map _).nodup formed.once
  · exact fun s member => formed.valid s (List.mem_of_mem_filter member)
  · exact fun s member => formed.offered s (List.mem_of_mem_filter member)

end

end SubscriptionsFormed

namespace RelaySession

theorem controlBuses_ids (q : RelaySession) :
    (q.controlBuses.map (·.busID)).Perm q.buses.keys := by
  have sorted : q.controlBuses.Perm (q.buses.entries.map fun e => e.2.controlState e.1) :=
    List.perm_insertionSort _ _
  have ids := sorted.map (·.busID)
  rw [List.map_map] at ids
  exact ids

variable {q : RelaySession}

theorem mem_controlBuses {id : String} : id ∈ q.controlBuses.map (·.busID) ↔ id ∈ q.buses := by
  rw [(controlBuses_ids q).mem_iff]
  exact AList.mem_keys.symm

theorem controlBuses_formed {required : List String} (declared : ∀ id ∈ q.buses, id ∈ required) :
    BusesFormed required q.controlBuses := by
  constructor
  · exact (controlBuses_ids q).nodup_iff.mpr q.buses.nodupKeys
  · intro bus member
    exact declared _ (mem_controlBuses.mp (List.mem_map_of_mem member))
  · intro bus member
    have listed := (List.mem_insertionSort _).mp member
    obtain ⟨entry, _, rfl⟩ := List.mem_map.mp listed
    exact entry.2.role.string_valid

end RelaySession

def Admitted (required : List String) (x : Step LiveSession SessionEvent) : Prop :=
  match x.event with
  | .getOrCreateBus id _ => id ∈ required
  | .addBusSubscription subscriberID busID =>
    (busID = mix ∨ busID ∈ required) ∧
      validIdentifier subscriberID maxSubscriberIDSize = true ∧
      (∀ s ∈ x.before.session.subscriptions, s.subscriberID ≠ subscriberID) ∧
      x.before.session.subscriptions.length < maxSubscriptionCount
  | _ => True

instance (required : List String) : (x : Step LiveSession SessionEvent) → Decidable (Admitted required x)
  | ⟨_, .getOrCreateBus id _, _⟩ => inferInstanceAs (Decidable (id ∈ required))
  | ⟨_, .addBusSubscription _ _, _⟩ => inferInstanceAs (Decidable (_ ∧ _ ∧ _ ∧ _))
  | ⟨_, .setSource _ _, _⟩ | ⟨_, .detach _ _, _⟩ | ⟨_, .removeSubscription _, _⟩
  | ⟨_, .notify _, _⟩ | ⟨_, .loadRevision, _⟩ | ⟨_, .copyBuses, _⟩ | ⟨_, .copySubscriptions, _⟩
  | ⟨_, .compare _ _, _⟩ | ⟨_, .checkExpiry _, _⟩ | ⟨_, .close, _⟩ => isTrue trivial

abbrev Attachments (id : String) (maxBuses maxSubscriptions : Nat) :
    List (Step LiveSession SessionEvent) → LiveSession → Prop :=
  Exec (Machine.Moves LiveSession.step) (.new id maxBuses maxSubscriptions)

def ControlRead.Formed (required : List String) (id : String) : ControlRead → Prop
  | .idle | .loaded _ => True
  | .copied _ buses => BusesFormed required buses
  | .payload _ buses subscriptions =>
    BusesFormed required buses ∧ SubscriptionsFormed required subscriptions
  | .returned state =>
    BusesFormed required state.buses ∧ SubscriptionsFormed required state.subscriptions ∧
      state.contractVersion = relayStateContractVersion ∧ state.sessionID = id ∧ state.revision ≠ 0

structure LiveSession.Formed (required : List String) (id : String) (l : LiveSession) : Prop where
  own : l.session.id = id
  revised : l.session.revision ≠ 0
  declared : ∀ k ∈ l.session.buses, k ∈ required
  subscriptions : SubscriptionsFormed required l.session.subscriptions
  read : l.read.Formed required id

namespace LiveSession

variable {required : List String} {id : String} {l l' : LiveSession} {e : SessionEvent}

theorem Reads.formed {r r' : ControlRead} (reads : Reads l.session e r r') (formed : l.Formed required id)
    (read : r.Formed required id) : r'.Formed required id := by
  cases reads with
  | load | retry => trivial
  | buses => exact RelaySession.controlBuses_formed formed.declared
  | subscriptions => exact ⟨read, formed.subscriptions.perm (List.perm_insertionSort _ _)⟩
  | done => exact ⟨read.1, read.2, rfl, formed.own, formed.revised⟩

theorem Effect.formed (effect : Effect l e l') (admitted : Admitted required ⟨l, e, l'⟩)
    (formed : l.Formed required id) : l'.Formed required id := by
  have declared : ∀ {k : String} {b : AudioBus}, k ∈ required →
      ∀ k' ∈ l.session.buses.insert k b, k' ∈ required := by
    intro k b here k' member
    rcases (AList.mem_insert _).mp member with rfl | old
    · exact here
    · exact formed.declared k' old
  have ⟨own, revised, _, subscriptions, read⟩ := formed
  cases effect with
  | refused => exact formed
  | opened => exact ⟨own, revised, declared admitted, subscriptions, read⟩
  | updated _ found =>
    have known := formed.declared _ (AList.lookup_isSome.mp (Option.isSome_of_mem found))
    exact ⟨own, revised, declared known, subscriptions, read⟩
  | subscribed =>
    obtain ⟨offered, valid, fresh, room⟩ := admitted
    exact ⟨own, revised, formed.declared, subscriptions.snoc room fresh valid offered, read⟩
  | unsubscribed => exact ⟨own, revised, formed.declared, subscriptions.filter _, read⟩
  | notified => exact ⟨own, Nat.succ_ne_zero _, formed.declared, subscriptions, read⟩
  | reads reads => exact ⟨own, revised, formed.declared, subscriptions, reads.formed formed read⟩
  | closes => exact ⟨own, revised, formed.declared, subscriptions, read⟩

end LiveSession

variable {h : List (Step LiveSession SessionEvent)} {l : LiveSession} {x : Step LiveSession SessionEvent}
  {maxBuses maxSubscriptions : Nat} {id : String}

theorem formed_of_run {required : List String} (run : Attachments id maxBuses maxSubscriptions h l)
    (admitted : ∀ x ∈ h, Admitted required x) : l.Formed required id := by
  refine Exec.history (G := fun h => ∀ x ∈ h, Admitted required x)
    (I := fun _ l => l.Formed required id) ?_ ?_ ?_ run admitted
  · intro h x all y member
    exact all y (List.mem_append_left _ member)
  · refine ⟨rfl, Nat.one_ne_zero, ?_, ⟨Nat.zero_le _, .nil, ?_, ?_⟩, trivial⟩
    · simp [LiveSession.new, RelaySession.new]
    · simp [LiveSession.new, RelaySession.new]
    · simp [LiveSession.new, RelaySession.new]
  · intro h t e u _ all formed move
    exact (LiveSession.step_effect move).formed (all _ (by simp)) formed

def Announced (h : List (Step LiveSession SessionEvent)) (id : String) : Prop :=
  ∃ x ∈ h, x.event = .notify (.attached id)

def SessionEvent.receivedBus : SessionEvent → Option String
  | .addBusSubscription _ busID => some busID
  | _ => none

def Sourced (h : List (Step LiveSession SessionEvent)) : Prop :=
  ∀ before x after, h = before ++ x :: after →
    ∀ busID ∈ x.event.receivedBus, busID = mix ∨ Announced before busID

theorem Sourced.early (sourced : Sourced (h ++ [x])) : Sourced h := by
  intro before y after split
  exact sourced before y (after ++ [x]) (by simp [split])

theorem announced_snoc : Announced (h ++ [x]) id ↔ Announced h id ∨ x.event = .notify (.attached id) := by
  simp only [Announced, List.mem_append, List.mem_singleton]
  constructor
  · rintro ⟨y, old | rfl, here⟩
    · exact .inl ⟨y, old, here⟩
    · exact .inr here
  · rintro (⟨y, old, here⟩ | here)
    · exact ⟨y, .inl old, here⟩
    · exact ⟨x, .inr rfl, here⟩

/-- What the reader holds, against the buses announced so far. While the revision that it
loaded is current, nothing was announced since it copied the buses. -/
def ControlRead.Covered (announced : String → Prop) (current : Nat) : ControlRead → Prop
  | .idle => True
  | .loaded revision => revision ≤ current
  | .copied revision buses =>
    revision ≤ current ∧
      (revision = current → ∀ id, announced id → id ∈ buses.map (·.busID))
  | .payload revision buses subscriptions =>
    revision ≤ current ∧
      (revision = current → ∀ id, announced id → id ∈ buses.map (·.busID)) ∧
      ∀ s ∈ subscriptions, s.busID = mix ∨ announced s.busID
  | .returned state =>
    ∀ s ∈ state.subscriptions, s.busID = mix ∨ s.busID ∈ state.buses.map (·.busID)

/-- An announcement moves the revision past every revision that was loaded before. -/
theorem ControlRead.Covered.advance {announced announced' : String → Prop} {current : Nat}
    {r : ControlRead} (covered : r.Covered announced current)
    (more : ∀ id, announced id → announced' id) : r.Covered announced' (current + 1) := by
  cases r with
  | idle => trivial
  | loaded revision => exact Nat.le_succ_of_le covered
  | copied revision buses =>
    have below : revision ≤ current := covered.1
    exact ⟨by omega, by omega⟩
  | payload revision buses subscriptions =>
    obtain ⟨below, _, sourced⟩ := covered
    refine ⟨by omega, by omega, ?_⟩
    intro s member
    exact (sourced s member).imp_right (more s.busID)
  | returned state => exact covered

structure LiveSession.Covered (announced : String → Prop) (l : LiveSession) : Prop where
  known : ∀ id, announced id → id ∈ l.session.buses
  due : ∀ id, .attached id ∈ l.due → id ∈ l.session.buses
  subscriptions : ∀ s ∈ l.session.subscriptions, s.busID = mix ∨ announced s.busID
  read : l.read.Covered announced l.session.revision

namespace LiveSession

variable {announced : String → Prop} {l l' : LiveSession} {e : SessionEvent}

theorem Reads.covered {r r' : ControlRead} (reads : Reads l.session e r r')
    (covered : l.Covered announced) (read : r.Covered announced l.session.revision) :
    r'.Covered announced l.session.revision := by
  cases reads with
  | load => exact le_refl _
  | retry => trivial
  | buses =>
    refine ⟨read, ?_⟩
    intro _ id told
    exact RelaySession.mem_controlBuses.mpr (covered.known id told)
  | subscriptions =>
    refine ⟨read.1, read.2, ?_⟩
    intro s member
    exact covered.subscriptions s ((List.mem_insertionSort _).mp member)
  | done =>
    obtain ⟨_, complete, sourced⟩ := read
    intro s member
    exact (sourced s member).imp_right (complete rfl s.busID)

theorem Effect.covered (effect : Effect l e l') (silent : ∀ n, e ≠ .notify n)
    (sourced : ∀ busID ∈ e.receivedBus, busID = mix ∨ announced busID)
    (covered : l.Covered announced) : l'.Covered announced := by
  have ⟨told, due, subscriptions, read⟩ := covered
  cases effect with
  | refused => exact covered
  | opened =>
    refine ⟨?_, ?_, subscriptions, read⟩
    · exact fun id here => (AList.mem_insert _).mpr (.inr (told id here))
    · exact fun id here => (AList.mem_insert _).mpr (.inr (due id here))
  | @updated _ k b b' n _ found which =>
    refine ⟨?_, ?_, subscriptions, read⟩
    · exact fun id here => (AList.mem_insert _).mpr (.inr (told id here))
    · intro id here
      rcases List.mem_cons.mp here with new | old
      · have own : id = k := by
          rcases which with rfl | rfl
          · exact (Notice.attached.inj new)
          · cases new
        exact (AList.mem_insert _).mpr (.inl own)
      · exact (AList.mem_insert _).mpr (.inr (due id old))
  | subscribed =>
    refine ⟨told, ?_, ?_, read⟩
    · intro id here
      rcases List.mem_cons.mp here with new | old
      · cases new
      · exact due id old
    · intro s member
      rcases List.mem_append.mp member with old | here
      · exact subscriptions s old
      · rw [List.mem_singleton.mp here]
        exact sourced _ rfl
  | unsubscribed which =>
    refine ⟨told, ?_, ?_, read⟩
    · intro id here
      rcases which with rfl | rfl
      · exact due id here
      · rcases List.mem_cons.mp here with new | old
        · cases new
        · exact due id old
    · exact fun s member => subscriptions s (List.mem_of_mem_filter member)
  | notified => exact absurd rfl (silent _)
  | reads reads => exact ⟨told, due, subscriptions, reads.covered covered read⟩
  | closes => exact ⟨told, due, subscriptions, read⟩

theorem Covered.notify {announced' : String → Prop} {n : Notice} (covered : l.Covered announced)
    (pending : n ∈ l.due) (more : ∀ id, announced' id ↔ announced id ∨ n = .attached id) :
    Covered announced'
      { l with session := l.session.notifyStateChange, due := l.due.erase n } := by
  obtain ⟨told, due, subscriptions, read⟩ := covered
  constructor
  · intro id here
    rcases (more id).mp here with old | rfl
    · exact told id old
    · exact due id pending
  · exact fun id here => due id (List.mem_of_mem_erase here)
  · exact fun s member => (subscriptions s member).imp_right fun old => (more _).mpr (.inl old)
  · exact read.advance fun id old => (more id).mpr (.inl old)

end LiveSession

theorem covered_of_run (run : Attachments id maxBuses maxSubscriptions h l) (sourced : Sourced h) :
    l.Covered (Announced h) := by
  refine Exec.history (G := Sourced) (I := fun h l => l.Covered (Announced h))
    Sourced.early ?_ ?_ run sourced
  · constructor
    · rintro id ⟨x, member, _⟩
      cases member
    · simp [LiveSession.new]
    · simp [LiveSession.new, RelaySession.new]
    · trivial
  · intro h t e u _ good covered move
    have effect := LiveSession.step_effect move
    by_cases announces : ∃ n, e = .notify n
    · obtain ⟨n, rfl⟩ := announces
      cases effect with
      | notified pending =>
        apply covered.notify pending
        intro id
        simp [announced_snoc]
      | refused silent | updated silent | closes silent => exact absurd rfl (silent n)
      | reads reads => cases reads
    · have silent : ∀ n, e ≠ .notify n := fun n here => announces ⟨n, here⟩
      have same : Announced (h ++ [⟨t, e, u⟩]) = Announced h := by
        funext id
        exact propext (announced_snoc.trans (or_iff_left (silent _)))
      rw [same]
      exact effect.covered silent (good h ⟨t, e, u⟩ [] rfl) covered

section Report

variable {P : Primitives} {h : History} {w : World} {id : String} {r : SessionRecord}
  {state : ControlState}

theorem ControlState.wellFormed_iff (run : Runs P h w)
    (stored : w.store.data.sessions.lookup id = some r) (placed : r.mediaTerm ≠ 0)
    (formed : (ControlRead.returned state).Formed r.requiredBuses id)
    (epoch : state.relayEpoch = r.relay.relayEpoch) (dated : state.observedAt.isZero = false) :
    (state.snapshot r.mediaTerm).WellFormed ↔
      ∀ sub ∈ state.subscriptions, sub.busID = mix ∨ sub.busID ∈ state.buses.map (·.busID) := by
  obtain ⟨named, values, declared⟩ := declared_of_run run id r stored
  obtain ⟨buses, subscriptions, contract, own, revised⟩ := formed
  refine ⟨fun wellFormed => wellFormed.listed, fun listed => ?_⟩
  have valid : validIdentifier state.relayEpoch maxRelayEpochSize = true :=
    epoch ▸ epoch_of_run run stored placed
  have virtual : validIdentifier mix maxBusIdentifierSize = true := by decide
  have count : state.buses.length ≤ maxBusCount := by
    have within : state.buses.map (·.busID) ⊆ r.requiredBuses := by
      intro name member
      obtain ⟨bus, there, rfl⟩ := List.mem_map.mp member
      exact buses.declared bus there
    have fewer := (List.subperm_of_subset buses.once within).length_le
    rw [List.length_map] at fewer
    exact fewer.trans declared.count
  exact {
    contract := contract
    named := ne_of_eq_of_ne own named
    epoch := valid
    revised := revised
    dated := dated
    busCount := count
    subscriptionCount := subscriptions.count
    buses := fun bus member => ⟨declared.valid _ (buses.declared bus member), buses.roles bus member⟩
    busesOnce := buses.once
    subscribers := by
      intro sub member
      refine ⟨subscriptions.valid sub member, ?_⟩
      rcases subscriptions.offered sub member with mixed | named
      · exact mixed ▸ virtual
      · exact declared.valid _ named
    subscribersOnce := subscriptions.once
    listed := listed }

theorem apply_invalid_iff {snapshot : RelayState}
    (stored : w.store.data.sessions.lookup id = some r) (own : snapshot.sessionID = id)
    (declared : ∀ bus ∈ snapshot.buses, bus.busID ∈ r.requiredBuses) (s : Service) (env : Env) :
    (s.applyRelayStateContext P id snapshot env w.store).reply = .error .invalidRelayState ↔
      ¬ snapshot.WellFormed := by
  constructor
  · intro failed
    rcases Service.apply_failed failed with operational | ⟨missing, _⟩ | ⟨_, other | malformed | undeclared⟩
    · exact absurd rfl operational.ne_invalid
    · simp [Err.Missing] at missing
    · exact absurd own other
    · exact malformed
    · obtain ⟨r', active, bus, listed, outside⟩ := undeclared
      cases stored.symm.trans active.found
      exact absurd (declared bus listed) outside
  · intro malformed
    cases checked : validateRelaySnapshot snapshot with
    | ok u => exact absurd (validateRelaySnapshot_iff.mp checked) malformed
    | error e =>
      have invalid := validateRelaySnapshot_error checked
      subst invalid
      simp [Service.applyRelayStateContext, own, checked, Store.refuse]

end Report

/-! A Session placed under one epoch, and two orders of the same attachments. -/
namespace Plain

def placed : List Event :=
  started [] ++ [event 3 [] (.call service (.acquire sessionID "epoch" 0))]

def world : World := World.empty.after primitives placed

theorem world_runs : Runs primitives (World.empty.history primitives placed) world :=
  World.Admissible.exec (show World.empty.Admissible primitives placed by decide +kernel)

theorem world_stores : (world.store.data.sessions.lookup sessionID).isSome = true := by
  decide +kernel

def record : SessionRecord := (world.store.data.sessions.lookup sessionID).get world_stores

theorem record_stored : world.store.data.sessions.lookup sessionID = some record :=
  (Option.some_get world_stores).symm

def publishing : List SessionEvent :=
  [.getOrCreateBus "microphone" .voice, .setSource "microphone" 0, .notify (.attached "microphone")]

def receiving : List SessionEvent :=
  [.addBusSubscription "listener" "microphone", .notify (.subscribed "listener")]

def reporting : List SessionEvent :=
  [.loadRevision, .copyBuses, .copySubscriptions, .compare "epoch" 5]

def sourced : List SessionEvent := publishing ++ receiving ++ reporting

def waiting : List SessionEvent := receiving ++ reporting

def attached (events : List SessionEvent) : List (Step LiveSession SessionEvent) :=
  Machine.trail LiveSession.step (.new sessionID 16 0) events

def live (events : List SessionEvent) : LiveSession :=
  Machine.final LiveSession.step (.new sessionID 16 0) events

def sourcedState : ControlState :=
  ⟨1, sessionID, "epoch", 3, 5, [⟨"microphone", "voice", true, 1⟩], [⟨"listener", "microphone"⟩]⟩

def waitingState : ControlState := ⟨1, sessionID, "epoch", 2, 5, [], [⟨"listener", "microphone"⟩]⟩

end Plain

end Relay
