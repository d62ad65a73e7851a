import Relay.Access.Identifier

/-! The public control-plane state and the checks on what a caller declares and
on what a media process reports. -/
namespace Relay

def relayStateContractVersion : Nat := 1
def maxBusCount : Nat := 16
def maxBusIdentifierSize : Nat := 64
def maxRelayEpochSize : Nat := 128
def maxSubscriberIDSize : Nat := 128
def maxSubscriptionCount : Nat := 1024

def mix : String := "mix"

/-- The loop over the sorted names: each is valid and differs from the one before. -/
def checkRequiredBuses : Option String → List String → Bool
  | _, [] => true
  | previous, value :: rest =>
    validIdentifier value maxBusIdentifierSize && previous != some value &&
      checkRequiredBuses (some value) rest

def validateRequiredBuses (values : List String) : Except Err (List String) :=
  if values.length = 0 ∨ maxBusCount < values.length then .error .invalidRelayState
  else
    let result := values.insertionSort (· ≤ ·)
    if checkRequiredBuses none result then .ok result else .error .invalidRelayState

variable {snapshot : RelayState} {seen values : List String} {previous : Option String}

theorem checkRequiredBuses_valid (checked : checkRequiredBuses previous values = true) :
    ∀ value ∈ values, validIdentifier value maxBusIdentifierSize = true := by
  induction values generalizing previous with
  | nil => simp
  | cons v values ih =>
    simp only [checkRequiredBuses, Bool.and_eq_true] at checked
    intro value member
    rcases List.mem_cons.mp member with here | there
    · exact here ▸ checked.1.1
    · exact ih checked.2 value there

theorem checkRequiredBuses_nodup (sorted : values.Pairwise (· ≤ ·))
    (checked : checkRequiredBuses previous values = true) : values.Nodup := by
  induction values generalizing previous with
  | nil => exact List.nodup_nil
  | cons v values ih =>
    simp only [checkRequiredBuses, Bool.and_eq_true] at checked
    rw [List.pairwise_cons] at sorted
    refine List.nodup_cons.mpr ⟨?_, ih sorted.2 checked.2⟩
    intro member
    cases values with
    | nil => cases member
    | cons w values =>
      have below : v ≤ w := sorted.1 w List.mem_cons_self
      have above : w ≤ v := by
        rcases List.mem_cons.mp member with here | there
        · exact le_of_eq here.symm
        · exact (List.pairwise_cons.mp sorted.2).1 v there
      have same : v = w := le_antisymm below above
      have differ := checked.2
      simp [checkRequiredBuses, same] at differ

structure Declared (values result : List String) : Prop where
  perm : result.Perm values
  nodup : result.Nodup
  valid : ∀ bus ∈ result, validIdentifier bus maxBusIdentifierSize = true
  count : result.length ≤ maxBusCount
  nonempty : result ≠ []

theorem validateRequiredBuses_ok {result : List String} (accepted : validateRequiredBuses values = .ok result) :
    Declared values result := by
  unfold validateRequiredBuses at accepted
  split at accepted
  · cases accepted
  · rename_i bounded
    dsimp only at accepted
    split at accepted
    · rename_i checked
      cases accepted
      have perm : (values.insertionSort (· ≤ ·)).Perm values := List.perm_insertionSort _ _
      have length := perm.length_eq
      refine ⟨perm, ?_, checkRequiredBuses_valid checked, by omega, ?_⟩
      · exact checkRequiredBuses_nodup (List.pairwise_insertionSort _ _) checked
      · intro empty
        rw [empty] at length
        simp only [List.length_nil] at length
        omega
    · cases accepted

def checkBuses : List String → List BusState → Option (List String)
  | seen, [] => some seen
  | seen, bus :: rest =>
    if !validIdentifier bus.busID maxBusIdentifierSize ||
        !validIdentifier bus.role maxBusIdentifierSize then none
    else if bus.busID ∈ seen then none
    else checkBuses (bus.busID :: seen) rest

def checkSubscriptions (busIDs : List String) : List String → List SubscriptionState → Bool
  | _, [] => true
  | seen, subscription :: rest =>
    if !validIdentifier subscription.subscriberID maxSubscriberIDSize ||
        !validIdentifier subscription.busID maxBusIdentifierSize then false
    else if subscription.busID ≠ mix ∧ subscription.busID ∉ busIDs then false
    else if subscription.subscriberID ∈ seen then false
    else checkSubscriptions busIDs (subscription.subscriberID :: seen) rest

def validateRelaySnapshot (snapshot : RelayState) : Except Err Unit :=
  if snapshot.contractVersion ≠ relayStateContractVersion ∨ snapshot.sessionID = "" ∨
      validIdentifier snapshot.relayEpoch maxRelayEpochSize = false ∨ snapshot.revision = 0 ∨
      snapshot.observedAt.isZero ∨ maxBusCount < snapshot.buses.length ∨
      maxSubscriptionCount < snapshot.subscriptions.length then
    .error .invalidRelayState
  else
    match checkBuses [] snapshot.buses with
    | none => .error .invalidRelayState
    | some busIDs =>
      if checkSubscriptions busIDs [] snapshot.subscriptions then .ok ()
      else .error .invalidRelayState

theorem checkBuses_iff {buses : List BusState} {ids : List String} :
    checkBuses seen buses = some ids ↔
      (∀ bus ∈ buses, validIdentifier bus.busID maxBusIdentifierSize = true ∧
        validIdentifier bus.role maxBusIdentifierSize = true ∧ bus.busID ∉ seen) ∧
      (buses.map (·.busID)).Nodup ∧ ids = (buses.map (·.busID)).reverse ++ seen := by
  induction buses generalizing seen with
  | nil =>
    constructor
    · rintro ⟨⟩
      simp
    · rintro ⟨_, _, rfl⟩
      rfl
  | cons bus buses ih =>
    simp only [checkBuses, Bool.or_eq_true, Bool.not_eq_true']
    split
    · rename_i invalid
      simp only [reduceCtorEq, false_iff]
      rintro ⟨valid, _⟩
      have here := valid bus List.mem_cons_self
      simp [here.1, here.2.1] at invalid
    · rename_i valid
      split
      · rename_i repeated
        simp only [reduceCtorEq, false_iff]
        rintro ⟨fresh, _⟩
        exact (fresh bus List.mem_cons_self).2.2 repeated
      · rename_i fresh
        rw [ih, List.forall_mem_cons, List.map_cons, List.nodup_cons, List.reverse_cons,
          List.append_assoc]
        simp only [not_or, Bool.not_eq_false] at valid
        constructor
        · rintro ⟨rest, nodup, rfl⟩
          refine ⟨⟨⟨valid.1, valid.2, fresh⟩, fun b member => ?_⟩, ⟨?_, nodup⟩, rfl⟩
          · obtain ⟨name, role, unseen⟩ := rest b member
            exact ⟨name, role, fun old => unseen (List.mem_cons_of_mem _ old)⟩
          · intro member
            obtain ⟨b, there, same⟩ := List.mem_map.mp member
            exact (rest b there).2.2 (same ▸ List.mem_cons_self)
        · rintro ⟨⟨_, rest⟩, ⟨other, nodup⟩, rfl⟩
          refine ⟨fun b member => ?_, nodup, rfl⟩
          obtain ⟨name, role, unseen⟩ := rest b member
          refine ⟨name, role, fun old => ?_⟩
          rcases List.mem_cons.mp old with here | old
          · exact other (here ▸ List.mem_map_of_mem member)
          · exact unseen old

theorem checkSubscriptions_iff {busIDs : List String} {subscriptions : List SubscriptionState} :
    checkSubscriptions busIDs seen subscriptions = true ↔
      (∀ sub ∈ subscriptions, validIdentifier sub.subscriberID maxSubscriberIDSize = true ∧
        validIdentifier sub.busID maxBusIdentifierSize = true ∧
        (sub.busID = mix ∨ sub.busID ∈ busIDs) ∧ sub.subscriberID ∉ seen) ∧
      (subscriptions.map (·.subscriberID)).Nodup := by
  induction subscriptions generalizing seen with
  | nil => simp [checkSubscriptions]
  | cons sub subscriptions ih =>
    simp only [checkSubscriptions, Bool.or_eq_true, Bool.not_eq_true']
    split
    · rename_i invalid
      simp only [Bool.false_eq_true, false_iff]
      rintro ⟨valid, _⟩
      have here := valid sub List.mem_cons_self
      simp [here.1, here.2.1] at invalid
    · rename_i valid
      split
      · rename_i unlisted
        simp only [Bool.false_eq_true, false_iff]
        rintro ⟨listed, _⟩
        rcases (listed sub List.mem_cons_self).2.2.1 with virtual | here
        · exact unlisted.1 virtual
        · exact unlisted.2 here
      · rename_i listed
        split
        · rename_i repeated
          simp only [Bool.false_eq_true, false_iff]
          rintro ⟨fresh, _⟩
          exact (fresh sub List.mem_cons_self).2.2.2 repeated
        · rename_i fresh
          rw [ih, List.forall_mem_cons, List.map_cons, List.nodup_cons]
          simp only [not_or, Bool.not_eq_false] at valid
          have offered : sub.busID = mix ∨ sub.busID ∈ busIDs := by
            by_contra neither
            exact listed (not_or.mp neither)
          constructor
          · rintro ⟨rest, nodup⟩
            refine ⟨⟨⟨valid.1, valid.2, offered, fresh⟩, fun b member => ?_⟩, ?_, nodup⟩
            · obtain ⟨name, bus, known, unseen⟩ := rest b member
              exact ⟨name, bus, known, fun old => unseen (List.mem_cons_of_mem _ old)⟩
            · intro member
              obtain ⟨b, there, same⟩ := List.mem_map.mp member
              exact (rest b there).2.2.2 (same ▸ List.mem_cons_self)
          · rintro ⟨⟨_, rest⟩, other, nodup⟩
            refine ⟨fun b member => ?_, nodup⟩
            obtain ⟨name, bus, known, unseen⟩ := rest b member
            refine ⟨name, bus, known, fun old => ?_⟩
            rcases List.mem_cons.mp old with here | old
            · exact other (here ▸ List.mem_map_of_mem member)
            · exact unseen old

structure RelayState.WellFormed (snapshot : RelayState) : Prop where
  contract : snapshot.contractVersion = relayStateContractVersion
  named : snapshot.sessionID ≠ ""
  epoch : validIdentifier snapshot.relayEpoch maxRelayEpochSize = true
  revised : snapshot.revision ≠ 0
  dated : snapshot.observedAt.isZero = false
  busCount : snapshot.buses.length ≤ maxBusCount
  subscriptionCount : snapshot.subscriptions.length ≤ maxSubscriptionCount
  buses : ∀ bus ∈ snapshot.buses, validIdentifier bus.busID maxBusIdentifierSize = true ∧
    validIdentifier bus.role maxBusIdentifierSize = true
  busesOnce : (snapshot.buses.map (·.busID)).Nodup
  subscribers : ∀ sub ∈ snapshot.subscriptions,
    validIdentifier sub.subscriberID maxSubscriberIDSize = true ∧
    validIdentifier sub.busID maxBusIdentifierSize = true
  subscribersOnce : (snapshot.subscriptions.map (·.subscriberID)).Nodup
  listed : ∀ sub ∈ snapshot.subscriptions,
    sub.busID = mix ∨ sub.busID ∈ snapshot.buses.map (·.busID)

theorem validateRelaySnapshot_iff : validateRelaySnapshot snapshot = .ok () ↔ snapshot.WellFormed := by
  unfold validateRelaySnapshot
  constructor
  · intro valid
    split at valid
    · cases valid
    · rename_i header
      simp only [not_or, not_not, Bool.not_eq_false, Bool.not_eq_true, not_lt] at header
      obtain ⟨contract, named, epoch, revised, dated, busCount, subscriptionCount⟩ := header
      split at valid
      · cases valid
      · rename_i ids checked
        obtain ⟨buses, once, rfl⟩ := checkBuses_iff.mp checked
        split at valid
        · rename_i subscribed
          obtain ⟨subs, subsOnce⟩ := checkSubscriptions_iff.mp subscribed
          refine ⟨contract, named, epoch, revised, dated, busCount, subscriptionCount, ?_, once, ?_,
            subsOnce, ?_⟩
          · exact fun bus member => ⟨(buses bus member).1, (buses bus member).2.1⟩
          · exact fun sub member => ⟨(subs sub member).1, (subs sub member).2.1⟩
          · intro sub member
            simpa using (subs sub member).2.2.1
        · cases valid
  · intro formed
    have header : ¬ (snapshot.contractVersion ≠ relayStateContractVersion ∨ snapshot.sessionID = "" ∨
        validIdentifier snapshot.relayEpoch maxRelayEpochSize = false ∨ snapshot.revision = 0 ∨
        snapshot.observedAt.isZero ∨ maxBusCount < snapshot.buses.length ∨
        maxSubscriptionCount < snapshot.subscriptions.length) := by
      simp [formed.contract, formed.named, formed.epoch, formed.revised, formed.dated,
        formed.busCount, formed.subscriptionCount]
    have checked : checkBuses [] snapshot.buses = some (snapshot.buses.map (·.busID)).reverse := by
      rw [checkBuses_iff]
      refine ⟨fun bus member => ?_, formed.busesOnce, by simp⟩
      exact ⟨(formed.buses bus member).1, (formed.buses bus member).2, List.not_mem_nil⟩
    have subscribed : checkSubscriptions (snapshot.buses.map (·.busID)).reverse []
        snapshot.subscriptions = true := by
      rw [checkSubscriptions_iff]
      refine ⟨fun sub member => ?_, formed.subscribersOnce⟩
      obtain ⟨name, bus⟩ := formed.subscribers sub member
      exact ⟨name, bus, by simpa using formed.listed sub member, List.not_mem_nil⟩
    simp only [if_neg header, checked, subscribed, if_true]

def normalizeRelaySnapshot (snapshot : RelayState) : RelayState :=
  { snapshot with
    buses := snapshot.buses.insertionSort (fun a b => a.busID ≤ b.busID)
    subscriptions :=
      snapshot.subscriptions.insertionSort (fun a b => a.subscriberID ≤ b.subscriberID) }

structure State where
  sessionID : String
  stateRevision : Nat
  relayEpoch : String
  relayRevision : Nat
  requiredBuses : List String
  buses : List BusState
  subscriptions : List SubscriptionState
  ready : Bool
  subscriptionCount : Nat
  codec : String
deriving DecidableEq

def busActive (buses : List BusState) (required : String) : Bool :=
  buses.any fun bus => bus.busID == required && bus.sourceActive

def SessionRecord.state (r : SessionRecord) : State :=
  { sessionID := r.id
    stateRevision := r.stateRevision
    relayEpoch := r.relay.relayEpoch
    relayRevision := r.relay.revision
    requiredBuses := r.requiredBuses
    buses := r.relay.buses
    subscriptions := r.relay.subscriptions
    ready := r.requiredBuses.all (busActive r.relay.buses)
    subscriptionCount := r.relay.subscriptions.length
    codec := r.codec }

theorem validateRelaySnapshot_error {e : Err} (failed : validateRelaySnapshot snapshot = .error e) :
    e = .invalidRelayState := by
  unfold validateRelaySnapshot at failed
  split at failed
  · cases failed
    rfl
  · split at failed
    · cases failed
      rfl
    · split at failed
      · cases failed
      · cases failed
        rfl

end Relay
