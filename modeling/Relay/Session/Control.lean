import Relay.Session.RelaySession

/-! `ControlState` against the calls that change a RelaySession, at the grain of the locks and
of the atomic loads. The buses are read one by one, and each of them in two reads, while the
map cannot change; the subscriptions are one load. A call that changes the RelaySession
announces it later by incrementing the revision, except that a bus which `GetOrCreateBus`
creates outside `AttachSource` is not announced at all. -/
namespace Relay

inductive ControlRound where
  | idle
  | loaded (revision : Nat)
  /-- Under the lock of the map: the buses not read yet, and one whose activity was read. -/
  | listing (revision : Nat) (left : List String) (half : Option (String × Bool)) (buses : List BusState)
  | copied (revision : Nat) (buses : List BusState)
  | payload (revision : Nat) (buses : List BusState) (subscriptions : List SubscriptionState)
  | returned (state : ControlState)
deriving DecidableEq

inductive ControlAct where
  | loadRevision
  | lockBuses
  | sourceActive (busID : String)
  | sourceGeneration
  | unlockBuses
  | loadSubscriptions
  | compare (relayEpoch : String) (now : Time)
deriving DecidableEq

namespace ControlRound

/-- One step of the call. The map is walked in any order. -/
def act (q : RelaySession) : ControlAct → ControlRound → Option ControlRound
  | .loadRevision, .idle => some (.loaded q.revision)
  | .lockBuses, .loaded revision => some (.listing revision q.buses.keys none [])
  | .sourceActive k, .listing revision left none buses =>
    if k ∈ left then
      (q.buses.lookup k).map fun b => .listing revision (left.erase k) (some (k, b.sourceActive)) buses
    else none
  | .sourceGeneration, .listing revision left (some (k, active)) buses =>
    (q.buses.lookup k).map fun b =>
      .listing revision left none (buses ++ [⟨k, b.role.string, active, b.sourceGeneration⟩])
  | .unlockBuses, .listing revision [] none buses =>
    some (.copied revision (buses.insertionSort fun a b => a.busID ≤ b.busID))
  | .loadSubscriptions, .copied revision buses => some (.payload revision buses q.controlSubscriptions)
  | .compare epoch now, .payload revision buses subscriptions =>
    some (if revision = q.revision then
      .returned ⟨relayStateContractVersion, q.id, epoch, revision, now, buses, subscriptions⟩
    else .idle)
  | _, _ => none

def holdsLock : ControlRound → Bool
  | .listing .. => true
  | _ => false

def revision : ControlRound → Option Nat
  | .loaded revision | .listing revision .. | .copied revision _ | .payload revision .. => some revision
  | .idle | .returned _ => none

end ControlRound

/-- A RelaySession with the calls in flight on it: those of `AttachSource` that have their bus,
those that have made their change and not announced it, and those of `ControlState`. -/
structure SharedSession where
  session : RelaySession
  attaching : List String
  due : List Notice
  calls : List ControlRound

inductive SharedEvent where
  | getOrCreateBus (id : String) (role : BusRole)
  | attachSource (id : String) (role : BusRole)
  | setSource (id : String) (source : Nat)
  | detach (id : String) (source : Nat)
  | addBusSubscription (subscriberID busID : String)
  | removeSubscription (subscriberID : String)
  | notify (notice : Notice)
  | controlState
  | read (i : Nat) (a : ControlAct)
deriving DecidableEq

namespace SharedSession

def new (id : String) (maxBuses maxSubscriptions : Nat) : SharedSession :=
  ⟨.new id maxBuses maxSubscriptions, [], [], []⟩

/-- `GetOrCreateBus` takes the lock of the map only to create a bus. -/
def openBus (l : SharedSession) (id : String) (role : BusRole) : Option (Except SessionErr RelaySession) :=
  if (l.session.buses.lookup id).isNone ∧ l.calls.any (·.holdsLock) then none
  else some (l.session.getOrCreateBus id role)

/-- `AddBusSubscription` holds the lock of the subscriptions until it has announced. -/
def subscribing (l : SharedSession) : Bool :=
  l.due.any fun
    | .subscribed _ => true
    | _ => false

def step (l : SharedSession) : SharedEvent → Option SharedSession
  | .getOrCreateBus id role =>
    match l.openBus id role with
    | none => none
    | some (.ok q) => some { l with session := q }
    | some (.error _) => some l
  | .attachSource id role =>
    match l.openBus id role with
    | none => none
    | some (.ok q) => some { l with session := q, attaching := id :: l.attaching }
    | some (.error _) => some l
  | .setSource id source =>
    if id ∈ l.attaching then
      (l.session.updateBus id (·.setSource source)).map fun q =>
        { l with session := q, attaching := l.attaching.erase id, due := .attached id :: l.due }
    else none
  | .detach id source =>
    (l.session.updateBus id (·.detach source)).map fun q => { l with session := q, due := .detached id :: l.due }
  | .addBusSubscription subscriberID busID =>
    if l.subscribing then none
    else
      match l.session.addBusSubscription subscriberID busID with
      | .ok q => some { l with session := q, due := .subscribed subscriberID :: l.due }
      | .error _ => some l
  | .removeSubscription subscriberID =>
    if l.subscribing then none
    else
      some { l with
        session := l.session.removeSubscription subscriberID
        due :=
          if l.session.subscriptions.any fun s => s.subscriberID = subscriberID then
            .unsubscribed subscriberID :: l.due
          else l.due }
  | .notify notice =>
    if notice ∈ l.due then some { l with session := l.session.notifyStateChange, due := l.due.erase notice }
    else none
  | .controlState => some { l with calls := l.calls ++ [.idle] }
  | .read i a =>
    match l.calls[i]? with
    | none => none
    | some c => (c.act l.session a).map fun c' => { l with calls := l.calls.set i c' }

def Quiescent (l : SharedSession) : Prop := l.attaching = [] ∧ l.due = []

instance (l : SharedSession) : Decidable l.Quiescent := inferInstanceAs (Decidable (_ ∧ _))

end SharedSession

abbrev SharedHistory : Type := List (Step SharedSession SharedEvent)

abbrev SharedRuns (id : String) (maxBuses maxSubscriptions : Nat) : SharedHistory → SharedSession → Prop :=
  Exec (Machine.Moves SharedSession.step) (.new id maxBuses maxSubscriptions)

def RelaySession.content (q : RelaySession) : List BusState × List SubscriptionState :=
  (q.controlBuses, q.controlSubscriptions)

def ControlState.content (state : ControlState) : List BusState × List SubscriptionState :=
  (state.buses, state.subscriptions)

def SharedEvent.notifies : SharedEvent → Bool
  | .notify _ => true
  | _ => false

def SharedEvent.writes : SharedEvent → Bool
  | .notify _ | .controlState | .read _ _ => false
  | _ => true

theorem SharedEvent.silent_of_writes {e : SharedEvent} (writes : e.writes = true) : e.notifies = false := by
  cases e <;> first | rfl | cases writes

namespace SharedSession

inductive Change (l : SharedSession) : SharedEvent → SharedSession → Prop
  | wrote {e : SharedEvent} (q : RelaySession) (attaching : List String) (due : List Notice) :
    e.writes = true → q.id = l.session.id → q.revision = l.session.revision →
    Change l e ⟨q, attaching, due, l.calls⟩
  | notified (n : Notice) : n ∈ l.due →
    Change l (.notify n) { l with session := l.session.notifyStateChange, due := l.due.erase n }
  | started : Change l .controlState { l with calls := l.calls ++ [.idle] }
  | read (i : Nat) (a : ControlAct) (c c' : ControlRound) :
    l.calls[i]? = some c → c.act l.session a = some c' →
    Change l (.read i a) { l with calls := l.calls.set i c' }

variable {role : BusRole} {q : RelaySession} {id : String} {l : SharedSession}

theorem openBus_ok (opened : l.openBus id role = some (.ok q)) :
    q = l.session ∨
      (l.session.buses.lookup id = none ∧ q = { l.session with buses := l.session.buses.insert id (.new role) }) := by
  unfold openBus at opened
  split at opened
  · cases opened
  · have made := Option.some.inj opened
    unfold RelaySession.getOrCreateBus at made
    split at made
    · exact .inl (Except.ok.inj made).symm
    · rename_i absent
      split at made
      · cases made
      · exact .inr ⟨absent, (Except.ok.inj made).symm⟩

theorem updateBus_same {q' : RelaySession} {f : AudioBus → AudioBus} (updated : q.updateBus id f = some q') :
    q'.id = q.id ∧ q'.revision = q.revision := by
  obtain ⟨b, _, rfl⟩ := LiveSession.updateBus_some updated
  exact ⟨rfl, rfl⟩

theorem openBus_same (opened : l.openBus id role = some (.ok q)) :
    q.id = l.session.id ∧ q.revision = l.session.revision := by
  rcases openBus_ok opened with rfl | ⟨_, rfl⟩ <;> exact ⟨rfl, rfl⟩

theorem step_change {l' : SharedSession} {e : SharedEvent} (moved : l.step e = some l') : Change l e l' := by
  cases e with
  | getOrCreateBus id role | attachSource id role =>
    simp only [step] at moved
    split at moved
    · cases moved
    · rename_i q opened
      cases moved
      exact .wrote q _ _ rfl (openBus_same opened).1 (openBus_same opened).2
    · cases moved
      exact .wrote _ _ _ rfl rfl rfl
  | setSource id source =>
    simp only [step] at moved
    split at moved
    · obtain ⟨q, updated, rfl⟩ := Option.map_eq_some_iff.mp moved
      exact .wrote q _ _ rfl (updateBus_same updated).1 (updateBus_same updated).2
    · cases moved
  | detach id source =>
    obtain ⟨q, updated, rfl⟩ := Option.map_eq_some_iff.mp moved
    exact .wrote q _ _ rfl (updateBus_same updated).1 (updateBus_same updated).2
  | addBusSubscription subscriberID busID =>
    simp only [step, RelaySession.addBusSubscription] at moved
    split at moved
    · cases moved
    · split at moved
      · rename_i q accepted
        split at accepted
        · cases accepted
        · cases accepted
          cases moved
          exact .wrote _ _ _ rfl rfl rfl
      · cases moved
        exact .wrote _ _ _ rfl rfl rfl
  | removeSubscription subscriberID =>
    simp only [step] at moved
    split at moved
    · cases moved
    · cases moved
      exact .wrote _ _ _ rfl rfl rfl
  | notify n =>
    obtain ⟨member, rfl⟩ := Option.guarded moved
    exact .notified n member
  | controlState =>
    cases moved
    exact .started
  | read i a =>
    simp only [step] at moved
    split at moved
    · cases moved
    · rename_i c here
      obtain ⟨c', acted, rfl⟩ := Option.map_eq_some_iff.mp moved
      exact .read i a c c' here acted

end SharedSession

end Relay
