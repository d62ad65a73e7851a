import Relay.Access.State
import Relay.Lib.Run

/-! One RelaySession of a media process: its buses, its subscriptions, the revision that
counts their changes, and the loop of `ControlState` that copies them without a common
lock. Calls that change the state and the reader interleave between their atomic parts. -/
namespace Relay

inductive BusRole where
  | voice
  | music
  | agentOutput
  | events
  | monitor
  | unknown
deriving DecidableEq

def BusRole.string : BusRole → String
  | .voice => "voice"
  | .music => "music"
  | .agentOutput => "agent_output"
  | .events => "events"
  | .monitor => "monitor"
  | .unknown => "unknown"

def busMix : String := "mix"

/-- A named forwarding lane. Sources are told apart by their identity. -/
structure AudioBus where
  role : BusRole
  source : Option Nat
  sourceGeneration : Nat
deriving DecidableEq

namespace AudioBus

def new (role : BusRole) : AudioBus := ⟨role, none, 0⟩

def setSource (b : AudioBus) (source : Nat) : AudioBus :=
  { b with source := some source, sourceGeneration := b.sourceGeneration + 1 }

/-- The end of the forward loop of `source`. A loop that was replaced clears nothing. -/
def detach (b : AudioBus) (source : Nat) : AudioBus :=
  if b.source = some source then { b with source := none } else b

def sourceActive (b : AudioBus) : Bool := b.source.isSome

def controlState (id : String) (b : AudioBus) : BusState :=
  ⟨id, b.role.string, b.sourceActive, b.sourceGeneration⟩

end AudioBus

inductive SessionErr where
  | busLimitExceeded
  | roomFull
deriving DecidableEq

structure RelaySession where
  id : String
  buses : Table String AudioBus
  subscriptions : List SubscriptionState
  revision : Nat
  maxBuses : Nat
  maxSubscriptions : Nat
  closed : Bool

namespace RelaySession

def new (id : String) (maxBuses maxSubscriptions : Nat) : RelaySession :=
  ⟨id, ∅, [], 1, maxBuses, maxSubscriptions, false⟩

variable (q : RelaySession) (id : String)

def notifyStateChange : RelaySession := { q with revision := q.revision + 1 }

def getOrCreateBus (role : BusRole) : Except SessionErr RelaySession :=
  match q.buses.lookup id with
  | some _ => .ok q
  | none =>
    if q.maxBuses ≤ q.buses.size then .error .busLimitExceeded
    else .ok { q with buses := q.buses.insert id (.new role) }

def updateBus (f : AudioBus → AudioBus) : Option RelaySession :=
  (q.buses.lookup id).map fun b => { q with buses := q.buses.insert id (f b) }

def addBusSubscription (subscriberID busID : String) : Except SessionErr RelaySession :=
  if 0 < q.maxSubscriptions ∧ q.maxSubscriptions ≤ q.subscriptions.length then .error .roomFull
  else .ok { q with subscriptions := q.subscriptions ++ [⟨subscriberID, busID⟩] }

def removeSubscription (subscriberID : String) : RelaySession :=
  { q with subscriptions := q.subscriptions.filter fun s => s.subscriberID ≠ subscriberID }

def sourceActive : Bool := q.buses.entries.any fun e => e.2.sourceActive

def close : RelaySession := { q with closed := true }

def controlBuses : List BusState :=
  (q.buses.entries.map fun e => e.2.controlState e.1).insertionSort fun a b => a.busID ≤ b.busID

def controlSubscriptions : List SubscriptionState :=
  q.subscriptions.insertionSort fun a b => a.subscriberID ≤ b.subscriberID

end RelaySession

structure ControlState where
  contractVersion : Nat
  sessionID : String
  relayEpoch : String
  revision : Nat
  observedAt : Time
  buses : List BusState
  subscriptions : List SubscriptionState
deriving DecidableEq

/-- What `pushControlState` sends under the term of its placement. -/
def ControlState.snapshot (state : ControlState) (term : Nat) : RelayState :=
  { contractVersion := state.contractVersion
    sessionID := state.sessionID
    relayEpoch := state.relayEpoch
    revision := state.revision
    writerTerm := term
    observedAt := state.observedAt
    buses := state.buses
    subscriptions := state.subscriptions }

inductive ControlRead where
  | idle
  | loaded (revision : Nat)
  | copied (revision : Nat) (buses : List BusState)
  | payload (revision : Nat) (buses : List BusState) (subscriptions : List SubscriptionState)
  | returned (state : ControlState)
deriving DecidableEq

/-- A call that has made its change and has not announced it yet. -/
inductive Notice where
  | attached (busID : String)
  | detached (busID : String)
  | subscribed (subscriberID : String)
  | unsubscribed (subscriberID : String)
deriving DecidableEq

structure LiveSession where
  session : RelaySession
  due : List Notice
  read : ControlRead

inductive SessionEvent where
  | getOrCreateBus (id : String) (role : BusRole)
  | setSource (id : String) (source : Nat)
  | detach (id : String) (source : Nat)
  | addBusSubscription (subscriberID busID : String)
  | removeSubscription (subscriberID : String)
  | notify (notice : Notice)
  | loadRevision
  | copyBuses
  | copySubscriptions
  | compare (relayEpoch : String) (now : Time)
  | checkExpiry (recent : Bool)
  | close
deriving DecidableEq

namespace LiveSession

def new (id : String) (maxBuses maxSubscriptions : Nat) : LiveSession :=
  ⟨.new id maxBuses maxSubscriptions, [], .idle⟩

/-- The second load of the revision: the payload stands if nothing was announced since the
first, and the loop starts over otherwise. -/
def finish (q : RelaySession) (epoch : String) (now : Time) : ControlRead → Option ControlRead
  | .payload revision buses subscriptions =>
    some (if revision = q.revision then
      .returned ⟨relayStateContractVersion, q.id, epoch, revision, now, buses, subscriptions⟩
    else .idle)
  | _ => none

def step (l : LiveSession) : SessionEvent → Option LiveSession
  | .getOrCreateBus id role =>
    match l.session.getOrCreateBus id role with
    | .ok q => some { l with session := q }
    | .error _ => some l
  | .setSource id source =>
    (l.session.updateBus id (·.setSource source)).map fun q =>
      { l with session := q, due := .attached id :: l.due }
  | .detach id source =>
    (l.session.updateBus id (·.detach source)).map fun q =>
      { l with session := q, due := .detached id :: l.due }
  | .addBusSubscription subscriberID busID =>
    match l.session.addBusSubscription subscriberID busID with
    | .ok q => some { l with session := q, due := .subscribed subscriberID :: l.due }
    | .error _ => some l
  | .removeSubscription subscriberID =>
    some { l with
      session := l.session.removeSubscription subscriberID
      due :=
        if l.session.subscriptions.any fun s => s.subscriberID = subscriberID then
          .unsubscribed subscriberID :: l.due
        else l.due }
  | .notify notice =>
    if notice ∈ l.due then
      some { l with session := l.session.notifyStateChange, due := l.due.erase notice }
    else none
  | .loadRevision =>
    match l.read with
    | .idle | .returned _ => some { l with read := .loaded l.session.revision }
    | _ => none
  | .copyBuses =>
    match l.read with
    | .loaded revision => some { l with read := .copied revision l.session.controlBuses }
    | _ => none
  | .copySubscriptions =>
    match l.read with
    | .copied revision buses =>
      some { l with read := .payload revision buses l.session.controlSubscriptions }
    | _ => none
  | .compare epoch now => (finish l.session epoch now l.read).map fun r => { l with read := r }
  | .checkExpiry recent =>
    -- `recent` says whether a bus forwarded a packet within the idle interval
    if l.session.sourceActive || 0 < l.session.subscriptions.length || recent then some l
    else some { l with session := l.session.close }
  | .close => some { l with session := l.session.close }

inductive Reads (q : RelaySession) : SessionEvent → ControlRead → ControlRead → Prop
  | load {r : ControlRead} : Reads q .loadRevision r (.loaded q.revision)
  | buses {revision : Nat} : Reads q .copyBuses (.loaded revision) (.copied revision q.controlBuses)
  | subscriptions {revision : Nat} {buses : List BusState} :
    Reads q .copySubscriptions (.copied revision buses)
      (.payload revision buses q.controlSubscriptions)
  | retry {epoch : String} {now : Time} {r : ControlRead} : Reads q (.compare epoch now) r .idle
  | done {buses : List BusState} {subscriptions : List SubscriptionState} {epoch : String}
      {now : Time} :
    Reads q (.compare epoch now) (.payload q.revision buses subscriptions)
      (.returned ⟨relayStateContractVersion, q.id, epoch, q.revision, now, buses, subscriptions⟩)

/-- Everything that a step can do. Only `notify` moves the revision. -/
inductive Effect (l : LiveSession) : SessionEvent → LiveSession → Prop
  | refused {e : SessionEvent} : (∀ n, e ≠ .notify n) → Effect l e l
  | opened {id : String} {role : BusRole} :
    l.session.buses.lookup id = none →
    Effect l (.getOrCreateBus id role)
      { l with session := { l.session with buses := l.session.buses.insert id (.new role) } }
  | updated {e : SessionEvent} {id : String} {b b' : AudioBus} {n : Notice} :
    (∀ n, e ≠ .notify n) → l.session.buses.lookup id = some b →
    n = .attached id ∨ n = .detached id →
    Effect l e
      { l with
        session := { l.session with buses := l.session.buses.insert id b' }, due := n :: l.due }
  | subscribed {subscriberID busID : String} :
    Effect l (.addBusSubscription subscriberID busID)
      { l with
        session :=
          { l.session with subscriptions := l.session.subscriptions ++ [⟨subscriberID, busID⟩] }
        due := .subscribed subscriberID :: l.due }
  | unsubscribed {subscriberID : String} {due : List Notice} :
    due = l.due ∨ due = .unsubscribed subscriberID :: l.due →
    Effect l (.removeSubscription subscriberID)
      { l with session := l.session.removeSubscription subscriberID, due := due }
  | notified {n : Notice} :
    n ∈ l.due →
    Effect l (.notify n) { l with session := l.session.notifyStateChange, due := l.due.erase n }
  | reads {e : SessionEvent} {r : ControlRead} :
    Reads l.session e l.read r → Effect l e { l with read := r }
  | closes {e : SessionEvent} :
    (∀ n, e ≠ .notify n) → Effect l e { l with session := l.session.close }

theorem updateBus_some {q q' : RelaySession} {id : String} {f : AudioBus → AudioBus}
    (updated : q.updateBus id f = some q') :
    ∃ b, q.buses.lookup id = some b ∧ q' = { q with buses := q.buses.insert id (f b) } := by
  obtain ⟨b, found, rfl⟩ := Option.map_eq_some_iff.mp updated
  exact ⟨b, found, rfl⟩

theorem finish_reads {q : RelaySession} {epoch : String} {now : Time} {r r' : ControlRead}
    (finished : finish q epoch now r = some r') : Reads q (.compare epoch now) r r' := by
  unfold finish at finished
  split at finished
  · cases finished
    split
    · rename_i same
      subst same
      exact .done
    · exact .retry
  · cases finished

theorem step_effect {l l' : LiveSession} {e : SessionEvent} (moved : l.step e = some l') :
    Effect l e l' := by
  cases e with
  | getOrCreateBus id role =>
    simp only [step, RelaySession.getOrCreateBus] at moved
    cases found : l.session.buses.lookup id with
    | some b =>
      rw [found] at moved
      cases moved
      exact .refused (by simp)
    | none =>
      rw [found] at moved
      dsimp only at moved
      split at moved
      · rename_i q accepted
        split at accepted
        · cases accepted
        · cases accepted
          cases moved
          exact .opened found
      · cases moved
        exact .refused (by simp)
  | setSource id source =>
    obtain ⟨q, updated, rfl⟩ := Option.map_eq_some_iff.mp moved
    obtain ⟨b, found, rfl⟩ := updateBus_some updated
    exact .updated (by simp) found (.inl rfl)
  | detach id source =>
    obtain ⟨q, updated, rfl⟩ := Option.map_eq_some_iff.mp moved
    obtain ⟨b, found, rfl⟩ := updateBus_some updated
    exact .updated (by simp) found (.inr rfl)
  | addBusSubscription subscriberID busID =>
    simp only [step, RelaySession.addBusSubscription] at moved
    split at moved
    · rename_i q accepted
      split at accepted
      · cases accepted
      · cases accepted
        cases moved
        exact .subscribed
    · cases moved
      exact .refused (by simp)
  | removeSubscription subscriberID =>
    cases moved
    apply Effect.unsubscribed
    split
    · exact .inr rfl
    · exact .inl rfl
  | notify n =>
    obtain ⟨member, rfl⟩ := Option.guarded moved
    exact .notified member
  | loadRevision =>
    simp only [step] at moved
    split at moved
    · cases moved
      exact .reads .load
    · cases moved
      exact .reads .load
    · cases moved
  | copyBuses =>
    simp only [step] at moved
    split at moved
    · rename_i revision here
      cases moved
      exact .reads (here ▸ .buses)
    · cases moved
  | copySubscriptions =>
    simp only [step] at moved
    split at moved
    · rename_i revision buses here
      cases moved
      exact .reads (here ▸ .subscriptions)
    · cases moved
  | compare epoch now =>
    obtain ⟨r, finished, rfl⟩ := Option.map_eq_some_iff.mp moved
    exact .reads (finish_reads finished)
  | checkExpiry recent =>
    simp only [step] at moved
    split at moved
    · cases moved
      exact .refused (by simp)
    · cases moved
      exact .closes (by simp)
  | close =>
    cases moved
    exact .closes (by simp)

theorem Reads.returns {q : RelaySession} {e : SessionEvent} {r : ControlRead} {state : ControlState}
    (reads : Reads q e r (.returned state)) :
    state.sessionID = q.id ∧ state.revision = q.revision ∧
      e = .compare state.relayEpoch state.observedAt := by
  cases reads with
  | done => exact ⟨rfl, rfl, rfl⟩

theorem Effect.reports {l l' : LiveSession} {e : SessionEvent} (effect : Effect l e l') :
    l'.session.id = l.session.id ∧ l.session.revision ≤ l'.session.revision ∧
      ∀ state, l'.read = .returned state → l.read = .returned state ∨
        (state.sessionID = l.session.id ∧ state.revision = l.session.revision ∧
          e = .compare state.relayEpoch state.observedAt) := by
  cases effect with
  | notified => exact ⟨rfl, Nat.le_succ _, fun _ returned => .inl returned⟩
  | @reads _ r reads =>
    refine ⟨rfl, le_refl _, ?_⟩
    intro state returned
    have here : r = .returned state := returned
    subst here
    exact .inr reads.returns
  | refused | opened | updated | subscribed | unsubscribed | closes =>
    exact ⟨rfl, le_refl _, fun _ returned => .inl returned⟩

end LiveSession

end Relay
