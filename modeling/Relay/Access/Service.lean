import Relay.Access.Token

/-! The Session service over one store: opening it under a writer group, the guard
that every write runs behind, and the operations on Sessions. Each callback is a
definition of its own, so that a theorem can speak about it without the store. -/
namespace Relay

structure Config where
  namePolicy : String
  maxSessions : Int
  maxInvitations : Int
  maxReceipts : Int
  sessionTTL : Duration
  ownerTokenTTL : Duration
  publisherTokenTTL : Duration
  subscriberTokenTTL : Duration
  receiptTTL : Duration
  observationTTL : Duration
  writerLeaseDuration : Duration
  writerID : String
deriving DecidableEq

def autoTwoThenThree : String := "auto"

def fixedCount (policy : String) : Option Nat :=
  (List.range' minWordCount (maxWordCount + 1 - minWordCount)).find? (fun n => toString n == policy)

def fixedNamePolicy (count : Nat) : String := toString count

def positiveOr (value fallback : Int) : Int := if value ≤ 0 then fallback else value

def Config.normalize (c : Config) : Except Err Config :=
  let policy := if c.namePolicy = "" then autoTwoThenThree else c.namePolicy
  if policy ≠ autoTwoThenThree ∧ fixedCount policy = none then .error .invalidConfiguration
  else
    let sessionTTL := positiveOr c.sessionTTL (2 * hour)
    .ok
      { namePolicy := policy
        maxSessions := positiveOr c.maxSessions 1000
        maxInvitations := positiveOr c.maxInvitations 4000
        maxReceipts := positiveOr c.maxReceipts 4000
        sessionTTL := sessionTTL
        ownerTokenTTL := min (positiveOr c.ownerTokenTTL (15 * minute)) sessionTTL
        publisherTokenTTL := positiveOr c.publisherTokenTTL (15 * minute)
        subscriberTokenTTL := positiveOr c.subscriberTokenTTL (2 * hour)
        receiptTTL := positiveOr c.receiptTTL (2 * minute)
        observationTTL := positiveOr c.observationTTL (15 * second)
        writerLeaseDuration := positiveOr c.writerLeaseDuration (30 * second)
        writerID := if c.writerID = "" then "default" else c.writerID }

structure Service where
  secret : Bytes
  config : Config
  term : Nat
  incarnation : String
deriving DecidableEq

structure Session where
  record : SessionRecord
  sourceToken : String
deriving DecidableEq

namespace SessionRecord

def observed (r : SessionRecord) : Prop := r.relay.buses ≠ [] ∨ r.relay.subscriptions ≠ []

instance (r : SessionRecord) : Decidable r.observed := inferInstanceAs (Decidable (_ ∨ _))

def clear (r : SessionRecord) : SessionRecord :=
  { r with
    relay := { r.relay with buses := [], subscriptions := [] }
    stateRevision := r.stateRevision + 1 }

def extend (r : SessionRecord) (ttl : Duration) (now : Time) : SessionRecord :=
  { r with lastActiveAt := now, expiresAt := now + ttl }

end SessionRecord

namespace Service

def initialNamespace (config : Config) (ns : Namespace) : TxM Namespace :=
  if ns.incarnation = "" then do
    let id ← randomSessionID
    pure ⟨schemaVersion, id, 1, config.writerID, 0⟩
  else pure ns

def adoptWriter (config : Config) (ns : Namespace) : Namespace :=
  if ns.writerID = "" then
    { ns with
      writerID := config.writerID
      writerTerm := if ns.writerTerm = 0 then 1 else ns.writerTerm }
  else ns

/-- Another group takes over only after the lease, and with the next term. -/
def takeOver (config : Config) (now : Time) (ns : Namespace) : Except Err Namespace :=
  if ns.writerID ≠ config.writerID then
    if now < ns.leaseExpiresAt then .error .writerFenced
    else .ok { ns with writerTerm := ns.writerTerm + 1, writerID := config.writerID }
  else .ok ns

def clearObservations (P : Primitives) : List SessionRecord → TxM Unit
  | [] => pure ()
  | r :: rest => do
    Txn.when r.observed (Tx.putSession P r.clear)
    clearObservations P rest

def openNamespace (P : Primitives) (secret : Bytes) (config : Config) : TxM Service := do
  let ns ← Tx.ns
  Txn.require (ns.schemaVersion ≤ schemaVersion) .unsupportedSchema
  let ns ← initialNamespace config ns
  let now ← Tx.clock
  let ns ← Txn.lift (takeOver config now (adoptWriter config ns))
  Tx.putNamespace P { ns with leaseExpiresAt := now + config.writerLeaseDuration }
  let rows ← Tx.sessions config.maxSessions
  clearObservations P rows
  pure ⟨secret, config, ns.writerTerm, ns.incarnation⟩

def newService (P : Primitives) (secret : Bytes) (config : Config) (env : Env) (st : Store) :
    Ran Service :=
  if secret.length < 32 then st.refuse .invalidConfiguration
  else
    match config.normalize with
    | .error e => st.refuse e
    | .ok config => st.update env (openNamespace P secret config)

def Passes (s : Service) (ns : Namespace) : Prop :=
  ns.writerTerm = s.term ∧ ns.writerID = s.config.writerID ∧ ns.incarnation = s.incarnation

instance (s : Service) (ns : Namespace) : Decidable (s.Passes ns) :=
  inferInstanceAs (Decidable (_ ∧ _ ∧ _))

def checkWriter (s : Service) : TxM Unit := do
  let ns ← Tx.ns
  Txn.require (s.Passes ns) .writerFenced

/-- Every write first passes the fence, renews the lease and prunes. -/
def guarded {α : Type} (P : Primitives) (s : Service) (fn : TxM α) : TxM α := do
  s.checkWriter
  let ns ← Tx.ns
  let now ← Tx.clock
  Tx.putNamespace P { ns with leaseExpiresAt := now + s.config.writerLeaseDuration }
  Tx.pruneExpired
  fn

def update {α : Type} (P : Primitives) (s : Service) (env : Env) (st : Store) (fn : TxM α) : Ran α :=
  st.update env (s.guarded P fn)

def view {α : Type} (env : Env) (st : Store) (fn : TxM α) : Ran α := st.view env fn

def active (s : Service) (id : String) : TxM SessionRecord := do
  let found ← Tx.session id
  let now ← Tx.clock
  match found with
  | none => Txn.throw .noRows
  | some r => do
    Txn.require (now < r.expiresAt ∧ r.incarnation = s.incarnation) .noRows
    pure r

def absent : Err → Err
  | .noRows => .notExist
  | e => e

def sign (P : Primitives) (s : Service) (origin : Origin) (r : SessionRecord) (claims : Claims)
    (ttl : Duration) (now : Time) : TxM String := do
  let c ← signProfile P s.secret r.issuer r.incarnation claims ttl now
  Txn.modify fun tx => { tx with signed := tx.signed ++ [⟨origin, r, c.claims, c.token⟩] }
  pure c.token

def newSession (s : Service) (id : String) (required : List String) (now : Time) : SessionRecord :=
  { schemaVersion := schemaVersion
    id := id
    issuer := tokenIssuer
    incarnation := s.incarnation
    legacyTokensBefore := 0
    requiredBuses := required
    codec := "opus"
    stateRevision := 1
    relay := RelayState.empty
    writerTerm := s.term
    mediaTerm := 0
    lastActiveAt := now
    expiresAt := now + s.config.sessionTTL }

def createBody (P : Primitives) (s : Service) (required : List String) : TxM Session := do
  let counts ← Tx.counts
  Txn.require ((counts.sessionCount : Int) < s.config.maxSessions) .sessionCapacity
  let id ← randomSessionID
  let now ← Tx.clock
  let r := s.newSession id required now
  let credential ← s.sign P .create r (Claims.request id "" required .source true)
    s.config.ownerTokenTTL now
  Tx.putSession P r
  pure ⟨r, credential⟩

def defaultBuses : List String := ["application", "microphone"]

def createContext (P : Primitives) (s : Service) (required : List String) (env : Env) (st : Store) :
    Ran Session :=
  match validateRequiredBuses (if required.length = 0 then defaultBuses else required) with
  | .error e => st.refuse e
  | .ok required => s.update P env st (s.createBody P required)

/-- An observation counts only for the writer term and the time it was made in. -/
def staleObservation (s : Service) (r : SessionRecord) (now : Time) : Prop :=
  r.writerTerm ≠ s.term ∨ s.config.observationTTL < Time.sub now r.relay.observedAt

instance (s : Service) (r : SessionRecord) (now : Time) : Decidable (s.staleObservation r now) :=
  inferInstanceAs (Decidable (_ ∨ _))

def getBody (P : Primitives) (s : Service) (id : String) : TxM Session := do
  let r ← s.active id
  let now ← Tx.clock
  if s.staleObservation r now ∧ r.observed then do
    Tx.putSession P r.clear
    pure ⟨r.clear, ""⟩
  else pure ⟨r, ""⟩

def getContext (P : Primitives) (s : Service) (id : String) (env : Env) (st : Store) : Ran Session :=
  s.update P env st (s.getBody P id)

/-- A Session that is not active is not deleted, which is not a failure. -/
def deleteBody (s : Service) (id : String) : TxM Bool := do
  let found ← Txn.attempt (s.active id)
  match found with
  | .ok _ => do
    Tx.deleteSession id
    pure true
  | .error .noRows => pure false
  | .error e => Txn.throw e

def deleteContext (P : Primitives) (s : Service) (id : String) (env : Env) (st : Store) : Ran Bool :=
  s.update P env st (s.deleteBody id)

def authorizeRecord (P : Primitives) (s : Service) (r : SessionRecord) (encoded : String)
    (now : Time) : Except Err Claims :=
  match verifyProfile P s.secret encoded r.issuer now with
  | .error e => .error e
  | .ok c =>
    if c.sessionID ≠ r.id then .error .invalidCapability
    else if c.incarnation ≠ r.incarnation ∧
        (c.incarnation ≠ "" ∨ r.issuer ≠ legacyIssuer ∨ r.legacyTokensBefore.isZero ∨
          r.legacyTokensBefore < c.issuedAt.getD 0) then
      .error .invalidCapability
    else .ok c

def authorizeBody (P : Primitives) (s : Service) (id encoded : String) : TxM Claims := do
  s.checkWriter
  let r ← s.active id
  let now ← Tx.clock
  Txn.lift (s.authorizeRecord P r encoded now)

def authorize (P : Primitives) (s : Service) (id encoded : String) (env : Env) (st : Store) :
    Ran Claims :=
  view env st (s.authorizeBody P id encoded)

def issueCredential (P : Primitives) (s : Service) (r : SessionRecord) (id bus : String)
    (role : Role) (now : Time) : TxM String :=
  if role = .source then do
    Txn.require (bus ≠ mix) .invalidRelayState
    s.sign P .issue r (Claims.request id "" [bus] role false) s.config.publisherTokenTTL now
  else s.sign P .issue r (Claims.request id bus [] role false) s.config.subscriberTokenTTL now

def issueBody (P : Primitives) (s : Service) (id bus : String) (role : Role) : TxM String := do
  let r ← s.active id
  Txn.require (bus = mix ∨ bus ∈ r.requiredBuses) .invalidRelayState
  let now ← Tx.clock
  let credential ← s.issueCredential P r id bus role now
  Tx.putSession P (r.extend s.config.sessionTTL now)
  pure credential

def issue (P : Primitives) (s : Service) (id bus : String) (role : Role) (env : Env) (st : Store) :
    Ran String :=
  s.update P env st (s.issueBody P id bus role)

def issuePublisherToken (P : Primitives) (s : Service) (id bus : String) (env : Env) (st : Store) :
    Ran String :=
  s.issue P id bus .source env st

def issueSubscriberToken (P : Primitives) (s : Service) (id bus : String) (env : Env) (st : Store) :
    Ran String :=
  s.issue P id bus .subscriber env st

def changes (r : SessionRecord) (snapshot : RelayState) : Bool :=
  snapshot.revision != r.relay.revision || snapshot.buses != r.relay.buses ||
    snapshot.subscriptions != r.relay.subscriptions

def inUse (snapshot : RelayState) : Bool :=
  !snapshot.subscriptions.isEmpty || snapshot.buses.any (·.sourceActive)

def observe (s : Service) (r : SessionRecord) (snapshot : RelayState) (now : Time) : SessionRecord :=
  let r' :=
    { r with
      relay := { snapshot with observedAt := now }
      writerTerm := s.term
      stateRevision := if changes r snapshot then r.stateRevision + 1 else r.stateRevision }
  if inUse snapshot then r'.extend s.config.sessionTTL now else r'

def applyBody (P : Primitives) (s : Service) (id : String) (snapshot : RelayState) :
    TxM (State × Bool) := do
  let r ← Txn.mapError absent (s.active id)
  Txn.require (snapshot.writerTerm = r.mediaTerm ∧ r.mediaTerm ≠ 0 ∧
    snapshot.relayEpoch = r.relay.relayEpoch) .writerFenced
  if snapshot.relayEpoch = r.relay.relayEpoch ∧ snapshot.revision < r.relay.revision then
    pure (r.state, false)
  else do
    Txn.require (∀ bus ∈ snapshot.buses, bus.busID ∈ r.requiredBuses) .invalidRelayState
    let now ← Tx.clock
    Tx.putSession P (s.observe r snapshot now)
    pure ((s.observe r snapshot now).state, changes r snapshot)

def applyRelayStateContext (P : Primitives) (s : Service) (id : String) (snapshot : RelayState)
    (env : Env) (st : Store) : Ran (State × Bool) :=
  if snapshot.sessionID ≠ id then st.refuse .invalidRelayState
  else
    match validateRelaySnapshot snapshot with
    | .error e => st.refuse e
    | .ok () => s.update P env st (s.applyBody P id (normalizeRelaySnapshot snapshot))

end Service

def deleteRows : List SessionRecord → TxM Unit
  | [] => pure ()
  | r :: rest => do
    Tx.deleteSession r.id
    deleteRows rest

def resetBody (P : Primitives) (maxSessions : Int) : TxM Unit := do
  let rows ← Tx.sessions maxSessions
  deleteRows rows
  let id ← randomSessionID
  Tx.putNamespace P ⟨schemaVersion, id, 0, "", 0⟩

def resetRestoredStore (P : Primitives) (maxSessions : Int) (env : Env) (st : Store) : Ran Unit :=
  st.update env (resetBody P maxSessions)

end Relay
