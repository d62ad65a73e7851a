import Relay.Access.Invitation

/-! Renewal by the owner, and the authority that media processes read and acquire. -/
namespace Relay

structure AuthorityMetadata where
  sessionID : String
  issuer : String
  incarnation : String
  legacyTokensBefore : Time
  mediaTerm : Nat
  relayEpoch : String
  requiredBuses : List String
deriving DecidableEq

def SessionRecord.authority (r : SessionRecord) : AuthorityMetadata :=
  { sessionID := r.id
    issuer := r.issuer
    incarnation := r.incarnation
    legacyTokensBefore := r.legacyTokensBefore
    mediaTerm := r.mediaTerm
    relayEpoch := r.relay.relayEpoch
    requiredBuses := r.requiredBuses }

namespace Service

def readyBody (s : Service) : TxM Unit := do
  let ns ← Tx.ns
  Txn.require (ns.schemaVersion = schemaVersion) .writerFenced
  s.checkWriter

def ready (s : Service) (env : Env) (st : Store) : Ran Unit := view env st s.readyBody

def metadataBody (s : Service) (id : String) : TxM AuthorityMetadata := do
  s.checkWriter
  let r ← s.active id
  pure r.authority

def metadata (s : Service) (id : String) (env : Env) (st : Store) : Ran AuthorityMetadata :=
  view env st (s.metadataBody id)

def place (s : Service) (r : SessionRecord) (id epoch : String) (now : Time) : SessionRecord :=
  { r with
    mediaTerm := r.mediaTerm + 1
    relay :=
      { RelayState.empty with
        sessionID := id, relayEpoch := epoch, writerTerm := r.mediaTerm + 1, observedAt := now }
    stateRevision := r.stateRevision + 1
    writerTerm := s.term }

variable (P : Primitives) (s : Service) (id epoch : String) (expected : Nat)

def acquireBody : TxM Nat := do
  let r ← s.active id
  if r.relay.relayEpoch = epoch ∧ r.mediaTerm ≠ 0 then pure r.mediaTerm
  else do
    Txn.require (r.mediaTerm = expected) .writerFenced
    let now ← Tx.clock
    Tx.putSession P (s.place r id epoch now)
    pure (s.place r id epoch now).mediaTerm

def acquireRelayWriter (env : Env) (st : Store) : Ran Nat :=
  if validIdentifier epoch 128 = false then st.refuse .invalidRelayState
  else s.update P env st (s.acquireBody P id epoch expected)

def renewBody (id credential : String) : TxM (String × Time) := do
  let r ← s.active id
  let now ← Tx.clock
  let c ← Txn.lift (s.authorizeRecord P r credential now)
  Txn.require c.canControl .invalidCapability
  let result ← s.sign P (.renew c) r (Claims.request id "" r.requiredBuses .source true)
    s.config.ownerTokenTTL now
  Tx.putSession P (r.extend s.config.sessionTTL now)
  pure (result, Time.truncate (now + s.config.ownerTokenTTL))

def renewOwner (id credential : String) (env : Env) (st : Store) : Ran (String × Time) :=
  s.update P env st (s.renewBody P id credential)

end Service

end Relay
