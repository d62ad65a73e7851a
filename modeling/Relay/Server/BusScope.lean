import Relay.Lib.Shared
import Relay.Server.Capability
import Relay.Server.PublishBuses
import Relay.Session.Revisions

/-! The ways into a RelaySession: the signaling WebSocket, WHIP and WHEP, and Opus over a
WebSocket. Each derives the Session and the bus in its own way from the request and the
capability, and calls `SetSource` or `AddBusSubscription` when tracks arrive or the
connection is up. -/
namespace Relay

/-- The primitives of the token library and the server that verifies with them. -/
structure Verifier where
  primitives : Primitives
  parseUnverified : String → Option Claims
  server : MediaServer

inductive ErrorCode where
  | badToken
  | alreadyJoined
  | roleMismatch
  | pcError
  | trackError
  | sdpError
  | listenerLimitExceeded
  | roomLimitExceeded
  | badRequest
  | sessionNotActive
  | authorityUnavailable
deriving DecidableEq

structure SignalError where
  code : ErrorCode
  message : String
deriving DecidableEq

structure HttpError where
  status : Nat
  text : String
deriving DecidableEq

/-- What the rest of the server answers while a request is handled: the clocks and the store
behind `verifyCapability`, the limits of the server, `requireActiveControlSession`, and the
transport before and after its callbacks are in place. -/
structure Circumstances where
  now : Time
  env : Env
  store : Store
  shuttingDown : Bool
  handshake : Bool
  authority : Option Failure
  connection : Bool
  transport : Option SignalError
  negotiation : Option SignalError

def Verifier.verify (v : Verifier) (token : String) (role : Role) (c : Circumstances) : Except CapabilityErr Claims :=
  v.server.verifyCapability v.primitives v.parseUnverified token role c.now c.env c.store

/-- What the connection of a signaling peer does. `claims` is the capability it was opened with. -/
inductive Callbacks where
  | silent
  | onTrack (room : Nat) (plan : PublishBusPlan) (claims : Claims)
  | onConnected (room : Nat) (claims : Claims)

structure SignalPeer where
  pc : Option Callbacks
  busID : String

inductive WhipDirection where
  | whipIngress
  | whepEgress
deriving DecidableEq

structure WhipConn where
  direction : WhipDirection
  room : Nat
  busID : String
  claims : Claims

inductive CallKind where
  | setSource
  | addBusSubscription
deriving DecidableEq

/-- A call on a RelaySession, with the capability that the request was admitted with. -/
structure MediaCall where
  kind : CallKind
  room : Nat
  busID : String
  claims : Claims

def WhipConn.call (conn : WhipConn) : MediaCall :=
  match conn.direction with
  | .whipIngress => ⟨.setSource, conn.room, conn.busID, conn.claims⟩
  | .whepEgress => ⟨.addBusSubscription, conn.room, conn.busID, conn.claims⟩

structure MediaRelay where
  registry : Registry
  maxRooms : Nat
  peers : List SignalPeer
  whipConns : List WhipConn
  calls : List MediaCall

def expectedRole : MessageType → Role
  | .publish => .source
  | .subscribe => .subscriber

def joinSession (message : ClientMessage) (claims : Claims) : String :=
  if claims.sessionID = "" then message.effectiveSessionID else claims.sessionID

def subscribeBus (message : ClientMessage) (claims : Claims) : String :=
  if message.busID ≠ "" then message.busID else if claims.busID ≠ "" then claims.busID else busMix

def joinBus (message : ClientMessage) (claims : Claims) : Except SignalError (Option PublishBusPlan × String) :=
  match message.type with
  | .publish =>
    match newPublishBusPlan message claims with
    | .error e => .error ⟨.badRequest, e.text⟩
    | .ok plan => .ok (some plan, plan.primaryBusID)
  | .subscribe =>
    if (message.publishBuses.getD []).length ≠ 0 then .error ⟨.badRequest, "publish_buses is valid only for PUBLISH"⟩
    else if claims.allowsBus (subscribeBus message claims) = false then
      .error ⟨.badRequest, "subscriber capability does not authorize requested AudioBus"⟩
    else .ok (none, subscribeBus message claims)

def joinCallbacks (room : Nat) (claims : Claims) : Option PublishBusPlan → Callbacks
  | some plan => .onTrack room plan claims
  | none => .onConnected room claims

def trimBearer (header : String) : String :=
  if "Bearer ".toList.isPrefixOf header.toList then String.ofList (header.toList.drop 7) else header

structure WhipRequest where
  method : String
  contentType : String
  authorization : String
  pathID : String
  bus : String
  offer : String

structure WhipPolicy where
  requiredRole : Role
  defaultBus : String

def WhipDirection.policy : WhipDirection → WhipPolicy
  | .whipIngress => ⟨.source, "voice"⟩
  | .whepEgress => ⟨.subscriber, busMix⟩

def whipSession (request : WhipRequest) (claims : Claims) : String :=
  if request.pathID = "" then claims.sessionID else request.pathID

def claimedBus (claims : Claims) : String :=
  if claims.role = .subscriber then claims.busID
  else if claims.busIDs.length = 1 then claims.busIDs.headD "" else ""

def whipBus (direction : WhipDirection) (request : WhipRequest) (claims : Claims) : String :=
  if request.bus ≠ "" then request.bus
  else if claimedBus claims ≠ "" then claimedBus claims else direction.policy.defaultBus

structure IngressRequest where
  authorization : String
  pathID : String
  bus : String
  subprotocols : List String

def opusIngressSubprotocol : String := "pks-opus-v1"

def sourceRejection : CapabilityErr → HttpError
  | .authorityUnavailable => ⟨503, "source admission rejected"⟩
  | .sessionNotFound => ⟨404, "source admission rejected"⟩
  | .invalidCapability => ⟨401, "source admission rejected"⟩

namespace MediaRelay

def handleJoin (v : Verifier) (r : MediaRelay) (p : Nat) (peer : SignalPeer) (message : ClientMessage)
    (c : Circumstances) : Option SignalError × MediaRelay :=
  if peer.pc.isSome then (some ⟨.alreadyJoined, "session has already joined a room"⟩, r)
  else
    match v.verify message.token (expectedRole message.type) c with
    | .error .sessionNotFound => (some ⟨.sessionNotActive, "Session is not active"⟩, r)
    | .error .authorityUnavailable => (some ⟨.authorityUnavailable, "Session service unavailable"⟩, r)
    | .error .invalidCapability => (some ⟨.badToken, "invalid Session credential"⟩, r)
    | .ok claims =>
      if message.type = .publish ∧ claims.role ≠ .source then
        (some ⟨.roleMismatch, "PUBLISH requires a source token"⟩, r)
      else if message.type = .subscribe ∧ claims.role ≠ .subscriber then
        (some ⟨.roleMismatch, "SUBSCRIBE requires a subscriber token"⟩, r)
      else
        match joinBus message claims with
        | .error e => (some e, r)
        | .ok (plan, busID) =>
          match c.authority with
          | some .notFound => (some ⟨.sessionNotActive, "control-plane Session is not active"⟩, r)
          | some _ => (some ⟨.authorityUnavailable, "control-plane authority is unavailable"⟩, r)
          | none =>
            match r.registry.getOrCreateWithinLimit (joinSession message claims) r.maxRooms with
            | (registry, none) =>
              (some ⟨.roomLimitExceeded, "relay has reached its RelaySession limit"⟩, { r with registry := registry })
            | (registry, some room) =>
              -- the bus of the peer is set before its connection exists
              if c.connection = false then
                (some ⟨.pcError, "failed to create peer connection"⟩,
                  { r with registry := registry, peers := r.peers.set p ⟨none, busID⟩ })
              else
                match c.transport with
                | some e => (some e, { r with registry := registry, peers := r.peers.set p ⟨some .silent, busID⟩ })
                | none =>
                  (c.negotiation,
                    { r with
                      registry := registry
                      peers := r.peers.set p ⟨some (joinCallbacks room claims plan), busID⟩ })

/-- A track of a publisher arrives: its stream claims a bus, or the connection is closed. -/
def onTrack (r : MediaRelay) (p : Nat) (peer : SignalPeer) (streamID : String) : Option MediaRelay :=
  match peer.pc with
  | some (.onTrack room plan claims) =>
    match plan.claim streamID with
    | (.error _, plan') => some { r with peers := r.peers.set p { peer with pc := some (.onTrack room plan' claims) } }
    | (.ok busID, plan') =>
      some { r with
        peers := r.peers.set p { peer with pc := some (.onTrack room plan' claims) }
        calls := r.calls ++ [⟨.setSource, room, busID, claims⟩] }
  | _ => none

def onConnected (r : MediaRelay) (peer : SignalPeer) : Option MediaRelay :=
  match peer.pc with
  | some (.onConnected room claims) =>
    some { r with calls := r.calls ++ [⟨.addBusSubscription, room, peer.busID, claims⟩] }
  | _ => none

def handleWHIPRequest (v : Verifier) (r : MediaRelay) (direction : WhipDirection) (request : WhipRequest)
    (c : Circumstances) : Option HttpError × MediaRelay :=
  if c.handshake = false then (some ⟨503, "relay handshake capacity exceeded"⟩, r)
  else if request.method ≠ "POST" then (some ⟨405, "method not allowed"⟩, r)
  else if "application/sdp".toList.isPrefixOf request.contentType.toList = false then
    (some ⟨415, "Content-Type must be application/sdp"⟩, r)
  else
    match v.verify (trimBearer request.authorization) direction.policy.requiredRole c with
    | .error .sessionNotFound => (some ⟨404, "Session is not active"⟩, r)
    | .error .authorityUnavailable => (some ⟨503, "Session service unavailable"⟩, r)
    | .error .invalidCapability => (some ⟨401, "unauthorized"⟩, r)
    | .ok claims =>
      if whipSession request claims ≠ claims.sessionID then (some ⟨403, "forbidden"⟩, r)
      else if claims.allowsBus (whipBus direction request claims) = false then (some ⟨403, "forbidden"⟩, r)
      else
        match c.authority with
        | some .notFound => (some ⟨404, "control-plane Session is not active"⟩, r)
        | some _ => (some ⟨503, "control-plane authority is unavailable"⟩, r)
        | none =>
          if request.offer = "" then (some ⟨400, "missing or unreadable SDP offer"⟩, r)
          else
            match r.registry.getOrCreateWithinLimit (whipSession request claims) r.maxRooms with
            | (registry, none) => (some ⟨429, "relay session limit exceeded"⟩, { r with registry := registry })
            | (registry, some room) =>
              if c.connection = false then (some ⟨500, "internal error"⟩, { r with registry := registry })
              else
                match c.transport with
                | some e => (some ⟨500, e.message⟩, { r with registry := registry })
                | none =>
                  (c.negotiation.map fun e => ⟨500, e.message⟩,
                    { r with
                      registry := registry
                      whipConns := r.whipConns ++ [⟨direction, room, whipBus direction request claims, claims⟩] })

def onWhip (r : MediaRelay) (conn : WhipConn) : MediaRelay := { r with calls := r.calls ++ [conn.call] }

def audioIngress (v : Verifier) (r : MediaRelay) (request : IngressRequest) (c : Circumstances) :
    Option HttpError × MediaRelay :=
  if c.shuttingDown then (some ⟨503, "relay shutting down"⟩, r)
  else if c.handshake = false then (some ⟨503, "media ingress capacity exceeded"⟩, r)
  else if "Bearer ".toList.isPrefixOf request.authorization.toList = false then
    (some ⟨401, "source capability required"⟩, r)
  else
    match v.verify (trimBearer request.authorization) .source c with
    | .error e => (some (sourceRejection e), r)
    | .ok claims =>
      if request.pathID ≠ claims.sessionID ∨ validPublishIdentifier request.bus = false ∨
          claims.allowsBus request.bus = false then
        (some ⟨403, "source scope rejected"⟩, r)
      else if opusIngressSubprotocol ∉ request.subprotocols then (some ⟨400, "pks-opus-v1 required"⟩, r)
      else
        match c.authority with
        | some _ => (some ⟨503, "Session authority unavailable"⟩, r)
        | none =>
          match r.registry.getOrCreateWithinLimit request.pathID r.maxRooms with
          | (registry, none) => (some ⟨429, "Session capacity exceeded"⟩, { r with registry := registry })
          | (registry, some room) =>
            match c.transport with
            | some e => (some ⟨500, e.message⟩, { r with registry := registry })
            | none =>
              (none, { r with registry := registry, calls := r.calls ++ [⟨.setSource, room, request.bus, claims⟩] })

end MediaRelay

inductive RelayEvent where
  | open
  | join (p : Nat) (message : ClientMessage) (c : Circumstances)
  | track (p : Nat) (streamID : String)
  | connected (p : Nat)
  | whip (direction : WhipDirection) (request : WhipRequest) (c : Circumstances)
  | whipReady (k : Nat)
  | ingress (request : IngressRequest) (c : Circumstances)
  | session (i : Nat) (e : SessionEvent)
  | delete (id : String)
  | sweep

namespace MediaRelay

def new (maxRooms maxBuses maxSubscriptions : Nat) : MediaRelay :=
  ⟨.new maxBuses maxSubscriptions, maxRooms, [], [], []⟩

def step (v : Verifier) (r : MediaRelay) : RelayEvent → Option MediaRelay
  | .open => some { r with peers := r.peers ++ [⟨none, ""⟩] }
  | .join p message c => (r.peers[p]?).map fun peer => (r.handleJoin v p peer message c).2
  | .track p streamID => (r.peers[p]?).bind fun peer => r.onTrack p peer streamID
  | .connected p => (r.peers[p]?).bind r.onConnected
  | .whip direction request c => some (r.handleWHIPRequest v direction request c).2
  | .whipReady k => (r.whipConns[k]?).map r.onWhip
  | .ingress request c => some (r.audioIngress v request c).2
  | .session i e =>
    (r.registry.objects[i]?).bind fun l => (l.step e).map fun l' => { r with registry := r.registry.set i l' }
  | .delete id => some { r with registry := r.registry.delete id }
  | .sweep => some { r with registry := r.registry.removeClosed }

def Runs (v : Verifier) (start : MediaRelay) (h : List (Step MediaRelay RelayEvent)) (r : MediaRelay) : Prop :=
  Exec (Machine.Moves (step v)) start h r

end MediaRelay

structure Registry.Grown (reg reg' : Registry) : Prop where
  ordered : reg'.Ordered
  more : owners reg.objects <+: owners reg'.objects

namespace Registry.Grown

variable {reg reg' : Registry} {id : String} {i : Nat}

theorem names (grown : reg.Grown reg') (here : (owners reg.objects)[i]? = some id) :
    (owners reg'.objects)[i]? = some id := by
  obtain ⟨rest, more⟩ := grown.more
  rw [← more, List.getElem?_append_left (List.getElem?_eq_some_iff.mp here).1, here]

theorem of_same (ordered : reg'.Ordered) (same : owners reg'.objects = owners reg.objects) : reg.Grown reg' :=
  ⟨ordered, same ▸ List.prefix_rfl⟩

theorem getOrCreate (ordered : reg.Ordered) {maxSessions : Nat} {found : Option Nat}
    (got : reg.getOrCreateWithinLimit id maxSessions = (reg', found)) :
    reg.Grown reg' ∧ ∀ i, found = some i → (owners reg'.objects)[i]? = some id := by
  unfold Registry.getOrCreateWithinLimit at got
  split at got
  · rename_i i registered
    cases got
    refine ⟨.of_same ordered.removeClosed rfl, ?_⟩
    rintro _ ⟨⟩
    exact (ordered.removeClosed id i registered).1
  · rename_i absent
    split_ifs at got
    · cases got
      exact ⟨.of_same ordered.removeClosed rfl, nofun⟩
    · cases got
      have created := ordered.removeClosed.create absent
      refine ⟨⟨created, ?_⟩, ?_⟩
      · simp [owners, Registry.create, Registry.removeClosed]
      · rintro _ ⟨⟩
        exact (created id _ (AList.lookup_insert _)).1

theorem set (ordered : reg.Ordered) {l l' : LiveSession} (here : reg.objects[i]? = some l)
    (same : l'.session.id = l.session.id) : reg.Grown (reg.set i l') := by
  have kept : owners (reg.set i l').objects = owners reg.objects := by
    rw [owners, Registry.set, List.map_set, same]
    exact Objects.set_same (by rw [List.getElem?_map, here]; rfl)
  exact .of_same (ordered.fewer kept id) kept

theorem of_follows (ordered : reg.Ordered) {epoch : String} (follows : reg.Follows epoch reg') : reg.Grown reg' :=
  .of_same (ordered.fewer follows.objects.owners_eq follows.rooms) follows.objects.owners_eq

end Registry.Grown

structure Entered (v : Verifier) (registry : Registry) (room : Nat) (claims : Claims) : Prop where
  accepted : ∃ token role c, v.verify token role c = .ok claims
  session : (owners registry.objects)[room]? = some claims.sessionID

variable {reg reg' : Registry} {claims : Claims} {busID : String} {room : Nat} {v : Verifier}

theorem Entered.grown (grown : reg.Grown reg') (entered : Entered v reg room claims) : Entered v reg' room claims :=
  ⟨entered.accepted, grown.names entered.session⟩

structure MediaCall.InScope (v : Verifier) (registry : Registry) (x : MediaCall) : Prop where
  entered : Entered v registry x.room x.claims
  bus : match x.kind with
    | .setSource => x.busID ∈ x.claims.busIDs
    | .addBusSubscription => x.busID = x.claims.busID

def SignalPeer.InScope (v : Verifier) (registry : Registry) (peer : SignalPeer) : Prop :=
  match peer.pc with
  | none | some .silent => True
  | some (.onTrack room plan claims) =>
    Entered v registry room claims ∧ claims.role = .source ∧
      ∃ message plan₀ arrivals, newPublishBusPlan message claims = .ok plan₀ ∧ plan = plan₀.after arrivals
  | some (.onConnected room claims) => Entered v registry room claims ∧ peer.busID = claims.busID

theorem MediaCall.InScope.grown {x : MediaCall} (grown : reg.Grown reg') (inside : x.InScope v reg) :
    x.InScope v reg' :=
  ⟨inside.entered.grown grown, inside.bus⟩

theorem SignalPeer.InScope.grown {peer : SignalPeer} (grown : reg.Grown reg') (inside : peer.InScope v reg) :
    peer.InScope v reg' := by
  unfold SignalPeer.InScope at inside ⊢
  split
  · trivial
  · trivial
  · rename_i room plan claims pc
    rw [pc] at inside
    exact ⟨inside.1.grown grown, inside.2⟩
  · rename_i room claims pc
    rw [pc] at inside
    exact ⟨inside.1.grown grown, inside.2⟩

theorem mem_busIDs (source : claims.role = .source) (allowed : claims.allowsBus busID = true) :
    busID ∈ claims.busIDs := by
  simpa [Claims.allowsBus, source] using allowed

theorem eq_busID (subscriber : claims.role = .subscriber) (allowed : claims.allowsBus busID = true) :
    busID = claims.busID := by
  have same : claims.busID = busID := by simpa [Claims.allowsBus, subscriber] using allowed
  exact same.symm

theorem joinCallbacks_inScope {registry : Registry} {message : ClientMessage} {c : Circumstances}
    {plan : Option PublishBusPlan} (accepted : v.verify message.token (expectedRole message.type) c = .ok claims)
    (bus : joinBus message claims = .ok (plan, busID))
    (here : (owners registry.objects)[room]? = some (joinSession message claims)) :
    (⟨some (joinCallbacks room claims plan), busID⟩ : SignalPeer).InScope v registry := by
  obtain ⟨matching, named⟩ := MediaServer.verifyCapability_ok accepted
  rw [joinSession, if_neg named] at here
  have entered : Entered v registry room claims := ⟨⟨_, _, _, accepted⟩, here⟩
  unfold joinBus at bus
  split at bus
  · rename_i type
    rw [type] at matching
    split at bus
    · cases bus
    · rename_i plan₀ made
      cases bus
      exact ⟨entered, matching nofun, message, plan₀, [], made, rfl⟩
  · rename_i type
    rw [type] at matching
    split_ifs at bus with publishes foreign
    cases bus
    exact ⟨entered, eq_busID (matching nofun) (Bool.eq_true_of_not_eq_false foreign)⟩

namespace MediaRelay

variable {v : Verifier} {r r' : MediaRelay}

structure InScope (v : Verifier) (r : MediaRelay) : Prop where
  ordered : r.registry.Ordered
  peers : ∀ peer ∈ r.peers, peer.InScope v r.registry
  whips : ∀ conn ∈ r.whipConns, conn.call.InScope v r.registry
  calls : ∀ x ∈ r.calls, x.InScope v r.registry

theorem InScope.registry (inside : r.InScope v) {reg : Registry} (grown : r.registry.Grown reg) :
    InScope v { r with registry := reg } :=
  ⟨grown.ordered, fun peer member => (inside.peers peer member).grown grown,
    fun conn member => (inside.whips conn member).grown grown, fun x member => (inside.calls x member).grown grown⟩

variable {peer : SignalPeer} {p : Nat}

theorem InScope.setPeer (inside : r.InScope v) (new : peer.InScope v r.registry) :
    InScope v { r with peers := r.peers.set p peer } := by
  refine ⟨inside.ordered, ?_, inside.whips, inside.calls⟩
  intro other member
  rcases List.mem_or_eq_of_mem_set member with old | rfl
  · exact inside.peers other old
  · exact new

theorem InScope.addCall (inside : r.InScope v) {x : MediaCall} (new : x.InScope v r.registry) :
    InScope v { r with calls := r.calls ++ [x] } := by
  refine ⟨inside.ordered, inside.peers, inside.whips, ?_⟩
  intro y member
  rcases List.mem_append.mp member with old | newest
  · exact inside.calls y old
  · rw [List.mem_singleton.mp newest]
    exact new

theorem handleJoin_inScope (inside : r.InScope v) (p : Nat) (peer : SignalPeer) (message : ClientMessage)
    (c : Circumstances) : InScope v (r.handleJoin v p peer message c).2 := by
  unfold handleJoin
  split
  · exact inside
  split
  · exact inside
  · exact inside
  · exact inside
  rename_i claims accepted
  split
  · exact inside
  split
  · exact inside
  split
  · exact inside
  rename_i plan busID bus
  split
  · exact inside
  · exact inside
  split
  · rename_i reg got
    exact inside.registry (Registry.Grown.getOrCreate inside.ordered got).1
  · rename_i reg room got
    obtain ⟨grown, here⟩ := Registry.Grown.getOrCreate inside.ordered got
    have entered := joinCallbacks_inScope accepted bus (here room rfl)
    split
    · exact (inside.registry grown).setPeer trivial
    · split
      · exact (inside.registry grown).setPeer trivial
      · exact (inside.registry grown).setPeer entered

theorem onTrack_inScope (inside : r.InScope v) (here : r.peers[p]? = some peer) {streamID : String}
    (moves : r.onTrack p peer streamID = some r') : InScope v r' := by
  have scope := inside.peers peer (List.mem_of_getElem? here)
  unfold onTrack at moves
  split at moves
  · rename_i room plan claims pc
    simp only [SignalPeer.InScope, pc] at scope
    obtain ⟨entered, source, message, plan₀, arrivals, made, rfl⟩ := scope
    have next : ∀ {answer : Except PublishErr String} {plan' : PublishBusPlan},
        (plan₀.after arrivals).claim streamID = (answer, plan') →
          ({ peer with pc := some (.onTrack room plan' claims) } : SignalPeer).InScope v r.registry := by
      intro answer plan' done
      exact ⟨entered, source, message, plan₀, arrivals ++ [streamID], made, by rw [PublishBusPlan.after_snoc, done]⟩
    split at moves
    · rename_i plan' failed
      cases moves
      exact inside.setPeer (next failed)
    · rename_i busID plan' done
      cases moves
      have offered := PublishBusPlan.claim_ok_iff.mp (congrArg Prod.fst done)
      have bus := mem_busIDs source (offered_in_scope made offered)
      exact (inside.setPeer (next done)).addCall ⟨entered, bus⟩
  · cases moves

theorem onConnected_inScope (inside : r.InScope v) (here : r.peers[p]? = some peer)
    (moves : r.onConnected peer = some r') : InScope v r' := by
  have scope := inside.peers peer (List.mem_of_getElem? here)
  unfold onConnected at moves
  split at moves
  · rename_i room claims pc
    simp only [SignalPeer.InScope, pc] at scope
    cases moves
    exact inside.addCall ⟨scope.1, scope.2⟩
  · cases moves

theorem whipCall_inScope {registry : Registry} {direction : WhipDirection} {token busID : String} {c : Circumstances}
    {claims : Claims} {room : Nat} (accepted : v.verify token direction.policy.requiredRole c = .ok claims)
    (here : (owners registry.objects)[room]? = some claims.sessionID) (allowed : claims.allowsBus busID = true) :
    (⟨direction, room, busID, claims⟩ : WhipConn).call.InScope v registry := by
  obtain ⟨matching, _⟩ := MediaServer.verifyCapability_ok accepted
  have entered : Entered v registry room claims := ⟨⟨_, _, _, accepted⟩, here⟩
  cases direction with
  | whipIngress => exact ⟨entered, mem_busIDs (matching nofun) allowed⟩
  | whepEgress => exact ⟨entered, eq_busID (matching nofun) allowed⟩

theorem handleWHIPRequest_inScope (inside : r.InScope v) (direction : WhipDirection) (request : WhipRequest)
    (c : Circumstances) : InScope v (r.handleWHIPRequest v direction request c).2 := by
  unfold handleWHIPRequest
  split
  · exact inside
  split
  · exact inside
  split
  · exact inside
  split
  · exact inside
  · exact inside
  · exact inside
  rename_i claims accepted
  split
  · exact inside
  rename_i named
  split
  · exact inside
  rename_i foreign
  split
  · exact inside
  · exact inside
  split
  · exact inside
  split
  · rename_i reg got
    exact inside.registry (Registry.Grown.getOrCreate inside.ordered got).1
  · rename_i reg room got
    obtain ⟨grown, here⟩ := Registry.Grown.getOrCreate inside.ordered got
    have own : (owners reg.objects)[room]? = some claims.sessionID := by
      rw [here room rfl, not_not.mp named]
    split
    · exact inside.registry grown
    · split
      · exact inside.registry grown
      · have kept := inside.registry grown
        refine ⟨kept.ordered, kept.peers, ?_, kept.calls⟩
        intro conn member
        rcases List.mem_append.mp member with old | newest
        · exact kept.whips conn old
        · rw [List.mem_singleton.mp newest]
          exact whipCall_inScope accepted own (Bool.eq_true_of_not_eq_false foreign)

theorem audioIngress_inScope (inside : r.InScope v) (request : IngressRequest) (c : Circumstances) :
    InScope v (r.audioIngress v request c).2 := by
  unfold audioIngress
  split
  · exact inside
  split
  · exact inside
  split
  · exact inside
  split
  · exact inside
  rename_i claims accepted
  split
  · exact inside
  rename_i scope
  push Not at scope
  split
  · exact inside
  split
  · exact inside
  split
  · rename_i reg got
    exact inside.registry (Registry.Grown.getOrCreate inside.ordered got).1
  · rename_i reg room got
    obtain ⟨grown, here⟩ := Registry.Grown.getOrCreate inside.ordered got
    split
    · exact inside.registry grown
    · obtain ⟨matching, _⟩ := MediaServer.verifyCapability_ok accepted
      refine (inside.registry grown).addCall ⟨⟨⟨_, _, _, accepted⟩, ?_⟩, ?_⟩
      · rw [here room rfl, scope.1]
      · exact mem_busIDs (matching nofun) (Bool.eq_true_of_not_eq_false scope.2.2)

theorem step_inScope {e : RelayEvent} (inside : r.InScope v) (moves : r.step v e = some r') : InScope v r' := by
  cases e with
  | «open» =>
    cases moves
    refine ⟨inside.ordered, ?_, inside.whips, inside.calls⟩
    intro peer member
    rcases List.mem_append.mp member with old | newest
    · exact inside.peers peer old
    · rw [List.mem_singleton.mp newest]
      trivial
  | join p message c =>
    obtain ⟨peer, _, rfl⟩ := Option.map_eq_some_iff.mp moves
    exact handleJoin_inScope inside p peer message c
  | track p streamID =>
    obtain ⟨peer, here, taken⟩ := Option.bind_eq_some_iff.mp moves
    exact onTrack_inScope inside here taken
  | connected p =>
    obtain ⟨peer, here, taken⟩ := Option.bind_eq_some_iff.mp moves
    exact onConnected_inScope inside here taken
  | whip direction request c =>
    cases moves
    exact handleWHIPRequest_inScope inside direction request c
  | whipReady k =>
    obtain ⟨conn, here, rfl⟩ := Option.map_eq_some_iff.mp moves
    exact inside.addCall (inside.whips conn (List.mem_of_getElem? here))
  | ingress request c =>
    cases moves
    exact audioIngress_inScope inside request c
  | session i e =>
    obtain ⟨l, here, taken⟩ := Option.bind_eq_some_iff.mp moves
    obtain ⟨l', stepped, rfl⟩ := Option.map_eq_some_iff.mp taken
    exact inside.registry (.set inside.ordered here (LiveSession.step_effect stepped).reports.1)
  | delete id =>
    cases moves
    exact inside.registry (.of_follows inside.ordered (.delete "" r.registry id))
  | sweep =>
    cases moves
    exact inside.registry (.of_follows inside.ordered (.removeClosed "" r.registry))

theorem inScope_of_run {maxRooms maxBuses maxSubscriptions : Nat} {h : List (Step MediaRelay RelayEvent)}
    (runs : Runs v (new maxRooms maxBuses maxSubscriptions) h r) : r.InScope v := by
  refine runs.invariant (I := InScope v) step_inScope ?_
  exact ⟨(fun _ _ registered => nomatch registered), (fun _ member => absurd member List.not_mem_nil),
    (fun _ member => absurd member List.not_mem_nil), fun _ member => absurd member List.not_mem_nil⟩

end MediaRelay

structure PublishBusPlan.Exact (message : ClientMessage) (plan : PublishBusPlan) : Prop where
  streams : ∀ arrivals, ((plan.served arrivals).map Prod.fst).Nodup
  buses : ∀ arrivals, ((plan.served arrivals).map Prod.snd).Nodup
  declared : ∀ bindings, message.publishBuses = some bindings → ∀ arrivals s busID,
    ((plan.after arrivals).claim s).1 = .ok busID ↔ ⟨s, busID⟩ ∈ bindings ∧ s ∉ (plan.served arrivals).map Prod.fst
  rejected : ∀ arrivals s e, ((plan.after arrivals).claim s).1 = .error e →
    ((plan.after arrivals).claim s).2 = plan.after arrivals

/-- Every call on every path is for the Session and a bus of the capability that it was
admitted with, and every plan serves each stream and each bus at most once. -/
theorem bus_scope_holds (v : Verifier) :
    (∀ (maxRooms maxBuses maxSubscriptions : Nat) (h : List (Step MediaRelay RelayEvent)) (r : MediaRelay),
      MediaRelay.Runs v (.new maxRooms maxBuses maxSubscriptions) h r → ∀ x ∈ r.calls, x.InScope v r.registry) ∧
      ∀ (message : ClientMessage) (claims : Claims) (plan : PublishBusPlan),
        newPublishBusPlan message claims = .ok plan → plan.Exact message := by
  constructor
  · intro maxRooms maxBuses maxSubscriptions h r runs
    exact (MediaRelay.inScope_of_run runs).calls
  · intro message claims plan made
    have apart := fun arrivals => PublishBusPlan.served_pairwise (newPublishBusPlan_separate made) arrivals
    refine ⟨?_, ?_, ?_, ?_⟩
    · exact fun arrivals => List.pairwise_map.mpr ((apart arrivals).imp And.left)
    · exact fun arrivals => List.pairwise_map.mpr ((apart arrivals).imp And.right)
    · exact fun bindings declares arrivals s busID => claim_declared made declares arrivals s busID
    · exact fun arrivals s e failed => PublishBusPlan.claim_error failed

namespace Plain

def verifier : Verifier := ⟨reading, readUnverified, mediaServer⟩

def calm : Circumstances := ⟨3, ⟨3, [], false⟩, startedStore, false, true, none, true, none, none⟩

def declaration : ClientMessage :=
  ⟨.publish, "", "", "", some [⟨"screen", "application"⟩, ⟨"mic", "microphone"⟩], ownerToken⟩

def arriving : List RelayEvent :=
  [.open, .join 0 declaration calm, .track 0 "mic", .track 0 "mic", .track 0 "camera", .track 0 "screen"]

def publishedRelay : MediaRelay := Machine.final (MediaRelay.step verifier) (.new 4 16 0) arriving

end Plain

open Plain in
theorem bus_scope_holds_published :
    publishedRelay.calls.map (fun x => (x.kind, x.room, x.busID)) =
        [(.setSource, 0, "microphone"), (.setSource, 0, "application")] ∧
      ∀ x ∈ publishedRelay.calls, x.InScope verifier publishedRelay.registry := by
  have allowed : Machine.allows (MediaRelay.step verifier) (.new 4 16 0) arriving = true := by decide +kernel
  refine ⟨by decide +kernel, ?_⟩
  exact (bus_scope_holds verifier).1 4 16 0 _ publishedRelay (Machine.exec_of_allows allowed)

end Relay
