import Relay.Access.Provenance
import Relay.Access.StateRevision
import Relay.Lib.Text

/-! The documents that show the state of a Session: the answer to GET, the event that a stream
starts with, and the events that the poller of the Session publishes. Each is encoded on a path
of its own. -/
namespace Relay

section Encoding

variable (quote : String → String)

def jsonArray (items : List String) : String := "[" ++ Text.join ',' items ++ "]"

def jsonObject (fields : List (String × String)) : String :=
  "\x7b" ++ Text.join ',' (fields.map fun field => "\"" ++ field.1 ++ "\":" ++ field.2) ++ "\x7d"

def jsonBool (value : Bool) : String := if value then "true" else "false"

def BusState.json (bus : BusState) : String :=
  jsonObject [("bus_id", quote bus.busID), ("role", quote bus.role), ("source_active", jsonBool bus.sourceActive),
    ("source_generation", toString bus.sourceGeneration)]

def SubscriptionState.json (subscription : SubscriptionState) : String :=
  jsonObject [("subscriber_id", quote subscription.subscriberID), ("bus_id", quote subscription.busID)]

namespace State

def fields (state : State) : List (String × String) :=
  [("session_id", quote state.sessionID), ("state_revision", toString state.stateRevision)] ++
    (if state.relayEpoch = "" then [] else [("relay_epoch", quote state.relayEpoch)]) ++
    [("relay_revision", toString state.relayRevision), ("required_buses", jsonArray (state.requiredBuses.map quote)),
      ("buses", jsonArray (state.buses.map (BusState.json quote))),
      ("subscriptions", jsonArray (state.subscriptions.map (SubscriptionState.json quote))),
      ("ready", jsonBool state.ready), ("subscription_count", toString state.subscriptionCount),
      ("codec", quote state.codec)]

def response (state : State) : String := jsonObject (state.fields quote ++ [("source_active", jsonBool state.ready)])

def initialEvent (state : State) : EventBus.Event := ⟨state.stateRevision, state.response quote⟩

/-- The event of `pollEvents`, which encodes the state itself. -/
def polledEvent (state : State) : EventBus.Event := ⟨state.stateRevision, jsonObject (state.fields quote)⟩

end State

theorem jsonObject_snoc_ne {fields : List (String × String)} (some_field : fields ≠ []) (field : String × String) :
    jsonObject (fields ++ [field]) ≠ jsonObject fields := by
  intro same
  have lengths := congrArg String.length same
  rw [jsonObject, jsonObject, List.map_append, List.map_cons, List.map_nil, Text.join,
    String.intercalate_append_of_ne_nil (by simpa using some_field) (by simp), ← Text.join] at lengths
  have comma : (String.singleton ',').length = 1 := rfl
  simp only [String.length_append, comma] at lengths
  omega

theorem State.response_ne (state : State) : state.response quote ≠ (state.polledEvent quote).payload :=
  jsonObject_snoc_ne (by simp [fields]) _

end Encoding

/-! ### A process that serves events -/

/-- How far a request for events is in `SubscribeEventsContext`. -/
inductive StreamStage where
  | read
  | joining
  | streaming (bus place : Nat)
  | refused
deriving DecidableEq

structure EventStream where
  session : String
  initial : State
  stage : StreamStage

/-- One process of the access service in the system: its buses and pollers, and the requests for
events it has. `past` is what has happened to the records. -/
structure EventNode where
  world : World
  past : History
  service : EventService
  streams : List EventStream

inductive EventNodeOp where
  | call (e : Event)
  | read (id : String) (env : Env)
  | find (k : Nat)
  | attach (k : Nat) (drawn : Option String)
  | poll (p : Nat) (env : Env)
  | serve (op : EventServiceOp)

namespace EventNode

def new (limit : Int) : EventNode := ⟨.empty, [], .new limit, []⟩

def call (P : Primitives) (w : EventNode) (e : Event) : EventNode :=
  { w with world := w.world.next P e, past := w.past ++ [⟨w.world, e, w.world.next P e⟩] }

def getContext (s : Service) (id : String) (env : Env) : Event := ⟨env, .call s (.get id)⟩

def answer (P : Primitives) (w : EventNode) (e : Event) : Option State := published P ⟨w.world, e, w.world.next P e⟩

def setStream (w : EventNode) (k : Nat) (stream : EventStream) (stage : StreamStage) : EventNode :=
  { w with streams := w.streams.set k { stream with stage := stage } }

def plain : EventServiceOp → Bool
  | .find _ | .attach _ _ | .query _ _ => false
  | _ => true

def attach (w : EventNode) (k : Nat) (stream : EventStream) (drawn : Option String) : Option EventNode :=
  match w.service.mu with
  | .subscribing id b _ =>
    if id ≠ stream.session then none
    else
      match w.service.buses[b]? with
      | none => none
      | some bus =>
        (w.service.step (.attach stream.initial.stateRevision drawn)).map fun service =>
          { w with service := service }.setStream k stream
            (match (bus.subscribeAfter w.service.limit stream.initial.stateRevision drawn).2 with
            | some n => .streaming b n
            | none => .refused)
  | _ => none

variable (P : Primitives) (quote : String → String) (s : Service)

def step (w : EventNode) : EventNodeOp → Option EventNode
  | .call e => if w.world.Allows e then some (w.call P e) else none
  | .read id env =>
    if w.world.Allows (getContext s id env) then
      match w.answer P (getContext s id env) with
      | none => some (w.call P (getContext s id env))
      | some state =>
        some { w.call P (getContext s id env) with streams := w.streams ++ [⟨id, state, .read⟩] }
    else none
  | .find k =>
    match w.streams[k]? with
    | some stream =>
      if stream.stage = .read then
        (w.service.step (.find stream.session)).map fun service =>
          { w with service := service }.setStream k stream .joining
      else none
    | none => none
  | .attach k drawn =>
    match w.streams[k]? with
    | some stream => if stream.stage = .joining then w.attach k stream drawn else none
    | none => none
  | .poll p env =>
    match w.service.pollers[p]? with
    | some poller =>
      if w.world.Allows (getContext s poller.session env) then
        (w.service.step (.query p ((w.answer P (getContext s poller.session env)).map (State.polledEvent quote)))).map
          fun service => { w.call P (getContext s poller.session env) with service := service }
      else none
    | none => none
  | .serve op => if plain op then (w.service.step op).map fun service => { w with service := service } else none

def written (w : EventNode) (stream : EventStream) : List EventBus.Event :=
  match stream.stage with
  | .streaming b n =>
    stream.initial.initialEvent quote ::
      (((w.service.buses[b]?).bind fun bus => bus.subscriptions[n]?).map (·.received)).getD []
  | _ => []

/-! ### What is written is what was read -/

def Shown (past : History) (id : String) (u : State) : Prop := u.sessionID = id ∧ ∃ x ∈ past, published P x = some u

def Polled (past : History) (id : String) (e : EventBus.Event) : Prop :=
  ∃ u, Shown P past id u ∧ e = u.polledEvent quote

variable {P quote s} {w w' : EventNode} {id : String} {u : State} {e : Event} {past : History}

theorem Shown.later (shown : Shown P past id u) (x : Step World Event) : Shown P (past ++ [x]) id u := by
  obtain ⟨session, y, member, same⟩ := shown
  exact ⟨session, y, List.mem_append_left _ member, same⟩

variable {event : EventBus.Event}

theorem Polled.later (polled : Polled P quote past id event) (x : Step World Event) :
    Polled P quote (past ++ [x]) id event := by
  obtain ⟨u, shown, same⟩ := polled
  exact ⟨u, shown.later x, same⟩

/-- Every stream starts with a state that was read for its Session, and its bus has events of
that Session only. -/
structure Traced (P : Primitives) (quote : String → String) (w : EventNode) : Prop where
  run : Runs P w.past w.world
  service : w.service.Sound
  owned : ∃ owners, w.service.Carries (Polled P quote w.past) owners ∧
    ∀ stream ∈ w.streams, ∀ b n, stream.stage = .streaming b n → owners[b]? = some stream.session
  started : ∀ stream ∈ w.streams, Shown P w.past stream.session stream.initial

theorem get_session {x : Step World Event} (move : World.Moves P x.before x.event x.after)
    (keyed : x.before.store.data.Keyed) (calls : x.event.action = .call s (.get id)) (shown : published P x = some u) :
    u.sessionID = id := by
  unfold published at shown
  have pruned := keyed.shrink (s.shrinks_prologue x.event.env.now x.before.store.data)
  split at shown
  · rename_i v ok
    cases shown
    have succeeded := ran_succeeded move calls ok
    generalize (ran P x).signed = signed, (ran P x).drawn = drawn, x.after.store.data = d at succeeded
    cases succeeded with
    | read read => cases read
    | performed performed =>
      cases performed with
      | get active | clear active =>
        have own := pruned.sessions active.found
        exact own
  · rename_i v ok
    obtain ⟨_, _, _, other⟩ := apply_of_state move ok
    rw [calls] at other
    cases other
  · cases shown

namespace Traced

theorem new (limit : Int) : (EventNode.new limit).Traced P quote where
  run := .nil
  service := .new limit
  owned := ⟨[], .new limit, nofun⟩
  started := nofun

theorem call (traced : w.Traced P quote) (allowed : w.world.Allows e) : (w.call P e).Traced P quote := by
  obtain ⟨owners, carries, placed⟩ := traced.owned
  refine ⟨traced.run.snoc allowed.moves, traced.service, ⟨owners, ?_, placed⟩, ?_⟩
  · exact carries.mono fun id event polled => polled.later _
  · exact fun stream member => (traced.started stream member).later _

theorem shown (traced : w.Traced P quote) {env : Env} (allowed : w.world.Allows (getContext s id env))
    (answered : w.answer P (getContext s id env) = some u) : Shown P (w.call P (getContext s id env)).past id u :=
  ⟨get_session allowed.moves (keyed_of_run traced.run) rfl answered, _,
    List.mem_append_right _ (List.mem_singleton_self _), answered⟩

variable {op : EventServiceOp} {service : EventService}

theorem moved (traced : w.Traced P quote) (step : w.service.step op = some service)
    (good : ∀ p poller event, op = .query p (some event) →
      w.service.pollers[p]? = some poller → Polled P quote w.past poller.session event) {streams : List EventStream}
    (old : ∀ stream ∈ streams, ∃ stream' ∈ w.streams,
      stream.session = stream'.session ∧ stream.initial = stream'.initial ∧ ∀ b n, stream.stage = .streaming b n →
        stream'.stage = .streaming b n ∨ ∃ created, w.service.mu = .subscribing stream.session b created) :
    { w with service := service, streams := streams }.Traced P quote := by
  obtain ⟨owners, carries, placed⟩ := traced.owned
  obtain ⟨owners', carries', rest, rfl⟩ := carries.step traced.service step good
  have longer : ∀ {b : Nat} {id : String}, owners[b]? = some id → (owners ++ rest)[b]? = some id := by
    intro b id here
    rw [List.getElem?_append_left (List.getElem?_eq_some_iff.mp here).1, here]
  refine ⟨traced.run, traced.service.step step, ⟨_, carries', ?_⟩, ?_⟩
  · intro stream member b n streams
    obtain ⟨stream', member', session, _, stage⟩ := old stream member
    rcases stage b n streams with same | ⟨created, subscribing⟩
    · rw [session]
      exact longer (placed stream' member' b n same)
    · have prepared := traced.service.prepared
      rw [subscribing] at prepared
      exact longer (carries.mapped _ b prepared)
  · intro stream member
    obtain ⟨stream', member', session, initial, _⟩ := old stream member
    rw [session, initial]
    exact traced.started stream' member'

theorem serve (traced : w.Traced P quote) (step : w.service.step op = some service)
    (good : ∀ p poller event, op = .query p (some event) →
      w.service.pollers[p]? = some poller → Polled P quote w.past poller.session event) :
    { w with service := service }.Traced P quote :=
  traced.moved step good fun stream member => ⟨stream, member, rfl, rfl, fun _ _ => .inl⟩

theorem advance (traced : w.Traced P quote) (step : w.service.step op = some service)
    (unread : ∀ p current, op ≠ .query p current) {k : Nat} {stream : EventStream} (here : w.streams[k]? = some stream)
    {stage : StreamStage}
    (placed : ∀ b n, stage = .streaming b n → ∃ created, w.service.mu = .subscribing stream.session b created) :
    ({ w with service := service }.setStream k stream stage).Traced P quote := by
  refine traced.moved step ?_ ?_
  · rintro p poller event rfl
    exact absurd rfl (unread p (some event))
  · intro stream' member
    rcases List.mem_or_eq_of_mem_set member with old | rfl
    · exact ⟨stream', old, rfl, rfl, fun _ _ => .inl⟩
    · exact ⟨stream, List.mem_of_getElem? here, rfl, rfl, fun b n streams => .inr (placed b n streams)⟩

theorem step (traced : w.Traced P quote) {op : EventNodeOp} (step : w.step P quote s op = some w') :
    w'.Traced P quote := by
  cases op with
  | call e =>
    obtain ⟨allowed, rfl⟩ := Option.guarded step
    exact traced.call allowed
  | read id env =>
    simp only [EventNode.step] at step
    split_ifs at step with allowed
    split at step
    · cases step
      exact traced.call allowed
    · rename_i state answered
      cases step
      have called := traced.call allowed
      obtain ⟨owners, carries, placed⟩ := called.owned
      refine ⟨called.run, called.service, ⟨owners, carries, ?_⟩, ?_⟩
      · intro stream member b n streams
        rcases List.mem_append.mp member with old | newest
        · exact placed stream old b n streams
        · cases List.mem_singleton.mp newest
          cases streams
      · intro stream member
        rcases List.mem_append.mp member with old | newest
        · exact called.started stream old
        · cases List.mem_singleton.mp newest
          exact traced.shown allowed answered
  | find k =>
    simp only [EventNode.step] at step
    split at step
    · rename_i stream here
      split_ifs at step
      obtain ⟨service, found, rfl⟩ := Option.map_eq_some_iff.mp step
      exact traced.advance found (fun _ _ => nofun) here nofun
    · cases step
  | attach k drawn =>
    simp only [EventNode.step] at step
    split at step
    · rename_i stream here
      split_ifs at step
      unfold EventNode.attach at step
      split at step
      · rename_i id b created subscribing
        split_ifs at step with own
        split at step
        · cases step
        rename_i bus there
        obtain ⟨service, attached, rfl⟩ := Option.map_eq_some_iff.mp step
        refine traced.advance attached (fun _ _ => nofun) here ?_
        intro b' n streams
        split at streams
        · cases streams
          exact ⟨created, by rw [subscribing, not_not.mp own]⟩
        · cases streams
      · cases step
    · cases step
  | poll p env =>
    simp only [EventNode.step] at step
    split at step
    · rename_i poller here
      split_ifs at step with allowed
      obtain ⟨service, queried, rfl⟩ := Option.map_eq_some_iff.mp step
      refine (traced.call allowed).serve queried ?_
      intro p' poller' event same there
      obtain ⟨rfl, current⟩ := EventServiceOp.query.inj same
      cases here.symm.trans there
      obtain ⟨state, answered, rfl⟩ := Option.map_eq_some_iff.mp current
      exact ⟨state, traced.shown allowed answered, rfl⟩
    · cases step
  | serve op =>
    simp only [EventNode.step] at step
    split_ifs at step with own
    obtain ⟨service, served, rfl⟩ := Option.map_eq_some_iff.mp step
    refine traced.serve served ?_
    rintro p poller event rfl
    cases own

end Traced

theorem traced_of_run {limit : Int} {h : List (Step EventNode EventNodeOp)}
    (run : Exec (Machine.Moves (step P quote s)) (.new limit) h w) : w.Traced P quote :=
  run.invariant (fun traced step => traced.step step) (.new limit)

variable {stream : EventStream}

theorem first_written (writes : (w.written quote stream)[0]? = some event) :
    event = stream.initial.initialEvent quote := by
  unfold written at writes
  split at writes
  · exact (Option.some.inj writes).symm
  · cases writes

theorem Traced.polled (traced : w.Traced P quote) (member : stream ∈ w.streams) {i : Nat}
    (writes : (w.written quote stream)[i + 1]? = some event) : Polled P quote w.past stream.session event := by
  obtain ⟨owners, carries, placed⟩ := traced.owned
  unfold written at writes
  split at writes
  · rename_i b n stage
    rw [List.getElem?_cons_succ] at writes
    cases here : w.service.buses[b]? with
    | none =>
      rw [here] at writes
      cases writes
    | some bus =>
      cases there : bus.subscriptions[n]? with
      | none =>
        simp [here, there] at writes
      | some sub =>
        simp only [here, there, Option.bind_some, Option.map_some, Option.getD_some] at writes
        have held := carries.held b bus _ here (placed stream member b n stage)
        exact held.at_place there event (List.mem_append_left _ (List.mem_of_getElem? writes))
  · cases writes

end EventNode

def Action.gets (id : String) : Action → Bool
  | .call _ (.get k) => k == id
  | _ => false

def Action.isCreate : Action → Bool
  | .call _ (.create _) => true
  | _ => false

variable {id : String}

theorem Action.eq_of_gets {a : Action} (gets : a.gets id = true) : ∃ s, a = .call s (.get id) := by
  unfold Action.gets at gets
  split at gets
  · rename_i s k
    exact ⟨s, by rw [beq_iff_eq.mp gets]⟩
  · cases gets

theorem EventNode.Traced.answered {P : Primitives} {quote : String → String} {w : EventNode} (traced : w.Traced P quote)
    (once : CreatedOnce P id w.past) {u v : State} (shown : EventNode.Shown P w.past id u) {x : Step World Event}
    (member : x ∈ w.past) (gets : x.event.action.gets id = true) (answered : published P x = some v)
    (revision : v.stateRevision = u.stateRevision) : v = u := by
  obtain ⟨rfl, y, there, read⟩ := shown
  obtain ⟨s, calls⟩ := Action.eq_of_gets gets
  obtain ⟨before, after, split⟩ := List.append_of_mem member
  have run := traced.run
  rw [split] at run
  obtain ⟨start, move, _⟩ := run.split_step
  have session := get_session move (keyed_of_run start) calls answered
  exact (published_same traced.run once there member read answered session revision.symm).symm

/-! A stream starts before the relay reports, and the poller shows what the report left. -/
namespace Plain

def quoted (text : String) : String := "\"" ++ text ++ "\""

def streaming : List EventNodeOp :=
  List.append (assigned.map EventNodeOp.call)
    [.read sessionID ⟨4, [], false⟩, .find 0, .attach 0 (some "a"), .serve (.launch 0), .serve (.lock 0),
      .serve .inspect, .serve .count, .call report, .poll 0 ⟨5, [], false⟩, .serve (.publish 0),
      .serve (.bus 0 (.visit 0)), .serve (.bus 0 .offer), .serve (.bus 0 .unlock), .serve (.bus 0 (.receive 0)),
      .call lookUp]

def streamed : EventNode := Machine.final (EventNode.step primitives quoted service) (.new 4) streaming

theorem streamed_evaluated :
    Machine.allows (EventNode.step primitives quoted service) (.new 4) streaming = true ∧
    (streamed.past.Pairwise fun z z' => ¬(z.event.action.isCreate = true ∧ z'.event.action.isCreate = true)) ∧
    ∃ stream ∈ streamed.streams, ∃ first ∈ ((streamed.written quoted stream)[0]? : Option EventBus.Event),
      ∃ second ∈ ((streamed.written quoted stream)[1]? : Option EventBus.Event),
      ∃ x ∈ streamed.past, ∃ y ∈ streamed.past, ∃ u ∈ published primitives x, ∃ v ∈ published primitives y,
        (x.event.action.gets stream.session = true ∧ u.stateRevision = first.revision) ∧
        (y.event.action.gets stream.session = true ∧ v.stateRevision = second.revision) ∧
        second.payload ≠ v.response quoted := by
  decide +kernel

theorem runs_streamed : Exec (Machine.Moves (EventNode.step primitives quoted service)) (.new 4)
    (Machine.trail (EventNode.step primitives quoted service) (.new 4) streaming) streamed :=
  Machine.exec_of_allows streamed_evaluated.1

theorem streamed_created_once (id : String) : CreatedOnce primitives id streamed.past := by
  refine streamed_evaluated.2.1.imp ?_
  rintro z z' apart ⟨⟨s, required, a, calls, _⟩, s', required', a', calls', _⟩
  rw [calls, calls'] at apart
  exact apart ⟨rfl, rfl⟩

end Plain

end Relay
