import Relay.Access.Mailbox

/-! The event buses of a service: the map from Sessions to buses, the poller of each bus, and
the calls that create, remove and sweep buses. A call of the service takes the service's lock
and then the lock of a bus; `Unsubscribe` and consumers take no more than the latter. -/
namespace Relay

inductive PollStage where
  | starting
  | looking
  | querying
  | publishing (event : EventBus.Event)
  | failing
  | waiting
  | ended
deriving DecidableEq

structure Poller where
  session : String
  bus : Nat
  stage : PollStage
deriving DecidableEq

inductive BusSection where
  | free
  | subscribing (id : String) (bus : Nat) (created : Bool)
  | inspecting (p : Nat)
  | counting (p : Nat)
  | closing (bus : Nat) (begun : Bool)
  | sweeping (todo : List (String × Nat))
  | sweepClosing (id : String) (bus : Nat) (begun : Bool) (todo : List (String × Nat))
deriving DecidableEq

def BusSection.toClose : BusSection → Option (Nat × Bool)
  | .closing b begun => some (b, begun)
  | .sweepClosing _ b begun _ => some (b, begun)
  | _ => none

def BusSection.begin : BusSection → BusSection
  | .closing b _ => .closing b true
  | .sweepClosing id b _ todo => .sweepClosing id b true todo
  | mu => mu

/-- The part of the service that serves events. A bus is known by its place in the list of all
buses there were. -/
structure EventService where
  limit : Int
  buses : List EventBus
  sessionBuses : Table String Nat
  pollers : List Poller
  mu : BusSection

inductive EventServiceOp where
  | find (id : String)
  | attach (revision : Nat) (drawn : Option String)
  | launch (p : Nat)
  | lock (p : Nat)
  | inspect
  | count
  | query (p : Nat) (current : Option EventBus.Event)
  | publish (p : Nat)
  | giveUp (p : Nat)
  | done (p : Nat)
  | tick (p : Nat)
  | delete (id : String)
  | shutdown
  | sweep (id : String) (bus : Nat)
  | close
  | unlock
  | bus (b : Nat) (op : EventBus.Op)
deriving DecidableEq

namespace EventService

def new (limit : Int) : EventService := ⟨limit, [], ∅, [], .free⟩

def enter (w : EventService) (p : Nat) (poller : Poller) (stage : PollStage) : EventService :=
  { w with pollers := w.pollers.set p { poller with stage := stage } }

def setBus (w : EventService) (b : Nat) (bus : EventBus) : EventService := { w with buses := w.buses.set b bus }

/-- `SubscribeEventsContext` under the lock, up to `subscribeAfter`. -/
def find (w : EventService) (id : String) : EventService :=
  match w.sessionBuses.lookup id with
  | some b => { w with mu := .subscribing id b false }
  | none =>
    { w with
      buses := w.buses ++ [.new]
      sessionBuses := w.sessionBuses.insert id w.buses.length
      mu := .subscribing id w.buses.length true }

/-- The call of `subscribeAfter` and what follows it: the caller of a bus it has created starts
its poller, or removes the bus. -/
def attach (w : EventService) (id : String) (b : Nat) (created : Bool) (bus : EventBus) (revision : Nat)
    (drawn : Option String) : EventService :=
  match bus.subscribeAfter w.limit revision drawn with
  | (bus', some _) =>
    { w.setBus b bus' with
      pollers := if created then w.pollers ++ [⟨id, b, .starting⟩] else w.pollers
      mu := .free }
  | (bus', none) =>
    if created then { w.setBus b bus' with sessionBuses := w.sessionBuses.erase id, mu := .closing b false }
    else { w.setBus b bus' with mu := .free }

/-- `delete` and `Close` if the map has the bus, as in `closeEventBus`. -/
def closeEventBus (w : EventService) (id : String) (expected : Nat) : EventService :=
  if w.sessionBuses.lookup id = some expected then
    { w with sessionBuses := w.sessionBuses.erase id, mu := .closing expected false }
  else w

def closeLocalEventBus (w : EventService) (id : String) : EventService :=
  match w.sessionBuses.lookup id with
  | some b => { w with sessionBuses := w.sessionBuses.erase id, mu := .closing b false }
  | none => w

def ofBus : EventBus.Op → Bool
  | .subscribe _ _ _ | .publish _ | .close => false
  | _ => true

def onPoller (w : EventService) (p : Nat) (stage : PollStage) (f : Poller → Option EventService) :
    Option EventService :=
  match w.pollers[p]? with
  | some poller => if poller.stage = stage then f poller else none
  | none => none

def step (w : EventService) : EventServiceOp → Option EventService
  | .find id => if w.mu = .free then some (w.find id) else none
  | .attach revision drawn =>
    match w.mu with
    | .subscribing id b created =>
      match w.buses[b]? with
      | some bus => if bus.phase = .idle then some (w.attach id b created bus revision drawn) else none
      | none => none
    | _ => none
  | .launch p => w.onPoller p .starting fun poller => some (w.enter p poller .looking)
  | .lock p =>
    w.onPoller p .looking fun _ => if w.mu = .free then some { w with mu := .inspecting p } else none
  | .inspect =>
    match w.mu with
    | .inspecting p =>
      match w.pollers[p]? with
      | some poller =>
        if w.sessionBuses.lookup poller.session ≠ some poller.bus then
          some { w.enter p poller .ended with mu := .free }
        else some { w with mu := .counting p }
      | none => none
    | _ => none
  | .count =>
    match w.mu with
    | .counting p =>
      match w.pollers[p]? with
      | some poller =>
        match w.buses[poller.bus]? with
        | some bus =>
          if bus.phase ≠ .idle then none
          else if bus.subscribers.size = 0 then
            some { w.enter p poller .ended with
              sessionBuses := w.sessionBuses.erase poller.session
              mu := .closing poller.bus false }
          else some { w.enter p poller .querying with mu := .free }
        | none => none
      | none => none
    | _ => none
  | .query p current =>
    w.onPoller p .querying fun poller =>
      match current with
      | some event => some (w.enter p poller (.publishing event))
      | none => some (w.enter p poller .failing)
  | .publish p =>
    match w.pollers[p]? with
    | some poller =>
      match poller.stage, w.buses[poller.bus]? with
      | .publishing event, some bus =>
        if bus.phase = .idle then some ((w.setBus poller.bus (bus.startPublish event)).enter p poller .waiting)
        else none
      | _, _ => none
    | none => none
  | .giveUp p =>
    w.onPoller p .failing fun poller =>
      if w.mu = .free then some ((w.enter p poller .ended).closeEventBus poller.session poller.bus) else none
  | .done p =>
    w.onPoller p .waiting fun poller =>
      match w.buses[poller.bus]? with
      | some bus => if bus.closed then some (w.enter p poller .ended) else none
      | none => none
  | .tick p => w.onPoller p .waiting fun poller => some (w.enter p poller .looking)
  | .delete id => if w.mu = .free then some (w.closeLocalEventBus id) else none
  | .shutdown =>
    if w.mu = .free then
      some { w with mu := .sweeping (w.sessionBuses.entries.map fun e => (e.1, e.2)) }
    else none
  | .sweep id b =>
    match w.mu with
    | .sweeping todo =>
      if (id, b) ∈ todo then some { w with mu := .sweepClosing id b false (todo.erase (id, b)) } else none
    | _ => none
  | .close =>
    match w.mu.toClose with
    | some (b, false) =>
      match w.buses[b]? with
      | some bus =>
        if bus.phase = .idle then some { w.setBus b bus.startClose with mu := w.mu.begin } else none
      | none => none
    | _ => none
  | .unlock =>
    match w.mu with
    | .closing b true =>
      match w.buses[b]? with
      | some bus => if bus.phase = .idle then some { w with mu := .free } else none
      | none => none
    | .sweepClosing id b true todo =>
      match w.buses[b]? with
      | some bus =>
        if bus.phase = .idle then some { w with sessionBuses := w.sessionBuses.erase id, mu := .sweeping todo }
        else none
      | none => none
    | .sweeping [] => some { w with mu := .free }
    | _ => none
  | .bus b op =>
    match w.buses[b]? with
    | some bus => if ofBus op then (bus.step op).map fun bus' => w.setBus b bus' else none
    | none => none

inductive Taken (w : EventService) : EventServiceOp → EventService → Prop
  | find {id : String} (free : w.mu = .free) : Taken w (.find id) (w.find id)
  | attach {id : String} {b revision : Nat} {created : Bool} {bus : EventBus} {drawn : Option String}
    (attaches : w.mu = .subscribing id b created) (here : w.buses[b]? = some bus) (idle : bus.phase = .idle) :
    Taken w (.attach revision drawn) (w.attach id b created bus revision drawn)
  | launch {p : Nat} {poller : Poller} (here : w.pollers[p]? = some poller) :
    Taken w (.launch p) (w.enter p poller .looking)
  | lock {p : Nat} (free : w.mu = .free) : Taken w (.lock p) { w with mu := .inspecting p }
  | dismiss {p : Nat} {poller : Poller} (inspects : w.mu = .inspecting p) (here : w.pollers[p]? = some poller)
    (other : w.sessionBuses.lookup poller.session ≠ some poller.bus) :
    Taken w .inspect { w.enter p poller .ended with mu := .free }
  | inspect {p : Nat} {poller : Poller} (inspects : w.mu = .inspecting p) (here : w.pollers[p]? = some poller)
    (known : w.sessionBuses.lookup poller.session = some poller.bus) : Taken w .inspect { w with mu := .counting p }
  | desert {p : Nat} {poller : Poller} (counts : w.mu = .counting p) (here : w.pollers[p]? = some poller) :
    Taken w .count { w.enter p poller .ended with
      sessionBuses := w.sessionBuses.erase poller.session
      mu := .closing poller.bus false }
  | count {p : Nat} {poller : Poller} (counts : w.mu = .counting p) (here : w.pollers[p]? = some poller) :
    Taken w .count { w.enter p poller .querying with mu := .free }
  | query {p : Nat} {poller : Poller} {event : EventBus.Event} (here : w.pollers[p]? = some poller) :
    Taken w (.query p (some event)) (w.enter p poller (.publishing event))
  | fail {p : Nat} {poller : Poller} (here : w.pollers[p]? = some poller) :
    Taken w (.query p none) (w.enter p poller .failing)
  | publish {p : Nat} {poller : Poller} {event : EventBus.Event} {bus : EventBus} (here : w.pollers[p]? = some poller)
    (stage : poller.stage = .publishing event) (there : w.buses[poller.bus]? = some bus) (idle : bus.phase = .idle) :
    Taken w (.publish p) ((w.setBus poller.bus (bus.startPublish event)).enter p poller .waiting)
  | giveUp {p : Nat} {poller : Poller} (here : w.pollers[p]? = some poller) (free : w.mu = .free) :
    Taken w (.giveUp p) ((w.enter p poller .ended).closeEventBus poller.session poller.bus)
  | done {p : Nat} {poller : Poller} {bus : EventBus} (here : w.pollers[p]? = some poller)
    (there : w.buses[poller.bus]? = some bus) (closed : bus.closed = true) :
    Taken w (.done p) (w.enter p poller .ended)
  | tick {p : Nat} {poller : Poller} (here : w.pollers[p]? = some poller) :
    Taken w (.tick p) (w.enter p poller .looking)
  | delete {id : String} (free : w.mu = .free) : Taken w (.delete id) (w.closeLocalEventBus id)
  | shutdown (free : w.mu = .free) :
    Taken w .shutdown { w with mu := .sweeping (w.sessionBuses.entries.map fun e => (e.1, e.2)) }
  | sweep {id : String} {b : Nat} {todo : List (String × Nat)} (sweeps : w.mu = .sweeping todo) (waits : (id, b) ∈ todo) :
    Taken w (.sweep id b) { w with mu := .sweepClosing id b false (todo.erase (id, b)) }
  | close {b : Nat} {bus : EventBus} (mine : w.mu.toClose = some (b, false)) (here : w.buses[b]? = some bus)
    (idle : bus.phase = .idle) : Taken w .close { w.setBus b bus.startClose with mu := w.mu.begin }
  | closed {b : Nat} {bus : EventBus} (closes : w.mu = .closing b true) (here : w.buses[b]? = some bus)
    (idle : bus.phase = .idle) : Taken w .unlock { w with mu := .free }
  | swept {id : String} {b : Nat} {todo : List (String × Nat)} {bus : EventBus}
    (sweeps : w.mu = .sweepClosing id b true todo) (here : w.buses[b]? = some bus) (idle : bus.phase = .idle) :
    Taken w .unlock { w with sessionBuses := w.sessionBuses.erase id, mu := .sweeping todo }
  | finish (sweeps : w.mu = .sweeping []) : Taken w .unlock { w with mu := .free }
  | bus {b : Nat} {bus bus' : EventBus} {op : EventBus.Op} (here : w.buses[b]? = some bus) (free : ofBus op = true)
    (step : bus.step op = some bus') : Taken w (.bus b op) (w.setBus b bus')

theorem onPoller_some {w w' : EventService} {p : Nat} {stage : PollStage} {f : Poller → Option EventService}
    (taken : w.onPoller p stage f = some w') :
    ∃ poller, w.pollers[p]? = some poller ∧ poller.stage = stage ∧ f poller = some w' := by
  unfold EventService.onPoller at taken
  split at taken
  · rename_i poller here
    split_ifs at taken with same
    exact ⟨poller, here, same, taken⟩
  · cases taken

theorem step_taken {w w' : EventService} {op : EventServiceOp} (step : w.step op = some w') : Taken w op w' := by
  cases op with
  | find | delete | shutdown =>
    obtain ⟨free, ⟨⟩⟩ := Option.ite_none_right_eq_some.mp step
    first
      | exact .find free
      | exact .delete free
      | exact .shutdown free
  | launch p | tick p =>
    obtain ⟨poller, here, _, ⟨⟩⟩ := onPoller_some step
    first
      | exact .launch here
      | exact .tick here
  | lock p =>
    obtain ⟨_, _, _, locks⟩ := onPoller_some step
    obtain ⟨free, ⟨⟩⟩ := Option.ite_none_right_eq_some.mp locks
    exact .lock free
  | query p current =>
    obtain ⟨poller, here, _, asks⟩ := onPoller_some step
    cases current with
    | some event =>
      cases asks
      exact .query here
    | none =>
      cases asks
      exact .fail here
  | giveUp p =>
    obtain ⟨poller, here, _, ends⟩ := onPoller_some step
    obtain ⟨free, ⟨⟩⟩ := Option.ite_none_right_eq_some.mp ends
    exact .giveUp here free
  | done p =>
    obtain ⟨poller, here, _, ends⟩ := onPoller_some step
    split at ends
    · rename_i bus there
      obtain ⟨closed, ⟨⟩⟩ := Option.ite_none_right_eq_some.mp ends
      exact .done here there closed
    · cases ends
  | attach | inspect | count | publish | sweep | close | unlock | bus =>
    simp only [EventService.step] at step
    repeat' split at step
    all_goals
      first
        | cases step
        | obtain ⟨bus', taken, rfl⟩ := Option.map_eq_some_iff.mp step
    all_goals
      first
        | exact .attach ‹_› ‹_› ‹_›
        | exact .dismiss ‹_› ‹_› ‹_›
        | exact .inspect ‹_› ‹_› (not_not.mp ‹_›)
        | exact .desert ‹_› ‹_›
        | exact .count ‹_› ‹_›
        | exact .publish ‹_› ‹_› ‹_› ‹_›
        | exact .sweep ‹_› ‹_›
        | exact .close ‹_› ‹_› ‹_›
        | exact .closed ‹_› ‹_› ‹_›
        | exact .swept ‹_› ‹_› ‹_›
        | exact .finish ‹_›
        | exact .bus ‹_› ‹_› ‹_›

def Runs (limit : Int) (h : List (Step EventService EventServiceOp)) (w : EventService) : Prop :=
  Exec (Machine.Moves step) (new limit) h w

end EventService

/-! Where a bus stands. -/

def BusSection.holds : BusSection → Option Nat
  | .subscribing _ b true => some b
  | .closing b _ => some b
  | .sweepClosing _ b _ _ => some b
  | _ => none

namespace EventService

structure Served (w : EventService) (b : Nat) (bus : EventBus) : Prop where
  mapped : ∃ id, w.sessionBuses.lookup id = some b
  opened : bus.closed = false
  polled : ∃ (p : Nat) (poller : Poller), w.pollers[p]? = some poller ∧ poller.bus = b ∧ poller.stage ≠ .ended

structure Gone (w : EventService) (b : Nat) (bus : EventBus) : Prop where
  unmapped : ∀ id, w.sessionBuses.lookup id ≠ some b
  closed : bus.closed = true
  empty : ∀ id n, bus.subscribers.lookup id ≠ some n

def Held (w : EventService) (b : Nat) (bus : EventBus) : BusSection → Prop
  | .subscribing id _ _ => w.sessionBuses.lookup id = some b ∧ bus.closed = false ∧
      ∀ (p : Nat) (poller : Poller), w.pollers[p]? = some poller → poller.bus ≠ b
  | .closing _ begun => (∀ id, w.sessionBuses.lookup id ≠ some b) ∧ (begun = true → bus.closed = true)
  | .sweepClosing id _ begun _ => w.sessionBuses.lookup id = some b ∧ (begun = true → bus.closed = true)
  | _ => False

def Prepared (w : EventService) : BusSection → Prop
  | .subscribing id b _ => w.sessionBuses.lookup id = some b
  | .counting p => ∀ poller, w.pollers[p]? = some poller → w.sessionBuses.lookup poller.session = some poller.bus
  | .sweeping todo => (∀ e ∈ todo, w.sessionBuses.lookup e.1 = some e.2) ∧ (todo.map Prod.fst).Nodup
  | .sweepClosing id _ _ todo => (∀ e ∈ todo, w.sessionBuses.lookup e.1 = some e.2) ∧
      (id :: todo.map Prod.fst).Nodup
  | _ => True

structure Sound (w : EventService) : Prop where
  each : ∀ (b : Nat) (bus : EventBus), w.buses[b]? = some bus → bus.Sound
  held : ∀ (b : Nat) (bus : EventBus), w.buses[b]? = some bus → w.mu.holds = some b → w.Held b bus w.mu
  stands : ∀ (b : Nat) (bus : EventBus), w.buses[b]? = some bus → w.mu.holds ≠ some b → w.Served b bus ∨ w.Gone b bus
  inside : ∀ id b, w.sessionBuses.lookup id = some b → b < w.buses.length
  apart : ∀ id id' b, w.sessionBuses.lookup id = some b → w.sessionBuses.lookup id' = some b → id = id'
  polls : ∀ (p : Nat) (poller : Poller), w.pollers[p]? = some poller → poller.bus < w.buses.length ∧
    ∀ id, w.sessionBuses.lookup id = some poller.bus → id = poller.session
  single : ∀ (p q : Nat) (poller poller' : Poller), w.pollers[p]? = some poller → w.pollers[q]? = some poller' →
    poller.bus = poller'.bus → p = q
  prepared : w.Prepared w.mu

namespace Sound

variable {w w' : EventService} {b p : Nat} {bus bus' : EventBus} {poller : Poller} {id : String}

theorem new (limit : Int) : (EventService.new limit).Sound where
  each := by simp [EventService.new]
  held := by simp [EventService.new]
  stands := by simp [EventService.new]
  inside := by simp [EventService.new]
  apart := by simp [EventService.new]
  polls := by simp [EventService.new]
  single := by simp [EventService.new]
  prepared := trivial

section

variable (sound : w.Sound)

include sound

theorem stands_of (here : w.buses[b]? = some bus) (away : w.mu.holds ≠ some b) (map : w'.sessionBuses = w.sessionBuses)
    (pollers : w'.pollers = w.pollers) : w'.Served b bus ∨ w'.Gone b bus := by
  rcases sound.stands b bus here away with served | gone
  · exact .inl ⟨map ▸ served.mapped, served.opened, pollers ▸ served.polled⟩
  · exact .inr ⟨map ▸ gone.unmapped, gone.closed, gone.empty⟩

theorem move {mu : BusSection} (before : w.mu.holds = none) (after : mu.holds = none) (prepared : w.Prepared mu) :
    Sound { w with mu := mu } where
  each := sound.each
  held b bus here held := by
    rw [show mu.holds = some b from held] at after
    cases after
  stands b bus here _ := sound.stands_of here (by rw [before]; exact nofun) rfl rfl
  inside := sound.inside
  apart := sound.apart
  polls := sound.polls
  single := sound.single
  prepared := by cases mu <;> exact prepared

theorem polled_of_served (here : w.pollers[p]? = some poller) (served : w.Served poller.bus bus) :
    poller.stage ≠ .ended ∧ w.sessionBuses.lookup poller.session = some poller.bus := by
  obtain ⟨id, mapped⟩ := served.mapped
  obtain ⟨q, other, there, same, live⟩ := served.polled
  have one := sound.single p q poller other here there same.symm
  subst one
  rw [here] at there
  cases there
  have session := (sound.polls p poller here).2 id mapped
  exact ⟨live, session ▸ mapped⟩

theorem enter {stage : PollStage} (here : w.pollers[p]? = some poller)
    (ends : stage = .ended → ∀ bus, w.buses[poller.bus]? = some bus → ¬ w.Served poller.bus bus) :
    Sound (w.enter p poller stage) := by
  have old (q : Nat) (other : Poller) (there : (w.pollers.set p { poller with stage := stage })[q]? = some other) :
      ∃ was : Poller, w.pollers[q]? = some was ∧ was.bus = other.bus ∧ was.session = other.session := by
    rcases Objects.getElem?_set_some there with ⟨rfl, rfl⟩ | ⟨_, before⟩
    · exact ⟨poller, here, rfl, rfl⟩
    · exact ⟨other, before, rfl, rfl⟩
  have held {b : Nat} {bus : EventBus} {mu : BusSection} (was : w.Held b bus mu) :
      (w.enter p poller stage).Held b bus mu := by
    cases mu with
    | subscribing id b' created =>
      refine ⟨was.1, was.2.1, ?_⟩
      intro q other there
      obtain ⟨before, known, same, _⟩ := old q other there
      rw [← same]
      exact was.2.2 q before known
    | _ => exact was
  have prepared {mu : BusSection} (was : w.Prepared mu) : (w.enter p poller stage).Prepared mu := by
    cases mu with
    | counting q =>
      intro other there
      obtain ⟨before, known, same, session⟩ := old q other there
      rw [← same, ← session]
      exact was before known
    | _ => exact was
  constructor
  · exact sound.each
  · exact fun b bus there holds => held (sound.held b bus there holds)
  · intro b bus there free
    rcases sound.stands b bus there free with served | gone
    · left
      refine ⟨served.mapped, served.opened, ?_⟩
      obtain ⟨q, other, known, same, live⟩ := served.polled
      by_cases this : q = p
      · subst this
        rw [here] at known
        cases known
        refine ⟨q, { poller with stage := stage }, List.getElem?_set_self (List.getElem?_eq_some_iff.mp here).1, same, ?_⟩
        intro ended
        subst same
        exact ends ended bus there served
      · exact ⟨q, other, by rw [EventService.enter, List.getElem?_set_ne (Ne.symm this), known], same, live⟩
    · exact .inr ⟨gone.unmapped, gone.closed, gone.empty⟩
  · exact sound.inside
  · exact sound.apart
  · intro q other there
    obtain ⟨before, known, same, session⟩ := old q other there
    rw [← same, ← session]
    exact sound.polls q before known
  · intro q r other other' there there' same
    obtain ⟨before, known, bus_eq, _⟩ := old q other there
    obtain ⟨before', known', bus_eq', _⟩ := old r other' there'
    exact sound.single q r before before' known known' (by rw [bus_eq, bus_eq', same])
  · exact prepared sound.prepared

theorem setBus (here : w.buses[b]? = some bus) (good : bus'.Sound) (closed : bus'.closed = bus.closed)
    (empty : bus.closed = true → (∀ id n, bus.subscribers.lookup id ≠ some n) →
      ∀ id n, bus'.subscribers.lookup id ≠ some n) :
    Sound (w.setBus b bus') := by
  have held {c : Nat} {x : EventBus} {mu : BusSection} {y : EventBus} (same : y.closed = x.closed) (was : w.Held c x mu) :
      (w.setBus b bus').Held c y mu := by
    cases mu with
    | subscribing | closing | sweepClosing =>
      simp only [Held, same] at was ⊢
      exact was
    | _ => exact was
  have length : (w.setBus b bus').buses.length = w.buses.length := List.length_set
  constructor
  · intro c x there
    rcases Objects.getElem?_set_some there with ⟨rfl, rfl⟩ | ⟨_, before⟩
    · exact good
    · exact sound.each c x before
  · intro c x there holds
    rcases Objects.getElem?_set_some there with ⟨rfl, rfl⟩ | ⟨_, before⟩
    · exact held closed (sound.held c bus here holds)
    · exact held rfl (sound.held c x before holds)
  · intro c x there free
    rcases Objects.getElem?_set_some there with ⟨rfl, rfl⟩ | ⟨_, before⟩
    · rcases sound.stands c bus here free with served | gone
      · exact .inl ⟨served.mapped, closed.trans served.opened, served.polled⟩
      · exact .inr ⟨gone.unmapped, closed.trans gone.closed, empty gone.closed gone.empty⟩
    · exact sound.stands_of before free rfl rfl
  · intro id c known
    rw [length]
    exact sound.inside id c known
  · exact sound.apart
  · intro q other there
    rw [length]
    exact sound.polls q other there
  · exact sound.single
  · have was := sound.prepared
    generalize mu_eq : w.mu = mu at was
    rw [show (w.setBus b bus').mu = mu from mu_eq]
    cases mu <;> exact was

theorem takeOut (known : w.sessionBuses.lookup id = some b) (before : w.mu.holds = none ∨ w.mu.holds = some b) :
    Sound { w with sessionBuses := w.sessionBuses.erase id, mu := .closing b false } := by
  have other {c : Nat} (different : c ≠ b) : w.mu.holds ≠ some c := by
    rcases before with none | this
    · rw [none]
      exact nofun
    · rw [this]
      exact fun same => different (Option.some.inj same).symm
  constructor
  · exact sound.each
  · intro c x there holds
    cases holds
    refine ⟨?_, nofun⟩
    intro id' kept
    obtain ⟨different, kept⟩ := Table.lookup_erase_some.mp kept
    exact different (sound.apart id' id b kept known)
  · intro c x there free
    have different : c ≠ b := fun same => free (congrArg some same.symm)
    rcases sound.stands c x there (other different) with served | gone
    · left
      obtain ⟨id', mapped⟩ := served.mapped
      refine ⟨⟨id', ?_⟩, served.opened, served.polled⟩
      refine Table.lookup_erase_some.mpr ⟨?_, mapped⟩
      rintro rfl
      rw [known] at mapped
      exact different (Option.some.inj mapped).symm
    · right
      refine ⟨?_, gone.closed, gone.empty⟩
      exact fun id' kept => gone.unmapped id' (Table.lookup_erase_some.mp kept).2
  · exact fun id' c kept => sound.inside id' c (Table.lookup_erase_some.mp kept).2
  · exact fun id' id'' c kept kept' =>
      sound.apart id' id'' c (Table.lookup_erase_some.mp kept).2 (Table.lookup_erase_some.mp kept').2
  · intro q other there
    exact ⟨(sound.polls q other there).1,
      fun id' kept => (sound.polls q other there).2 id' (Table.lookup_erase_some.mp kept).2⟩
  · exact sound.single
  · trivial

theorem find (free : w.mu = .free) (id : String) : (w.find id).Sound := by
  have nothing : w.mu.holds = none := by rw [free]; rfl
  unfold EventService.find
  split
  · rename_i b known
    exact sound.move nothing rfl known
  · rename_i unknown
    have fresh (id' : String) (c : Nat) (there : w.sessionBuses.lookup id' = some c) : c ≠ w.buses.length :=
      Nat.ne_of_lt (sound.inside id' c there)
    constructor
    · intro c x there
      rcases Objects.getElem?_snoc_some there with ⟨_, rfl⟩ | ⟨_, before⟩
      · exact .new
      · exact sound.each c x before
    · intro c x there holds
      cases holds
      rcases Objects.getElem?_snoc_some there with ⟨_, rfl⟩ | ⟨inside, _⟩
      · refine ⟨AList.lookup_insert _, rfl, ?_⟩
        intro q other known
        exact Nat.ne_of_lt (sound.polls q other known).1
      · exact absurd inside (Nat.lt_irrefl _)
    · intro c x there different
      rcases Objects.getElem?_snoc_some there with ⟨rfl, _⟩ | ⟨inside, before⟩
      · exact absurd rfl different
      · rcases sound.stands c x before (by rw [nothing]; exact nofun) with served | gone
        · left
          obtain ⟨id', mapped⟩ := served.mapped
          refine ⟨⟨id', Table.lookup_insert_some.mpr (.inr ⟨?_, mapped⟩)⟩, served.opened, served.polled⟩
          rintro rfl
          rw [unknown] at mapped
          cases mapped
        · right
          refine ⟨?_, gone.closed, gone.empty⟩
          intro id' known
          rcases Table.lookup_insert_some.mp known with ⟨_, rfl⟩ | ⟨_, old⟩
          · exact Nat.lt_irrefl _ inside
          · exact gone.unmapped id' old
    · intro id' c known
      rw [List.length_append, List.length_singleton]
      rcases Table.lookup_insert_some.mp known with ⟨_, rfl⟩ | ⟨_, old⟩
      · exact Nat.lt_succ_self _
      · exact Nat.lt_succ_of_lt (sound.inside id' c old)
    · intro id' id'' c known known'
      rcases Table.lookup_insert_some.mp known with ⟨rfl, rfl⟩ | ⟨_, old⟩
      · rcases Table.lookup_insert_some.mp known' with ⟨rfl, _⟩ | ⟨_, old'⟩
        · rfl
        · exact absurd rfl (fresh id'' _ old')
      · rcases Table.lookup_insert_some.mp known' with ⟨rfl, rfl⟩ | ⟨_, old'⟩
        · exact absurd rfl (fresh id' _ old)
        · exact sound.apart id' id'' c old old'
    · intro q other there
      obtain ⟨inside, session⟩ := sound.polls q other there
      refine ⟨by rw [List.length_append]; omega, ?_⟩
      intro id' known
      rcases Table.lookup_insert_some.mp known with ⟨_, same⟩ | ⟨_, old⟩
      · exact absurd same.symm (Nat.ne_of_lt inside)
      · exact session id' old
    · exact sound.single
    · exact AList.lookup_insert _

theorem start (creates : w.mu = .subscribing id b true) (here : w.buses[b]? = some bus) :
    Sound { w with pollers := w.pollers ++ [⟨id, b, .starting⟩], mu := .free } := by
  have holds : w.mu.holds = some b := by rw [creates]; rfl
  have held := sound.held b bus here holds
  rw [creates] at held
  obtain ⟨known, opened, none⟩ := held
  constructor
  · exact sound.each
  · exact nofun
  · intro c x there _
    by_cases this : c = b
    · subst this
      rw [here] at there
      cases there
      exact .inl ⟨⟨id, known⟩, opened, w.pollers.length, ⟨id, c, .starting⟩, by simp, rfl, nofun⟩
    · have different : w.mu.holds ≠ some c := by
        rw [holds]
        exact fun same => this (Option.some.inj same).symm
      rcases sound.stands c x there different with served | gone
      · obtain ⟨q, other, there, rest⟩ := served.polled
        exact .inl ⟨served.mapped, served.opened, q, other, Objects.getElem?_snoc_of_some there, rest⟩
      · exact .inr ⟨gone.unmapped, gone.closed, gone.empty⟩
  · exact sound.inside
  · exact sound.apart
  · intro q other there
    rcases Objects.getElem?_snoc_some there with ⟨_, rfl⟩ | ⟨_, before⟩
    · exact ⟨sound.inside id b known, fun id' found => sound.apart id' id b found known⟩
    · exact sound.polls q other before
  · intro q r other other' there there' same
    rcases Objects.getElem?_snoc_some there with ⟨rfl, rfl⟩ | ⟨_, before⟩
    · rcases Objects.getElem?_snoc_some there' with ⟨rfl, _⟩ | ⟨_, before'⟩
      · rfl
      · exact absurd same.symm (none r other' before')
    · rcases Objects.getElem?_snoc_some there' with ⟨rfl, rfl⟩ | ⟨_, before'⟩
      · exact absurd same (none q other before)
      · exact sound.single q r other other' before before' same
  · trivial

theorem attach {created : Bool} (attaches : w.mu = .subscribing id b created) (here : w.buses[b]? = some bus)
    (idle : bus.phase = .idle) (revision : Nat) (drawn : Option String) :
    (w.attach id b created bus revision drawn).Sound := by
  have known : w.sessionBuses.lookup id = some b := by
    have prepared := sound.prepared
    rwa [attaches] at prepared
  -- the bus that a call finds or creates is open
  have opened : bus.closed = false := by
    cases created with
    | true =>
      have held := sound.held b bus here (by rw [attaches]; rfl)
      rw [attaches] at held
      exact held.2.1
    | false =>
      rcases sound.stands b bus here (by rw [attaches]; exact nofun) with served | gone
      · exact served.opened
      · exact absurd known (gone.unmapped id)
  have good := (sound.each b bus here).subscribe idle w.limit revision drawn
  have closed := bus.subscribeAfter_closed w.limit revision drawn
  have after := sound.setBus here good closed (fun shut => by rw [opened] at shut; cases shut)
  have place : (w.setBus b (bus.subscribeAfter w.limit revision drawn).1).buses[b]? =
      some (bus.subscribeAfter w.limit revision drawn).1 :=
    List.getElem?_set_self (List.getElem?_eq_some_iff.mp here).1
  unfold EventService.attach
  generalize bus.subscribeAfter w.limit revision drawn = result at after place
  obtain ⟨bus', outcome⟩ := result
  cases outcome with
  | some n =>
    cases created with
    | true => exact after.start attaches place
    | false => exact after.move (by rw [show (w.setBus b bus').mu = _ from attaches]; rfl) rfl trivial
  | none =>
    cases created with
    | true => exact after.takeOut known (.inr (by rw [show (w.setBus b bus').mu = _ from attaches]; rfl))
    | false => exact after.move (by rw [show (w.setBus b bus').mu = _ from attaches]; rfl) rfl trivial

omit sound in
theorem empty_of_closed (sound : bus.Sound) (closed : bus.closed = true) (idle : bus.phase = .idle) :
    ∀ id n, bus.subscribers.lookup id ≠ some n := by
  intro id n known
  obtain ⟨todo, phase, _⟩ := EventBus.Sound.shut sound closed id n known
  rw [idle] at phase
  cases phase

theorem close (mine : w.mu.toClose = some (b, false)) (here : w.buses[b]? = some bus) (idle : bus.phase = .idle) :
    Sound { w.setBus b bus.startClose with mu := w.mu.begin } := by
  have shut : bus.startClose.closed = true := by
    unfold EventBus.startClose
    split_ifs with before
    · exact before
    · rfl
  have holds : w.mu.holds = some b := by
    cases mu_eq : w.mu <;> rw [mu_eq] at mine <;> cases mine <;> rfl
  have still : w.mu.begin.holds = some b := by
    rw [← holds]
    cases w.mu <;> rfl
  have length : (w.setBus b bus.startClose).buses.length = w.buses.length := List.length_set
  have other {c : Nat} (different : c ≠ b) : w.mu.holds ≠ some c := by
    rw [holds]
    exact fun same => different (Option.some.inj same).symm
  constructor
  · intro c x there
    rcases Objects.getElem?_set_some there with ⟨rfl, rfl⟩ | ⟨_, before⟩
    · exact (sound.each c bus here).close idle
    · exact sound.each c x before
  · intro c x there now
    rw [show w.mu.begin.holds = some c from now] at still
    cases still
    have held := sound.held b bus here holds
    rcases Objects.getElem?_set_some there with ⟨_, rfl⟩ | ⟨different, _⟩
    · show (w.setBus b bus.startClose).Held b bus.startClose w.mu.begin
      generalize w.mu = mu at mine held
      cases mu with
      | closing | sweepClosing => exact ⟨held.1, fun _ => shut⟩
      | _ => cases mine
    · exact absurd rfl different
  · intro c x there away
    rcases Objects.getElem?_set_some there with ⟨rfl, _⟩ | ⟨different, before⟩
    · exact absurd still away
    · exact sound.stands_of before (other different) rfl rfl
  · intro id' c known
    rw [length]
    exact sound.inside id' c known
  · exact sound.apart
  · intro q poller there
    rw [length]
    exact sound.polls q poller there
  · exact sound.single
  · have was := sound.prepared
    show Prepared _ w.mu.begin
    generalize w.mu = mu at mine was
    cases mu with
    | closing => trivial
    | sweepClosing => exact was
    | _ => cases mine

theorem closed (closes : w.mu = .closing b true) (here : w.buses[b]? = some bus) (idle : bus.phase = .idle) :
    Sound { w with mu := .free } := by
  have holds : w.mu.holds = some b := by rw [closes]; rfl
  constructor
  · exact sound.each
  · exact nofun
  · intro c x there _
    by_cases this : c = b
    · subst this
      rw [here] at there
      cases there
      have held := sound.held c bus here holds
      rw [closes] at held
      have shut := held.2 rfl
      exact .inr ⟨held.1, shut, empty_of_closed (sound.each c bus here) shut idle⟩
    · have away : w.mu.holds ≠ some c := by
        rw [holds]
        exact fun same => this (Option.some.inj same).symm
      exact sound.stands_of there away rfl rfl
  · exact sound.inside
  · exact sound.apart
  · exact sound.polls
  · exact sound.single
  · trivial

theorem sweep {todo : List (String × Nat)} (sweeps : w.mu = .sweeping todo) (waits : (id, b) ∈ todo) :
    Sound { w with mu := .sweepClosing id b false (todo.erase (id, b)) } := by
  have prepared := sound.prepared
  rw [sweeps] at prepared
  obtain ⟨known, nodup⟩ := prepared
  have order : todo.Perm ((id, b) :: todo.erase (id, b)) := List.perm_cons_erase waits
  constructor
  · exact sound.each
  · intro c x there holds
    cases holds
    exact ⟨known (id, b) waits, nofun⟩
  · intro c x there _
    exact sound.stands_of there (by rw [sweeps]; exact nofun) rfl rfl
  · exact sound.inside
  · exact sound.apart
  · exact sound.polls
  · exact sound.single
  · refine ⟨fun e member => known e (List.mem_of_mem_erase member), ?_⟩
    exact ((order.map Prod.fst).nodup_iff).mp nodup

theorem swept {todo : List (String × Nat)} (sweeps : w.mu = .sweepClosing id b true todo)
    (here : w.buses[b]? = some bus) (idle : bus.phase = .idle) :
    Sound { w with sessionBuses := w.sessionBuses.erase id, mu := .sweeping todo } := by
  have holds : w.mu.holds = some b := by rw [sweeps]; rfl
  have prepared := sound.prepared
  rw [sweeps] at prepared
  obtain ⟨left, nodup⟩ := prepared
  have held := sound.held b bus here holds
  rw [sweeps] at held
  obtain ⟨known, shut⟩ := held
  have taken := sound.takeOut known (.inr holds)
  constructor
  · exact sound.each
  · exact nofun
  · intro c x there _
    by_cases this : c = b
    · subst this
      rw [here] at there
      cases there
      have held := taken.held c bus here rfl
      exact .inr ⟨held.1, shut rfl, empty_of_closed (sound.each c bus here) (shut rfl) idle⟩
    · have away : BusSection.holds (.closing b false) ≠ some c := fun same => this (Option.some.inj same).symm
      exact taken.stands_of there away rfl rfl
  · exact taken.inside
  · exact taken.apart
  · exact taken.polls
  · exact sound.single
  · obtain ⟨first, rest⟩ := List.nodup_cons.mp nodup
    refine ⟨fun e member => Table.lookup_erase_some.mpr ⟨?_, left e member⟩, rest⟩
    rintro same
    exact first (same ▸ List.mem_map_of_mem member)

theorem end_of_unmapped (here : w.pollers[p]? = some poller)
    (other : w.sessionBuses.lookup poller.session ≠ some poller.bus) : Sound (w.enter p poller .ended) :=
  sound.enter here fun _ _ _ served => other (sound.polled_of_served here served).2

theorem endOut (here : w.pollers[p]? = some poller) (known : w.sessionBuses.lookup poller.session = some poller.bus)
    (before : w.mu.holds = none) :
    Sound { w.enter p poller .ended with
      sessionBuses := w.sessionBuses.erase poller.session
      mu := .closing poller.bus false } := by
  have taken := sound.takeOut known (.inl before)
  refine taken.enter here fun _ bus there served => ?_
  obtain ⟨id, mapped⟩ := served.mapped
  exact (taken.held poller.bus bus there rfl).1 id mapped

theorem onBus {op : EventBus.Op} (here : w.buses[b]? = some bus) (free : ofBus op = true)
    (step : bus.step op = some bus') : Sound (w.setBus b bus') := by
  have other : op ≠ .close := by
    rintro rfl
    cases free
  refine sound.setBus here ((sound.each b bus here).step step) (EventBus.step_closed other step) ?_
  intro _ empty id n known
  cases EventBus.step_shape step with
  | kept subscribers _ =>
    rw [subscribers] at known
    exact empty id n known
  | joined event =>
    rw [event] at free
    cases free
  | left _ subscribers _ =>
    rw [subscribers] at known
    exact empty id n (Table.lookup_erase_some.mp known).2

theorem startPublish (here : w.buses[b]? = some bus) (idle : bus.phase = .idle) (event : EventBus.Event) :
    Sound (w.setBus b (bus.startPublish event)) := by
  have same : (bus.startPublish event).closed = bus.closed ∧ (bus.startPublish event).subscribers = bus.subscribers := by
    unfold EventBus.startPublish
    split_ifs <;> exact ⟨rfl, rfl⟩
  refine sound.setBus here ((sound.each b bus here).publish idle event) same.1 ?_
  rw [same.2]
  exact fun _ => id

theorem step {op : EventServiceOp} (step : w.step op = some w') : w'.Sound := by
  cases step_taken step with
  | find free => exact sound.find free _
  | attach attaches here idle => exact sound.attach attaches here idle _ _
  | launch here | tick here | query here | fail here => exact sound.enter here nofun
  | lock free => exact sound.move (by rw [free]; rfl) rfl trivial
  | dismiss inspects here other =>
    exact (sound.end_of_unmapped here other).move (show w.mu.holds = none by rw [inspects]; rfl) rfl trivial
  | inspect inspects here known =>
    refine sound.move (by rw [inspects]; rfl) rfl ?_
    intro same there
    rw [here] at there
    cases there
    exact known
  | desert counts here =>
    have prepared := sound.prepared
    rw [counts] at prepared
    exact sound.endOut here (prepared _ here) (by rw [counts]; rfl)
  | count counts here =>
    have moved : Sound (w.enter _ _ .querying) := sound.enter here nofun
    exact moved.move (show w.mu.holds = none by rw [counts]; rfl) rfl trivial
  | publish here _ there idle => exact (sound.startPublish there idle _).enter here nofun
  | giveUp here free =>
    unfold EventService.closeEventBus
    split_ifs with known
    · exact sound.endOut here known (by rw [free]; rfl)
    · exact sound.end_of_unmapped here known
  | done here there closed =>
    refine sound.enter here fun _ x place served => ?_
    rw [there] at place
    cases place
    rw [served.opened] at closed
    cases closed
  | delete free =>
    unfold EventService.closeLocalEventBus
    split
    · rename_i b known
      exact sound.takeOut known (.inl (by rw [free]; rfl))
    · exact sound
  | shutdown free =>
    refine sound.move (by rw [free]; rfl) rfl ⟨?_, ?_⟩
    · intro e member
      obtain ⟨entry, inside, rfl⟩ := List.mem_map.mp member
      exact Table.mem_entries_iff.mp inside
    · rw [List.map_map]
      exact w.sessionBuses.nodupKeys
  | sweep sweeps waits => exact sound.sweep sweeps waits
  | close mine here idle => exact sound.close mine here idle
  | closed closes here idle => exact sound.closed closes here idle
  | swept sweeps here idle => exact sound.swept sweeps here idle
  | finish sweeps => exact sound.move (by rw [sweeps]; rfl) rfl trivial
  | bus here free taken => exact sound.onBus here free taken

end

end Sound

theorem sound_of_run {limit : Int} {h : List (Step EventService EventServiceOp)} {w : EventService}
    (run : Runs limit h w) : w.Sound :=
  Exec.invariant (fun sound step => sound.step step) (.new limit) run

end EventService

end Relay
