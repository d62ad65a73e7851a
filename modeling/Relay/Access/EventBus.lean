import Relay.Lib.Run
import Relay.Lib.Shared
import Relay.Lib.Table

/-! The EventBus of a Session: one complete state per consumer, the newest. The operations of
the bus exclude each other by its lock; consumers receive between any two of their steps. -/
namespace Relay

structure EventBus.Event where
  revision : Nat
  payload : String
deriving DecidableEq

/-- An `eventSubscription`, with the revision its consumer subscribed after and what the
consumer has received. -/
structure EventBus.Subscription where
  channel : Channel EventBus.Event
  revision : Nat
  after : Nat
  received : List EventBus.Event
deriving DecidableEq

inductive EventBus.Phase where
  | idle
  | publishing (event : EventBus.Event) (todo : List Nat)
  | offering (event : EventBus.Event) (n : Nat) (todo : List Nat)
  | draining (event : EventBus.Event) (n : Nat) (todo : List Nat)
  | sending (event : EventBus.Event) (n : Nat) (todo : List Nat)
  | closing (todo : List String)
  | panicked
deriving DecidableEq

/-- The bus. `subscribers` leads to places in the list of all subscriptions there were; the
channel `done` is closed exactly when `closed` is set. -/
structure EventBus where
  subscriptions : List EventBus.Subscription
  subscribers : Table String Nat
  latest : EventBus.Event
  closed : Bool
  phase : EventBus.Phase

namespace EventBus

inductive Op where
  | subscribe (limit : Int) (revision : Nat) (id : Option String)
  | unsubscribe (id : String)
  | publish (event : Event)
  | visit (n : Nat)
  | offer
  | drain
  | send
  | close
  | shut (id : String)
  | unlock
  | receive (n : Nat)
deriving DecidableEq

def new : EventBus := ⟨[], ∅, ⟨0, ""⟩, false, .idle⟩

def withChannel (bus : EventBus) (n : Nat) (sub : Subscription) (c : Channel Event) : EventBus :=
  { bus with subscriptions := bus.subscriptions.set n { sub with channel := c } }

def start (bus : EventBus) (revision : Nat) : Option Subscription :=
  if bus.latest.revision > revision then
    match (Channel.make 1).send bus.latest with
    | .sent c => some ⟨c, bus.latest.revision, revision, []⟩
    | _ => none
  else some ⟨Channel.make 1, revision, revision, []⟩

/-- `subscribeAfter`, under the lock; `id` is what the random source gave. The second part is
the place of the subscription, if there is no error. -/
def subscribeAfter (bus : EventBus) (limit : Int) (revision : Nat) (id : Option String) :
    EventBus × Option Nat :=
  if bus.closed ∨ (bus.subscribers.size : Int) ≥ limit then (bus, none)
  else
    match id with
    | none => (bus, none)
    | some id =>
      match bus.start revision with
      | none => ({ bus with phase := .panicked }, none)
      | some sub =>
        ({ bus with
            subscriptions := bus.subscriptions ++ [sub]
            subscribers := bus.subscribers.insert id bus.subscriptions.length },
          some bus.subscriptions.length)

def remove (bus : EventBus) (id : String) : EventBus :=
  match bus.subscribers.lookup id with
  | none => bus
  | some n =>
    match bus.subscriptions[n]? with
    | none => bus
    | some sub =>
      match sub.channel.close with
      | none => { bus with phase := .panicked }
      | some c => { bus.withChannel n sub c with subscribers := bus.subscribers.erase id }

def places (bus : EventBus) : List Nat := bus.subscribers.entries.map Sigma.snd

/-- `Publish` up to its loop. -/
def startPublish (bus : EventBus) (event : Event) : EventBus :=
  if bus.closed ∨ event.revision ≤ bus.latest.revision then bus
  else { bus with latest := event, phase := .publishing event bus.places }

/-- One turn of the loop of `Publish`, up to the first `select`. -/
def startVisit (bus : EventBus) (event : Event) (n : Nat) (todo : List Nat) : Option EventBus :=
  match bus.subscriptions[n]? with
  | none => none
  | some sub =>
    if event.revision ≤ sub.revision then some { bus with phase := .publishing event todo }
    else
      some { bus with
        subscriptions := bus.subscriptions.set n { sub with revision := event.revision }
        phase := .offering event n todo }

/-- The first `select`: send, or fall through to its default. -/
def offer (bus : EventBus) (event : Event) (n : Nat) (todo : List Nat) : Option EventBus :=
  match bus.subscriptions[n]? with
  | none => none
  | some sub =>
    match sub.channel.send event with
    | .sent c => some { bus.withChannel n sub c with phase := .publishing event todo }
    | .blocked => some { bus with phase := .draining event n todo }
    | .panics => some { bus with phase := .panicked }

def drain (bus : EventBus) (event : Event) (n : Nat) (todo : List Nat) : Option EventBus :=
  match bus.subscriptions[n]? with
  | none => none
  | some sub =>
    match sub.channel.receive with
    | some (_, c) => some { bus.withChannel n sub c with phase := .sending event n todo }
    | none => some { bus with phase := .sending event n todo }

/-- The send outside any `select`, which waits for room. -/
def sendNow (bus : EventBus) (event : Event) (n : Nat) (todo : List Nat) : Option EventBus :=
  match bus.subscriptions[n]? with
  | none => none
  | some sub =>
    match sub.channel.send event with
    | .sent c => some { bus.withChannel n sub c with phase := .publishing event todo }
    | .blocked => none
    | .panics => some { bus with phase := .panicked }

def startClose (bus : EventBus) : EventBus :=
  if bus.closed then bus else { bus with closed := true, phase := .closing bus.subscribers.keys }

def receive (bus : EventBus) (n : Nat) : Option EventBus :=
  match bus.subscriptions[n]? with
  | none => none
  | some sub =>
    match sub.channel.receive with
    | none => none
    | some (e, c) =>
      some { bus with
        subscriptions := bus.subscriptions.set n { sub with channel := c, received := sub.received ++ [e] } }

def step (bus : EventBus) : Op → Option EventBus
  | .subscribe limit revision id =>
    if bus.phase = .idle then some (bus.subscribeAfter limit revision id).1 else none
  | .unsubscribe id => if bus.phase = .idle then some (bus.remove id) else none
  | .publish event => if bus.phase = .idle then some (bus.startPublish event) else none
  | .visit n =>
    match bus.phase with
    | .publishing event todo => if n ∈ todo then bus.startVisit event n (todo.erase n) else none
    | _ => none
  | .offer =>
    match bus.phase with
    | .offering event n todo => bus.offer event n todo
    | _ => none
  | .drain =>
    match bus.phase with
    | .draining event n todo => bus.drain event n todo
    | _ => none
  | .send =>
    match bus.phase with
    | .sending event n todo => bus.sendNow event n todo
    | _ => none
  | .close => if bus.phase = .idle then some bus.startClose else none
  | .shut id =>
    match bus.phase with
    | .closing todo => if id ∈ todo then some ({ bus with phase := .closing (todo.erase id) }.remove id) else none
    | _ => none
  | .unlock =>
    match bus.phase with
    | .publishing _ [] => some { bus with phase := .idle }
    | .closing [] => some { bus with phase := .idle }
    | _ => none
  | .receive n => bus.receive n

def Runs (h : List (Step EventBus Op)) (bus : EventBus) : Prop := Exec (Machine.Moves step) new h bus

inductive Taken (bus : EventBus) : Op → EventBus → Prop
  | subscribe (idle : bus.phase = .idle) (limit : Int) (revision : Nat) (id : Option String) :
    Taken bus (.subscribe limit revision id) (bus.subscribeAfter limit revision id).1
  | unsubscribe (idle : bus.phase = .idle) (id : String) : Taken bus (.unsubscribe id) (bus.remove id)
  | publish (idle : bus.phase = .idle) (event : Event) : Taken bus (.publish event) (bus.startPublish event)
  | pass {event : Event} {n : Nat} {todo : List Nat} {s : Subscription} (phase : bus.phase = .publishing event todo)
    (waits : n ∈ todo) (here : bus.subscriptions[n]? = some s) (old : event.revision ≤ s.revision) :
    Taken bus (.visit n) { bus with phase := .publishing event (todo.erase n) }
  | note {event : Event} {n : Nat} {todo : List Nat} {s : Subscription} (phase : bus.phase = .publishing event todo)
    (waits : n ∈ todo) (here : bus.subscriptions[n]? = some s) (newer : s.revision < event.revision) :
    Taken bus (.visit n) { bus with
      subscriptions := bus.subscriptions.set n { s with revision := event.revision }
      phase := .offering event n (todo.erase n) }
  | sent {op : Op} {event : Event} {n : Nat} {todo : List Nat} {s : Subscription} {c : Channel Event}
    (phase : bus.phase = .offering event n todo ∨ bus.phase = .sending event n todo)
    (here : bus.subscriptions[n]? = some s) (sent : s.channel.send event = .sent c) :
    Taken bus op { bus.withChannel n s c with phase := .publishing event todo }
  | full {event : Event} {n : Nat} {todo : List Nat} {s : Subscription} (phase : bus.phase = .offering event n todo)
    (here : bus.subscriptions[n]? = some s) (full : s.channel.send event = .blocked) :
    Taken bus .offer { bus with phase := .draining event n todo }
  | panic {op : Op} {event : Event} {n : Nat} {todo : List Nat} {s : Subscription}
    (phase : bus.phase = .offering event n todo ∨ bus.phase = .sending event n todo)
    (here : bus.subscriptions[n]? = some s) (panics : s.channel.send event = .panics) :
    Taken bus op { bus with phase := .panicked }
  | drain {event e : Event} {n : Nat} {todo : List Nat} {s : Subscription} {c : Channel Event}
    (phase : bus.phase = .draining event n todo) (here : bus.subscriptions[n]? = some s)
    (taken : s.channel.receive = some (e, c)) :
    Taken bus .drain { bus.withChannel n s c with phase := .sending event n todo }
  | empty {event : Event} {n : Nat} {todo : List Nat} {s : Subscription} (phase : bus.phase = .draining event n todo)
    (here : bus.subscriptions[n]? = some s) (nothing : s.channel.receive = none) :
    Taken bus .drain { bus with phase := .sending event n todo }
  | close (idle : bus.phase = .idle) : Taken bus .close bus.startClose
  | shut {todo : List String} {id : String} (phase : bus.phase = .closing todo) (waits : id ∈ todo) :
    Taken bus (.shut id) ({ bus with phase := .closing (todo.erase id) }.remove id)
  | unlock (last : (∃ event, bus.phase = .publishing event []) ∨ bus.phase = .closing []) :
    Taken bus .unlock { bus with phase := .idle }
  | receive {n : Nat} {s : Subscription} {e : Event} {c : Channel Event} (here : bus.subscriptions[n]? = some s)
    (taken : s.channel.receive = some (e, c)) :
    Taken bus (.receive n) { bus with
      subscriptions := bus.subscriptions.set n { s with channel := c, received := s.received ++ [e] } }

theorem step_taken {bus bus' : EventBus} {op : Op} (step : bus.step op = some bus') : Taken bus op bus' := by
  cases op with
  | subscribe limit revision id =>
    obtain ⟨idle, rfl⟩ := Option.guarded step
    exact .subscribe idle limit revision id
  | unsubscribe id =>
    obtain ⟨idle, rfl⟩ := Option.guarded step
    exact .unsubscribe idle id
  | publish event =>
    obtain ⟨idle, rfl⟩ := Option.guarded step
    exact .publish idle event
  | close =>
    obtain ⟨idle, rfl⟩ := Option.guarded step
    exact .close idle
  | visit n =>
    simp only [EventBus.step, startVisit] at step
    split at step
    · rename_i event todo phase
      split_ifs at step with waits
      split at step
      · cases step
      rename_i s here
      split_ifs at step with old <;> cases step
      · exact .pass phase waits here old
      · exact .note phase waits here (not_le.mp old)
    · cases step
  | offer =>
    simp only [EventBus.step, EventBus.offer] at step
    split at step
    · rename_i phase
      split at step
      · cases step
      rename_i here
      split at step <;> cases step
      · exact .sent (.inl phase) here (by assumption)
      · exact .full phase here (by assumption)
      · exact .panic (.inl phase) here (by assumption)
    · cases step
  | send =>
    simp only [EventBus.step, sendNow] at step
    split at step
    · rename_i phase
      split at step
      · cases step
      rename_i here
      split at step <;> cases step
      · exact .sent (.inr phase) here (by assumption)
      · exact .panic (.inr phase) here (by assumption)
    · cases step
  | drain =>
    simp only [EventBus.step, EventBus.drain] at step
    split at step
    · rename_i phase
      split at step
      · cases step
      rename_i here
      split at step <;> cases step
      · exact .drain phase here (by assumption)
      · exact .empty phase here (by assumption)
    · cases step
  | shut id =>
    simp only [EventBus.step] at step
    split at step
    · rename_i todo phase
      obtain ⟨waits, rfl⟩ := Option.guarded step
      exact .shut phase waits
    · cases step
  | unlock =>
    simp only [EventBus.step] at step
    split at step <;> cases step
    · exact .unlock (.inl ⟨_, by assumption⟩)
    · exact .unlock (.inr (by assumption))
  | receive n =>
    simp only [EventBus.step, EventBus.receive] at step
    split at step
    · cases step
    rename_i s here
    split at step <;> cases step
    exact .receive here (by assumption)


/-! What every subscription satisfies. -/

namespace Subscription

def seen (s : Subscription) : List Event := s.received ++ s.channel.buffer

structure Sound (s : Subscription) : Prop where
  capacity : s.channel.capacity = 1
  few : s.channel.buffer.length ≤ 1
  ordered : s.seen.Pairwise (fun a b => a.revision < b.revision)
  above : ∀ e ∈ s.seen, s.after < e.revision
  known : ∀ e ∈ s.seen, e.revision ≤ s.revision
  start : s.after ≤ s.revision

/-- The consumer has, or finds in its mailbox, the revision noted for it. -/
def Settled (s : Subscription) : Prop := s.revision = s.after ∨ ∃ e ∈ s.seen, e.revision = s.revision

structure Busy (event : Event) (s : Subscription) : Prop where
  revision : s.revision = event.revision
  after : s.after < event.revision
  older : ∀ e ∈ s.seen, e.revision < event.revision

variable {s : Subscription} {c : Channel Event} {event : Event}
variable {e : Event}

theorem Sound.received (sound : s.Sound) (taken : s.channel.receive = some (e, c)) :
    ({ s with channel := c, received := s.received ++ [e] } : Subscription).seen = s.seen ∧
      ({ s with channel := c, received := s.received ++ [e] } : Subscription).Sound := by
  obtain ⟨full, rest⟩ := Channel.receive_some taken
  have same : ({ s with channel := c, received := s.received ++ [e] } : Subscription).seen = s.seen := by
    simp [seen, full]
  refine ⟨same, ⟨?_, ?_, ?_, ?_, ?_, sound.start⟩⟩
  · rw [rest]
    exact sound.capacity
  · have few := sound.few
    rw [full] at few
    exact Nat.le_of_succ_le few
  · rw [same]
    exact sound.ordered
  · rw [same]
    exact sound.above
  · rw [same]
    exact sound.known

theorem Busy.sent (busy : Busy event s) (sound : s.Sound) (empty : s.channel.buffer = []) :
    ({ s with channel := { s.channel with buffer := s.channel.buffer ++ [event] } } : Subscription).Sound ∧
      ({ s with channel := { s.channel with buffer := s.channel.buffer ++ [event] } } : Subscription).Settled := by
  have more : ({ s with channel := { s.channel with buffer := s.channel.buffer ++ [event] } } : Subscription).seen =
      s.seen ++ [event] := by
    simp [seen]
  refine ⟨⟨sound.capacity, ?_, ?_, ?_, ?_, sound.start⟩, ?_⟩
  · simp [empty]
  · rw [more]
    apply List.pairwise_append.mpr
    exact ⟨sound.ordered, List.pairwise_singleton _ _, by simpa using busy.older⟩
  · rw [more]
    intro e member
    rcases List.mem_append.mp member with old | new
    · exact sound.above e old
    · rw [List.mem_singleton.mp new]
      exact busy.after
  · rw [more]
    intro e member
    rcases List.mem_append.mp member with old | new
    · exact sound.known e old
    · rw [List.mem_singleton.mp new]
      exact Nat.le_of_eq busy.revision.symm
  · right
    rw [more]
    exact ⟨event, by simp, busy.revision.symm⟩

theorem Busy.drained (busy : Busy event s) (sound : s.Sound) (taken : s.channel.receive = some (e, c)) :
    ({ s with channel := c } : Subscription).Sound ∧ Busy event { s with channel := c } ∧ c.buffer = [] := by
  obtain ⟨full, rest⟩ := Channel.receive_some taken
  have empty : c.buffer = [] := by
    have few := sound.few
    rw [full, List.length_cons] at few
    exact List.length_eq_zero_iff.mp (by omega)
  have fewer : ({ s with channel := c } : Subscription).seen.Sublist s.seen := by
    simp only [seen, full, empty]
    exact (List.Sublist.refl _).append (List.nil_sublist _)
  refine ⟨⟨?_, ?_, sound.ordered.sublist fewer, ?_, ?_, sound.start⟩, ⟨busy.revision, busy.after, ?_⟩, empty⟩
  · rw [rest]
    exact sound.capacity
  · simp [empty]
  · exact fun e member => sound.above e (fewer.subset member)
  · exact fun e member => sound.known e (fewer.subset member)
  · exact fun e member => busy.older e (fewer.subset member)

theorem Sound.noted (sound : s.Sound) (newer : s.revision < event.revision) :
    ({ s with revision := event.revision } : Subscription).Sound ∧ Busy event { s with revision := event.revision } := by
  have older : ∀ e ∈ s.seen, e.revision < event.revision := fun e member => lt_of_le_of_lt (sound.known e member) newer
  have after : s.after < event.revision := lt_of_le_of_lt sound.start newer
  exact ⟨⟨sound.capacity, sound.few, sound.ordered, sound.above, fun e member => Nat.le_of_lt (older e member),
    Nat.le_of_lt after⟩, ⟨rfl, after, older⟩⟩

end Subscription

/-! What the bus satisfies between any two steps. -/

namespace Phase

def current : Phase → Option Nat
  | .offering _ n _ | .draining _ n _ | .sending _ n _ => some n
  | _ => none

def todo : Phase → List Nat
  | .publishing _ todo | .offering _ _ todo | .draining _ _ todo | .sending _ _ todo => todo
  | _ => []

def event : Phase → Option Event
  | .publishing e _ | .offering e _ _ | .draining e _ _ | .sending e _ _ => some e
  | _ => none

end Phase

structure Sound (bus : EventBus) : Prop where
  calm : bus.phase ≠ .panicked
  each : ∀ (n : Nat) (s : Subscription), bus.subscriptions[n]? = some s → s.Sound
  settled : ∀ (n : Nat) (s : Subscription), bus.subscriptions[n]? = some s → bus.phase.current ≠ some n → s.Settled
  busy : ∀ (n : Nat) (s : Subscription) (e : Event), bus.subscriptions[n]? = some s → bus.phase.current = some n →
    bus.phase.event = some e → Subscription.Busy e s
  emptied : ∀ (n : Nat) (s : Subscription) (e : Event) (todo : List Nat), bus.subscriptions[n]? = some s →
    bus.phase = .sending e n todo → s.channel.buffer = []
  attached : ∀ id n, bus.subscribers.lookup id = some n →
    ∃ s, bus.subscriptions[n]? = some s ∧ s.channel.closed = false
  apart : ∀ id id' n, bus.subscribers.lookup id = some n → bus.subscribers.lookup id' = some n → id = id'
  at_work : ∀ n, bus.phase.current = some n ∨ n ∈ bus.phase.todo → ∃ id, bus.subscribers.lookup id = some n
  news : ∀ (id : String) (n : Nat) (s : Subscription), bus.subscribers.lookup id = some n →
    bus.subscriptions[n]? = some s → n ∉ bus.phase.todo → bus.latest.revision ≤ s.revision
  event : ∀ e, bus.phase.event = some e → e = bus.latest ∧ bus.closed = false
  shut : bus.closed = true → ∀ id n, bus.subscribers.lookup id = some n → ∃ todo, bus.phase = .closing todo ∧ id ∈ todo

namespace Sound

variable {bus bus' : EventBus} {n : Nat} {s s' : Subscription}

theorem new : EventBus.new.Sound where
  calm := nofun
  each := by simp [EventBus.new]
  settled := by simp [EventBus.new]
  busy := by simp [EventBus.new]
  emptied := by simp [EventBus.new]
  attached := by simp [EventBus.new]
  apart := by simp [EventBus.new]
  at_work := by simp [EventBus.new, Phase.current, Phase.todo]
  news := by simp [EventBus.new]
  event := by simp [EventBus.new, Phase.event]
  shut := by simp [EventBus.new]

variable {id : String} {todo : List Nat}

theorem opened_of_attached (sound : bus.Sound) (here : bus.subscriptions[n]? = some s)
    (known : bus.subscribers.lookup id = some n) : s.channel.closed = false := by
  obtain ⟨s', there, opened⟩ := sound.attached id n known
  rw [here] at there
  cases there
  exact opened

theorem receive (sound : bus.Sound) (here : bus.subscriptions[n]? = some s) {e : Event} {c : Channel Event}
    (taken : s.channel.receive = some (e, c)) :
    Sound { bus with
      subscriptions := bus.subscriptions.set n { s with channel := c, received := s.received ++ [e] } } := by
  obtain ⟨same, good⟩ := (sound.each n s here).received taken
  obtain ⟨full, rest⟩ := Channel.receive_some taken
  have old : ∀ (k : Nat) (t : Subscription),
      (bus.subscriptions.set n { s with channel := c, received := s.received ++ [e] })[k]? = some t →
      ∃ u : Subscription, bus.subscriptions[k]? = some u ∧ t.Sound ∧ t.seen = u.seen ∧ t.revision = u.revision ∧
        t.after = u.after ∧ t.channel.closed = u.channel.closed ∧ (u.channel.buffer = [] → t.channel.buffer = []) := by
    intro k t there
    rcases Objects.getElem?_set_some there with ⟨rfl, rfl⟩ | ⟨_, before⟩
    · refine ⟨s, here, good, same, rfl, rfl, ?_, ?_⟩
      · rw [rest]
      · rw [full]
        exact nofun
    · exact ⟨t, before, sound.each k t before, rfl, rfl, rfl, rfl, id⟩
  constructor
  · exact sound.calm
  · intro k t there
    obtain ⟨_, _, good, _⟩ := old k t there
    exact good
  · intro k t there other
    obtain ⟨u, before, _, seen, revision, after, _⟩ := old k t there
    have settled := sound.settled k u before other
    rwa [Subscription.Settled, seen, revision, after]
  · intro k t event there current held
    obtain ⟨u, before, _, seen, revision, after, _⟩ := old k t there
    have busy := sound.busy k u event before current held
    exact ⟨revision.trans busy.revision, after ▸ busy.after, by rw [seen]; exact busy.older⟩
  · intro k t event todo there phase
    obtain ⟨u, before, _, _, _, _, _, empty⟩ := old k t there
    exact empty (sound.emptied k u event todo before phase)
  · intro id k known
    obtain ⟨u, before, opened⟩ := sound.attached id k known
    by_cases this : k = n
    · subst this
      rw [here] at before
      cases before
      refine ⟨_, List.getElem?_set_self (List.getElem?_eq_some_iff.mp here).1, ?_⟩
      rw [rest]
      exact opened
    · exact ⟨u, by rw [List.getElem?_set_ne (Ne.symm this), before], opened⟩
  · exact sound.apart
  · exact sound.at_work
  · intro id k t known there late
    obtain ⟨u, before, _, _, revision, _⟩ := old k t there
    rw [revision]
    exact sound.news id k u known before late
  · exact sound.event
  · exact sound.shut

variable {phase : Phase} {event : Event}

section

variable (sound : bus.Sound)

include sound

theorem publish_step (here : bus.subscriptions[n]? = some s) (held : bus.phase.event = some event)
    (current : bus.phase.current = none ∨ bus.phase.current = some n) (known : bus.subscribers.lookup id = some n)
    (good : s'.Sound) (revision : s.revision ≤ s'.revision) (closed : s'.channel.closed = s.channel.closed)
    (held' : phase.event = some event) (fewer : ∀ k ∈ phase.todo, k ∈ bus.phase.todo)
    (left : ∀ k ≠ n, k ∈ bus.phase.todo → k ∈ phase.todo)
    (after : (phase.current = none ∧ s'.Settled) ∨ (phase.current = some n ∧ Subscription.Busy event s'))
    (late : n ∉ phase.todo → event.revision ≤ s'.revision)
    (emptied : ∀ e k todo, phase = .sending e k todo → s'.channel.buffer = []) :
    Sound { bus with subscriptions := bus.subscriptions.set n s', phase := phase } := by
  obtain ⟨latest, opened⟩ := sound.event event held
  have others : ∀ k, k ≠ n → bus.phase.current ≠ some k := by
    intro k other same
    rcases current with none | this
    · rw [none] at same
      cases same
    · rw [this] at same
      cases same
      exact other rfl
  constructor
  · intro panicked
    rw [show phase = .panicked from panicked] at held'
    cases held'
  · intro k t there
    rcases Objects.getElem?_set_some there with ⟨rfl, rfl⟩ | ⟨_, before⟩
    · exact good
    · exact sound.each k t before
  · intro k t there other
    rcases Objects.getElem?_set_some there with ⟨rfl, rfl⟩ | ⟨different, before⟩
    · rcases after with ⟨_, settled⟩ | ⟨at_n, _⟩
      · exact settled
      · exact absurd at_n other
    · exact sound.settled k t before (others k different)
  · intro k t e there at_k same
    rcases after with ⟨nowhere, _⟩ | ⟨at_n, busy⟩
    · rw [show phase.current = some k from at_k] at nowhere
      cases nowhere
    · rw [show phase.current = some k from at_k] at at_n
      cases at_n
      rw [show phase.event = some e from same] at held'
      cases held'
      rcases Objects.getElem?_set_some there with ⟨_, rfl⟩ | ⟨different, _⟩
      · exact busy
      · exact absurd rfl different
  · intro k t e todo there sending
    have at_k : phase.current = some k := by rw [show phase = .sending e k todo from sending]; rfl
    rcases Objects.getElem?_set_some there with ⟨_, rfl⟩ | ⟨different, _⟩
    · exact emptied e k todo sending
    · rcases after with ⟨nowhere, _⟩ | ⟨at_n, _⟩
      · rw [at_k] at nowhere
        cases nowhere
      · rw [at_k] at at_n
        cases at_n
        exact absurd rfl different
  · intro id' k known'
    obtain ⟨u, before, opened⟩ := sound.attached id' k known'
    by_cases this : k = n
    · subst this
      rw [here] at before
      cases before
      exact ⟨s', List.getElem?_set_self (List.getElem?_eq_some_iff.mp here).1, closed.trans opened⟩
    · exact ⟨u, by rw [List.getElem?_set_ne (Ne.symm this), before], opened⟩
  · exact sound.apart
  · rintro k (at_k | waits)
    · rcases after with ⟨nowhere, _⟩ | ⟨at_n, _⟩
      · rw [show phase.current = some k from at_k] at nowhere
        cases nowhere
      · rw [show phase.current = some k from at_k] at at_n
        cases at_n
        exact ⟨id, known⟩
    · exact sound.at_work k (.inr (fewer k waits))
  · intro id' k t known' there gone
    rcases Objects.getElem?_set_some there with ⟨rfl, rfl⟩ | ⟨different, before⟩
    · rw [← latest]
      exact late gone
    · exact sound.news id' k t known' before (fun waits => gone (left k different waits))
  · intro e same
    rw [show phase.event = some e from same] at held'
    cases held'
    exact ⟨latest, opened⟩
  · intro shut
    rw [show bus.closed = true from shut] at opened
    cases opened

omit sound in
theorem unreplaced (here : bus.subscriptions[n]? = some s)
    (sound : Sound { bus with subscriptions := bus.subscriptions.set n s, phase := phase }) :
    Sound { bus with phase := phase } := by
  rwa [Objects.set_same here] at sound

theorem visit (here : bus.subscriptions[n]? = some s) (was : bus.phase = .publishing event todo) (waits : n ∈ todo)
    (good : s'.Sound) (revision : s.revision ≤ s'.revision) (closed : s'.channel.closed = s.channel.closed)
    (held : phase.event = some event) (left : phase.todo = todo.erase n)
    (after : (phase.current = none ∧ s'.Settled) ∨ (phase.current = some n ∧ Subscription.Busy event s'))
    (late : event.revision ≤ s'.revision) (emptied : ∀ e k todo, phase = .sending e k todo → s'.channel.buffer = []) :
    Sound { bus with subscriptions := bus.subscriptions.set n s', phase := phase } := by
  obtain ⟨id, known⟩ := sound.at_work n (.inr (by rw [was]; exact waits))
  apply sound.publish_step here (by rw [was]; rfl) (.inl (by rw [was]; rfl)) known good revision closed held _ _ after
    (fun _ => late) emptied
  · rw [left, was]
    exact fun k member => List.mem_of_mem_erase member
  · rw [left, was]
    exact fun k other member => (List.mem_erase_of_ne other).mpr member

theorem advance (here : bus.subscriptions[n]? = some s)
    (works : bus.phase.event = some event ∧ bus.phase.current = some n ∧ bus.phase.todo = phase.todo) (good : s'.Sound)
    (revision : s'.revision = s.revision) (closed : s'.channel.closed = s.channel.closed)
    (held' : phase.event = some event)
    (after : (phase.current = none ∧ s'.Settled) ∨ (phase.current = some n ∧ Subscription.Busy event s'))
    (emptied : ∀ e k todo, phase = .sending e k todo → s'.channel.buffer = []) :
    Sound { bus with subscriptions := bus.subscriptions.set n s', phase := phase } := by
  obtain ⟨held, current, todo⟩ := works
  obtain ⟨id, known⟩ := sound.at_work n (.inl current)
  have noted := (sound.busy n s event here current held).revision
  apply sound.publish_step here held (.inr current) known good (Nat.le_of_eq revision.symm) closed held' _ _ after
    (fun _ => by rw [revision, noted]) emptied
  · intro k waits
    rwa [todo]
  · intro k _ waits
    rwa [← todo]

theorem unlock (last : (∃ event, bus.phase = .publishing event []) ∨ bus.phase = .closing []) :
    Sound { bus with phase := .idle } := by
  have current : bus.phase.current = none := by rcases last with ⟨_, phase⟩ | phase <;> rw [phase] <;> rfl
  have todo : bus.phase.todo = [] := by rcases last with ⟨_, phase⟩ | phase <;> rw [phase] <;> rfl
  constructor
  · exact nofun
  · exact sound.each
  · intro k t there _
    exact sound.settled k t there (by rw [current]; exact nofun)
  · exact nofun
  · exact nofun
  · exact sound.attached
  · exact sound.apart
  · rintro k (working | waits)
    · cases working
    · cases waits
  · intro id k t known there _
    exact sound.news id k t known there (by rw [todo]; exact nofun)
  · exact nofun
  · intro closed id k known
    obtain ⟨left, phase, member⟩ := sound.shut closed id k known
    rcases last with ⟨_, same⟩ | same
    · rw [phase] at same
      cases same
    · rw [phase] at same
      cases same
      cases member

theorem publish (idle : bus.phase = .idle) (event : Event) : (bus.startPublish event).Sound := by
  unfold EventBus.startPublish
  split_ifs with refused
  · exact sound
  have current : bus.phase.current = none := by rw [idle]; rfl
  push Not at refused
  have place : ∀ id k, bus.subscribers.lookup id = some k → k ∈ bus.places := by
    intro id k known
    exact List.mem_map.mpr ⟨⟨id, k⟩, Table.mem_entries_iff.mpr known, rfl⟩
  constructor
  · exact nofun
  · exact sound.each
  · intro k t there _
    exact sound.settled k t there (by rw [current]; exact nofun)
  · exact nofun
  · exact nofun
  · exact sound.attached
  · exact sound.apart
  · rintro k (working | waits)
    · cases working
    · obtain ⟨⟨id, k'⟩, member, rfl⟩ := List.mem_map.mp waits
      exact ⟨id, Table.mem_entries_iff.mp member⟩
  · intro id k t known there late
    exact absurd (place id k known) late
  · intro e same
    cases same
    exact ⟨rfl, by simpa using refused.1⟩
  · intro closed
    exact absurd closed (by simpa using refused.1)

theorem close (idle : bus.phase = .idle) : bus.startClose.Sound := by
  unfold EventBus.startClose
  split_ifs with before
  · exact sound
  have current : bus.phase.current = none := by rw [idle]; rfl
  have todo : bus.phase.todo = [] := by rw [idle]; rfl
  constructor
  · exact nofun
  · exact sound.each
  · intro k t there _
    exact sound.settled k t there (by rw [current]; exact nofun)
  · exact nofun
  · exact nofun
  · exact sound.attached
  · exact sound.apart
  · rintro k (working | waits)
    · cases working
    · cases waits
  · intro id k t known there _
    exact sound.news id k t known there (by rw [todo]; exact nofun)
  · exact nofun
  · intro _ id k known
    exact ⟨bus.subscribers.keys, rfl, AList.mem_keys.mp (Table.mem_iff_lookup.mpr ⟨k, known⟩)⟩

theorem remove (quiet : bus.phase = .idle ∨ ∃ todo, bus.phase = .closing todo)
    (quiet' : phase = .idle ∨ ∃ todo, phase = .closing todo)
    (shut : bus.closed = true → ∀ id' ≠ id, ∀ n, bus.subscribers.lookup id' = some n →
      ∃ todo, phase = .closing todo ∧ id' ∈ todo) :
    ({ bus with phase := phase }.remove id).Sound := by
  have silent {p : Phase} (q : p = .idle ∨ ∃ todo, p = .closing todo) :
      p ≠ .panicked ∧ p.current = none ∧ p.todo = [] ∧ p.event = none ∧ ∀ e n todo, p ≠ .sending e n todo := by
    rcases q with rfl | ⟨todo, rfl⟩ <;> exact ⟨nofun, rfl, rfl, rfl, nofun⟩
  obtain ⟨_, current, todo, _, _⟩ := silent quiet
  obtain ⟨calm', current', todo', event', sending'⟩ := silent quiet'
  have settled (k : Nat) (t : Subscription) (there : bus.subscriptions[k]? = some t) : t.Settled :=
    sound.settled k t there (by rw [current]; exact nofun)
  have news (id' : String) (k : Nat) (t : Subscription) (known : bus.subscribers.lookup id' = some k)
      (there : bus.subscriptions[k]? = some t) : bus.latest.revision ≤ t.revision :=
    sound.news id' k t known there (by rw [todo]; exact nofun)
  have idle (k : Nat) (works : phase.current = some k ∨ k ∈ phase.todo) : False := by
    rw [current', todo'] at works
    rcases works with impossible | impossible <;> cases impossible
  cases known : bus.subscribers.lookup id with
  | none =>
    have same : ({ bus with phase := phase } : EventBus).remove id = { bus with phase := phase } := by
      simp only [EventBus.remove, known]
    rw [same]
    constructor
    · exact calm'
    · exact sound.each
    · exact fun k t there _ => settled k t there
    · exact fun k t e there works => (idle k (.inl works)).elim
    · exact fun k t e todo there sends => absurd sends (sending' e k todo)
    · exact sound.attached
    · exact sound.apart
    · exact fun k works => (idle k works).elim
    · exact fun id' k t there here _ => news id' k t there here
    · exact fun e held => absurd held (by rw [event']; exact nofun)
    · intro closed id' k there
      exact shut closed id' (fun same => by rw [same, known] at there; cases there) k there
  | some n =>
    obtain ⟨s, here, opened⟩ := sound.attached id n known
    have same : ({ bus with phase := phase } : EventBus).remove id =
        { bus with
          subscriptions := bus.subscriptions.set n { s with channel := { s.channel with closed := true } }
          phase := phase
          subscribers := bus.subscribers.erase id } := by
      simp only [EventBus.remove, known, here, Channel.close_open opened, EventBus.withChannel]
    rw [same]
    have old (k : Nat) (t : Subscription)
        (there : (bus.subscriptions.set n { s with channel := { s.channel with closed := true } })[k]? = some t) :
        ∃ u : Subscription, bus.subscriptions[k]? = some u ∧ t.Sound ∧ t.Settled ∧ t.revision = u.revision := by
      rcases Objects.getElem?_set_some there with ⟨rfl, rfl⟩ | ⟨_, before⟩
      · have good := sound.each k s here
        exact ⟨s, here, ⟨good.capacity, good.few, good.ordered, good.above, good.known, good.start⟩,
          settled k s here, rfl⟩
      · exact ⟨t, before, sound.each k t before, settled k t before, rfl⟩
    constructor
    · exact calm'
    · intro k t there
      obtain ⟨_, _, good, _⟩ := old k t there
      exact good
    · intro k t there _
      obtain ⟨_, _, _, calm, _⟩ := old k t there
      exact calm
    · exact fun k t e there works => (idle k (.inl works)).elim
    · exact fun k t e todo there sends => absurd sends (sending' e k todo)
    · intro id' k there
      obtain ⟨other, kept⟩ := Table.lookup_erase_some.mp there
      obtain ⟨u, before, opened⟩ := sound.attached id' k kept
      have different : k ≠ n := by
        intro same
        exact other (sound.apart id' id n (same ▸ kept) known)
      exact ⟨u, by rw [List.getElem?_set_ne (Ne.symm different), before], opened⟩
    · intro id' id'' k there also
      exact sound.apart id' id'' k (Table.lookup_erase_some.mp there).2 (Table.lookup_erase_some.mp also).2
    · exact fun k works => (idle k works).elim
    · intro id' k t there place _
      obtain ⟨u, before, _, _, revision⟩ := old k t place
      rw [revision]
      exact news id' k u (Table.lookup_erase_some.mp there).2 before
    · exact fun e held => absurd held (by rw [event']; exact nofun)
    · intro closed id' k there
      obtain ⟨other, there⟩ := Table.lookup_erase_some.mp there
      exact shut closed id' other k there

omit sound in
theorem start (bus : EventBus) (revision : Nat) :
    ∃ s : Subscription, bus.start revision = some s ∧ s.Sound ∧ s.Settled ∧ s.after = revision ∧
      s.channel.closed = false ∧ bus.latest.revision ≤ s.revision := by
  unfold EventBus.start
  split_ifs with news
  · refine ⟨_, rfl, ⟨rfl, by simp [Channel.make], ?_, ?_, ?_, Nat.le_of_lt news⟩, ?_, rfl, rfl, Nat.le_refl _⟩
    · exact List.pairwise_singleton _ _
    · simpa [Subscription.seen, Channel.make] using news
    · simp [Subscription.seen, Channel.make]
    · exact .inr ⟨bus.latest, by simp [Subscription.seen, Channel.make], rfl⟩
  · exact ⟨_, rfl, ⟨rfl, by simp [Channel.make], by simp [Subscription.seen, Channel.make],
      by simp [Subscription.seen, Channel.make], by simp [Subscription.seen, Channel.make], Nat.le_refl _⟩, .inl rfl, rfl,
      rfl, not_lt.mp news⟩

theorem subscribe (idle : bus.phase = .idle) (limit : Int) (revision : Nat) (id : Option String) :
    (bus.subscribeAfter limit revision id).1.Sound := by
  unfold EventBus.subscribeAfter
  split_ifs with refused
  · exact sound
  push Not at refused
  match id with
  | none => exact sound
  | some id =>
    obtain ⟨s, started, good, settled, _, opened, latest⟩ := start bus revision
    simp only [started]
    have current : bus.phase.current = none := by rw [idle]; rfl
    have place (id' : String) (k : Nat) (there : bus.subscribers.lookup id' = some k) : k < bus.subscriptions.length := by
      obtain ⟨u, before, _⟩ := sound.attached id' k there
      exact (List.getElem?_eq_some_iff.mp before).1
    constructor
    · exact sound.calm
    · intro k t there
      rcases Objects.getElem?_snoc_some there with ⟨_, rfl⟩ | ⟨_, before⟩
      · exact good
      · exact sound.each k t before
    · intro k t there _
      rcases Objects.getElem?_snoc_some there with ⟨_, rfl⟩ | ⟨_, before⟩
      · exact settled
      · exact sound.settled k t before (by rw [current]; exact nofun)
    · intro k t e there works
      rw [show bus.phase.current = some k from works] at current
      cases current
    · intro k t e todo there sends
      rw [show bus.phase = _ from sends] at idle
      cases idle
    · intro id' k there
      rcases Table.lookup_insert_some.mp there with ⟨rfl, rfl⟩ | ⟨_, before⟩
      · exact ⟨s, by simp, opened⟩
      · obtain ⟨u, old, closed⟩ := sound.attached id' k before
        exact ⟨u, Objects.getElem?_snoc_of_some old, closed⟩
    · intro id' id'' k there also
      rcases Table.lookup_insert_some.mp there with ⟨rfl, rfl⟩ | ⟨_, before⟩
      · rcases Table.lookup_insert_some.mp also with ⟨rfl, _⟩ | ⟨_, other⟩
        · rfl
        · exact absurd (place id'' _ other) (Nat.lt_irrefl _)
      · rcases Table.lookup_insert_some.mp also with ⟨rfl, rfl⟩ | ⟨_, other⟩
        · exact absurd (place id' _ before) (Nat.lt_irrefl _)
        · exact sound.apart id' id'' k before other
    · intro k works
      rw [idle] at works
      rcases works with impossible | impossible <;> cases impossible
    · intro id' k t there here late
      rcases Objects.getElem?_snoc_some here with ⟨_, rfl⟩ | ⟨inside, before⟩
      · exact latest
      · rcases Table.lookup_insert_some.mp there with ⟨_, rfl⟩ | ⟨_, old⟩
        · exact absurd inside (Nat.lt_irrefl _)
        · exact sound.news id' k t old before late
    · exact sound.event
    · intro closed
      exact absurd closed (by simpa using refused.1)

theorem step {op : Op} (step : bus.step op = some bus') : bus'.Sound := by
  cases step_taken step with
  | subscribe idle limit revision id => exact sound.subscribe idle limit revision id
  | unsubscribe idle id =>
    have done : ({ bus with phase := .idle }.remove id).Sound := by
      apply sound.remove (.inl idle) (.inl rfl)
      intro closed id' _ n known
      obtain ⟨todo, phase, _⟩ := sound.shut closed id' n known
      rw [idle] at phase
      cases phase
    rwa [show ({ bus with phase := .idle } : EventBus) = bus by rw [← idle]] at done
  | publish idle event => exact sound.publish idle event
  | pass phase waits here old =>
    have settled := sound.settled _ _ here (by rw [phase]; exact nofun)
    exact .unreplaced here (sound.visit here phase waits (sound.each _ _ here) (Nat.le_refl _) rfl rfl rfl
      (.inl ⟨rfl, settled⟩) old nofun)
  | note phase waits here newer =>
    obtain ⟨good, busy⟩ := (sound.each _ _ here).noted newer
    exact sound.visit here phase waits good (Nat.le_of_lt newer) rfl rfl rfl (.inr ⟨rfl, busy⟩) (Nat.le_refl _) nofun
  | @sent _ event n todo s _ phase here sent =>
    obtain ⟨room, rfl⟩ := Channel.send_sent sent
    have works : bus.phase.event = some event ∧ bus.phase.current = some n ∧ bus.phase.todo = todo := by
      rcases phase with phase | phase <;> rw [phase] <;> exact ⟨rfl, rfl, rfl⟩
    have good := sound.each n s here
    have empty : s.channel.buffer = [] := by
      rw [good.capacity] at room
      exact List.length_eq_zero_iff.mp (by omega)
    obtain ⟨good', settled⟩ := (sound.busy n s event here works.2.1 works.1).sent good empty
    exact sound.advance here works good' rfl rfl rfl (.inl ⟨rfl, settled⟩) nofun
  | @full event n todo s phase here _ =>
    have works : bus.phase.event = some event ∧ bus.phase.current = some n ∧ bus.phase.todo = todo := by
      rw [phase]
      exact ⟨rfl, rfl, rfl⟩
    have busy := sound.busy n s event here works.2.1 works.1
    exact .unreplaced here (sound.advance here works (sound.each n s here) rfl rfl rfl (.inr ⟨rfl, busy⟩) nofun)
  | @panic _ event n todo s phase here panics =>
    obtain ⟨id, known⟩ := sound.at_work n (.inl (by rcases phase with phase | phase <;> rw [phase] <;> rfl))
    have opened := sound.opened_of_attached here known
    rw [Channel.send_panics panics] at opened
    cases opened
  | @drain event e n todo s c phase here taken =>
    have works : bus.phase.event = some event ∧ bus.phase.current = some n ∧ bus.phase.todo = todo := by
      rw [phase]
      exact ⟨rfl, rfl, rfl⟩
    obtain ⟨good, busy, empty⟩ := (sound.busy n s event here works.2.1 works.1).drained (sound.each n s here) taken
    obtain ⟨_, same⟩ := Channel.receive_some taken
    exact sound.advance here works good rfl (by rw [same]) rfl (.inr ⟨rfl, busy⟩) (fun _ _ _ _ => empty)
  | @empty event n todo s phase here nothing =>
    have works : bus.phase.event = some event ∧ bus.phase.current = some n ∧ bus.phase.todo = todo := by
      rw [phase]
      exact ⟨rfl, rfl, rfl⟩
    have busy := sound.busy n s event here works.2.1 works.1
    exact .unreplaced here (sound.advance here works (sound.each n s here) rfl rfl rfl (.inr ⟨rfl, busy⟩)
      (fun _ _ _ _ => Channel.receive_none nothing))
  | close idle => exact sound.close idle
  | @shut todo id phase waits =>
    apply sound.remove (.inr ⟨todo, phase⟩) (.inr ⟨_, rfl⟩)
    intro closed id' other n known
    obtain ⟨todo', same, member⟩ := sound.shut closed id' n known
    rw [phase] at same
    cases same
    exact ⟨todo.erase id, rfl, (List.mem_erase_of_ne other).mpr member⟩
  | unlock last => exact sound.unlock last
  | receive here taken => exact sound.receive here taken

end

end Sound

theorem sound_of_run {h : List (Step EventBus Op)} {bus : EventBus} (run : Runs h bus) : bus.Sound :=
  Exec.invariant (fun sound step => sound.step step) .new run

end EventBus

end Relay
