import Relay.Access.EventService

/-! What a step of the service does to the buses and to the map, and that no consumer is left
waiting on a bus that nobody polls. -/
namespace Relay.EventService

def Fewer (w w' : EventService) : Prop := ∀ id c, w'.sessionBuses.lookup id = some c → w.sessionBuses.lookup id = some c

theorem fewer_of_erase {w w' : EventService} {id : String} (map : w'.sessionBuses = w.sessionBuses.erase id) :
    Fewer w w' := by
  intro id' c kept
  rw [map] at kept
  exact (Table.lookup_erase_some.mp kept).2

inductive BusEffect (w : EventService) (op : EventServiceOp) (w' : EventService) : Prop
  | kept (buses : w'.buses = w.buses) (map : Fewer w w')
  | added {id : String} (buses : w'.buses = w.buses ++ [.new])
    (map : w'.sessionBuses = w.sessionBuses.insert id w.buses.length)
  | stepped {b : Nat} {bus bus' : EventBus} {busOp : EventBus.Op} (here : w.buses[b]? = some bus)
    (step : bus.step busOp = some bus') (buses : w'.buses = w.buses.set b bus') (map : Fewer w w')
    (drawn : ∀ limit revision id, busOp = .subscribe limit revision (some id) →
      op = .attach revision (some id) ∧ ∃ session created, w.mu = .subscribing session b created)

variable {w w' : EventService} {b : Nat} {bus : EventBus}

theorem attach_effect {session : String} {created : Bool} (attaches : w.mu = .subscribing session b created)
    (here : w.buses[b]? = some bus) (idle : bus.phase = .idle) (revision : Nat) (drawn : Option String) :
    BusEffect w (.attach revision drawn) (w.attach session b created bus revision drawn) := by
  have step : bus.step (.subscribe w.limit revision drawn) = some (bus.subscribeAfter w.limit revision drawn).1 := by
    simp only [EventBus.step, idle, if_true]
  have buses : (w.attach session b created bus revision drawn).buses =
      w.buses.set b (bus.subscribeAfter w.limit revision drawn).1 := by
    unfold EventService.attach
    split <;> rename_i same
    · rw [same]
      rfl
    · rw [same]
      cases created <;> rfl
  have map : Fewer w (w.attach session b created bus revision drawn) := by
    unfold EventService.attach
    split
    · exact fun _ _ kept => kept
    · cases created
      · exact fun _ _ kept => kept
      · exact fewer_of_erase rfl
  refine .stepped here step buses map ?_
  intro limit revision' id same
  cases same
  exact ⟨rfl, session, created, attaches⟩

theorem step_buses {op : EventServiceOp} (step : w.step op = some w') : BusEffect w op w' := by
  have same : Fewer w w := fun _ _ kept => kept
  cases step_taken step with
  | find =>
    unfold EventService.find
    split
    · exact .kept rfl same
    · exact .added rfl rfl
  | attach attaches here idle => exact attach_effect attaches here idle _ _
  | launch | lock | dismiss | inspect | count | query | fail | done | tick | shutdown | sweep | closed | finish =>
    exact .kept rfl same
  | desert | swept => exact .kept rfl (fewer_of_erase rfl)
  | @publish _ _ event bus _ _ there idle =>
    have publish : bus.step (.publish event) = some (bus.startPublish event) := if_pos idle
    exact .stepped there publish rfl same (fun _ _ _ same => by cases same)
  | giveUp =>
    unfold EventService.closeEventBus
    split_ifs
    · exact .kept rfl (fewer_of_erase rfl)
    · exact .kept rfl same
  | delete =>
    unfold EventService.closeLocalEventBus
    split
    · exact .kept rfl (fewer_of_erase rfl)
    · exact .kept rfl same
  | @close _ bus _ here idle =>
    have close : bus.step .close = some bus.startClose := if_pos idle
    exact .stepped here close rfl same (fun _ _ _ same => by cases same)
  | bus here free taken =>
    refine .stepped here taken rfl same ?_
    rintro limit revision id rfl
    cases free

theorem BusEffect.length_le {op : EventServiceOp} (effect : BusEffect w op w') : w.buses.length ≤ w'.buses.length := by
  cases effect with
  | kept buses => rw [buses]
  | added buses =>
    rw [buses, List.length_append]
    omega
  | stepped here step buses => rw [buses, List.length_set]

theorem unmapped_of_run {h : List (Step EventService EventServiceOp)} (run : Exec (Machine.Moves step) w h w')
    (inside : b < w.buses.length) (unmapped : ∀ id, w.sessionBuses.lookup id ≠ some b) :
    ∀ id, w'.sessionBuses.lookup id ≠ some b := by
  have both := run.invariant (I := fun w => b < w.buses.length ∧ ∀ id, w.sessionBuses.lookup id ≠ some b) ?_
    ⟨inside, unmapped⟩
  · exact both.2
  intro t op u was step
  have effect := step_buses step
  refine ⟨Nat.lt_of_lt_of_le was.1 effect.length_le, ?_⟩
  intro id found
  cases effect with
  | kept _ map | stepped _ _ _ map => exact was.2 id (map id b found)
  | added _ map =>
    rw [map] at found
    rcases Table.lookup_insert_some.mp found with ⟨_, same⟩ | ⟨_, old⟩
    · exact Nat.ne_of_lt was.1 same.symm
    · exact was.2 id old

def Unrepeated (h : List (Step EventService EventServiceOp)) : Prop :=
  ∀ x ∈ h, ∀ revision id, x.event = .attach revision (some id) →
    ∀ (session : String) (b : Nat) (created : Bool) (bus : EventBus), x.before.mu = .subscribing session b created →
      x.before.buses[b]? = some bus → id ∉ bus.subscribers

theorem listed_of_run {limit : Int} {h : List (Step EventService EventServiceOp)} (run : Runs limit h w)
    (unrepeated : Unrepeated h) : ∀ (b : Nat) (bus : EventBus), w.buses[b]? = some bus → bus.Listed := by
  refine run.history (I := fun _ w => ∀ (b : Nat) (bus : EventBus), w.buses[b]? = some bus → bus.Listed)
    (G := Unrepeated) ?_ ?_ ?_ unrepeated
  · intro h x unrepeated y member
    exact unrepeated y (List.mem_append_left _ member)
  · exact nofun
  · intro h t op u _ unrepeated listed step b bus here
    cases step_buses step with
    | kept buses =>
      rw [buses] at here
      exact listed b bus here
    | added buses =>
      rw [buses] at here
      rcases Objects.getElem?_snoc_some here with ⟨_, rfl⟩ | ⟨_, before⟩
      · intro n opened
        simp [EventBus.flags, EventBus.new] at opened
      · exact listed b bus before
    | @stepped c x x' busOp there taken buses _ drawn =>
      rw [buses] at here
      rcases Objects.getElem?_set_some here with ⟨rfl, rfl⟩ | ⟨_, before⟩
      · refine (listed b x there).step ?_ taken
        intro limit revision id same
        obtain ⟨event, session, created, attaches⟩ := drawn limit revision id same
        exact unrepeated ⟨t, op, u⟩ (by simp) revision id event session b created x attaches there
      · exact listed b bus before

/-- Whenever the lock is not held by the call that is creating or removing the bus in question,
a bus in the map has exactly one poller and a bus out of the map is closed; none comes back
into the map. So every consumer that can still wait is on a bus in the map with a poller. -/
theorem consumers_never_orphaned {limit : Int} {h : List (Step EventService EventServiceOp)} (run : Runs limit h w) :
    (∀ id id' b, w.sessionBuses.lookup id = some b → w.sessionBuses.lookup id' = some b → id = id') ∧
    (∀ id b, w.sessionBuses.lookup id = some b → w.mu.holds ≠ some b →
      ∃ (p : Nat) (poller : Poller), w.pollers[p]? = some poller ∧ poller.bus = b ∧ poller.session = id ∧
        poller.stage ≠ .ended ∧
        ∀ (q : Nat) (other : Poller), w.pollers[q]? = some other → other.bus = b → q = p) ∧
    (∀ b bus, w.buses[b]? = some bus → (∀ id, w.sessionBuses.lookup id ≠ some b) →
      (w.mu.holds ≠ some b → bus.closed = true) ∧
      ∀ later w', Exec (Machine.Moves step) w later w' → ∀ id, w'.sessionBuses.lookup id ≠ some b) ∧
    (Unrepeated h → ∀ (b : Nat) (bus : EventBus) (n : Nat) (s : EventBus.Subscription), w.buses[b]? = some bus →
      bus.subscriptions[n]? = some s → s.channel.closed = false → w.mu.holds ≠ some b →
      (∃ id, bus.subscribers.lookup id = some n) ∧ ∃ id, w.sessionBuses.lookup id = some b ∧
        ∃ (p : Nat) (poller : Poller), w.pollers[p]? = some poller ∧ poller.bus = b ∧ poller.stage ≠ .ended) := by
  have sound := sound_of_run run
  refine ⟨sound.apart, ?_, ?_, ?_⟩
  · intro id b known away
    have inside := sound.inside id b known
    rcases sound.stands b _ (List.getElem?_eq_getElem inside) away with served | gone
    · obtain ⟨p, poller, here, same, live⟩ := served.polled
      have session := (sound.polls p poller here).2 id (by rw [same]; exact known)
      refine ⟨p, poller, here, same, session.symm, live, ?_⟩
      intro q other there bus_eq
      exact sound.single q p other poller there here (bus_eq.trans same.symm)
    · exact absurd known (gone.unmapped id)
  · intro b bus here unmapped
    constructor
    · intro away
      rcases sound.stands b bus here away with served | gone
      · obtain ⟨id, mapped⟩ := served.mapped
        exact absurd mapped (unmapped id)
      · exact gone.closed
    · intro later w' run'
      exact unmapped_of_run run' (List.getElem?_eq_some_iff.mp here).1 unmapped
  · intro unrepeated b bus n s here there opened away
    have open_flag : bus.flags[n]? = some false := by
      rw [EventBus.flags, List.getElem?_map, there, ← opened]
      rfl
    have known := listed_of_run run unrepeated b bus here n open_flag
    rcases sound.stands b bus here away with served | gone
    · obtain ⟨id, mapped⟩ := served.mapped
      exact ⟨known, id, mapped, served.polled⟩
    · obtain ⟨id, known⟩ := known
      exact absurd known (gone.empty id n)

/-! The last consumer of a bus leaves while its poller is asking for the state, another comes
and shares the bus; then the Session is deleted and a third consumer gets a bus of its own. -/
namespace Plain

def consuming : List EventServiceOp :=
  [.find "s", .attach 1 (some "a"), .launch 0, .lock 0, .inspect, .count, .bus 0 (.unsubscribe "a"),
    .find "s", .attach 1 (some "b"), .query 0 (some ⟨2, "two"⟩), .publish 0, .bus 0 (.visit 1), .bus 0 .offer,
    .bus 0 .unlock, .delete "s", .close, .bus 0 (.shut "b"), .bus 0 .unlock, .unlock, .find "s", .attach 3 (some "c")]

def consumed : EventService := Machine.final EventService.step (.new 4) consuming

theorem runs_consumed : Runs 4 (Machine.trail EventService.step (.new 4) consuming) consumed :=
  Machine.exec_of_allows (by decide +kernel)

end Plain

open Plain in
theorem consumers_never_orphaned_consumed :
    consumed.sessionBuses.lookup "s" = some 1 ∧ consumed.mu = .free ∧
    (∃ (p : Nat) (poller : Poller), consumed.pollers[p]? = some poller ∧ poller.bus = 1 ∧ poller.session = "s" ∧
      poller.stage ≠ .ended ∧
      ∀ (q : Nat) (other : Poller), consumed.pollers[q]? = some other → other.bus = 1 → q = p) := by
  have mapped : consumed.sessionBuses.lookup "s" = some 1 := by decide +kernel
  have free : consumed.mu = .free := by decide +kernel
  refine ⟨mapped, free, (consumers_never_orphaned runs_consumed).2.1 "s" 1 mapped ?_⟩
  rw [free]
  exact nofun

end Relay.EventService
