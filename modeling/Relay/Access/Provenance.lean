import Relay.Access.Consumers

/-! Where the events of a bus come from. A consumer is handed nothing but what the poller of its
bus has published, and a bus stays with the Session it was created for. -/
namespace Relay

namespace EventBus

structure Holds (Q : Event → Prop) (bus : EventBus) : Prop where
  latest : 0 < bus.latest.revision → Q bus.latest
  seen : ∀ s ∈ bus.subscriptions, ∀ e ∈ s.seen, Q e
  current : ∀ e, bus.phase.event = some e → Q e

namespace Holds

variable {Q : Event → Prop} {bus bus' : EventBus} {n : Nat} {s : Subscription} {e : Event}

theorem new : EventBus.new.Holds Q := ⟨nofun, nofun, nofun⟩

theorem mono {Q' : Event → Prop} (more : ∀ e, Q e → Q' e) (holds : bus.Holds Q) : bus.Holds Q' where
  latest some_ := more _ (holds.latest some_)
  seen s member e there := more e (holds.seen s member e there)
  current e here := more e (holds.current e here)

section

variable (holds : bus.Holds Q)

include holds

theorem replace (good : ∀ e ∈ s.seen, Q e) (latest : bus'.latest = bus.latest)
    (subscriptions : bus'.subscriptions = bus.subscriptions.set n s)
    (phase : ∀ e, bus'.phase.event = some e → bus.phase.event = some e) : bus'.Holds Q := by
  refine ⟨?_, ?_, fun e here => holds.current e (phase e here)⟩
  · rw [latest]
    exact holds.latest
  · intro s' member
    rw [subscriptions] at member
    rcases List.mem_or_eq_of_mem_set member with old | rfl
    · exact holds.seen s' old
    · exact good

theorem keep (latest : bus'.latest = bus.latest) (subscriptions : bus'.subscriptions = bus.subscriptions)
    (phase : ∀ e, bus'.phase.event = some e → bus.phase.event = some e) : bus'.Holds Q := by
  refine ⟨?_, ?_, fun e here => holds.current e (phase e here)⟩
  · rw [latest]
    exact holds.latest
  · rw [subscriptions]
    exact holds.seen

theorem rest (latest : bus'.latest = bus.latest) (subscriptions : bus'.subscriptions = bus.subscriptions)
    (quiet : bus'.phase.event = none) : bus'.Holds Q := by
  refine holds.keep latest subscriptions fun e busy => ?_
  rw [quiet] at busy
  cases busy

theorem at_place (here : bus.subscriptions[n]? = some s) : ∀ e ∈ s.seen, Q e :=
  holds.seen s (List.mem_of_getElem? here)

theorem send (good : Q e) (here : bus.subscriptions[n]? = some s) {c : Channel Event}
    (sent : s.channel.send e = .sent c) : ∀ e' ∈ ({ s with channel := c } : Subscription).seen, Q e' := by
  obtain ⟨_, rfl⟩ := Channel.send_sent sent
  intro e' member
  simp only [Subscription.seen, List.mem_append, List.mem_singleton] at member
  rcases member with received | old | rfl
  · exact holds.at_place here e' (List.mem_append_left _ received)
  · exact holds.at_place here e' (List.mem_append_right _ old)
  · exact good

theorem take (here : bus.subscriptions[n]? = some s) {c : Channel Event} (taken : s.channel.receive = some (e, c)) :
    Q e ∧ ∀ e' ∈ ({ s with channel := c } : Subscription).seen, Q e' := by
  obtain ⟨full, _⟩ := Channel.receive_some taken
  have all : ∀ e' ∈ s.received ++ e :: c.buffer, Q e' := by
    rw [← full]
    exact holds.at_place here
  constructor
  · exact all e (by simp)
  · intro e' member
    apply all
    simp only [Subscription.seen, List.mem_append] at member
    rcases member with received | later
    · exact List.mem_append_left _ received
    · exact List.mem_append_right _ (List.mem_cons_of_mem _ later)

theorem remove (name : String) : (bus.remove name).Holds Q := by
  unfold EventBus.remove
  split
  · exact holds
  split
  · exact holds
  rename_i n _ s here
  split
  · exact holds.rest rfl rfl rfl
  · rename_i c closed
    have old := holds.at_place here
    cases Channel.close_some closed
    exact holds.replace (s := { s with channel := { s.channel with closed := true } }) old rfl rfl fun _ => id

theorem subscribe (limit : Int) (revision : Nat) (id : Option String) :
    (bus.subscribeAfter limit revision id).1.Holds Q := by
  unfold EventBus.subscribeAfter
  split_ifs
  · exact holds
  split
  · exact holds
  split
  · exact holds.rest rfl rfl rfl
  rename_i s started
  refine ⟨holds.latest, ?_, holds.current⟩
  intro s' member
  rcases List.mem_append.mp member with old | newest
  · exact holds.seen s' old
  · cases List.mem_singleton.mp newest
    unfold EventBus.start at started
    split_ifs at started with news
    · split at started
      · rename_i c sent
        cases started
        obtain ⟨_, rfl⟩ := Channel.send_sent sent
        intro e there
        simp only [Subscription.seen, Channel.make, List.nil_append, List.mem_singleton] at there
        subst there
        exact holds.latest (Nat.zero_lt_of_lt news)
      · cases started
    · cases started
      exact fun _ member => absurd member List.not_mem_nil

theorem step {op : Op} (step : bus.step op = some bus') (good : ∀ e, op = .publish e → Q e) : bus'.Holds Q := by
  cases step_taken step with
  | subscribe _ limit revision id => exact holds.subscribe limit revision id
  | unsubscribe _ id => exact holds.remove id
  | publish _ event =>
    unfold EventBus.startPublish
    split_ifs
    · exact holds
    · refine ⟨fun _ => good event rfl, holds.seen, ?_⟩
      rintro e ⟨⟩
      exact good event rfl
  | pass phase | full phase | empty phase => exact holds.keep rfl rfl (by rw [phase]; exact fun _ => id)
  | @note event n todo s phase _ here =>
    have old := holds.at_place here
    exact holds.replace (s := { s with revision := event.revision }) old rfl rfl (by rw [phase]; exact fun _ => id)
  | @sent _ event n todo s c phase here sent =>
    have held : bus.phase.event = some event := by rcases phase with phase | phase <;> rw [phase] <;> rfl
    refine holds.replace (holds.send (holds.current event held) here sent) rfl rfl ?_
    rw [held]
    exact fun _ => id
  | drain phase here taken => exact holds.replace (holds.take here taken).2 rfl rfl (by rw [phase]; exact fun _ => id)
  | panic | unlock => exact holds.rest rfl rfl rfl
  | close =>
    unfold EventBus.startClose
    split_ifs
    · exact holds
    · exact holds.rest rfl rfl rfl
  | @shut todo id =>
    have closing : ({ bus with phase := .closing (todo.erase id) } : EventBus).Holds Q := holds.rest rfl rfl rfl
    exact closing.remove id
  | receive here taken =>
    obtain ⟨good, rest⟩ := holds.take here taken
    refine holds.replace ?_ rfl rfl fun _ => id
    intro e' member
    simp only [Subscription.seen, List.mem_append, List.mem_singleton] at member rest
    rcases member with (received | rfl) | later
    · exact rest e' (.inl received)
    · exact good
    · exact rest e' (.inr later)

end

end Holds

end EventBus

namespace EventService

structure Carries (Q : String → EventBus.Event → Prop) (owners : List String) (w : EventService) : Prop where
  size : owners.length = w.buses.length
  mapped : ∀ id b, w.sessionBuses.lookup id = some b → owners[b]? = some id
  polled : ∀ (p : Nat) (poller : Poller), w.pollers[p]? = some poller → owners[poller.bus]? = some poller.session ∧
    ∀ e, poller.stage = .publishing e → Q poller.session e
  held : ∀ (b : Nat) (bus : EventBus) (id : String), w.buses[b]? = some bus → owners[b]? = some id → bus.Holds (Q id)

variable {Q : String → EventBus.Event → Prop} {owners : List String} {w w' : EventService} {p b : Nat} {poller : Poller}
  {bus bus' : EventBus}

def Follows (Q : String → EventBus.Event → Prop) (w w' : EventService) : Prop :=
  ∀ (p : Nat) (poller' : Poller), w'.pollers[p]? = some poller' → ∃ poller, w.pollers[p]? = some poller ∧
    poller.bus = poller'.bus ∧ poller.session = poller'.session ∧
      ∀ e, poller'.stage = .publishing e → poller.stage = .publishing e ∨ Q poller'.session e

theorem Follows.same (pollers : w'.pollers = w.pollers) : Follows Q w w' := by
  intro p poller here
  rw [pollers] at here
  exact ⟨poller, here, rfl, rfl, fun _ => .inl⟩

theorem Follows.enter {stage : PollStage} (here : w.pollers[p]? = some poller)
    (good : ∀ e, stage = .publishing e → Q poller.session e) : Follows Q w (w.enter p poller stage) := by
  intro p' poller' there
  rcases Objects.getElem?_set_some there with ⟨rfl, rfl⟩ | ⟨_, old⟩
  · exact ⟨poller, here, rfl, rfl, fun e publishes => .inr (good e publishes)⟩
  · exact ⟨poller', old, rfl, rfl, fun _ => .inl⟩

namespace Carries

theorem new (limit : Int) : (EventService.new limit).Carries Q [] where
  size := rfl
  mapped := nofun
  polled := nofun
  held := nofun

theorem mono {Q' : String → EventBus.Event → Prop} (more : ∀ id e, Q id e → Q' id e) (carries : w.Carries Q owners) :
    w.Carries Q' owners where
  size := carries.size
  mapped := carries.mapped
  polled p poller here := by
    obtain ⟨owner, good⟩ := carries.polled p poller here
    exact ⟨owner, fun e publishes => more _ e (good e publishes)⟩
  held b bus id here owner := (carries.held b bus id here owner).mono (more id)

section

variable (carries : w.Carries Q owners)

include carries

theorem keep (buses : w'.buses = w.buses) (map : Fewer w w') (follows : Follows Q w w') : w'.Carries Q owners := by
  refine ⟨by rw [buses]; exact carries.size, fun id b kept => carries.mapped id b (map id b kept), ?_, ?_⟩
  · intro p poller' there
    obtain ⟨poller, here, bus, session, stage⟩ := follows p poller' there
    obtain ⟨owner, good⟩ := carries.polled p poller here
    refine ⟨by rw [← bus, ← session]; exact owner, ?_⟩
    intro e publishes
    rcases stage e publishes with old | new
    · rw [← session]
      exact good e old
    · exact new
  · rw [buses]
    exact carries.held

theorem relock (mu : BusSection) : { w with mu := mu }.Carries Q owners :=
  carries.keep rfl (fun _ _ kept => kept) (.same rfl)

theorem enter (here : w.pollers[p]? = some poller) {stage : PollStage}
    (good : ∀ e, stage = .publishing e → Q poller.session e) : (w.enter p poller stage).Carries Q owners :=
  carries.keep rfl (fun _ _ kept => kept) (.enter here good)

theorem setBus (here : w.buses[b]? = some bus) {op : EventBus.Op} (step : bus.step op = some bus')
    (good : ∀ id e, owners[b]? = some id → op = .publish e → Q id e) : (w.setBus b bus').Carries Q owners := by
  refine ⟨by rw [EventService.setBus, List.length_set]; exact carries.size, carries.mapped, carries.polled, ?_⟩
  intro c other id there owner
  rcases Objects.getElem?_set_some there with ⟨rfl, rfl⟩ | ⟨_, old⟩
  · exact (carries.held c bus id here owner).step step fun e publishes => good id e owner publishes
  · exact carries.held c other id old owner

theorem find (id : String) : ∃ owners', (w.find id).Carries Q owners' ∧ owners <+: owners' := by
  unfold EventService.find
  split
  · exact ⟨owners, carries.keep rfl (fun _ _ kept => kept) (.same rfl), List.prefix_refl _⟩
  · refine ⟨owners ++ [id], ⟨?_, ?_, ?_, ?_⟩, List.prefix_append _ _⟩
    · simp [carries.size]
    · intro id' b kept
      rcases Table.lookup_insert_some.mp kept with ⟨rfl, rfl⟩ | ⟨_, old⟩
      · rw [← carries.size, List.getElem?_concat_length]
      · exact Objects.getElem?_snoc_of_some (carries.mapped id' b old)
    · intro p poller there
      obtain ⟨owner, good⟩ := carries.polled p poller there
      exact ⟨Objects.getElem?_snoc_of_some owner, good⟩
    · intro b bus id' there owner
      rcases Objects.getElem?_snoc_some there with ⟨_, rfl⟩ | ⟨inside, old⟩
      · exact .new
      · rw [List.getElem?_append_left (by rw [carries.size]; exact inside)] at owner
        exact carries.held b bus id' old owner

theorem attach {id : String} (owner : owners[b]? = some id) (here : w.buses[b]? = some bus) (idle : bus.phase = .idle)
    (created : Bool) (revision : Nat) (drawn : Option String) :
    (w.attach id b created bus revision drawn).Carries Q owners := by
  have step : bus.step (.subscribe w.limit revision drawn) = some (bus.subscribeAfter w.limit revision drawn).1 := by
    simp only [EventBus.step, idle, if_true]
  have base := carries.setBus here step fun _ _ _ same => by cases same
  unfold EventService.attach
  split
  · rename_i bus' n subscribed
    rw [subscribed] at base
    refine ⟨base.size, base.mapped, ?_, base.held⟩
    intro p poller there
    cases created with
    | false => exact base.polled p poller there
    | true =>
      rcases Objects.getElem?_snoc_some there with ⟨_, rfl⟩ | ⟨_, old⟩
      · exact ⟨owner, fun _ same => by cases same⟩
      · exact base.polled p poller old
  · rename_i bus' refused
    rw [refused] at base
    cases created with
    | false => exact base.keep rfl (fun _ _ kept => kept) (.same rfl)
    | true => exact base.keep rfl (fewer_of_erase rfl) (.same rfl)

theorem step (sound : w.Sound) {op : EventServiceOp} (step : w.step op = some w')
    (good : ∀ p poller e, op = .query p (some e) → w.pollers[p]? = some poller → Q poller.session e) :
    ∃ owners', w'.Carries Q owners' ∧ owners <+: owners' := by
  have stays : w'.Carries Q owners → ∃ owners', w'.Carries Q owners' ∧ owners <+: owners' :=
    fun carries => ⟨owners, carries, List.prefix_refl _⟩
  have same : Fewer w w := fun _ _ kept => kept
  cases step_taken step with
  | find => exact carries.find _
  | attach attaches here idle =>
    have prepared := sound.prepared
    rw [attaches] at prepared
    exact stays (carries.attach (carries.mapped _ _ prepared) here idle _ _ _)
  | launch here | tick here | fail here | done here => exact stays (carries.enter here fun _ same => by cases same)
  | lock | inspect | shutdown | sweep | closed | finish => exact stays (carries.relock _)
  | dismiss _ here | count _ here =>
    exact stays (carries.keep rfl same (Follows.enter here fun _ same => by cases same))
  | desert _ here =>
    exact stays (carries.keep rfl (fewer_of_erase rfl) (Follows.enter here fun _ same => by cases same))
  | @query p poller event here =>
    refine stays (carries.enter here ?_)
    rintro e ⟨⟩
    exact good p poller event rfl here
  | @publish p poller event bus here stage there idle =>
    have publish : bus.step (.publish event) = some (bus.startPublish event) := if_pos idle
    obtain ⟨owner, ready⟩ := carries.polled p poller here
    have sent := carries.setBus there publish fun id e known same => by
      cases same
      cases owner.symm.trans known
      exact ready event stage
    exact stays (sent.enter here fun _ same => by cases same)
  | giveUp here =>
    apply stays
    unfold EventService.closeEventBus
    split_ifs
    · exact carries.keep rfl (fewer_of_erase rfl) (Follows.enter here fun _ same => by cases same)
    · exact carries.enter here fun _ same => by cases same
  | delete =>
    apply stays
    unfold EventService.closeLocalEventBus
    split
    · exact carries.keep rfl (fewer_of_erase rfl) (.same rfl)
    · exact carries
  | @close _ bus _ here idle =>
    have close : bus.step .close = some bus.startClose := if_pos idle
    exact stays ((carries.setBus here close fun _ _ _ same => by cases same).relock _)
  | swept => exact stays (carries.keep rfl (fewer_of_erase rfl) (.same rfl))
  | bus here free taken =>
    refine stays (carries.setBus here taken ?_)
    rintro id e _ rfl
    cases free

end

end Carries

end EventService

end Relay
