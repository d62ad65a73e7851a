import Relay.Access.EventBus
import Relay.Lib.Index

/-! The mailboxes of an EventBus: who is subscribed, how the holder of the lock comes to its
end, and what a consumer can rely on. -/
namespace Relay.EventBus

/-! Who is subscribed, and which channels are closed. -/

def flags (bus : EventBus) : List Bool := bus.subscriptions.map fun s => s.channel.closed

inductive Shape (bus : EventBus) (op : Op) (bus' : EventBus) : Prop
  | kept (subscribers : bus'.subscribers = bus.subscribers) (flags : bus'.flags = bus.flags)
  | joined {limit : Int} {revision : Nat} {id : String} (event : op = .subscribe limit revision (some id))
    (room : (bus.subscribers.size : Int) < limit) (opened : bus.closed = false)
    (subscribers : bus'.subscribers = bus.subscribers.insert id bus.subscriptions.length)
    (flags : bus'.flags = bus.flags ++ [false])
  | left {id : String} {n : Nat} (known : bus.subscribers.lookup id = some n)
    (subscribers : bus'.subscribers = bus.subscribers.erase id) (flags : bus'.flags = bus.flags.set n true)

variable {bus bus' : EventBus} {n : Nat} {s s' : Subscription}

theorem flags_set (here : bus.subscriptions[n]? = some s) (same : s'.channel.closed = s.channel.closed) :
    (bus.subscriptions.set n s').map (fun s => s.channel.closed) = bus.flags := by
  rw [List.map_set, same]
  apply Objects.set_same
  rw [List.getElem?_map, here]
  rfl

theorem send_closed {c c' : Channel Event} {e : Event} (sent : c.send e = .sent c') : c'.closed = c.closed := by
  rw [(Channel.send_sent sent).2]

theorem remove_shape (bus : EventBus) (op : Op) (id : String) : Shape bus op (bus.remove id) := by
  unfold EventBus.remove
  split
  · exact .kept rfl rfl
  rename_i n known
  split
  · exact .kept rfl rfl
  rename_i s here
  split
  · exact .kept rfl rfl
  rename_i c closed
  have shut : c.closed = true := by
    rw [Channel.close_some closed]
  exact .left known rfl (by rw [flags, withChannel, List.map_set, shut, flags])

theorem subscribeAfter_shape (bus : EventBus) (limit : Int) (revision : Nat) (id : Option String) :
    Shape bus (.subscribe limit revision id) (bus.subscribeAfter limit revision id).1 := by
  unfold EventBus.subscribeAfter
  split_ifs with refused
  · exact .kept rfl rfl
  push Not at refused
  match id with
  | none => exact .kept rfl rfl
  | some id =>
    obtain ⟨s, started, _, _, _, opened, _⟩ := Sound.start bus revision
    simp only [started]
    refine .joined rfl (by omega) (by simpa using refused.1) rfl ?_
    rw [flags, List.map_append, List.map_singleton, opened, flags]

theorem step_shape {op : Op} (step : bus.step op = some bus') : Shape bus op bus' := by
  cases step_taken step with
  | subscribe _ limit revision id => exact subscribeAfter_shape bus limit revision id
  | unsubscribe _ id => exact remove_shape bus _ id
  | publish =>
    unfold EventBus.startPublish
    split_ifs <;> exact .kept rfl rfl
  | close =>
    unfold EventBus.startClose
    split_ifs <;> exact .kept rfl rfl
  | pass | full | panic | empty | unlock => exact .kept rfl rfl
  | note _ _ here => exact .kept rfl (flags_set here rfl)
  | sent _ here sent => exact .kept rfl (flags_set here (send_closed sent))
  | drain _ here taken | receive here taken =>
    exact .kept rfl (flags_set here (by rw [(Channel.receive_some taken).2]))
  | @shut todo id =>
    cases remove_shape { bus with phase := .closing (todo.erase id) } (.shut id) id with
    | kept subscribers flags => exact .kept subscribers flags
    | joined event => cases event
    | left known subscribers flags => exact .left known subscribers flags

theorem subscribeAfter_closed (bus : EventBus) (limit : Int) (revision : Nat) (id : Option String) :
    (bus.subscribeAfter limit revision id).1.closed = bus.closed := by
  unfold EventBus.subscribeAfter
  split_ifs
  · rfl
  · cases id with
    | none => rfl
    | some id => cases bus.start revision <;> rfl

theorem remove_closed (bus : EventBus) (id : String) : (bus.remove id).closed = bus.closed := by
  unfold EventBus.remove
  split
  · rfl
  split
  · rfl
  split <;> rfl

theorem step_closed {op : Op} (other : op ≠ .close) (step : bus.step op = some bus') : bus'.closed = bus.closed := by
  cases step_taken step with
  | close => exact absurd rfl other
  | subscribe _ limit revision id => exact subscribeAfter_closed bus limit revision id
  | unsubscribe _ id | shut _ _ => exact remove_closed _ _
  | publish =>
    unfold EventBus.startPublish
    split_ifs <;> rfl
  | pass | note | sent | full | panic | drain | empty | unlock | receive => rfl

def Limited (limit : Nat) (h : List (Step EventBus Op)) : Prop :=
  ∀ x ∈ h, ∀ l revision id, x.event = .subscribe l revision id → l ≤ limit

theorem size_le_of_run {limit : Nat} {h : List (Step EventBus Op)} (run : Runs h bus) (limited : Limited limit h) :
    bus.subscribers.size ≤ limit := by
  refine run.history (I := fun _ bus => bus.subscribers.size ≤ limit) (G := Limited limit) ?_ ?_ ?_ limited
  · intro h x limited y member
    exact limited y (List.mem_append_left _ member)
  · exact Nat.zero_le _
  · intro h t op u _ limited few step
    cases step_shape step with
    | kept subscribers _ => rwa [subscribers]
    | @joined l revision id event room _ subscribers _ =>
      have bound := limited ⟨t, op, u⟩ (by simp) l revision id event
      have more := Table.size_insert_le t.subscribers id t.subscriptions.length
      rw [subscribers]
      omega
    | left _ subscribers _ =>
      rw [subscribers]
      refine Nat.le_trans (Table.size_le_of_mem ?_) few
      intro k member
      exact (AList.mem_erase.mp member).2

def Unrepeated (h : List (Step EventBus Op)) : Prop :=
  ∀ x ∈ h, ∀ limit revision id, x.event = .subscribe limit revision (some id) → id ∉ x.before.subscribers

def Listed (bus : EventBus) : Prop := ∀ n, bus.flags[n]? = some false → ∃ id, bus.subscribers.lookup id = some n

theorem Listed.step (listed : bus.Listed) {op : Op}
    (unused : ∀ limit revision id, op = .subscribe limit revision (some id) → id ∉ bus.subscribers)
    (step : bus.step op = some bus') : bus'.Listed := by
  intro n opened
  cases step_shape step with
  | kept subscribers flags =>
    rw [flags] at opened
    rw [subscribers]
    exact listed n opened
  | @joined limit revision id event _ _ subscribers flags =>
    rw [flags] at opened
    rw [subscribers]
    have length : bus.flags.length = bus.subscriptions.length := List.length_map _
    rcases Objects.getElem?_snoc_some opened with ⟨rfl, _⟩ | ⟨_, before⟩
    · exact ⟨id, by rw [length, AList.lookup_insert]⟩
    · obtain ⟨other, known⟩ := listed n before
      have different : other ≠ id := by
        rintro rfl
        exact unused limit revision other event (Table.mem_iff_lookup.mpr ⟨n, known⟩)
      exact ⟨other, by rw [AList.lookup_insert_ne different, known]⟩
  | @left id m known subscribers flags =>
    rw [flags] at opened
    rw [subscribers]
    rcases Objects.getElem?_set_some opened with ⟨_, impossible⟩ | ⟨different, before⟩
    · cases impossible
    · obtain ⟨other, found⟩ := listed n before
      have apart : other ≠ id := by
        rintro rfl
        rw [known] at found
        exact different (Option.some.inj found).symm
      exact ⟨other, by rw [AList.lookup_erase_ne apart, found]⟩

theorem listed_of_run {h : List (Step EventBus Op)} (run : Runs h bus) (unrepeated : Unrepeated h) : bus.Listed := by
  refine run.history (I := fun _ bus => bus.Listed) (G := Unrepeated) ?_ ?_ ?_ unrepeated
  · intro h x unrepeated y member
    exact unrepeated y (List.mem_append_left _ member)
  · intro n opened
    simp [flags, new] at opened
  · intro h t op u _ unrepeated listed step
    exact listed.step (unrepeated ⟨t, op, u⟩ (by simp)) step

/-! Progress of the operation that holds the lock. -/

def Op.ofHolder : Op → Bool
  | .visit _ | .offer | .drain | .send | .shut _ | .unlock => true
  | _ => false

def Phase.left : Phase → Nat
  | .idle | .panicked => 0
  | .publishing _ todo => 4 * todo.length + 1
  | .offering _ _ todo => 4 * todo.length + 4
  | .draining _ _ todo => 4 * todo.length + 3
  | .sending _ _ todo => 4 * todo.length + 2
  | .closing todo => todo.length + 1

theorem remove_phase (sound : bus.Sound) (id : String) (phase : Phase) :
    ({ bus with phase := phase }.remove id).phase = phase := by
  cases known : bus.subscribers.lookup id with
  | none => simp only [EventBus.remove, known]
  | some n =>
    obtain ⟨s, here, opened⟩ := sound.attached id n known
    simp only [EventBus.remove, known, here, Channel.close_open opened, withChannel]

theorem Sound.progress (sound : bus.Sound) (held : bus.phase ≠ .idle) :
    ∃ op bus', op.ofHolder = true ∧ bus.step op = some bus' ∧ bus'.phase.left < bus.phase.left := by
  have object (n : Nat) (works : bus.phase.current = some n ∨ n ∈ bus.phase.todo) :
      ∃ s, bus.subscriptions[n]? = some s ∧ s.channel.closed = false := by
    obtain ⟨id, known⟩ := sound.at_work n works
    exact sound.attached id n known
  cases phase : bus.phase with
  | idle => exact absurd phase held
  | panicked => exact absurd phase sound.calm
  | publishing event todo =>
    cases todo with
    | nil => exact ⟨.unlock, { bus with phase := .idle }, rfl, by simp only [EventBus.step, phase], Nat.zero_lt_succ _⟩
    | cons n rest =>
      obtain ⟨s, here, _⟩ := object n (.inr (by rw [phase]; exact List.mem_cons_self))
      by_cases old : event.revision ≤ s.revision
      · refine ⟨.visit n, { bus with phase := .publishing event rest }, rfl, ?_, ?_⟩
        · simp [EventBus.step, phase, startVisit, here, old]
        · simp only [Phase.left, List.length_cons]
          omega
      · refine ⟨.visit n, { bus with
          subscriptions := bus.subscriptions.set n { s with revision := event.revision }
          phase := .offering event n rest }, rfl, ?_, ?_⟩
        · simp [EventBus.step, phase, startVisit, here, old]
        · simp only [Phase.left, List.length_cons]
          omega
  | offering event n todo =>
    obtain ⟨s, here, opened⟩ := object n (.inl (by rw [phase]; rfl))
    by_cases room : s.channel.buffer.length < s.channel.capacity
    · refine ⟨.offer, { bus.withChannel n s { s.channel with buffer := s.channel.buffer ++ [event] } with
        phase := .publishing event todo }, rfl, ?_, ?_⟩
      · simp only [EventBus.step, phase, EventBus.offer, here, Channel.send_room opened room]
      · simp only [Phase.left]
        omega
    · refine ⟨.offer, { bus with phase := .draining event n todo }, rfl, ?_, Nat.lt_succ_self _⟩
      simp only [EventBus.step, phase, EventBus.offer, here, Channel.send_full opened room]
  | draining event n todo =>
    obtain ⟨s, here, _⟩ := object n (.inl (by rw [phase]; rfl))
    cases taken : s.channel.receive with
    | none =>
      refine ⟨.drain, { bus with phase := .sending event n todo }, rfl, ?_, Nat.lt_succ_self _⟩
      simp only [EventBus.step, phase, EventBus.drain, here, taken]
    | some pair =>
      refine ⟨.drain, { bus.withChannel n s pair.2 with phase := .sending event n todo }, rfl, ?_, Nat.lt_succ_self _⟩
      simp only [EventBus.step, phase, EventBus.drain, here, taken]
  | sending event n todo =>
    obtain ⟨s, here, opened⟩ := object n (.inl (by rw [phase]; rfl))
    have room : s.channel.buffer.length < s.channel.capacity := by
      rw [sound.emptied n s event todo here phase, (sound.each n s here).capacity]
      decide
    refine ⟨.send, { bus.withChannel n s { s.channel with buffer := s.channel.buffer ++ [event] } with
      phase := .publishing event todo }, rfl, ?_, Nat.lt_succ_self _⟩
    simp only [EventBus.step, phase, sendNow, here, Channel.send_room opened room]
  | closing todo =>
    cases todo with
    | nil => exact ⟨.unlock, { bus with phase := .idle }, rfl, by simp only [EventBus.step, phase], Nat.zero_lt_succ _⟩
    | cons id rest =>
      refine ⟨.shut id, { bus with phase := .closing rest }.remove id, rfl, ?_, ?_⟩
      · simp [EventBus.step, phase]
      · rw [remove_phase sound]
        exact Nat.lt_succ_self _

/-! What consumers can rely on. -/

/-- The largest of the revision a consumer subscribed after, the last one it received and the
one in its mailbox. -/
def Subscription.newest (s : Subscription) : Nat :=
  max s.after (max ((s.received.getLast?.map Event.revision).getD 0)
    ((s.channel.buffer.getLast?.map Event.revision).getD 0))

theorem le_last {l : List Event} (ordered : l.Pairwise (fun a b => a.revision < b.revision)) {e : Event}
    (member : e ∈ l) : e.revision ≤ (l.getLast?.map Event.revision).getD 0 := by
  induction l using List.reverseRecOn with
  | nil => cases member
  | append_singleton l last _ =>
    rw [List.getLast?_concat]
    rcases List.mem_append.mp member with old | new
    · exact Nat.le_of_lt ((List.pairwise_append.mp ordered).2.2 e old last (by simp))
    · rw [List.mem_singleton.mp new]
      exact Nat.le_refl _

theorem Subscription.Settled.le_newest (settled : s.Settled) (sound : s.Sound) : s.revision ≤ s.newest := by
  unfold Subscription.newest
  rcases settled with start | ⟨e, member, same⟩
  · omega
  · obtain ⟨first, second, _⟩ := List.pairwise_append.mp sound.ordered
    rcases List.mem_append.mp member with received | waiting
    · have := le_last first received
      omega
    · have := le_last second waiting
      omega

theorem mailbox_keeps_newest {h : List (Step EventBus Op)} (run : Runs h bus) :
    (∀ s ∈ bus.subscriptions, (s.received.map Event.revision).Pairwise (· < ·) ∧
      (∀ e ∈ s.received, s.after < e.revision) ∧ s.channel.buffer.length ≤ 1) ∧
    (bus.phase = .idle → bus.closed = false → ∀ id n s, bus.subscribers.lookup id = some n →
      bus.subscriptions[n]? = some s → bus.latest.revision ≤ s.newest) ∧
    (Unrepeated h → ∀ n s, bus.subscriptions[n]? = some s → s.channel.closed = false →
      ∃ id, bus.subscribers.lookup id = some n) ∧
    (∀ limit : Nat, Limited limit h → bus.subscribers.size ≤ limit) ∧
    bus.phase ≠ .panicked ∧
    (bus.phase ≠ .idle → ∃ op bus', op.ofHolder = true ∧ bus.step op = some bus' ∧
      bus'.phase.left < bus.phase.left) := by
  have sound := sound_of_run run
  refine ⟨?_, ?_, ?_, fun limit limited => size_le_of_run run limited, sound.calm, sound.progress⟩
  · intro s member
    obtain ⟨n, here⟩ := List.getElem?_of_mem member
    have good := sound.each n s here
    refine ⟨?_, ?_, good.few⟩
    · rw [List.pairwise_map]
      exact (List.pairwise_append.mp good.ordered).1
    · exact fun e received => good.above e (List.mem_append_left _ received)
  · intro idle _ id n s known here
    have news := sound.news id n s known here (by rw [idle]; exact nofun)
    have settled := sound.settled n s here (by rw [idle]; exact nofun)
    exact Nat.le_trans news (settled.le_newest (sound.each n s here))
  · intro unrepeated n s here opened
    apply listed_of_run run unrepeated n
    rw [flags, List.getElem?_map, here, ← opened]
    rfl

/-! A consumer that receives while `Publish` replaces what is in its mailbox. -/
namespace Plain

def racing : List Op :=
  [.subscribe 2 5 (some "a"), .publish ⟨4, "old"⟩, .visit 0, .unlock,
    .publish ⟨6, "six"⟩, .visit 0, .offer, .unlock,
    .publish ⟨7, "seven"⟩, .visit 0, .offer, .receive 0, .drain, .send, .unlock]

def raced : EventBus := Machine.final EventBus.step .new racing

theorem runs_raced : Runs (Machine.trail EventBus.step .new racing) raced :=
  Machine.exec_of_allows (by decide +kernel)

end Plain

open Plain in
theorem mailbox_keeps_newest_raced :
    raced.subscriptions = [⟨⟨1, [⟨7, "seven"⟩], false⟩, 7, 5, [⟨6, "six"⟩]⟩] ∧ raced.phase = .idle ∧
      ∀ id n s, raced.subscribers.lookup id = some n → raced.subscriptions[n]? = some s →
        raced.latest.revision ≤ s.newest := by
  have idle : raced.phase = .idle := by decide +kernel
  exact ⟨by decide +kernel, idle, (mailbox_keeps_newest runs_raced).2.1 idle (by decide +kernel)⟩

end Relay.EventBus
