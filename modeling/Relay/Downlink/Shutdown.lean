import Relay.Downlink.Slots

/-! The end of a pacer and what holds in every state before it: how many slots are in use,
where each of them is, and that `Stop` leaves nothing behind. -/
namespace Relay

/-- How far `Stop` has come: past the gate, past the producers, past the worker, returned. -/
def StopPhase.stage : StopPhase → Nat
  | .idle | .stopping => 0
  | .spinning => 1
  | .joined | .waiting => 2
  | .draining | .holding _ | .counting _ => 3
  | .returned => 4

namespace Pacer

variable {p p' : Pacer}
variable {i n : Nat} {q : Producer} {phase : ProducerPhase} {w : Worker} {k : Slot}

theorem room_of_fits (fits : w.Fits) : w.pending.length + (only w.phase.slot).card ≤ pendingCapacity := by
  have hand := card_only_le w.phase.slot
  unfold Worker.Fits at fits
  cases phase : w.phase with
  | top | clearing | finished =>
    simp only [phase] at fits
    simp [fits, WorkerPhase.slot]
  | drain | gap | exiting _ =>
    simp only [phase] at fits
    simpa [WorkerPhase.slot] using fits
  | waiting | hand | rejected | releasing | stored =>
    simp only [phase] at fits hand ⊢
    omega

theorem loop_fits (bound : w.pending.length ≤ pendingCapacity) : w.loop.Fits := by
  unfold Worker.loop
  split_ifs with none
  · exact none
  · exact bound

theorem Change.fits (change : Change p p') (fits : p.worker.Fits) : p'.worker.Fits := by
  have bound : p.worker.pending.length ≤ pendingCapacity := by
    have room := room_of_fits fits
    omega
  cases change with
  | shift nacks cache w before after kept same fits' => exact fits' fits
  | receive o w before after claimed first slot ticket same fits' => exact fits' fits
  | pop before first =>
    rw [first] at bound
    exact bound
  | reject o hand claimed | store o j hand claimed => simpa only [Worker.Fits, enter, hand] using fits
  | dropped rejected => simpa only [Worker.Fits, enter, complete, rejected] using fits
  | freed releasing | sent stored => exact loop_fits bound
  | evicted stored => simpa only [Worker.Fits, enter, release, stored] using fits
  | quit before done => exact bound
  | abandon exiting first =>
    rw [first] at bound
    exact (Nat.le_succ _).trans bound
  | abandoned exiting none => exact none
  | finish clearing cleared => simpa only [Worker.Fits, enter, clearing] using fits
  | _ => exact fits

/-! The gate: how many producers are inside, and how many of their packets are not counted. -/

def inside (p : Pacer) : Nat := p.producers.countP fun q => q.phase.inside

def uncounted (p : Pacer) : Nat := p.producers.countP fun q => q.phase.uncounted

section

variable (here : p.producers[i]? = some q)

include here

theorem goto_inside (phase : ProducerPhase) :
    (p.goto i q phase).inside + q.phase.inside.toNat = p.inside + phase.inside.toNat :=
  List.countP_set_add (fun q : Producer => q.phase.inside) here _

theorem goto_uncounted (phase : ProducerPhase) :
    (p.goto i q phase).uncounted + q.phase.uncounted.toNat = p.uncounted + phase.uncounted.toNat :=
  List.countP_set_add (fun q : Producer => q.phase.uncounted) here _

theorem goto_inside_same (same : phase.inside = q.phase.inside) : (p.goto i q phase).inside = p.inside := by
  have swap := goto_inside here phase
  rw [same] at swap
  exact add_right_cancel swap

theorem goto_uncounted_same (same : phase.uncounted = q.phase.uncounted) :
    (p.goto i q phase).uncounted = p.uncounted := by
  have swap := goto_uncounted here phase
  rw [same] at swap
  exact add_right_cancel swap

end

theorem Change.active (change : Change p p') (active : p.enqueueState.active = p.inside) :
    p'.enqueueState.active = p'.inside := by
  cases change with
  | call packet source => simpa [inside, ProducerPhase.inside] using active
  | turn here phase next alike => exact active.trans (goto_inside_same here alike.1).symm
  | admission here loaded opened =>
    have swap := goto_inside here .admitted
    rw [loaded] at swap
    simp only [ProducerPhase.inside, Bool.toNat_false, Bool.toNat_true] at swap
    change p.enqueueState.active + 1 = (p.goto _ _ _).inside
    omega
  | claim here searching k free now =>
    exact active.trans (goto_inside_same here (by rw [searching]; rfl)).symm
  | put here holding room => exact active.trans (goto_inside_same here (by rw [holding]; rfl)).symm
  | enqueued here sent => exact active.trans (goto_inside_same here (by rw [sent]; rfl)).symm
  | refused here full => exact active.trans (goto_inside_same here (by rw [full]; rfl)).symm
  | leave here leaving =>
    have swap := goto_inside here .returned
    rw [leaving] at swap
    simp only [ProducerPhase.inside, Bool.toNat_false, Bool.toNat_true] at swap
    change p.enqueueState.active - 1 = (p.goto _ _ _).inside
    omega
  | _ => exact active

theorem Change.enqueuedCount (change : Change p p') (enqueued : p.enqueuedCount + p.uncounted = p.puts) :
    p'.enqueuedCount + p'.uncounted = p'.puts := by
  cases change with
  | call packet source => simpa [uncounted, ProducerPhase.uncounted] using enqueued
  | turn here phase next alike =>
    change p.enqueuedCount + (p.goto _ _ _).uncounted = p.puts
    rw [goto_uncounted_same here alike.2.2, enqueued]
  | admission here loaded opened =>
    change p.enqueuedCount + (p.goto _ _ _).uncounted = p.puts
    rw [goto_uncounted_same here (by rw [loaded]; rfl), enqueued]
  | claim here searching k free now =>
    change p.enqueuedCount + (p.goto _ _ _).uncounted = p.puts
    rw [goto_uncounted_same here (by rw [searching]; rfl), enqueued]
  | put here holding room =>
    have swap := goto_uncounted here .sent
    rw [holding] at swap
    simp only [ProducerPhase.uncounted, Bool.toNat_false, Bool.toNat_true] at swap
    change p.enqueuedCount + (p.goto _ _ _).uncounted = p.puts + 1
    omega
  | enqueued here sent =>
    have swap := goto_uncounted here .leaving
    rw [sent] at swap
    simp only [ProducerPhase.uncounted, Bool.toNat_false, Bool.toNat_true] at swap
    change p.enqueuedCount + 1 + (p.goto _ _ _).uncounted = p.puts
    omega
  | refused here full =>
    change p.enqueuedCount + (p.goto _ _ _).uncounted = p.puts
    rw [goto_uncounted_same here (by rw [full]; rfl), enqueued]
  | leave here leaving =>
    change p.enqueuedCount + (p.goto _ _ _).uncounted = p.puts
    rw [goto_uncounted_same here (by rw [leaving]; rfl), enqueued]
  | _ => exact enqueued

/-! The order of the end: the gate is closed, the producers leave, the worker clears its
cache, and the last drain empties the queue. -/

structure Exits (p : Pacer) : Prop where
  finished : p.workerDone = true → p.worker.phase = .finished
  cleared : p.worker.phase = .finished → ∀ j, (p.retransmissionCache.slots j).owned = none

theorem Exits.working (exits : Exits p) (before : p.worker.phase ≠ .finished)
    (same : p'.workerDone = p.workerDone) (after : p'.worker.phase ≠ .finished) : Exits p' := by
  constructor
  · intro done
    exact absurd (exits.finished (same ▸ done)) before
  · intro finished
    exact absurd finished after

theorem idle_ne_finished {phase : WorkerPhase} (idle : phase.idle = true) : phase ≠ .finished := by
  rintro rfl
  cases idle

theorem loop_ne_finished (w : Worker) : w.loop.phase ≠ .finished := by
  unfold Worker.loop
  split_ifs
  · exact nofun
  · exact nofun

theorem Change.exits (change : Change p p') (exits : Exits p) : Exits p' := by
  cases change with
  | aside handlers nacks cache kept =>
    exact ⟨exits.finished, fun done j => (kept j).trans (exits.cleared done j)⟩
  | shift nacks cache w before after kept same fits | receive o w before after claimed first slot ticket same fits =>
    exact exits.working (idle_ne_finished before) rfl (idle_ne_finished after)
  | pop before first | quit before done => exact exits.working (idle_ne_finished before) rfl nofun
  | reject o hand claimed | store o j hand claimed => exact exits.working (by simp [hand]) rfl nofun
  | dropped rejected => exact exits.working (by simp [rejected]) rfl nofun
  | freed releasing => exact exits.working (by simp [releasing]) rfl (loop_ne_finished _)
  | evicted stored => exact exits.working (by simp [stored]) rfl nofun
  | sent stored => exact exits.working (by simp [stored]) rfl (loop_ne_finished _)
  | abandon exiting first | abandoned exiting none => exact exits.working (by simp [exiting]) rfl nofun
  | clear clearing owned => exact exits.working (by simp [clearing]) rfl (by simp [release, clearing])
  | finish clearing cleared => exact ⟨fun _ => rfl, fun _ => cleared⟩
  | _ => exact ⟨exits.finished, exits.cleared⟩

structure Ending (p : Pacer) : Prop where
  closed : 1 ≤ p.stop.stage → p.enqueueState.closed = true
  joined : 2 ≤ p.stop.stage → p.enqueueState.active = 0
  exited : 3 ≤ p.stop.stage → p.workerDone = true
  emptied : 4 ≤ p.stop.stage → p.queue = []

theorem Ending.of_early (early : p.stop.stage = 0) : Ending p := by
  constructor
  · omega
  · omega
  · omega
  · omega

theorem inside_pos (here : p.producers[i]? = some q) (inside : q.phase.inside = true) : 0 < p.inside :=
  List.countP_pos_iff.mpr ⟨q, List.mem_of_getElem? here, inside⟩

theorem Change.ending (change : Change p p') (active : p.enqueueState.active = p.inside)
    (ending : Ending p) : Ending p' := by
  have ⟨closed, joined, exited, emptied⟩ := ending
  cases change with
  | admission here loaded opened =>
    -- the gate is open, so `Stop` has not closed it
    have early : p.stop.stage = 0 := by
      by_contra late
      rw [closed (by omega)] at opened
      cases opened
    exact .of_early early
  | put here holding room =>
    -- a producer is inside, so `Stop` has not joined the producers
    have busy := inside_pos here (by rw [holding]; rfl)
    have early : p.stop.stage < 2 := by
      by_contra late
      have none := joined (by omega)
      omega
    exact ⟨closed, joined, exited, fun late => absurd (show 4 ≤ p.stop.stage from late) (by omega)⟩
  | leave here leaving =>
    refine ⟨closed, fun late => ?_, exited, emptied⟩
    have none := joined late
    simp [none]
  | receive o w before after claimed first slot ticket same fits =>
    refine ⟨closed, joined, exited, fun late => ?_⟩
    rw [emptied late] at first
    cases first
  | finish clearing cleared => exact ⟨closed, joined, fun _ => rfl, emptied⟩
  | halt idle => exact .of_early rfl
  | close stopping => exact ⟨fun _ => rfl, by simp [StopPhase.stage], by simp [StopPhase.stage], by simp [StopPhase.stage]⟩
  | join spinning none =>
    exact ⟨fun _ => closed (by simp [spinning, StopPhase.stage]), fun _ => none, by simp [StopPhase.stage],
      by simp [StopPhase.stage]⟩
  | signal waiting =>
    exact ⟨fun _ => closed (by simp [waiting, StopPhase.stage]),
      fun _ => joined (by simp [waiting, StopPhase.stage]), by simp [StopPhase.stage], by simp [StopPhase.stage]⟩
  | wake waiting finished =>
    exact ⟨fun _ => closed (by simp [waiting, StopPhase.stage]),
      fun _ => joined (by simp [waiting, StopPhase.stage]), fun _ => finished, by simp [StopPhase.stage]⟩
  | drain draining first =>
    rw [draining] at closed joined exited
    exact ⟨closed, joined, exited, by simp [StopPhase.stage]⟩
  | drained draining none =>
    rw [draining] at closed joined exited
    exact ⟨fun _ => closed (by decide), fun _ => joined (by decide), fun _ => exited (by decide), fun _ => none⟩
  | discard holding =>
    rw [holding] at closed joined exited
    exact ⟨closed, joined, exited, by simp [StopPhase.stage]⟩
  | discarded counting =>
    rw [counting] at closed joined exited
    exact ⟨closed, joined, exited, by simp [StopPhase.stage]⟩
  | _ => exact ⟨closed, joined, exited, emptied⟩

theorem Change.queue_bound (change : Change p p') (bound : p.queue.length ≤ defaultPacerCapacity) :
    p'.queue.length ≤ defaultPacerCapacity := by
  cases change with
  | put here holding room =>
    simp only [List.length_append, List.length_singleton]
    omega
  | receive o w before after claimed first slot ticket same fits | drain draining first =>
    rw [first, List.length_cons] at bound
    exact (Nat.le_succ _).trans bound
  | _ => exact bound

structure Sound (p : Pacer) : Prop where
  owned : Owned p.ownedPackets.claimed p.held
  tickets : p.awaiting + p.counted = Multiset.range p.puts
  completed : p.completedCount = p.counted.length
  fits : p.worker.Fits
  bound : p.queue.length ≤ defaultPacerCapacity
  active : p.enqueueState.active = p.inside
  enqueued : p.enqueuedCount + p.uncounted = p.puts
  exits : Exits p
  ending : Ending p

theorem Custody.owned (custody : Custody p p') (owned : Owned p.ownedPackets.claimed p.held) :
    Owned p'.ownedPackets.claimed p'.held := by
  cases custody with
  | kept claimed held => rwa [claimed, held]
  | claimed k free claimed held =>
    rw [claimed, held, Multiset.singleton_add]
    exact owned.claim free
  | released k claimed held =>
    rw [held, Multiset.singleton_add] at owned
    rw [claimed]
    exact owned.release

theorem Account.tickets (account : Account p p') (tickets : p.awaiting + p.counted = Multiset.range p.puts) :
    p'.awaiting + p'.counted = Multiset.range p'.puts := by
  cases account with
  | put puts awaiting counted completed =>
    rw [awaiting, counted, puts, Multiset.range_succ, ← tickets, add_assoc, Multiset.singleton_add]
  | counted l puts awaiting counted completed =>
    rw [puts, ← tickets, awaiting, counted, ← Multiset.coe_add]
    abel

theorem Account.completed (account : Account p p') (completed : p.completedCount = p.counted.length) :
    p'.completedCount = p'.counted.length := by
  cases account with
  | put puts awaiting counted same => rw [same, counted, completed]
  | counted l puts awaiting counted more => rw [more, counted, completed, List.length_append]

theorem held_new : new.held = 0 := by
  have cache : RetransmissionCache.held .new = 0 := by
    apply Multiset.eq_zero_of_forall_notMem
    intro k member
    obtain ⟨j, here⟩ := mem_tableSlots.mp member
    cases here
  change 0 + 0 + 0 + 0 + RetransmissionCache.held .new + 0 = 0
  rw [cache]
  rfl

theorem sound_new : Sound new where
  owned := held_new ▸ Owned.empty
  tickets := rfl
  completed := rfl
  fits := rfl
  bound := Nat.zero_le _
  active := rfl
  enqueued := rfl
  exits := ⟨nofun, nofun⟩
  ending := .of_early rfl

theorem Change.sound (change : Change p p') (sound : Sound p) : Sound p' where
  owned := change.custody.owned sound.owned
  tickets := change.account.tickets sound.tickets
  completed := change.account.completed sound.completed
  fits := change.fits sound.fits
  bound := change.queue_bound sound.bound
  active := change.active sound.active
  enqueued := change.enqueuedCount sound.enqueued
  exits := change.exits sound.exits
  ending := change.ending sound.active sound.ending

theorem sound_of_run {marshalSize : RtpPacket → Nat} {h : List (Step Pacer PacerEvent)}
    (run : Runs marshalSize h p) : Sound p :=
  run.invariant (fun sound step => (step_change step).sound sound) sound_new

inductive Place where
  | producer (i : Nat)
  | queue (n : Nat)
  | pending (n : Nat)
  | hand
  | entry (j : Fin retransmissionCachePackets)
  | drain
deriving DecidableEq

def slotAt (p : Pacer) : Place → Option Slot
  | .producer i => (p.producers[i]?).bind fun q => q.phase.slot
  | .queue n => (p.queue[n]?).map PacedPacket.owned
  | .pending n => (p.worker.pending[n]?).map PacedPacket.owned
  | .hand => p.worker.phase.slot
  | .entry j => (p.retransmissionCache.slots j).owned
  | .drain => p.stop.slot

theorem slotAt_queue (here : p.slotAt (.queue n) = some k) : (p.queue.map PacedPacket.owned)[n]? = some k := by
  rw [List.getElem?_map]
  exact here

theorem slotAt_pending (here : p.slotAt (.pending n) = some k) :
    (p.worker.pending.map PacedPacket.owned)[n]? = some k := by
  rw [List.getElem?_map]
  exact here

theorem mem_producerSlots {producers : List Producer} :
    k ∈ producerSlots producers ↔ ∃ i : Nat, ((producers[i]?).bind fun q => q.phase.slot) = some k := by
  simp only [producerSlots, List.mem_sum_map, mem_only, Option.bind_eq_some_iff]

def part (p : Pacer) : Place → Multiset Slot
  | .producer _ => producerSlots p.producers
  | .queue _ => slots p.queue
  | .pending _ => slots p.worker.pending
  | .hand => only p.worker.phase.slot
  | .entry _ => p.retransmissionCache.held
  | .drain => only p.stop.slot

variable {a : Place}

theorem slotAt_part (here : p.slotAt a = some k) : k ∈ p.part a := by
  cases a with
  | producer i => exact mem_producerSlots.mpr ⟨i, here⟩
  | queue n => exact List.mem_of_getElem? (slotAt_queue here)
  | pending n => exact List.mem_of_getElem? (slotAt_pending here)
  | hand | drain => exact mem_only.mpr here
  | entry j => exact mem_tableSlots.mpr ⟨j, here⟩

theorem mem_held : k ∈ p.held ↔ ∃ a, p.slotAt a = some k := by
  constructor
  · intro member
    simp only [held, Multiset.mem_add, or_assoc] at member
    rcases member with producer | queue | pending | hand | entry | drain
    · obtain ⟨i, here⟩ := mem_producerSlots.mp producer
      exact ⟨.producer i, here⟩
    · obtain ⟨n, here⟩ := List.mem_iff_getElem?.mp (show k ∈ p.queue.map PacedPacket.owned from queue)
      exact ⟨.queue n, by rwa [List.getElem?_map] at here⟩
    · obtain ⟨n, here⟩ := List.mem_iff_getElem?.mp (show k ∈ p.worker.pending.map PacedPacket.owned from pending)
      exact ⟨.pending n, by rwa [List.getElem?_map] at here⟩
    · exact ⟨.hand, mem_only.mp hand⟩
    · obtain ⟨j, here⟩ := mem_tableSlots.mp entry
      exact ⟨.entry j, here⟩
    · exact ⟨.drain, mem_only.mp drain⟩
  · rintro ⟨a, here⟩
    have member := slotAt_part here
    simp only [held, Multiset.mem_add]
    cases a <;> simp only [part] at member <;> tauto

theorem index_of_nodup {items : List PacedPacket} {j : Nat} (once : (slots items).Nodup)
    (first : (items.map PacedPacket.owned)[i]? = some k) (second : (items.map PacedPacket.owned)[j]? = some k) :
    i = j := by
  have inside : i < (items.map PacedPacket.owned).length := (List.getElem?_eq_some_iff.mp first).1
  exact (List.getElem?_inj inside (Multiset.coe_nodup.mp once)).mp (first.trans second.symm)

theorem place_unique (once : p.held.Nodup) {b : Place} (first : p.slotAt a = some k) (second : p.slotAt b = some k) :
    a = b := by
  have total := Multiset.nodup_iff_count_le_one.mp once k
  simp only [held, Multiset.count_add] at total
  have one := Multiset.one_le_count_iff_mem.mpr (slotAt_part first)
  have other := Multiset.one_le_count_iff_mem.mpr (slotAt_part second)
  simp only [held, Multiset.nodup_add] at once
  obtain ⟨⟨⟨⟨⟨producers, queue, -⟩, pending, -⟩, -⟩, cache, -⟩, -⟩ := once
  -- two places of different parts would count the slot twice
  cases a <;> cases b <;> simp only [part] at one other <;> try omega
  · rename_i i j
    obtain ⟨q, here, member⟩ := Option.bind_eq_some_iff.mp first
    obtain ⟨q', there, member'⟩ := Option.bind_eq_some_iff.mp second
    exact congrArg Place.producer
      (List.index_unique producers here there (mem_only.mpr member) (mem_only.mpr member'))
  · exact congrArg Place.queue (index_of_nodup queue (slotAt_queue first) (slotAt_queue second))
  · exact congrArg Place.pending (index_of_nodup pending (slotAt_pending first) (slotAt_pending second))
  · rfl
  · exact congrArg Place.entry (tableSlots_index cache first second)
  · rfl

theorem inside_of_slot (holds : phase.slot = some k) : phase.inside = true := by
  cases phase with
  | holding | full => rfl
  | _ => cases holds

theorem producerSlots_card (producers : List Producer) :
    (producerSlots producers).card ≤ producers.countP fun q => q.phase.inside := by
  induction producers with
  | nil => exact Nat.zero_le _
  | cons q producers ih =>
    have split : producerSlots (q :: producers) = only q.phase.slot + producerSlots producers := rfl
    rw [split, Multiset.card_add, List.countP_cons]
    cases holds : q.phase.slot with
    | none =>
      simp only [only_none, Multiset.card_zero]
      omega
    | some k =>
      rw [if_pos (inside_of_slot holds), only_some, Multiset.card_singleton]
      omega

theorem Sound.hands (sound : Sound p) :
    p.worker.pending.length + (only p.worker.phase.slot).card + (only p.stop.slot).card ≤ pendingCapacity := by
  have room := room_of_fits sound.fits
  cases holds : p.stop.slot with
  | none => simpa using room
  | some k =>
    have late : 3 ≤ p.stop.stage := by
      cases phase : p.stop with
      | holding item => exact le_rfl
      | _ =>
        rw [phase] at holds
        cases holds
    have finished := sound.exits.finished (sound.ending.exited late)
    have fits := sound.fits
    simp only [Worker.Fits, finished] at fits
    simp [fits, finished, WorkerPhase.slot, pendingCapacity, defaultPacerCapacity]

theorem Sound.card_held (sound : Sound p) :
    p.held.card ≤ retransmissionCachePackets + pendingCapacity + defaultPacerCapacity + p.inside := by
  have producers : (producerSlots p.producers).card ≤ p.inside := producerSlots_card p.producers
  have cache : p.retransmissionCache.held.card ≤ retransmissionCachePackets := tableSlots_card _
  have hands := sound.hands
  have bound := sound.bound
  have queue : (slots p.queue).card = p.queue.length := by simp [slots]
  have pending : (slots p.worker.pending).card = p.worker.pending.length := by simp [slots]
  simp only [held, Multiset.card_add]
  omega

theorem Sound.returned (sound : Sound p) (returned : p.stop = .returned) :
    p.inside = 0 ∧ p.queue = [] ∧ p.worker.pending = [] ∧ p.worker.phase = .finished ∧
      ∀ j, (p.retransmissionCache.slots j).owned = none := by
  have late : 4 ≤ p.stop.stage := by
    rw [returned]
    exact le_rfl
  have finished := sound.exits.finished (sound.ending.exited (by omega))
  have fits := sound.fits
  simp only [Worker.Fits, finished] at fits
  have none := sound.ending.joined (by omega)
  exact ⟨sound.active ▸ none, sound.ending.emptied late, fits, finished, sound.exits.cleared finished⟩

theorem Sound.held_returned (sound : Sound p) (returned : p.stop = .returned) : p.held = 0 := by
  obtain ⟨none, queue, pending, finished, cleared⟩ := sound.returned returned
  have producers : producerSlots p.producers = 0 := by
    have bound : (producerSlots p.producers).card ≤ p.inside := producerSlots_card p.producers
    exact Multiset.card_eq_zero.mp (by omega)
  have cache : p.retransmissionCache.held = 0 := by
    apply Multiset.eq_zero_of_forall_notMem
    intro k member
    obtain ⟨j, here⟩ := mem_tableSlots.mp member
    rw [cleared j] at here
    cases here
  rw [held, producers, cache, queue, pending, finished, returned]
  rfl

theorem Sound.awaiting_returned (sound : Sound p) (returned : p.stop = .returned) : p.awaiting = 0 := by
  obtain ⟨_, queue, pending, finished, _⟩ := sound.returned returned
  rw [awaiting, queue, pending, finished, returned]
  rfl

theorem uncounted_le_inside (p : Pacer) : p.uncounted ≤ p.inside := by
  apply List.countP_mono_left
  intro q _ sent
  cases phase : q.phase with
  | sent => rfl
  | _ =>
    rw [phase] at sent
    cases sent

/-- In every state that any interleaving reaches, a slot is claimed exactly while it is in
one place, at most the cache, the pending array, the queue and one slot for each producer
inside are in use, and every packet put in the queue is either on its way or counted once.
Once `Stop` has returned every slot is free and every packet is counted. -/
theorem pacer_slots_owned {marshalSize : RtpPacket → Nat} {h : List (Step Pacer PacerEvent)} {p : Pacer}
    (run : Runs marshalSize h p) :
    (∀ k, p.ownedPackets.claimed k = true ↔ ∃ a, p.slotAt a = some k) ∧
    (∀ k a b, p.slotAt a = some k → p.slotAt b = some k → a = b) ∧
    (∀ i k, p.slotAt (.producer i) = some k → ∃ q, p.producers[i]? = some q ∧ q.phase.inside = true) ∧
    (Finset.univ.filter fun k => p.ownedPackets.claimed k = true).card ≤
      512 + 33 + 32 + p.producers.countP (fun q => q.phase.inside) ∧
    p.awaiting + p.counted = Multiset.range p.puts ∧
    p.completedCount = p.counted.length ∧
    (p.stop = .returned → (∀ k, p.ownedPackets.claimed k = false) ∧ p.queue = [] ∧
      p.enqueuedCount = p.completedCount ∧ ∀ t < p.puts, p.counted.count t = 1) := by
  have sound := sound_of_run run
  refine ⟨?_, ?_, ?_, ?_, sound.tickets, sound.completed, ?_⟩
  · intro k
    rw [sound.owned.exactly, mem_held]
  · intro k a b first second
    exact place_unique sound.owned.once first second
  · intro i k here
    obtain ⟨q, producer, holds⟩ := Option.bind_eq_some_iff.mp here
    exact ⟨q, producer, inside_of_slot holds⟩
  · rw [sound.owned.card_claimed]
    exact sound.card_held
  · intro returned
    have counted := sound.tickets
    rw [sound.awaiting_returned returned, zero_add] at counted
    have total : p.counted.length = p.puts := by
      have card := congrArg Multiset.card counted
      rwa [Multiset.coe_card, Multiset.card_range] at card
    have none := (sound.returned returned).1
    have enqueued := sound.enqueued
    have few := uncounted_le_inside p
    refine ⟨?_, (sound.returned returned).2.1, ?_, ?_⟩
    · intro k
      have free := (sound.owned.exactly k).not.mpr (by simp [sound.held_returned returned])
      simpa using free
    · rw [sound.completed]
      omega
    · intro t before
      rw [← Multiset.coe_count, counted]
      exact Multiset.count_eq_one_of_mem (Multiset.nodup_range _) (Multiset.mem_range.mpr before)

end Pacer

/-! A producer whose packet is still in the queue when the worker leaves. -/
namespace Plain

def marshalSize (pkt : RtpPacket) : Nat := 12 + pkt.payload.length

def voicePacket : RtpPacket := { RtpPacket.zero with sequenceNumber := 7, payload := [1, 2, 3] }

def voiceSource : SourceIdentity := ⟨"voice", 1, 42⟩

/-- The call of the producer, then `Stop` up to the wait for the worker, the worker's exit
and the first receive of the last drain. -/
def lateStop : List PacerEvent :=
  .call (some voicePacket) voiceSource :: List.replicate 7 (PacerEvent.produce 0 1000) ++
    List.replicate 4 PacerEvent.stop ++
    ([.work .quit, .work .advance, .work .advance, .stop, .stop] : List PacerEvent)

def drainedStop : List PacerEvent := lateStop ++ ([.stop, .stop, .stop] : List PacerEvent)

def pacerHistory (events : List PacerEvent) : List (Step Pacer PacerEvent) :=
  Machine.trail (Pacer.step marshalSize) .new events

def pacerAfter (events : List PacerEvent) : Pacer := Machine.final (Pacer.step marshalSize) .new events

theorem runs_of_allows {events : List PacerEvent}
    (allowed : Machine.allows (Pacer.step marshalSize) .new events = true) :
    Pacer.Runs marshalSize (pacerHistory events) (pacerAfter events) :=
  Machine.exec_of_allows allowed

theorem runs_lateStop : Pacer.Runs marshalSize (pacerHistory lateStop) (pacerAfter lateStop) :=
  runs_of_allows (by decide +kernel)

theorem runs_drainedStop : Pacer.Runs marshalSize (pacerHistory drainedStop) (pacerAfter drainedStop) :=
  runs_of_allows (by decide +kernel)

end Plain

open Plain in
theorem pacer_slots_owned_drained :
    (pacerAfter drainedStop).stop = .returned ∧ (pacerAfter drainedStop).puts = 1 ∧
      (∀ k, (pacerAfter drainedStop).ownedPackets.claimed k = false) ∧
      (pacerAfter drainedStop).enqueuedCount = (pacerAfter drainedStop).completedCount := by
  have returned : (pacerAfter drainedStop).stop = .returned := by decide +kernel
  obtain ⟨_, _, _, _, _, _, stopped⟩ := Pacer.pacer_slots_owned runs_drainedStop
  obtain ⟨free, _, counts, _⟩ := stopped returned
  exact ⟨returned, by decide +kernel, free, counts⟩

open Plain in
/-- Between a receive of the last drain and the release after it, the slot is in the hand of
`Stop` and nowhere else. -/
theorem pacer_slot_in_drain :
    Pacer.Runs marshalSize (pacerHistory lateStop) (pacerAfter lateStop) ∧
      ∃ k, (pacerAfter lateStop).ownedPackets.claimed k = true ∧
        ∀ a, a ≠ .drain → (pacerAfter lateStop).slotAt a ≠ some k := by
  have drain : (pacerAfter lateStop).slotAt .drain = some ⟨1, by decide⟩ := by decide +kernel
  refine ⟨runs_lateStop, ⟨1, by decide⟩, by decide +kernel, ?_⟩
  intro a other here
  exact other (Pacer.place_unique (Pacer.sound_of_run runs_lateStop).owned.once here drain)

end Relay
