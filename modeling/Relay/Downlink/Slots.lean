import Relay.Downlink.Changes
import Relay.Lib.Ownership

/-! Who owns the slots of a pacer, and which packets its completed count counts, in every
interleaving of its producers, its worker and `Stop`. -/
namespace Relay

def WorkerPhase.slot : WorkerPhase → Option Slot
  | .hand item | .rejected item => some item.owned
  | .releasing k => some k
  | .stored _ previous => previous
  | _ => none

def WorkerPhase.tickets : WorkerPhase → List Nat
  | .hand item | .rejected item => [item.ticket]
  | .stored ticket _ => [ticket]
  | .exiting released => released
  | _ => []

def StopPhase.slot : StopPhase → Option Slot
  | .holding item => some item.owned
  | _ => none

def StopPhase.tickets : StopPhase → List Nat
  | .holding item => [item.ticket]
  | .counting ticket => [ticket]
  | _ => []

def only (k : Option Slot) : Multiset Slot := k.elim 0 ({·})

@[simp] theorem only_none : only none = 0 := rfl

@[simp] theorem only_some (k : Slot) : only (some k) = {k} := rfl

theorem mem_only {k : Slot} {o : Option Slot} : k ∈ only o ↔ o = some k := by
  cases o with
  | none => simp
  | some k' => simp [eq_comm]

theorem card_only_le (o : Option Slot) : (only o).card ≤ 1 := by
  cases o with
  | none => simp
  | some k => simp

def slots (items : List PacedPacket) : Multiset Slot := items.map PacedPacket.owned

def tickets (items : List PacedPacket) : Multiset Nat := items.map PacedPacket.ticket

def producerSlots (producers : List Producer) : Multiset Slot :=
  (producers.map fun q => only q.phase.slot).sum

@[irreducible]
def tableSlots {n : Nat} (table : Fin n → RetransmissionSlot) : Multiset Slot := ∑ j, only (table j).owned

def RetransmissionCache.held (c : RetransmissionCache) : Multiset Slot := tableSlots c.slots

namespace Pacer

def held (p : Pacer) : Multiset Slot :=
  producerSlots p.producers + slots p.queue + slots p.worker.pending + only p.worker.phase.slot +
    p.retransmissionCache.held + only p.stop.slot

def awaiting (p : Pacer) : Multiset Nat :=
  tickets p.queue + tickets p.worker.pending + p.worker.phase.tickets + p.stop.tickets

variable {p p' : Pacer}

/-! The parts of the sum, one update at a time. -/

theorem slots_cons (item : PacedPacket) (rest : List PacedPacket) :
    slots (item :: rest) = {item.owned} + slots rest := by
  rw [Multiset.singleton_add]
  rfl

theorem slots_snoc (items : List PacedPacket) (item : PacedPacket) :
    slots (items ++ [item]) = {item.owned} + slots items := by
  rw [← slots_cons]
  exact Multiset.coe_eq_coe.mpr ((List.perm_append_singleton item items).map _)

variable {a b : List PacedPacket} {n : Nat} {phase : WorkerPhase} {k : Slot}

theorem slots_perm (same : a.Perm b) : slots a = slots b :=
  Multiset.coe_eq_coe.mpr (same.map _)

theorem producerSlots_set {producers : List Producer} {i : Nat} {q : Producer}
    (here : producers[i]? = some q) (q' : Producer) :
    producerSlots (producers.set i q') + only q.phase.slot = producerSlots producers + only q'.phase.slot :=
  List.sum_map_set (fun q : Producer => only q.phase.slot) here q'

theorem tableSlots_congr {table table' : Fin n → RetransmissionSlot} (kept : ∀ j, (table' j).owned = (table j).owned) :
    tableSlots table' = tableSlots table := by
  simp only [tableSlots, kept]

theorem tableSlots_update (table : Fin n → RetransmissionSlot) (j : Fin n) (entry : RetransmissionSlot) :
    tableSlots (Function.update table j entry) + only (table j).owned = tableSlots table + only entry.owned := by
  simp only [tableSlots]
  exact Fintype.sum_comp_update (fun entry : RetransmissionSlot => only entry.owned) table j entry

theorem mem_tableSlots {table : Fin n → RetransmissionSlot} : k ∈ tableSlots table ↔ ∃ j, (table j).owned = some k := by
  simp only [tableSlots, Multiset.mem_sum, Finset.mem_univ, true_and, mem_only]

theorem tableSlots_index {table : Fin n → RetransmissionSlot} {i j : Fin n} (once : (tableSlots table).Nodup)
    (first : (table i).owned = some k) (second : (table j).owned = some k) : i = j := by
  rw [tableSlots] at once
  exact Fintype.index_unique once (mem_only.mpr first) (mem_only.mpr second)

theorem tableSlots_card (table : Fin n → RetransmissionSlot) : (tableSlots table).card ≤ n := by
  rw [tableSlots, Multiset.card_sum]
  calc ∑ j, (only (table j).owned).card
      ≤ ∑ _j : Fin n, 1 := Finset.sum_le_sum fun j _ => card_only_le _
    _ = n := by simp

theorem idle_slot (idle : phase.idle = true) : phase.slot = none := by
  cases phase with
  | top | drain | gap | waiting => rfl
  | _ => cases idle

theorem loop_slot (w : Worker) : w.loop.phase.slot = none := by
  unfold Worker.loop
  split_ifs
  · rfl
  · rfl

inductive Custody (p p' : Pacer) : Prop
  | kept (claimed : p'.ownedPackets.claimed = p.ownedPackets.claimed) (held : p'.held = p.held)
  | claimed (k : Slot) (free : p.ownedPackets.claimed k = false)
    (claimed : p'.ownedPackets.claimed = Function.update p.ownedPackets.claimed k true)
    (held : p'.held = {k} + p.held)
  | released (k : Slot) (claimed : p'.ownedPackets.claimed = Function.update p.ownedPackets.claimed k false)
    (held : p.held = {k} + p'.held)

theorem Change.custody (change : Change p p') : Custody p p' := by
  cases change with
  | call packet source =>
    refine .kept rfl ?_
    simp [held, producerSlots, ProducerPhase.slot]
  | aside handlers nacks cache kept =>
    refine .kept rfl ?_
    simp only [held, RetransmissionCache.held, tableSlots_congr kept]
  | @turn i q here phase next alike =>
    have swap := producerSlots_set here { q with phase := phase }
    rw [alike.2.1, add_left_inj] at swap
    refine .kept rfl ?_
    simp only [held, goto, swap]
  | @admission i q state here loaded opened =>
    have swap := producerSlots_set here { q with phase := .admitted }
    simp only [loaded, ProducerPhase.slot, only_none, add_zero] at swap
    refine .kept rfl ?_
    simp only [held, goto, swap]
  | @claim i q pkt startSlot offsetCount here searching k free now =>
    have swap := producerSlots_set here { q with phase := .holding k now }
    simp only [searching, ProducerPhase.slot, only_none, only_some, add_zero] at swap
    refine .claimed k free rfl ?_
    simp only [held, goto, swap]
    abel
  | @put i q k enqueuedAt here holding room =>
    have swap := producerSlots_set here { q with phase := .sent }
    simp only [holding, ProducerPhase.slot, only_none, only_some, add_zero] at swap
    refine .kept rfl ?_
    simp only [held, goto, slots_snoc, ← swap]
    abel
  | @enqueued i q here sent =>
    have swap := producerSlots_set here { q with phase := .leaving }
    simp only [sent, ProducerPhase.slot, only_none, add_zero] at swap
    refine .kept rfl ?_
    simp only [held, goto, swap]
  | @refused i q k here full =>
    have swap := producerSlots_set here { q with phase := .leaving }
    simp only [full, ProducerPhase.slot, only_none, only_some, add_zero] at swap
    refine .released k rfl ?_
    simp only [held, goto, release, ← swap]
    abel
  | @leave i q here leaving =>
    have swap := producerSlots_set here { q with phase := .returned }
    simp only [leaving, ProducerPhase.slot, only_none, add_zero] at swap
    refine .kept rfl ?_
    simp only [held, goto, swap]
  | shift nacks cache w before after kept same fits =>
    refine .kept rfl ?_
    simp only [held, RetransmissionCache.held, tableSlots_congr kept, slots_perm same, idle_slot before, idle_slot after]
  | receive o w before after claimed first slot ticket same fits =>
    refine .kept claimed ?_
    simp only [held, first, slots_perm same, slots_cons, slot, idle_slot before, idle_slot after]
    abel
  | @pop item rest before first =>
    have hand : (p.worker.pop item rest).phase.slot = some item.owned := rfl
    have pending : (p.worker.pop item rest).pending = rest := rfl
    refine .kept rfl ?_
    simp only [held, hand, pending, first, slots_cons, idle_slot before, only_none, only_some]
    abel
  | reject o hand claimed =>
    refine .kept claimed ?_
    simp only [held, enter, hand, WorkerPhase.slot]
  | @store item o j hand claimed =>
    have swap := tableSlots_update p.retransmissionCache.slots j ⟨some item.owned, 0, 0⟩
    refine .kept claimed ?_
    simp only [held, RetransmissionCache.held, enter, hand, WorkerPhase.slot]
    rw [add_assoc _ (only _) (tableSlots _), add_comm (only _) (tableSlots _), swap]
    abel
  | dropped rejected =>
    refine .kept rfl ?_
    simp only [held, enter, complete, rejected, WorkerPhase.slot]
  | @freed k releasing =>
    have hand : p.worker.phase.slot = some k := by rw [releasing]; rfl
    have pending : p.worker.loop.pending = p.worker.pending := rfl
    refine .released k rfl ?_
    simp only [held, release, hand, pending, loop_slot, only_none, only_some]
    abel
  | @evicted ticket k stored =>
    refine .released k rfl ?_
    simp only [held, enter, release, stored, WorkerPhase.slot, only_none, only_some]
    abel
  | sent stored =>
    have hand : p.worker.phase.slot = none := by rw [stored]; rfl
    have pending : p.worker.loop.pending = p.worker.pending := rfl
    refine .kept rfl ?_
    simp only [held, complete, hand, pending, loop_slot]
  | quit before done =>
    refine .kept rfl ?_
    have hand : (WorkerPhase.exiting []).slot = none := rfl
    simp only [held, enter, hand, idle_slot before]
  | @abandon released item rest exiting first =>
    refine .released item.owned rfl ?_
    simp only [held, release, exiting, first, slots_cons, WorkerPhase.slot]
    abel
  | abandoned exiting none =>
    refine .kept rfl ?_
    simp only [held, enter, complete, exiting, WorkerPhase.slot]
  | @clear j k clearing owned =>
    have swap := tableSlots_update p.retransmissionCache.slots j { p.retransmissionCache.slots j with owned := none }
    simp only [owned, only_none, only_some, add_zero] at swap
    refine .released k rfl ?_
    simp only [held, RetransmissionCache.held, release, RetransmissionCache.evict, ← swap]
    abel
  | finish clearing cleared =>
    refine .kept rfl ?_
    simp only [held, enter, clearing, WorkerPhase.slot]
  | halt idle => exact .kept rfl (by simp only [held, idle, StopPhase.slot])
  | close stopping => exact .kept rfl (by simp only [held, stopping, StopPhase.slot])
  | spin _ => exact .kept rfl rfl
  | join spinning _ => exact .kept rfl (by simp only [held, spinning, StopPhase.slot])
  | signal joined => exact .kept rfl (by simp only [held, joined, StopPhase.slot])
  | wake waiting _ => exact .kept rfl (by simp only [held, waiting, StopPhase.slot])
  | drain draining first =>
    refine .kept rfl ?_
    simp only [held, draining, first, slots_cons, StopPhase.slot, only_none, only_some]
    abel
  | drained draining none => exact .kept rfl (by simp only [held, draining, StopPhase.slot])
  | @discard item holding =>
    refine .released item.owned rfl ?_
    simp only [held, release, holding, StopPhase.slot, only_none, only_some]
    abel
  | discarded counting =>
    exact .kept rfl (by simp only [held, complete, counting, StopPhase.slot])

theorem tickets_cons (item : PacedPacket) (rest : List PacedPacket) :
    tickets (item :: rest) = {item.ticket} + tickets rest := by
  rw [Multiset.singleton_add]
  rfl

theorem tickets_perm (same : a.Perm b) : tickets a = tickets b :=
  Multiset.coe_eq_coe.mpr (same.map _)

theorem tickets_snoc (items : List PacedPacket) (item : PacedPacket) :
    tickets (items ++ [item]) = {item.ticket} + tickets items := by
  rw [← tickets_cons]
  exact tickets_perm (List.perm_append_singleton item items)

theorem idle_tickets (idle : phase.idle = true) : phase.tickets = [] := by
  cases phase with
  | top | drain | gap | waiting => rfl
  | _ => cases idle

theorem loop_tickets (w : Worker) : w.loop.phase.tickets = [] := by
  unfold Worker.loop
  split_ifs
  · rfl
  · rfl

inductive Account (p p' : Pacer) : Prop
  | put (puts : p'.puts = p.puts + 1) (awaiting : p'.awaiting = {p.puts} + p.awaiting)
    (counted : p'.counted = p.counted) (completed : p'.completedCount = p.completedCount)
  | counted (l : List Nat) (puts : p'.puts = p.puts) (awaiting : p.awaiting = l + p'.awaiting)
    (counted : p'.counted = p.counted ++ l) (completed : p'.completedCount = p.completedCount + l.length)

theorem Account.kept (puts : p'.puts = p.puts) (awaiting : p'.awaiting = p.awaiting)
    (counted : p'.counted = p.counted) (completed : p'.completedCount = p.completedCount) : Account p p' :=
  .counted [] puts (by simp [awaiting]) (by simp [counted]) completed

theorem Change.account (change : Change p p') : Account p p' := by
  cases change with
  | put here holding room =>
    refine .put rfl ?_ rfl rfl
    simp only [awaiting, goto, tickets_snoc]
    abel
  | shift nacks cache w before after kept same fits =>
    refine .kept rfl ?_ rfl rfl
    simp only [awaiting, tickets_perm same, idle_tickets before, idle_tickets after]
  | receive o w before after claimed first slot ticket same fits =>
    refine .kept rfl ?_ rfl rfl
    simp only [awaiting, first, tickets_perm same, tickets_cons, ticket, idle_tickets before,
      idle_tickets after]
    abel
  | @pop item rest before first =>
    have hand : (p.worker.pop item rest).phase.tickets = [item.ticket] := rfl
    have pending : (p.worker.pop item rest).pending = rest := rfl
    refine .kept rfl ?_ rfl rfl
    simp only [awaiting, hand, pending, first, tickets_cons, idle_tickets before, Multiset.coe_singleton,
      Multiset.coe_nil]
    abel
  | reject o hand claimed | store o j hand claimed =>
    refine .kept rfl ?_ rfl rfl
    simp only [awaiting, enter, hand, WorkerPhase.tickets]
  | @dropped item rejected =>
    refine .counted [item.ticket] rfl ?_ rfl rfl
    simp only [awaiting, enter, complete, rejected, WorkerPhase.tickets, Multiset.coe_nil]
    abel
  | freed releasing =>
    have hand : p.worker.phase.tickets = [] := by rw [releasing]; rfl
    have pending : p.worker.loop.pending = p.worker.pending := rfl
    refine .kept rfl ?_ rfl rfl
    simp only [awaiting, release, hand, pending, loop_tickets]
  | evicted stored =>
    refine .kept rfl ?_ rfl rfl
    simp only [awaiting, release, enter, stored, WorkerPhase.tickets]
  | @sent ticket stored =>
    have hand : p.worker.phase.tickets = [ticket] := by rw [stored]; rfl
    have pending : p.worker.loop.pending = p.worker.pending := rfl
    refine .counted [ticket] rfl ?_ rfl rfl
    simp only [awaiting, complete, hand, pending, loop_tickets, Multiset.coe_nil]
    abel
  | quit before done =>
    have hand : (WorkerPhase.exiting []).tickets = [] := rfl
    refine .kept rfl ?_ rfl rfl
    simp only [awaiting, enter, hand, idle_tickets before]
  | abandon exiting first =>
    refine .kept rfl ?_ rfl rfl
    simp only [awaiting, release, exiting, first, tickets_cons, WorkerPhase.tickets, ← Multiset.coe_add,
      Multiset.coe_singleton]
    abel
  | @abandoned released exiting none =>
    refine .counted released rfl ?_ rfl rfl
    simp only [awaiting, enter, complete, exiting, WorkerPhase.tickets, Multiset.coe_nil]
    abel
  | finish clearing cleared =>
    refine .kept rfl ?_ rfl rfl
    simp only [awaiting, enter, clearing, WorkerPhase.tickets]
  | halt idle => exact .kept rfl (by simp only [awaiting, idle, StopPhase.tickets]) rfl rfl
  | close stopping => exact .kept rfl (by simp only [awaiting, stopping, StopPhase.tickets]) rfl rfl
  | join spinning _ => exact .kept rfl (by simp only [awaiting, spinning, StopPhase.tickets]) rfl rfl
  | signal joined => exact .kept rfl (by simp only [awaiting, joined, StopPhase.tickets]) rfl rfl
  | wake waiting _ => exact .kept rfl (by simp only [awaiting, waiting, StopPhase.tickets]) rfl rfl
  | drain draining first =>
    refine .kept rfl ?_ rfl rfl
    simp only [awaiting, draining, first, tickets_cons, StopPhase.tickets, Multiset.coe_singleton,
      Multiset.coe_nil]
    abel
  | drained draining none => exact .kept rfl (by simp only [awaiting, draining, StopPhase.tickets]) rfl rfl
  | discard holding =>
    exact .kept rfl (by simp only [awaiting, release, holding, StopPhase.tickets]) rfl rfl
  | @discarded ticket counting =>
    refine .counted [ticket] rfl ?_ rfl rfl
    simp only [awaiting, complete, counting, StopPhase.tickets, Multiset.coe_nil]
    abel
  | call | aside | turn | admission | claim | enqueued | refused | leave | clear | spin =>
    exact .kept rfl rfl rfl rfl

end Pacer

end Relay
