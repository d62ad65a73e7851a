import Relay.Downlink.Pacer

/-! What one step of the pacer can change, with the guards that its invariants need. The
numbers of a packet and the worker's translator are left open. -/
namespace Relay

namespace ProducerPhase

def inside : ProducerPhase → Bool
  | .called | .loaded _ | .returned => false
  | _ => true

def slot : ProducerPhase → Option Slot
  | .holding k _ | .full k => some k
  | _ => none

def uncounted : ProducerPhase → Bool
  | .sent => true
  | _ => false

def Alike (a b : ProducerPhase) : Prop :=
  a.inside = b.inside ∧ a.slot = b.slot ∧ a.uncounted = b.uncounted

end ProducerPhase

namespace WorkerPhase

def idle : WorkerPhase → Bool
  | .top | .drain | .gap | .waiting => true
  | _ => false

end WorkerPhase

def Worker.Fits (w : Worker) : Prop :=
  match w.phase with
  | .top | .clearing | .finished => w.pending = []
  | .drain | .gap | .exiting _ => w.pending.length ≤ pendingCapacity
  | _ => w.pending.length < pendingCapacity

namespace Pacer

inductive Change (p : Pacer) : Pacer → Prop
  | call (packet : Option RtpPacket) (source : SourceIdentity) :
    Change p { p with producers := p.producers ++ [⟨packet, source, .called⟩] }
  | aside (handlers nacks : List UInt16) (cache : RetransmissionCache)
    (kept : ∀ j, (cache.slots j).owned = (p.retransmissionCache.slots j).owned) :
    Change p { p with handlers := handlers, nacks := nacks, retransmissionCache := cache }
  | turn {i : Nat} {q : Producer} (here : p.producers[i]? = some q) (phase : ProducerPhase) (next : UInt32)
    (alike : phase.Alike q.phase) :
    Change p { p.goto i q phase with nextOwnedSlot := next }
  | admission {i : Nat} {q : Producer} {state : EnqueueState} (here : p.producers[i]? = some q)
    (loaded : q.phase = .loaded state) (opened : p.enqueueState.closed = false) :
    Change p { p.goto i q .admitted with
      enqueueState := { p.enqueueState with active := p.enqueueState.active + 1 } }
  | claim {i : Nat} {q : Producer} {pkt : RtpPacket} {startSlot offsetCount : Nat}
    (here : p.producers[i]? = some q) (searching : q.phase = .searching pkt startSlot offsetCount)
    (k : Slot) (free : p.ownedPackets.claimed k = false) (now : Time) :
    Change p { p.goto i q (.holding k now) with ownedPackets := p.ownedPackets.claim k pkt }
  | put {i : Nat} {q : Producer} {k : Slot} {enqueuedAt : Time} (here : p.producers[i]? = some q)
    (holding : q.phase = .holding k enqueuedAt) (room : p.queue.length < defaultPacerCapacity) :
    Change p { p.goto i q .sent with
      queue := p.queue ++ [⟨k, enqueuedAt, q.source, 0, p.puts⟩], puts := p.puts + 1 }
  | enqueued {i : Nat} {q : Producer} (here : p.producers[i]? = some q) (sent : q.phase = .sent) :
    Change p { p.goto i q .leaving with enqueuedCount := p.enqueuedCount + 1 }
  | refused {i : Nat} {q : Producer} {k : Slot} (here : p.producers[i]? = some q) (full : q.phase = .full k) :
    Change p ((p.release k).goto i q .leaving)
  | leave {i : Nat} {q : Producer} (here : p.producers[i]? = some q) (leaving : q.phase = .leaving) :
    Change p { p.goto i q .returned with
      enqueueState := { p.enqueueState with active := p.enqueueState.active - 1 } }
  | shift (nacks : List UInt16) (cache : RetransmissionCache) (w : Worker)
    (before : p.worker.phase.idle = true) (after : w.phase.idle = true)
    (kept : ∀ j, (cache.slots j).owned = (p.retransmissionCache.slots j).owned)
    (same : w.pending.Perm p.worker.pending) (fits : p.worker.Fits → w.Fits) :
    Change p { p with nacks := nacks, retransmissionCache := cache, worker := w }
  | receive {item item' : PacedPacket} {rest : List PacedPacket} (o : OwnedPackets) (w : Worker)
    (before : p.worker.phase.idle = true) (after : w.phase.idle = true)
    (claimed : o.claimed = p.ownedPackets.claimed) (first : p.queue = item :: rest)
    (slot : item'.owned = item.owned) (ticket : item'.ticket = item.ticket)
    (same : w.pending.Perm (item' :: p.worker.pending)) (fits : p.worker.Fits → w.Fits) :
    Change p { p with queue := rest, ownedPackets := o, worker := w }
  | pop {item : PacedPacket} {rest : List PacedPacket} (before : p.worker.phase.idle = true)
    (first : p.worker.pending = item :: rest) :
    Change p { p with worker := p.worker.pop item rest }
  | reject {item : PacedPacket} (o : OwnedPackets) (hand : p.worker.phase = .hand item)
    (claimed : o.claimed = p.ownedPackets.claimed) :
    Change p { p.enter (.rejected item) with ownedPackets := o }
  | store {item : PacedPacket} (o : OwnedPackets) (j : Fin retransmissionCachePackets)
    (hand : p.worker.phase = .hand item) (claimed : o.claimed = p.ownedPackets.claimed) :
    Change p { p.enter (.stored item.ticket (p.retransmissionCache.slots j).owned) with
      ownedPackets := o
      retransmissionCache := { p.retransmissionCache with
        slots := Function.update p.retransmissionCache.slots j ⟨some item.owned, 0, 0⟩ } }
  | dropped {item : PacedPacket} (rejected : p.worker.phase = .rejected item) :
    Change p ((p.complete [item.ticket]).enter (.releasing item.owned))
  | freed {k : Slot} (releasing : p.worker.phase = .releasing k) :
    Change p { p.release k with worker := p.worker.loop }
  | evicted {ticket : Nat} {k : Slot} (stored : p.worker.phase = .stored ticket (some k)) :
    Change p ((p.release k).enter (.stored ticket none))
  | sent {ticket : Nat} (stored : p.worker.phase = .stored ticket none) :
    Change p { p.complete [ticket] with worker := p.worker.loop }
  | quit (before : p.worker.phase.idle = true) (done : p.done = true) : Change p (p.enter (.exiting []))
  | abandon {released : List Nat} {item : PacedPacket} {rest : List PacedPacket}
    (exiting : p.worker.phase = .exiting released) (first : p.worker.pending = item :: rest) :
    Change p { p.release item.owned with
      worker := { p.worker with pending := rest, phase := .exiting (released ++ [item.ticket]) } }
  | abandoned {released : List Nat} (exiting : p.worker.phase = .exiting released)
    (none : p.worker.pending = []) : Change p ((p.complete released).enter .clearing)
  | clear {j : Fin retransmissionCachePackets} {k : Slot} (clearing : p.worker.phase = .clearing)
    (owned : (p.retransmissionCache.slots j).owned = some k) :
    Change p { p.release k with retransmissionCache := p.retransmissionCache.evict j }
  | finish (clearing : p.worker.phase = .clearing)
    (cleared : ∀ j, (p.retransmissionCache.slots j).owned = none) :
    Change p { p.enter .finished with workerDone := true }
  | halt (idle : p.stop = .idle) : Change p { p with stopped := true, stop := .stopping }
  | close (stopping : p.stop = .stopping) :
    Change p { p with enqueueState := { p.enqueueState with closed := true }, stop := .spinning }
  | spin (spinning : p.stop = .spinning) : Change p p
  | join (spinning : p.stop = .spinning) (none : p.enqueueState.active = 0) :
    Change p { p with stop := .joined }
  | signal (joined : p.stop = .joined) : Change p { p with done := true, stop := .waiting }
  | wake (waiting : p.stop = .waiting) (finished : p.workerDone = true) :
    Change p { p with stop := .draining }
  | drain {item : PacedPacket} {rest : List PacedPacket} (draining : p.stop = .draining)
    (first : p.queue = item :: rest) : Change p { p with queue := rest, stop := .holding item }
  | drained (draining : p.stop = .draining) (none : p.queue = []) : Change p { p with stop := .returned }
  | discard {item : PacedPacket} (holding : p.stop = .holding item) :
    Change p { p.release item.owned with stop := .counting item.ticket }
  | discarded {ticket : Nat} (counting : p.stop = .counting ticket) :
    Change p { p.complete [ticket] with stop := .draining }

variable {marshalSize : RtpPacket → Nat} {p p' : Pacer}
variable {now : Time} {move : WorkerMove}

theorem produce_change {i : Nat} {q : Producer} (here : p.producers[i]? = some q)
    (step : p.produce marshalSize i q now = some p') : Change p p' := by
  -- a turn that keeps the slot counter
  have turn : ∀ phase : ProducerPhase, phase.Alike q.phase → Change p (p.goto i q phase) :=
    fun phase alike => .turn here phase p.nextOwnedSlot alike
  unfold produce at step
  cases phase : q.phase with
  | called =>
    simp only [phase, Option.some.injEq] at step
    subst step
    exact turn _ (by rw [phase]; exact ⟨rfl, rfl, rfl⟩)
  | loaded state =>
    simp only [phase] at step
    split_ifs at step with closed current
    · cases step
      exact turn _ (by rw [phase]; exact ⟨rfl, rfl, rfl⟩)
    · cases step
      subst current
      exact .admission here phase (by simpa using closed)
    · cases step
      exact turn _ (by rw [phase]; exact ⟨rfl, rfl, rfl⟩)
  | admitted =>
    simp only [phase] at step
    cases packet : q.packet with
    | none =>
      simp only [packet, Option.some.injEq] at step
      subst step
      exact turn _ (by rw [phase]; exact ⟨rfl, rfl, rfl⟩)
    | some pkt =>
      simp only [packet] at step
      split_ifs at step
      · cases step
        exact .turn here _ _ (by rw [phase]; exact ⟨rfl, rfl, rfl⟩)
      · cases step
        exact turn _ (by rw [phase]; exact ⟨rfl, rfl, rfl⟩)
  | searching pkt startSlot offsetCount =>
    simp only [phase] at step
    split_ifs at step with inside taken
    · cases step
      exact turn _ (by rw [phase]; exact ⟨rfl, rfl, rfl⟩)
    · cases step
      exact .claim here phase _ (by simpa using taken) now
    · cases step
      exact turn _ (by rw [phase]; exact ⟨rfl, rfl, rfl⟩)
  | holding k enqueuedAt =>
    simp only [phase] at step
    split_ifs at step with room
    · cases step
      exact .put here phase room
    · cases step
      exact turn _ (by rw [phase]; exact ⟨rfl, rfl, rfl⟩)
  | sent =>
    simp only [phase, Option.some.injEq] at step
    subst step
    exact .enqueued here phase
  | full k =>
    simp only [phase, Option.some.injEq] at step
    subst step
    exact .refused here phase
  | leaving =>
    simp only [phase, Option.some.injEq] at step
    subst step
    exact .leave here phase
  | returned => simp [phase] at step

theorem stop_change (step : p.stopStep = some p') : Change p p' := by
  unfold stopStep at step
  cases phase : p.stop with
  | idle =>
    simp only [phase, Option.some.injEq] at step
    exact step ▸ .halt phase
  | stopping =>
    simp only [phase, Option.some.injEq] at step
    exact step ▸ .close phase
  | spinning =>
    simp only [phase, Option.some.injEq] at step
    split_ifs at step with none
    · exact step ▸ .join phase none
    · exact step ▸ .spin phase
  | joined =>
    simp only [phase, Option.some.injEq] at step
    exact step ▸ .signal phase
  | waiting =>
    simp only [phase] at step
    split_ifs at step with finished
    cases step
    exact .wake phase finished
  | draining =>
    simp only [phase] at step
    split at step
    · rename_i queue
      cases step
      exact .drained phase queue
    · rename_i item rest queue
      cases step
      exact .drain phase queue
  | holding item =>
    simp only [phase, Option.some.injEq] at step
    exact step ▸ .discard phase
  | counting ticket =>
    simp only [phase, Option.some.injEq] at step
    exact step ▸ .discarded phase
  | returned => simp [phase] at step

theorem receive_some (step : p.receive = some p') :
    ∃ item rest item' o w, p.queue = item :: rest ∧ item'.owned = item.owned ∧ item'.ticket = item.ticket ∧
      o.claimed = p.ownedPackets.claimed ∧ w.pending = p.worker.pending ++ [item'] ∧
      w.phase = p.worker.phase ∧ p' = { p with queue := rest, ownedPackets := o, worker := w } := by
  unfold receive at step
  split at step
  · cases step
  · rename_i item rest queue
    cases step
    let prepared := p.prepareForwardItem item
    exact ⟨item, rest, prepared.2, prepared.1.ownedPackets,
      { prepared.1.worker with pending := p.worker.pending ++ [prepared.2] },
      queue, rfl, rfl, rfl, rfl, rfl, rfl⟩

theorem retransmit_some {nowNs : Int} (step : p.retransmit nowNs = some p') :
    ∃ nacks cache, (∀ j, (cache.slots j).owned = (p.retransmissionCache.slots j).owned) ∧
      p' = { p with nacks := nacks, retransmissionCache := cache } := by
  unfold retransmit at step
  split at step
  · cases step
  · cases step
    exact ⟨_, _, RetransmissionCache.load_owned _ _ _ _, rfl⟩

theorem quit_change (before : p.worker.phase.idle = true) (step : p.quit = some p') : Change p p' := by
  obtain ⟨done, rfl⟩ := Option.guarded step
  exact .quit before done

theorem sortPacedPackets_perm (items : List PacedPacket) : (sortPacedPackets items).Perm items :=
  List.perm_insertionSort _ _

theorem write_change {item : PacedPacket} {ok : Bool} (hand : p.worker.phase = .hand item) :
    Change p (p.writeForwardItem item now ok) := by
  unfold writeForwardItem
  split_ifs with stale sent
  · exact .reject p.ownedPackets hand rfl
  · exact .store _ _ hand rfl
  · exact .reject _ hand rfl

theorem selectTop_change (phase : p.worker.phase = .top) (step : p.selectTop move = some p') : Change p p' := by
  have idle : p.worker.phase.idle = true := by rw [phase]; rfl
  unfold selectTop at step
  split at step
  · exact quit_change idle step
  · obtain ⟨nacks, cache, kept, rfl⟩ := retransmit_some step
    exact .shift nacks cache p.worker idle idle kept (List.Perm.refl _) fun fits => fits
  · obtain ⟨_, received, rfl⟩ := Option.map_eq_some_iff.mp step
    obtain ⟨item, rest, item', o, w, queue, slot, ticket, claimed, pending, _, rfl⟩ := receive_some received
    refine .receive o { w with phase := .drain } idle rfl claimed queue slot ticket ?_ ?_
    · simp only [pending]
      exact List.perm_append_singleton _ _
    · intro fits
      simp only [Worker.Fits, phase] at fits ⊢
      simp [pending, fits, pendingCapacity]
  · cases step

theorem drainQueue_change (phase : p.worker.phase = .drain) (step : p.drainQueue move = some p') : Change p p' := by
  have idle : p.worker.phase.idle = true := by rw [phase]; rfl
  unfold drainQueue at step
  split at step
  · split_ifs at step with room
    obtain ⟨item, rest, item', o, w, queue, slot, ticket, claimed, pending, same, rfl⟩ := receive_some step
    refine .receive o w idle (by rw [same]; exact idle) claimed queue slot ticket ?_ ?_
    · rw [pending]
      exact List.perm_append_singleton _ _
    · intro _
      simp only [Worker.Fits, same, phase, pending, List.length_append, List.length_singleton]
      omega
  · split_ifs at step
    cases step
    refine .shift p.nacks p.retransmissionCache _ idle rfl (fun _ => rfl) (sortPacedPackets_perm _) ?_
    intro fits
    simp only [Worker.Fits, phase] at fits
    simpa [Worker.Fits, enter, sorted, (sortPacedPackets_perm _).length_eq] using fits
  · cases step

theorem checkGap_change (phase : p.worker.phase = .gap) (step : p.checkGap move = some p') : Change p p' := by
  have idle : p.worker.phase.idle = true := by rw [phase]; rfl
  unfold checkGap at step
  split at step
  · split at step
    · cases step
    · rename_i item rest pending
      split_ifs at step with wait
      · cases step
        refine .shift p.nacks p.retransmissionCache { p.worker with phase := .waiting } idle rfl (fun _ => rfl)
          (List.Perm.refl _) ?_
        intro _
        have opened := wait.1
        simp only [Worker.gapOpen, Bool.and_eq_true, decide_eq_true_eq] at opened
        exact opened.2
      · cases step
        exact .pop idle pending
  · cases step

theorem waitGap_change (phase : p.worker.phase = .waiting) (step : p.waitGap move = some p') : Change p p' := by
  have idle : p.worker.phase.idle = true := by rw [phase]; rfl
  unfold waitGap at step
  split at step
  · exact quit_change idle step
  · obtain ⟨_, retransmitted, rfl⟩ := Option.map_eq_some_iff.mp step
    obtain ⟨nacks, cache, kept, rfl⟩ := retransmit_some retransmitted
    refine .shift nacks cache { p.worker with phase := .gap } idle rfl kept (List.Perm.refl _) ?_
    intro fits
    simp only [Worker.Fits, phase] at fits ⊢
    exact fits.le
  · obtain ⟨_, received, rfl⟩ := Option.map_eq_some_iff.mp step
    obtain ⟨item, rest, item', o, w, queue, slot, ticket, claimed, pending, _, rfl⟩ := receive_some received
    refine .receive o { w with phase := .gap, pending := sortPacedPackets w.pending } idle rfl claimed queue
      slot ticket ?_ ?_
    · have appended : w.pending.Perm (item' :: p.worker.pending) := by
        rw [pending]
        exact List.perm_append_singleton _ _
      exact (sortPacedPackets_perm _).trans appended
    · intro fits
      simp only [Worker.Fits, phase] at fits ⊢
      simp only [(sortPacedPackets_perm _).length_eq, pending, List.length_append, List.length_singleton]
      omega
  · split at step
    · cases step
    · rename_i item rest pending
      split_ifs at step
      cases step
      exact .pop idle pending
  · cases step

theorem clearCache_change (clearing : p.worker.phase = .clearing) : Change p p.clearCache := by
  cases found : p.retransmissionCache.occupied with
  | none =>
    simp only [clearCache, found]
    exact .finish clearing (firstOwned_none found)
  | some entry =>
    simp only [clearCache, found]
    exact .clear clearing (firstOwned_some found)

theorem advance_change {phase : WorkerPhase} (here : p.worker.phase = phase)
    (step : p.advance phase = some p') : Change p p' := by
  cases phase with
  | rejected item =>
    cases step
    exact .dropped here
  | releasing k =>
    cases step
    exact .freed here
  | stored ticket previous =>
    cases previous with
    | some k =>
      cases step
      exact .evicted here
    | none =>
      cases step
      exact .sent here
  | exiting released =>
    unfold advance at step
    dsimp only at step
    split at step
    · rename_i pending
      cases step
      exact .abandoned here pending
    · rename_i item rest pending
      cases step
      exact .abandon here pending
  | clearing =>
    cases step
    exact clearCache_change here
  | top | drain | gap | waiting | hand _ | finished => cases step

theorem work_change (step : p.work move = some p') : Change p p' := by
  unfold work at step
  split at step
  · rename_i phase
    exact selectTop_change phase step
  · rename_i phase
    exact drainQueue_change phase step
  · rename_i phase
    exact checkGap_change phase step
  · rename_i phase
    exact waitGap_change phase step
  · rename_i item phase
    split at step
    · cases step
      exact write_change phase
    · cases step
  · split_ifs at step
    exact advance_change rfl step

theorem step_change {e : PacerEvent} (step : p.step marshalSize e = some p') : Change p p' := by
  cases e with
  | call packet source =>
    cases step
    exact .call packet source
  | produce i now =>
    obtain ⟨q, here, produced⟩ := Option.bind_eq_some_iff.mp step
    exact produce_change here produced
  | handleNACK seq =>
    cases step
    split_ifs
    · exact .aside p.handlers p.nacks p.retransmissionCache fun _ => rfl
    · exact .aside (p.handlers ++ [seq]) p.nacks p.retransmissionCache fun _ => rfl
  | offer i =>
    simp only [Pacer.step] at step
    split at step
    · cases step
    · cases step
      exact .aside _ _ p.retransmissionCache fun _ => rfl
  | setRTT rtt =>
    cases step
    refine .aside p.handlers p.nacks _ ?_
    intro j
    unfold RetransmissionCache.setRTT
    split_ifs
    · rfl
    · rfl
  | work move => exact work_change step
  | stop => exact stop_change step

end Pacer

end Relay
