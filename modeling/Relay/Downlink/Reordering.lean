import Relay.Downlink.Shutdown

/-! The order in which the worker of a pacer takes packets to write. Pending packets are
sorted whenever one is taken; a gap before the first of them is waited for, and taken only
when the worker has no room or no time left. -/
namespace Relay

def WorkerPhase.choosing : WorkerPhase → Bool
  | .gap | .waiting => true
  | _ => false

def WorkerPhase.inHand : WorkerPhase → Option PacedPacket
  | .hand item => some item
  | _ => none

def Worker.Ordered (w : Worker) : Prop :=
  w.phase.choosing = true → w.pending.Pairwise fun a b => a.extSeq ≤ b.extSeq

def PacerEvent.moment : PacerEvent → Option Time
  | .work (.check now) | .work (.timeout now) => some now
  | _ => none

theorem sortPacedPackets_pairwise (items : List PacedPacket) :
    (sortPacedPackets items).Pairwise fun a b => a.extSeq ≤ b.extSeq := by
  have total : Std.Total fun a b : PacedPacket => a.extSeq ≤ b.extSeq := ⟨fun a b => le_total a.extSeq b.extSeq⟩
  have trans : IsTrans PacedPacket fun a b => a.extSeq ≤ b.extSeq := ⟨fun _ _ _ => le_trans⟩
  exact List.pairwise_insertionSort _ items

namespace Pacer

def taken (x : Step Pacer PacerEvent) : Option PacedPacket :=
  if x.before.worker.phase.choosing then x.after.worker.phase.inHand else none

/-- No room for another packet, or a pending packet that has waited its time. -/
def Caused (x : Step Pacer PacerEvent) : Prop :=
  x.before.worker.pending.length = pendingCapacity ∨
    ∃ now ∈ x.event.moment, ∃ y ∈ x.before.worker.pending, y.enqueuedAt + defaultForwardReorderWait ≤ now

instance (x : Step Pacer PacerEvent) : Decidable (Caused x) :=
  inferInstanceAs (Decidable (_ ∨ ∃ now ∈ x.event.moment, ∃ y ∈ x.before.worker.pending, _))

def released (h : List (Step Pacer PacerEvent)) : List Int := (h.filterMap taken).map PacedPacket.extSeq

def advanced (x : Step Pacer PacerEvent) : Option Int :=
  (taken x).bind fun item =>
    if !x.before.worker.haveReleased || x.before.worker.lastReleasedExtSeq < item.extSeq then some item.extSeq else none

variable {marshalSize : RtpPacket → Nat} {p p' : Pacer} {e : PacerEvent}

inductive Turn (p : Pacer) (e : PacerEvent) (w : Worker) : Prop
  | keep (released : w.haveReleased = p.worker.haveReleased) (last : w.lastReleasedExtSeq = p.worker.lastReleasedExtSeq)
    (none : p.worker.phase.choosing = true → w.phase.inHand = none) (ordered : p.worker.Ordered → w.Ordered)
  | take {item : PacedPacket} {rest : List PacedPacket} (choosing : p.worker.phase.choosing = true)
    (first : p.worker.pending = item :: rest) (popped : w = p.worker.pop item rest)
    (cause : p.worker.gapOpen item = false ∨ ∃ now ∈ e.moment, Worker.deadline item rest ≤ now)

theorem receive_worker (step : p.receive = some p') :
    p'.worker.haveReleased = p.worker.haveReleased ∧ p'.worker.lastReleasedExtSeq = p.worker.lastReleasedExtSeq ∧
      p'.worker.phase = p.worker.phase := by
  unfold receive at step
  split at step
  · cases step
  · cases step
    exact ⟨rfl, rfl, rfl⟩

theorem retransmit_worker {nowNs : Int} (step : p.retransmit nowNs = some p') : p'.worker = p.worker := by
  obtain ⟨nacks, cache, _, rfl⟩ := retransmit_some step
  rfl

theorem Turn.leave (released : p'.worker.haveReleased = p.worker.haveReleased)
    (last : p'.worker.lastReleasedExtSeq = p.worker.lastReleasedExtSeq) (choosing : p'.worker.phase.choosing = false)
    (none : p.worker.phase.choosing = true → p'.worker.phase.inHand = none) : Turn p e p'.worker :=
  .keep released last none fun _ within => absurd within (by simp [choosing])

theorem Turn.aside (same : p'.worker = p.worker) : Turn p e p'.worker := by
  rw [same]
  refine .keep rfl rfl ?_ id
  intro choosing
  cases phase : p.worker.phase with
  | hand item => simp [phase, WorkerPhase.choosing] at choosing
  | _ => rfl

variable {first : Int} {now : Time} {n : Nat} {rest : List PacedPacket} {item : PacedPacket} {x : Step Pacer PacerEvent}
  {move : WorkerMove}

theorem selectTop_turn (step : p.selectTop move = some p') : Turn p e p'.worker := by
  unfold selectTop at step
  split at step
  · obtain ⟨_, rfl⟩ := Option.guarded step
    exact .leave rfl rfl rfl fun _ => rfl
  · exact .aside (retransmit_worker step)
  · obtain ⟨q, received, rfl⟩ := Option.map_eq_some_iff.mp step
    obtain ⟨released, last, _⟩ := receive_worker received
    exact .leave released last rfl fun _ => rfl
  · cases step

theorem drainQueue_turn (phase : p.worker.phase = .drain) (step : p.drainQueue move = some p') :
    Turn p e p'.worker := by
  unfold drainQueue at step
  split at step
  · split_ifs at step
    obtain ⟨released, last, same⟩ := receive_worker step
    rw [phase] at same
    exact .leave released last (by rw [same]; rfl) (fun _ => by rw [same]; rfl)
  · split_ifs at step
    cases step
    exact .keep rfl rfl (fun _ => rfl) fun _ _ => sortPacedPackets_pairwise _
  · cases step

theorem checkGap_turn (phase : p.worker.phase = .gap) (step : p.checkGap move = some p') :
    Turn p (.work move) p'.worker := by
  have choosing : p.worker.phase.choosing = true := by rw [phase]; rfl
  unfold checkGap at step
  split at step
  · rename_i now
    split at step
    · cases step
    · rename_i item rest pending
      split_ifs at step with wait
      · cases step
        exact .keep rfl rfl (fun _ => rfl) fun ordered _ => ordered choosing
      · cases step
        refine .take choosing pending rfl ?_
        by_cases opened : p.worker.gapOpen item = true
        · exact .inr ⟨now, rfl, not_lt.mp fun early => wait ⟨opened, early⟩⟩
        · exact .inl (by simpa using opened)
  · cases step

theorem waitGap_turn (phase : p.worker.phase = .waiting) (step : p.waitGap move = some p') :
    Turn p (.work move) p'.worker := by
  have choosing : p.worker.phase.choosing = true := by rw [phase]; rfl
  unfold waitGap at step
  split at step
  · obtain ⟨_, rfl⟩ := Option.guarded step
    exact .leave rfl rfl rfl fun _ => rfl
  · obtain ⟨q, retransmitted, rfl⟩ := Option.map_eq_some_iff.mp step
    have same := retransmit_worker retransmitted
    refine .keep ?_ ?_ (fun _ => rfl) fun ordered _ => ?_
    · simp only [enter, same]
    · simp only [enter, same]
    · simpa only [enter, same] using ordered choosing
  · obtain ⟨q, received, rfl⟩ := Option.map_eq_some_iff.mp step
    obtain ⟨released, last, _⟩ := receive_worker received
    exact .keep released last (fun _ => rfl) fun _ _ => sortPacedPackets_pairwise _
  · rename_i now
    split at step
    · cases step
    · rename_i item rest pending
      split_ifs at step with late
      cases step
      exact .take choosing pending rfl (.inr ⟨now, rfl, late⟩)
  · cases step

theorem loop_turn (w : Worker) :
    w.loop.haveReleased = w.haveReleased ∧ w.loop.lastReleasedExtSeq = w.lastReleasedExtSeq ∧
    w.loop.phase.choosing = false ∧ w.loop.phase.inHand = none := by
  unfold Worker.loop
  split_ifs <;> exact ⟨rfl, rfl, rfl, rfl⟩

theorem advance_turn {phase : WorkerPhase} (step : p.advance phase = some p') : Turn p e p'.worker := by
  obtain ⟨released, last, choosing, none⟩ := loop_turn p.worker
  cases phase with
  | rejected item =>
    cases step
    exact .leave rfl rfl rfl fun _ => rfl
  | releasing k =>
    cases step
    exact .leave released last choosing fun _ => none
  | stored ticket previous =>
    cases previous with
    | some k =>
      cases step
      exact .leave rfl rfl rfl fun _ => rfl
    | none =>
      cases step
      exact .leave released last choosing fun _ => none
  | exiting released =>
    unfold advance at step
    dsimp only at step
    split at step
    · cases step
      exact .leave rfl rfl rfl fun _ => rfl
    · cases step
      exact .leave rfl rfl rfl fun _ => rfl
  | clearing =>
    cases step
    unfold clearCache
    split
    · exact .leave rfl rfl rfl fun _ => rfl
    · exact .aside rfl
  | top | drain | gap | waiting | hand _ | finished => cases step

theorem write_turn {ok : Bool} (hand : p.worker.phase = .hand item) :
    Turn p e (p.writeForwardItem item now ok).worker := by
  have unchoosing : p.worker.phase.choosing = true → False := by
    rw [hand]
    exact nofun
  unfold writeForwardItem
  dsimp only
  split_ifs <;> exact .leave rfl rfl rfl fun within => absurd within unchoosing

theorem work_turn (step : p.work move = some p') : Turn p (.work move) p'.worker := by
  unfold work at step
  split at step
  · exact selectTop_turn step
  · rename_i phase
    exact drainQueue_turn phase step
  · rename_i phase
    exact checkGap_turn phase step
  · rename_i phase
    exact waitGap_turn phase step
  · rename_i item phase
    split at step
    · cases step
      exact write_turn phase
    · cases step
  · split_ifs at step
    exact advance_turn step

theorem produce_worker {i : Nat} {q : Producer} (step : p.produce marshalSize i q now = some p') :
    p'.worker = p.worker := by
  unfold produce at step
  split at step
  · cases step
    rfl
  · split_ifs at step <;> cases step <;> rfl
  · split at step
    · cases step
      rfl
    · split_ifs at step <;> cases step <;> rfl
  · dsimp only at step
    split_ifs at step <;> cases step <;> rfl
  · split_ifs at step <;> cases step <;> rfl
  · cases step
    rfl
  · cases step
    rfl
  · cases step
    rfl
  · cases step

theorem stop_worker (step : p.stopStep = some p') : p'.worker = p.worker := by
  unfold stopStep at step
  split at step
  · cases step
    rfl
  · cases step
    rfl
  · cases step
    split_ifs <;> rfl
  · cases step
    rfl
  · split_ifs at step
    cases step
    rfl
  · split at step <;> cases step <;> rfl
  · cases step
    rfl
  · cases step
    rfl
  · cases step

theorem step_turn (step : p.step marshalSize e = some p') : Turn p e p'.worker := by
  cases e with
  | call packet source | setRTT rtt =>
    cases step
    exact .aside rfl
  | produce i now =>
    obtain ⟨q, here, produced⟩ := Option.bind_eq_some_iff.mp step
    exact .aside (produce_worker produced)
  | handleNACK seq =>
    cases step
    split_ifs <;> exact .aside rfl
  | offer i =>
    simp only [Pacer.step] at step
    split at step
    · cases step
    · cases step
      exact .aside rfl
  | work move => exact work_turn step
  | stop => exact .aside (stop_worker step)

theorem ordered_of_run {h : List (Step Pacer PacerEvent)} (run : Runs marshalSize h p) : p.worker.Ordered := by
  refine run.invariant (I := fun p => p.worker.Ordered) ?_ nofun
  intro p e p' ordered step
  cases step_turn step with
  | keep _ _ _ kept => exact kept ordered
  | take choosing first popped cause =>
    rw [popped]
    exact nofun

theorem taken_keep (none : p.worker.phase.choosing = true → p'.worker.phase.inHand = none) :
    taken ⟨p, e, p'⟩ = .none := by
  unfold taken
  split_ifs with choosing
  · exact none choosing
  · rfl

theorem taken_pop (choosing : p.worker.phase.choosing = true) (popped : p'.worker = p.worker.pop item rest) :
    taken ⟨p, e, p'⟩ = some item := by
  simp only [taken, choosing, popped, if_true]
  rfl

theorem taken_some (step : p.step marshalSize e = some p') (took : taken ⟨p, e, p'⟩ = some item) :
    p.worker.phase.choosing = true ∧ ∃ rest, p.worker.pending = item :: rest ∧ p'.worker = p.worker.pop item rest ∧
      (p.worker.gapOpen item = false ∨ ∃ now ∈ e.moment, Worker.deadline item rest ≤ now) := by
  cases step_turn step with
  | keep _ _ none _ =>
    rw [taken_keep none] at took
    cases took
  | take choosing first popped cause =>
    rw [taken_pop choosing popped] at took
    cases took
    exact ⟨choosing, _, first, popped, cause⟩

theorem deadline_mem (item : PacedPacket) (rest : List PacedPacket) :
    ∃ y ∈ item :: rest, Worker.deadline item rest = y.enqueuedAt + defaultForwardReorderWait := by
  unfold Worker.deadline
  induction rest generalizing item with
  | nil => exact ⟨item, List.mem_cons_self, rfl⟩
  | cons x rest ih =>
    rw [List.foldl_cons]
    split_ifs
    · obtain ⟨y, member, oldest⟩ := ih x
      exact ⟨y, List.mem_cons_of_mem _ member, oldest⟩
    · obtain ⟨y, member, oldest⟩ := ih item
      refine ⟨y, ?_, oldest⟩
      rcases List.mem_cons.mp member with rfl | later
      · exact List.mem_cons_self
      · exact List.mem_cons_of_mem _ (List.mem_cons_of_mem _ later)

theorem full_of_closed (choosing : p.worker.phase.choosing = true) (fits : p.worker.Fits)
    (have' : p.worker.haveReleased = true) (gap : p.worker.lastReleasedExtSeq + 1 < item.extSeq)
    (closed : p.worker.gapOpen item = false) : p.worker.pending.length = pendingCapacity := by
  have full : ¬ p.worker.pending.length < pendingCapacity := by simpa [Worker.gapOpen, have', gap] using closed
  unfold Worker.Fits at fits
  cases phase : p.worker.phase with
  | gap =>
    rw [phase] at fits
    exact le_antisymm fits (not_lt.mp full)
  | waiting =>
    rw [phase] at fits
    exact absurd fits full
  | _ => simp [phase, WorkerPhase.choosing] at choosing

theorem taken_smallest (ordered : p.worker.Ordered) (fits : p.worker.Fits) (step : p.step marshalSize e = some p')
    (took : taken ⟨p, e, p'⟩ = some item) :
    item ∈ p.worker.pending ∧ (∀ y ∈ p.worker.pending, item.extSeq ≤ y.extSeq) ∧
      (p.worker.haveReleased = true → p.worker.lastReleasedExtSeq + 1 < item.extSeq → Caused ⟨p, e, p'⟩) := by
  obtain ⟨choosing, rest, first, popped, cause⟩ := taken_some step took
  have sorted := ordered choosing
  rw [first] at sorted
  refine ⟨by simp [first], ?_, ?_⟩
  · rw [first]
    intro y member
    rcases List.mem_cons.mp member with rfl | later
    · exact le_rfl
    · exact (List.pairwise_cons.mp sorted).1 y later
  · intro have' gap
    rcases cause with closed | ⟨now, moment, late⟩
    · exact .inl (full_of_closed choosing fits have' gap closed)
    · right
      obtain ⟨y, member, oldest⟩ := deadline_mem item rest
      refine ⟨now, moment, y, ?_, oldest ▸ late⟩
      change y ∈ p.worker.pending
      rw [first]
      exact member

def climb (first : Int) : Nat → List Int
  | 0 => [first]
  | n + 1 => first :: climb (first + 1) n

theorem climb_snoc (first : Int) (n : Nat) : climb first n ++ [first + n + 1] = climb first (n + 1) := by
  induction n generalizing first with
  | zero => simp [climb]
  | succ n ih =>
    rw [climb, List.cons_append, climb, ← ih (first + 1), Nat.cast_add, Nat.cast_one]
    congr 4
    omega

theorem mem_climb {e : Int} : e ∈ climb first n ↔ first ≤ e ∧ e ≤ first + n := by
  induction n generalizing first with
  | zero =>
    rw [climb, List.mem_singleton]
    omega
  | succ n ih =>
    rw [climb, List.mem_cons, ih]
    omega

theorem climb_consecutive (first : Int) (n : Nat) : (climb first n).IsChain fun a b => b = a + 1 := by
  induction n generalizing first with
  | zero => exact .singleton _
  | succ n ih =>
    rw [climb]
    have rest := ih (first + 1)
    cases n with
    | zero | succ n => exact .cons_cons rfl rest

theorem climb_increasing (first : Int) (n : Nat) : (climb first n).Pairwise (· < ·) := by
  induction n generalizing first with
  | zero => exact List.pairwise_singleton _ _
  | succ n ih =>
    refine List.pairwise_cons.mpr ⟨?_, ih (first + 1)⟩
    intro e member
    have above := (mem_climb.mp member).1
    omega

theorem climb_tail_snoc (first : Int) (n : Nat) :
    (climb first n).tail ++ [first + n + 1] = (climb first (n + 1)).tail := by
  rw [← climb_snoc]
  cases n with
  | zero => rfl
  | succ n => rfl

theorem mem_climb_tail {e : Int} (above : first < e) (below : e ≤ first + n) : e ∈ (climb first n).tail := by
  cases n with
  | zero => omega
  | succ n => exact mem_climb.mpr ⟨by omega, by omega⟩

/-- Nothing has been released, or the releases beyond all earlier ones are consecutive and
hold every newer release, as long as no number is released twice. -/
inductive Level (h : List (Step Pacer PacerEvent)) (w : Worker) : Prop
  | empty (none : w.haveReleased = false) (released : released h = []) (advanced : h.filterMap advanced = [])
  | reached (first : Int) (n : Nat) (begun : w.haveReleased = true) (last : w.lastReleasedExtSeq = first + n)
    (head : (released h).head? = some first) (advanced : h.filterMap advanced = climb first n)
    (newer : (released h).Nodup → (released h).filter (first < ·) = (climb first n).tail)

variable {h : List (Step Pacer PacerEvent)}

theorem released_keep (none : taken x = none) :
    released (h ++ [x]) = released h ∧ (h ++ [x]).filterMap advanced = h.filterMap advanced := by
  simp [released, advanced, none]

theorem released_snoc (took : taken x = some item) : released (h ++ [x]) = released h ++ [item.extSeq] := by
  simp [released, took]

theorem Level.take (level : Level h p.worker) (took : taken ⟨p, e, p'⟩ = some item)
    (popped : p'.worker = p.worker.pop item rest)
    (next : p.worker.haveReleased = true → item.extSeq ≤ p.worker.lastReleasedExtSeq + 1) :
    Level (h ++ [⟨p, e, p'⟩]) p'.worker := by
  have more := released_snoc (h := h) took
  cases level with
  | empty none nothing front =>
    have advance : advanced ⟨p, e, p'⟩ = some item.extSeq := by simp [advanced, took, none]
    refine .reached item.extSeq 0 ?_ ?_ ?_ ?_ ?_
    · simp [popped, Worker.pop, none]
    · simp [popped, Worker.pop, none]
    · simp [more, nothing]
    · simp [front, advance, climb]
    · simp [more, nothing, climb]
  | reached first n begun last head front newer =>
    by_cases ahead : p.worker.lastReleasedExtSeq < item.extSeq
    · have number : item.extSeq = first + n + 1 := by
        have bound := next begun
        omega
      have advance : advanced ⟨p, e, p'⟩ = some item.extSeq := by simp [advanced, took, ahead]
      refine .reached first (n + 1) ?_ ?_ ?_ ?_ ?_
      · simp [popped, Worker.pop, begun]
      · rw [popped, Nat.cast_add, ← add_assoc]
        exact (if_pos (by simp [ahead])).trans number
      · rw [more, List.head?_append, head]
        rfl
      · simp [front, advance, number, climb_snoc]
      · intro once
        rw [more] at once ⊢
        have old := newer (List.nodup_append.mp once).1
        have above : first < item.extSeq := by omega
        rw [List.filter_append, old, List.filter_cons_of_pos (by simpa using above), List.filter_nil, number,
          climb_tail_snoc]
    · have advance : advanced ⟨p, e, p'⟩ = none := by simp [advanced, took, ahead, begun]
      refine .reached first n ?_ ?_ ?_ ?_ ?_
      · simp [popped, Worker.pop, begun]
      · rw [popped]
        exact (if_neg (by simp [ahead, begun])).trans last
      · rw [more, List.head?_append, head]
        rfl
      · simp [front, advance]
      · intro once
        rw [more] at once ⊢
        have old := newer (List.nodup_append.mp once).1
        -- a newer packet that does not advance would be one of those already released
        have early : ¬ first < item.extSeq := by
          intro above
          have member := mem_climb_tail above (by omega : item.extSeq ≤ first + n)
          rw [← old] at member
          have again := (List.mem_filter.mp member).1
          exact (List.nodup_append.mp once).2.2 _ again _ (List.mem_singleton_self _) rfl
        rw [List.filter_append, old, List.filter_cons_of_neg (by simpa using early), List.filter_nil, List.append_nil]

theorem level_of_run (run : Runs marshalSize h p)
    (calm : ∀ x ∈ h, taken x ≠ none → ¬ Caused x) : Level h p.worker := by
  refine Exec.history (G := fun h => ∀ x ∈ h, taken x ≠ none → ¬ Caused x) (I := fun h p => Level h p.worker)
    ?_ (.empty rfl rfl rfl) ?_ run calm
  · exact fun calm x member => calm x (List.mem_append_left _ member)
  · intro h p e p' before calm level step
    cases step_turn step with
    | keep begun last none ordered =>
      obtain ⟨same, front⟩ := released_keep (h := h) (taken_keep (e := e) none)
      cases level with
      | empty none nothing advanced => exact .empty (begun.trans none) (same.trans nothing) (front.trans advanced)
      | reached first n some last' head advanced newer =>
        exact .reached first n (begun.trans some) (last.trans last') (same ▸ head) (front.trans advanced) (same ▸ newer)
    | take choosing first popped cause =>
      have took := taken_pop (e := e) choosing popped
      apply level.take took popped
      intro begun
      by_contra gap
      obtain ⟨_, _, caused⟩ := taken_smallest (ordered_of_run before) (sound_of_run before).fits step took
      exact calm ⟨p, e, p'⟩ (by simp) (by simp [took]) (caused begun (not_le.mp gap))

/-- The worker takes the pending packet with the smallest number. It leaves a gap only when it
has no room or no time; in a run without such releases the packets that advance the frontier
are consecutive, and those newer than the first leave in order. -/
theorem gap_released_for_cause (run : Runs marshalSize h p) :
    (∀ x ∈ h, ∀ item ∈ taken x,
        item ∈ x.before.worker.pending ∧ (∀ y ∈ x.before.worker.pending, item.extSeq ≤ y.extSeq) ∧
          (x.before.worker.haveReleased = true → x.before.worker.lastReleasedExtSeq + 1 < item.extSeq → Caused x)) ∧
      ((∀ x ∈ h, taken x ≠ none → ¬ Caused x) →
        (h.filterMap advanced).IsChain (fun a b => b = a + 1) ∧
          ((released h).Nodup → ∀ first ∈ (released h).head?, ((released h).filter (first < ·)).Pairwise (· < ·))) := by
  constructor
  · intro x member item took
    obtain ⟨before, after, rfl⟩ := List.append_of_mem member
    obtain ⟨earlier, step, _⟩ := run.split_step
    exact taken_smallest (ordered_of_run earlier) (sound_of_run earlier).fits step took
  · intro calm
    cases level_of_run run calm with
    | empty none nothing front =>
      rw [front, nothing]
      exact ⟨.nil, fun _ _ first => nomatch first⟩
    | reached first n begun last head front newer =>
      rw [front]
      refine ⟨climb_consecutive first n, ?_⟩
      intro once first' same
      rw [head, Option.mem_some_iff] at same
      subst same
      rw [newer once]
      exact (climb_increasing first n).tail

end Pacer

namespace Plain

def numbered (sequenceNumber : UInt16) : RtpPacket := { voicePacket with sequenceNumber := sequenceNumber }

def produced (i : Nat) (sequenceNumber : UInt16) : List PacerEvent :=
  .call (some (numbered sequenceNumber)) voiceSource :: List.replicate 7 (.produce i 1000)

def works (moves : List WorkerMove) : List PacerEvent := moves.map .work

def reorderedRun : List PacerEvent :=
  produced 0 7 ++ works [.take, .settle, .check 1000, .write 1000 true, .advance] ++
    produced 1 9 ++ works [.take, .settle, .check 1000] ++
    produced 2 8 ++ works [.take, .check 1000, .write 1000 true, .advance, .settle, .check 1000]

end Plain

open Plain in
theorem gap_released_for_cause_reordered :
    Pacer.released (pacerHistory reorderedRun) = [7, 8, 9] ∧
      ((pacerHistory reorderedRun).filterMap Pacer.advanced).IsChain (fun a b => b = a + 1) := by
  have run : Pacer.Runs marshalSize (pacerHistory reorderedRun) (pacerAfter reorderedRun) :=
    runs_of_allows (by decide +kernel)
  have calm : ∀ x ∈ pacerHistory reorderedRun, Pacer.taken x ≠ none → ¬ Pacer.Caused x := by decide +kernel
  exact ⟨by decide +kernel, ((Pacer.gap_released_for_cause run).2 calm).1⟩

end Relay
