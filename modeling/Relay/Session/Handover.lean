import Relay.Session.Forwarding

/-! How the generations of a bus follow one another: which loop may read and deliver, and what
is over once an attachment has been answered. -/
namespace Relay

variable {closed : Bool} {busID : String} {l l' : Lane} {e : LaneEvent} {s s' : LaneSession} {i : Nat}

def LoopPhase.forwarding : LoopPhase → Bool
  | .reading | .got _ | .delivering _ => true
  | _ => false

theorem LoopPhase.running_of_forwarding {phase : LoopPhase} (forwards : phase.forwarding = true) :
    phase.running = true := by
  cases phase with
  | reading | got | delivering => rfl
  | installed | joined | cleared | leaving | detached | arming | finished => cases forwards

namespace Attachment

def Later (a a' : Attachment) : Prop := a'.source = a.source ∧ (a.phase = .finished → a'.phase = .finished)

theorem Later.refl (a : Attachment) : a.Later a := ⟨rfl, id⟩

theorem Moves.later {a a' : Attachment} (moves : a.Moves l i a') : a.Later a' := by
  cases moves with
  | answer launched => exact .refl a
  | join phase | launch phase | read _ phase | fail phase | drop phase | pass phase | deliver phase
  | detach phase | rest phase | finish phase => exact ⟨rfl, by simp [phase]⟩

end Attachment

namespace Lane.Change

theorem serial (change : l.Change closed busID e l') (serial : Serial l.attachments) : Serial l'.attachments := by
  have started : ∀ {i : Nat} {a : Attachment}, l.attachments[i]? = some a → a.phase ≠ .installed →
      ∀ (j : Nat) (b : Attachment), j < i → l.attachments[j]? = some b → b.phase = .finished :=
    fun here phase j b before there => serial j _ b _ before there here phase
  cases change with
  | install => exact serial.snoc rfl
  | move here _ moves => exact moves.serial here serial
  | stopTimers here phase => exact serial.set here (by simp [phase]) fun _ => started here (by simp [phase])
  | arm here phase => exact serial.set here (fun _ => rfl) fun _ => started here (by simp [phase])
  | caller | fire | startClose | finishClose | closer => exact serial

theorem later (change : l.Change closed busID e l') {a : Attachment} (here : l.attachments[i]? = some a) :
    ∃ a', l'.attachments[i]? = some a' ∧ a.Later a' := by
  have replaced : ∀ {j : Nat} {b b' : Attachment}, l.attachments[j]? = some b → b.Later b' →
      ∃ a', (l.attachments.set j b')[i]? = some a' ∧ a.Later a' := by
    intro j b b' there later
    by_cases same : j = i
    · subst same
      rw [there] at here
      cases here
      exact ⟨b', List.getElem?_set_self (List.getElem?_eq_some_iff.mp there).1, later⟩
    · exact ⟨a, by rw [List.getElem?_set_ne same, here], .refl a⟩
  cases change with
  | install => exact ⟨a, Objects.getElem?_snoc_of_some here, .refl a⟩
  | move there _ moves => exact replaced there moves.later
  | stopTimers there phase => exact replaced there ⟨rfl, by simp [phase]⟩
  | arm there phase => exact replaced there ⟨rfl, fun _ => rfl⟩
  | caller | fire | startClose | finishClose | closer => exact ⟨a, here, .refl a⟩

theorem sources (change : l.Change closed busID e l') :
    (∃ n source, e = .install busID n ∧ l'.source = some source ∧
      l'.attachments.map Attachment.source = l.attachments.map Attachment.source ++ [source]) ∨
    (∀ n, e ≠ .install busID n) ∧ l'.attachments.map Attachment.source = l.attachments.map Attachment.source := by
  have replaced : ∀ {j : Nat} {b b' : Attachment}, l.attachments[j]? = some b → b'.source = b.source →
      (l.attachments.set j b').map Attachment.source = l.attachments.map Attachment.source := by
    intro j b b' there same
    rw [List.map_set, same]
    exact Objects.set_same (by rw [List.getElem?_map, there]; rfl)
  cases change with
  | install n source => exact .inl ⟨n, source, rfl, rfl, by simp⟩
  | move there _ moves => exact .inr ⟨nofun, replaced there moves.later.1⟩
  | stopTimers there | arm there => exact .inr ⟨nofun, replaced there rfl⟩
  | caller | fire | startClose | finishClose | closer => exact .inr ⟨nofun, rfl⟩

end Lane.Change

namespace LaneSession

theorem lane_step (step : s.step e = some s') (found : s.lanes.lookup busID = some l) :
    ∃ l', s'.lanes.lookup busID = some l' ∧ (l' = l ∨ l.Change s.closed busID e l') := by
  rcases step_change step with ⟨same, _, _⟩ | ⟨bus, l₀, l', source, change, rfl⟩
  · exact ⟨l, by rw [same, found], .inl rfl⟩
  · by_cases here : bus = busID
    · subst here
      refine ⟨l', AList.lookup_insert _, .inr ?_⟩
      rcases source with known | ⟨absent, _⟩
      · rw [known] at found
        cases found
        exact change
      · rw [absent] at found
        cases found
    · exact ⟨l, by rw [AList.lookup_insert_ne (Ne.symm here), found], .inl rfl⟩

theorem forall_lanes_step {P : Lane → Prop} (fresh : P .new)
    (keeps : ∀ {busID : String} {l l' : Lane}, l.Change s.closed busID e l' → P l → P l')
    (step : s.step e = some s') (all : ∀ busID l, s.lanes.lookup busID = some l → P l) :
    ∀ busID l, s'.lanes.lookup busID = some l → P l := by
  intro busID l found
  rcases step_change step with ⟨same, _, _⟩ | ⟨bus, l₀, l', source, change, rfl⟩
  · rw [same] at found
    exact all busID l found
  · rcases Table.lookup_insert_some.mp found with ⟨rfl, rfl⟩ | ⟨_, old⟩
    · rcases source with known | ⟨_, rfl⟩
      · exact keeps change (all busID l₀ known)
      · exact keeps change fresh
    · exact all busID l old

variable {d : Nat × Nat} {maxBuses : Nat} {x : Step LaneSession LaneEvent} {h : List (Step LaneSession LaneEvent)}

theorem serial_of_run (run : Runs maxBuses h s) : ∀ busID l, s.lanes.lookup busID = some l → Serial l.attachments := by
  apply run.invariant (I := fun s => ∀ busID l, s.lanes.lookup busID = some l → Serial l.attachments)
  · exact fun serial step =>
      forall_lanes_step (P := fun l => Serial l.attachments) (fun i j a b _ first => nomatch first)
        Lane.Change.serial step serial
  · exact nofun

def Past (busID : String) (i : Nat) (s : LaneSession) : Prop :=
  ∃ l, s.lanes.lookup busID = some l ∧ i < l.attachments.length ∧
    ∀ (j : Nat) (a : Attachment), j < i → l.attachments[j]? = some a → a.phase = .finished

theorem Past.step (past : Past busID i s) (step : s.step e = some s') : Past busID i s' := by
  obtain ⟨l, found, inside, ended⟩ := past
  obtain ⟨l', found', same | change⟩ := lane_step step found
  · subst same
    exact ⟨l', found', inside, ended⟩
  · obtain ⟨b, here, _⟩ := change.later (List.getElem?_eq_getElem inside)
    refine ⟨l', found', (List.getElem?_eq_some_iff.mp here).1, ?_⟩
    intro j a' before there
    have old : j < l.attachments.length := Nat.lt_trans before inside
    obtain ⟨c, there', _, stays⟩ := change.later (List.getElem?_eq_getElem old)
    rw [there'] at there
    cases there
    exact stays (ended j _ before (List.getElem?_eq_getElem old))

theorem loop_step {act : LoopAct} (step : s.step (.loop busID i act) = some s') :
    ∃ (l : Lane) (a : Attachment) (l' : Lane), s.lanes.lookup busID = some l ∧ l.attachments[i]? = some a ∧
      l.act i a act = some l' := by
  obtain ⟨l, l', found, result, _⟩ := onLane_some step
  obtain ⟨a, here, taken⟩ := Option.bind_eq_some_iff.mp result
  exact ⟨l, a, l', found, here, taken⟩

theorem deliver_step (step : s.step (.loop busID i .deliver) = some s') :
    ∃ (l : Lane) (a : Attachment) (pkt : RtpPacket), s.lanes.lookup busID = some l ∧ l.attachments[i]? = some a ∧
      a.phase = .delivering pkt := by
  obtain ⟨l, a, l', found, here, taken⟩ := loop_step step
  simp only [Lane.act] at taken
  split at taken
  · rename_i pkt phase
    exact ⟨l, a, pkt, found, here, phase⟩
  · cases taken

theorem answer_step (step : s.step (.loop busID i .answer) = some s') :
    ∃ (l : Lane) (a : Attachment), s.lanes.lookup busID = some l ∧ l.attachments[i]? = some a ∧
      a.phase.launched = true := by
  obtain ⟨l, a, l', found, here, taken⟩ := loop_step step
  simp only [Lane.act] at taken
  split_ifs at taken with launched
  exact ⟨l, a, found, here, launched⟩

theorem past_of_started (serial : ∀ busID l, s.lanes.lookup busID = some l → Serial l.attachments)
    (found : s.lanes.lookup busID = some l) {a : Attachment} (here : l.attachments[i]? = some a)
    (started : a.phase ≠ .installed) : Past busID i s := by
  refine ⟨l, found, (List.getElem?_eq_some_iff.mp here).1, ?_⟩
  intro j b before there
  exact serial busID l found j i b a before there here started

/-! What a history shows of one bus: attachments, answers and deliveries, with the generation
of each. -/

def attached (busID : String) (x : Step LaneSession LaneEvent) : Option (Nat × Nat) :=
  match x.event with
  | .install id _ =>
    if id = busID then
      (x.after.lanes.lookup busID).bind fun l => l.source.map fun source => (l.sourceGeneration, source)
    else none
  | _ => none

def answered (busID : String) (x : Step LaneSession LaneEvent) : Option Nat :=
  match x.event with
  | .loop id i .answer => if id = busID then some (i + 1) else none
  | _ => none

/-- The generation passed to `deliver`, and the source that the packet was read from. -/
def delivered (busID : String) (x : Step LaneSession LaneEvent) : Option (Nat × Nat) :=
  match x.event with
  | .loop id i .deliver =>
    if id = busID then
      ((x.before.lanes.lookup busID).bind fun l => l.attachments[i]?).map fun a => (i + 1, a.source)
    else none
  | _ => none

theorem answered_eq {g : Nat} (answer : answered busID x = some g) :
    ∃ i, x.event = .loop busID i .answer ∧ g = i + 1 := by
  unfold answered at answer
  split at answer
  · rename_i id i event
    split_ifs at answer with same
    cases answer
    exact ⟨i, by rw [event, same], rfl⟩
  · cases answer

theorem delivered_eq (delivery : delivered busID x = some d) :
    ∃ i l a, x.event = .loop busID i .deliver ∧ x.before.lanes.lookup busID = some l ∧
      l.attachments[i]? = some a ∧ d = (i + 1, a.source) := by
  unfold delivered at delivery
  split at delivery
  · rename_i id i event
    split_ifs at delivery with same
    obtain ⟨a, here, rfl⟩ := Option.map_eq_some_iff.mp delivery
    obtain ⟨l, found, here⟩ := Option.bind_eq_some_iff.mp here
    exact ⟨i, l, a, by rw [event, same], found, here, rfl⟩
  · cases delivery

theorem generations_ordered (run : Runs maxBuses h s) (busID : String) :
    h.Pairwise fun x y => ∀ g d, (answered busID x = some g ∨ ∃ source, delivered busID x = some (g, source)) →
      delivered busID y = some d → g ≤ d.1 := by
  apply run.pairwise (P := fun x t => ∀ g, (answered busID x = some g ∨ ∃ source, delivered busID x = some (g, source)) →
    1 ≤ g ∧ Past busID (g - 1) t)
  · intro h t e u before step g reached
    have serial := serial_of_run before
    rcases reached with answer | ⟨source, delivery⟩
    · obtain ⟨i, event, rfl⟩ := answered_eq answer
      cases event
      obtain ⟨l, a, found, here, launched⟩ := answer_step step
      have started : a.phase ≠ .installed := by
        intro same
        rw [same] at launched
        cases launched
      exact ⟨by omega, (past_of_started serial found here started).step step⟩
    · obtain ⟨i, _, _, event, _, _, place⟩ := delivered_eq delivery
      cases event
      cases place
      obtain ⟨l, a, pkt, found, here, phase⟩ := deliver_step step
      exact ⟨by omega, (past_of_started serial found here (by simp [phase])).step step⟩
  · intro x t e u past step g reached
    obtain ⟨positive, past⟩ := past g reached
    exact ⟨positive, past.step step⟩
  · intro x t e u past step g d reached delivery
    obtain ⟨positive, l, found, inside, ended⟩ := past g reached
    obtain ⟨i, _, _, event, _, _, rfl⟩ := delivered_eq delivery
    cases event
    obtain ⟨l', a, pkt, found', here, phase⟩ := deliver_step step
    rw [show t.lanes.lookup busID = some l from found] at found'
    cases found'
    by_contra early
    have finished := ended i a (by omega) here
    rw [phase] at finished
    cases finished

def sources (busID : String) (s : LaneSession) : List Nat :=
  (s.lanes.lookup busID).elim [] fun l => l.attachments.map Attachment.source

theorem attached_of_other (other : ∀ n, x.event ≠ .install busID n) : attached busID x = none := by
  unfold attached
  split
  · rename_i id n event
    rw [if_neg fun here => other n (by rw [← here, event])]
  · rfl

theorem attached_step (step : s.step e = some s') :
    (∃ source, attached busID ⟨s, e, s'⟩ = some ((sources busID s).length + 1, source) ∧
      sources busID s' = sources busID s ++ [source]) ∨
    attached busID ⟨s, e, s'⟩ = none ∧ sources busID s' = sources busID s := by
  by_cases installs : ∃ n, e = .install busID n
  · obtain ⟨n, rfl⟩ := installs
    simp only [LaneSession.step, onLane] at step
    split at step
    · cases step
    · rename_i l found
      obtain ⟨l', installed, rfl⟩ := Option.map_eq_some_iff.mp step
      unfold Lane.install at installed
      split at installed
      · cases installed
      · rename_i source _
        cases installed
        left
        refine ⟨source, ?_, ?_⟩
        · simp [attached, sources, found, Lane.sourceGeneration]
        · simp [sources, found]
  · have other : ∀ n, e ≠ .install busID n := fun n same => installs ⟨n, same⟩
    refine .inr ⟨attached_of_other other, ?_⟩
    unfold sources
    rcases step_change step with ⟨same, _, _⟩ | ⟨bus, l₀, l', source, change, rfl⟩
    · rw [same]
    · by_cases here : busID = bus
      · subst here
        rcases change.sources with ⟨n, _, event, _⟩ | ⟨_, kept⟩
        · exact absurd event (other n)
        · rw [AList.lookup_insert]
          rcases source with known | ⟨absent, rfl⟩
          · rw [known]
            exact kept
          · rw [absent]
            exact kept
      · rw [AList.lookup_insert_ne here]

theorem attached_of_run (run : Runs maxBuses h s) :
    h.filterMap (attached busID) = (sources busID s).mapIdx fun i source => (i + 1, source) := by
  induction run with
  | nil => rfl
  | snoc before step ih =>
    rw [List.filterMap_append, ih]
    rcases attached_step step with ⟨source, attaches, grown⟩ | ⟨silent, same⟩
    · rw [grown, List.mapIdx_concat, List.filterMap_cons_some attaches]
      rfl
    · rw [same, List.filterMap_cons_none silent, List.filterMap_nil, List.append_nil]

theorem generations_of_run (run : Runs maxBuses h s) :
    (h.filterMap (attached busID)).map Prod.fst = List.range' 1 (sources busID s).length := by
  rw [attached_of_run run]
  apply List.ext_getElem
  · simp
  · intro i _ _
    simp [Nat.add_comm]

theorem delivered_attached (run : Runs maxBuses h s) (member : d ∈ h.filterMap (delivered busID)) :
    d ∈ h.filterMap (attached busID) := by
  obtain ⟨x, inside, delivery⟩ := List.mem_filterMap.mp member
  obtain ⟨before, after, rfl⟩ := List.append_of_mem inside
  obtain ⟨i, l, a, _, found, here, rfl⟩ := delivered_eq delivery
  have earlier : before.filterMap (attached busID) = _ := attached_of_run run.split_step.1
  rw [List.filterMap_append]
  apply List.mem_append_left
  rw [earlier, List.mem_mapIdx]
  have known : sources busID x.before = l.attachments.map Attachment.source := by rw [sources, found]; rfl
  have place : i < (sources busID x.before).length := by
    rw [known, List.length_map]
    exact (List.getElem?_eq_some_iff.mp here).1
  refine ⟨i, place, ?_⟩
  obtain ⟨inside, same⟩ := List.getElem?_eq_some_iff.mp here
  simp [known, same]

end LaneSession

/-! Three publishers of one bus: the second and the third are installed while the loop of the
first has a packet in its hands, and each waits for the loop before it. -/
namespace Plain

def forward (i : Nat) : List LaneEvent := [LoopAct.read lanePacket, .check, .deliver].map (.loop "voice" i)

def queued : List LaneEvent :=
  attach "voice" 1 0 ++ forward 0 ++
    ([.loop "voice" 0 (.read lanePacket), .lookup "voice" 2, .lookup "voice" 3, .install "voice" 0, .install "voice" 0,
      .loop "voice" 0 .check, .loop "voice" 0 .deliver] : List LaneEvent) ++
    lose "voice" 0 ++ [LoopAct.join, .stopTimers, .launch].map (LaneEvent.loop "voice" 1) ++ forward 1 ++
    lose "voice" 1 ++ [LoopAct.join, .stopTimers, .launch].map (LaneEvent.loop "voice" 2) ++
    ([.loop "voice" 1 .answer, .loop "voice" 2 .answer] : List LaneEvent) ++ forward 2

theorem runs_queued : LaneSession.Runs 16 (laneHistory queued) (laneAfter queued) :=
  Machine.exec_of_allows (by decide +kernel)

end Plain

end Relay
