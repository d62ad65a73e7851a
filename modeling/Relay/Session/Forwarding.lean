import Relay.Lib.Shared
import Relay.Session.Lane

/-! An attachment that was accepted forwards what its source sends, as long as no timer of
its bus fires before the attachment has stopped them. -/
namespace Relay

namespace LoopPhase

def running : LoopPhase → Bool
  | .installed | .joined | .finished => false
  | _ => true

end LoopPhase

namespace Attachment

def Forwards (a : Attachment) : Prop :=
  match a.phase with
  | .reading => a.read = a.delivered
  | .got pkt | .delivering pkt => a.read = a.delivered ++ [pkt]
  | _ => False

def Faithful (a : Attachment) : Prop :=
  match a.phase with
  | .installed | .joined | .cleared => a.read = [] ∧ a.delivered = [] ∧ a.returned = false
  | .reading => a.read = a.delivered
  | .got pkt | .delivering pkt => a.read = a.delivered ++ [pkt]
  | _ => a.failed = true

end Attachment

def Serial (attachments : List Attachment) : Prop :=
  ∀ (i j : Nat) (a b : Attachment), i < j → attachments[i]? = some a → attachments[j]? = some b →
    b.phase ≠ .installed → a.phase = .finished

namespace Serial

variable {l : List Attachment} {i : Nat} {a a' : Attachment}

theorem snoc (serial : Serial l) (waits : a.phase = .installed) : Serial (l ++ [a]) := by
  intro i j b c before first second started
  rw [List.getElem?_append] at first second
  split_ifs at second with inside
  · rw [if_pos (before.trans inside)] at first
    exact serial i j b c before first second started
  · have last : a = c := by
      have member := List.mem_of_getElem? second
      exact (List.mem_singleton.mp member).symm
    exact absurd (last ▸ waits) started

theorem set (serial : Serial l) (here : l[i]? = some a)
    (kept : a.phase = .finished → a'.phase = .finished)
    (earlier : a'.phase ≠ .installed → ∀ (j : Nat) (b : Attachment), j < i → l[j]? = some b → b.phase = .finished) :
    Serial (l.set i a') := by
  intro j k b c before first second started
  rcases Objects.getElem?_set_some first with ⟨rfl, rfl⟩ | ⟨_, old⟩
  · rcases Objects.getElem?_set_some second with ⟨rfl, rfl⟩ | ⟨_, later⟩
    · omega
    · exact kept (serial j k a c before here later started)
  · rcases Objects.getElem?_set_some second with ⟨rfl, rfl⟩ | ⟨_, later⟩
    · exact earlier started j b before old
    · exact serial j k b c before old later started

theorem alone (serial : Serial l) (here : l[i]? = some a) (running : a.phase.running = true) {j : Nat}
    {b : Attachment} (there : l[j]? = some b) (other : b.phase.running = true) : j = i := by
  by_contra different
  rcases Nat.lt_or_gt_of_ne different with before | after
  · have ended := serial j i b a before there here (by rintro same; rw [same] at running; cases running)
    rw [ended] at other
    cases other
  · have ended := serial i j a b after here there (by rintro same; rw [same] at other; cases other)
    rw [ended] at running
    cases running

end Serial

inductive Attachment.Moves (l : Lane) (i : Nat) (a : Attachment) : Attachment → Prop
  | join (phase : a.phase = .installed) (previous : l.previousDone i = true) :
    Moves l i a { a with phase := .joined }
  | launch (phase : a.phase = .cleared) : Moves l i a { a with phase := .reading }
  | answer (launched : a.phase.launched = true) : Moves l i a { a with returned := true }
  | read (pkt : RtpPacket) (phase : a.phase = .reading) :
    Moves l i a { a with phase := .got pkt, read := a.read ++ [pkt] }
  | fail (phase : a.phase = .reading) : Moves l i a { a with phase := .leaving, failed := true }
  | drop {pkt : RtpPacket} (phase : a.phase = .got pkt) (done : l.done = true) :
    Moves l i a { a with phase := .leaving }
  | pass {pkt : RtpPacket} (phase : a.phase = .got pkt) : Moves l i a { a with phase := .delivering pkt }
  | deliver {pkt : RtpPacket} (phase : a.phase = .delivering pkt) :
    Moves l i a { a with phase := .reading, delivered := a.delivered ++ [pkt] }
  | detach (phase : a.phase = .leaving) : Moves l i a { a with phase := .detached }
  | rest (phase : a.phase = .detached) : Moves l i a { a with phase := .arming }
  | finish (phase : a.phase = .detached) : Moves l i a { a with phase := .finished }

variable {busID : String} {s s' : LaneSession} {i : Nat} {x : Step LaneSession LaneEvent}
  {h : List (Step LaneSession LaneEvent)} {l : Lane}

theorem Lane.previous_finished (serial : Serial l.attachments) (previous : l.previousDone i = true) {j : Nat}
    {b : Attachment} (before : j < i) (there : l.attachments[j]? = some b) : b.phase = .finished := by
  unfold Lane.previousDone at previous
  rw [Bool.or_eq_true, beq_iff_eq, Option.any_eq_true] at previous
  rcases previous with first | ⟨a, here, ended⟩
  · omega
  · have done : a.phase = .finished := by simpa using ended
    by_cases last : j = i - 1
    · subst last
      rw [there] at here
      cases here
      exact done
    · exact serial j (i - 1) b a (by omega) there here (by simp [done])

namespace Attachment.Moves

variable {l : Lane} {i : Nat} {a a' : Attachment}

theorem serial (moves : a.Moves l i a') (here : l.attachments[i]? = some a) (serial : Serial l.attachments) :
    Serial (l.attachments.set i a') := by
  have started : a.phase ≠ .installed → ∀ (j : Nat) (b : Attachment), j < i → l.attachments[j]? = some b →
      b.phase = .finished := fun started j b before there => serial j i b a before there here started
  cases moves with
  | join phase previous =>
    refine serial.set here (by simp [phase]) fun _ j b before there => ?_
    exact Lane.previous_finished serial previous before there
  | answer launched => exact serial.set here id started
  | finish phase => exact serial.set here (fun _ => rfl) fun _ => started (by simp [phase])
  | launch phase | read _ phase | fail phase | drop phase _ | pass phase | deliver phase | detach phase
  | rest phase => exact serial.set here (by simp [phase]) fun _ => started (by simp [phase])

theorem running (moves : a.Moves l i a') (runs : a'.phase.running = true) : a.phase.running = true := by
  cases moves with
  | join | finish => cases runs
  | answer launched => exact runs
  | launch phase | read _ phase | fail phase | drop phase _ | pass phase | deliver phase | detach phase
  | rest phase =>
    rw [phase]
    rfl

theorem faithful (moves : a.Moves l i a') (live : a.phase.running = true → l.done = false)
    (faithful : a.Faithful) : a'.Faithful := by
  cases moves with
  | join phase previous | pass phase | deliver phase | detach phase | rest phase | finish phase =>
    simpa [Faithful, phase] using faithful
  | launch phase =>
    simp only [Faithful, phase] at faithful ⊢
    rw [faithful.1, faithful.2.1]
  | answer launched =>
    unfold Faithful at faithful ⊢
    cases phase : a.phase with
    | installed | joined | cleared =>
      rw [phase] at launched
      cases launched
    | _ => simpa [phase] using faithful
  | read pkt phase =>
    simp only [Faithful, phase] at faithful ⊢
    rw [faithful]
  | fail phase => simp [Faithful]
  | drop phase done =>
    rw [live (by rw [phase]; rfl)] at done
    cases done

end Attachment.Moves

inductive Lane.Change (closed : Bool) (busID : String) (l : Lane) : LaneEvent → Lane → Prop
  | caller (source : Nat) (callers : List Nat) : Change closed busID l (.lookup busID source) { l with callers := callers }
  | install (n source : Nat) (callers : List Nat) :
    Change closed busID l (.install busID n)
      { l with
        source := some source
        attachments := l.attachments ++ [⟨source, .installed, false, false, [], []⟩]
        callers := callers }
  | move {i : Nat} {a a' : Attachment} {act : LoopAct} (here : l.attachments[i]? = some a)
    (source : Option Nat) (moves : a.Moves l i a') :
    Change closed busID l (.loop busID i act) { l with source := source, attachments := l.attachments.set i a' }
  | stopTimers {i : Nat} {a : Attachment} (here : l.attachments[i]? = some a) (phase : a.phase = .joined) :
    Change closed busID l (.loop busID i .stopTimers) (l.stopTimers.enter i a .cleared)
  | arm {i : Nat} {a : Attachment} (here : l.attachments[i]? = some a) (phase : a.phase = .arming) :
    Change closed busID l (.loop busID i .arm) { l.enter i a .finished with reconnectTimer := .armed }
  | fire (timer : BusTimer) (inactivity reconnect : TimerState) (armed : l.timer timer = .armed) :
    Change closed busID l (.fire busID timer)
      { l with inactivityTimer := inactivity, reconnectTimer := reconnect, closers := l.closers + 1 }
  | startClose (pending : 0 < l.closers) :
    Change closed busID l (.startClose busID) { l.stopTimers with once := .running }
  | finishClose (running : l.once = .running) :
    Change closed busID l (.finishClose busID) { l with once := .finished, done := true }
  | closer (shut : closed = true) : Change closed busID l (.closeBus busID) { l with closers := l.closers + 1 }

theorem Lane.act_change {closed : Bool} {l' : Lane} {a : Attachment} {act : LoopAct} (here : l.attachments[i]? = some a)
    (step : l.act i a act = some l') : l.Change closed busID (.loop busID i act) l' := by
  cases act with
  | join =>
    obtain ⟨guard, rfl⟩ := Option.guarded step
    exact .move here l.source (.join guard.1 guard.2)
  | stopTimers =>
    obtain ⟨phase, rfl⟩ := Option.guarded step
    exact .stopTimers here phase
  | launch =>
    obtain ⟨phase, rfl⟩ := Option.guarded step
    exact .move here l.source (.launch phase)
  | answer =>
    obtain ⟨launched, rfl⟩ := Option.guarded step
    exact .move here l.source (.answer launched)
  | read pkt =>
    obtain ⟨phase, rfl⟩ := Option.guarded step
    exact .move here l.source (.read pkt phase)
  | fail =>
    obtain ⟨phase, rfl⟩ := Option.guarded step
    exact .move here l.source (.fail phase)
  | check =>
    simp only [Lane.act] at step
    split at step
    · rename_i pkt phase
      cases step
      cases done : l.done with
      | true => exact .move here l.source (.drop phase done)
      | false => exact .move here l.source (.pass phase)
    · cases step
  | deliver =>
    simp only [Lane.act] at step
    split at step
    · rename_i pkt phase
      cases step
      exact .move here l.source (.deliver phase)
    · cases step
  | detach =>
    simp only [Lane.act] at step
    split_ifs at step with phase
    · cases step
      exact .move here none (.detach phase)
    · cases step
      exact .move here l.source (.detach phase)
  | rest =>
    simp only [Lane.act] at step
    split_ifs at step with phase
    · cases step
      exact .move here l.source (.finish phase)
    · cases step
      exact .move here l.source (.rest phase)
  | arm =>
    obtain ⟨phase, rfl⟩ := Option.guarded step
    exact .arm here phase

theorem LaneSession.onLane_some {f : Lane → Option Lane} (taken : s.onLane busID f = some s') :
    ∃ l l', s.lanes.lookup busID = some l ∧ f l = some l' ∧ s' = { s with lanes := s.lanes.insert busID l' } := by
  unfold LaneSession.onLane at taken
  split at taken
  · cases taken
  · rename_i l found
    obtain ⟨l', result, same⟩ := Option.map_eq_some_iff.mp taken
    exact ⟨l, l', found, result, same.symm⟩

theorem LaneSession.step_change {e : LaneEvent} (step : s.step e = some s') :
    s'.lanes = s.lanes ∧ (s.closed = true → s'.closed = true) ∧ (∀ busID timer, e ≠ .fire busID timer) ∨
      ∃ busID l l', (s.lanes.lookup busID = some l ∨ s.lanes.lookup busID = none ∧ l = .new) ∧
        Lane.Change s.closed busID l e l' ∧ s' = { s with lanes := s.lanes.insert busID l' } := by
  cases e with
  | lookup busID source =>
    cases step
    unfold LaneSession.lookup
    split
    · rename_i l found
      exact .inr ⟨busID, l, _, .inl found, .caller source _, rfl⟩
    · rename_i absent
      split_ifs
      · exact .inl ⟨rfl, id, nofun⟩
      · exact .inr ⟨busID, .new, _, .inr ⟨absent, rfl⟩, .caller source [source], rfl⟩
  | install busID n =>
    obtain ⟨l, l', found, result, same⟩ := onLane_some step
    unfold Lane.install at result
    split at result
    · cases result
    · cases result
      exact .inr ⟨busID, l, _, .inl found, .install n _ _, same⟩
  | loop busID i act =>
    obtain ⟨l, l', found, result, same⟩ := onLane_some step
    obtain ⟨a, here, taken⟩ := Option.bind_eq_some_iff.mp result
    exact .inr ⟨busID, l, l', .inl found, Lane.act_change here taken, same⟩
  | fire busID timer =>
    obtain ⟨l, l', found, result, same⟩ := onLane_some step
    unfold Lane.fire at result
    split_ifs at result with armed
    cases timer with
    | inactivity =>
      cases result
      exact .inr ⟨busID, l, _, .inl found, .fire .inactivity .fired l.reconnectTimer armed, same⟩
    | reconnect =>
      cases result
      exact .inr ⟨busID, l, _, .inl found, .fire .reconnect l.inactivityTimer .fired armed, same⟩
  | startClose busID =>
    obtain ⟨l, l', found, result, same⟩ := onLane_some step
    obtain ⟨pending, rfl⟩ := Option.guarded result
    exact .inr ⟨busID, l, _, .inl found, .startClose pending.1, same⟩
  | finishClose busID =>
    obtain ⟨l, l', found, result, same⟩ := onLane_some step
    obtain ⟨running, rfl⟩ := Option.guarded result
    exact .inr ⟨busID, l, _, .inl found, .finishClose running, same⟩
  | closeBus busID =>
    simp only [LaneSession.step] at step
    split_ifs at step with shut
    obtain ⟨l, l', found, result, same⟩ := onLane_some step
    cases result
    exact .inr ⟨busID, l, _, .inl found, .closer shut, same⟩
  | close =>
    cases step
    exact .inl ⟨rfl, fun _ => rfl, nofun⟩

def Calm (h : List (Step LaneSession LaneEvent)) (busID : String) : Prop :=
  ∀ y ∈ h, ∀ timer, y.event ≠ .fire busID timer

/-- Whenever an attachment stops the timers of its bus, none of them has fired. -/
def StopsInTime (h : List (Step LaneSession LaneEvent)) : Prop :=
  ∀ before x after, h = before ++ x :: after →
    ∀ busID i, x.event = .loop busID i .stopTimers → Calm before busID

theorem StopsInTime.shorter (timely : StopsInTime (h ++ [x])) : StopsInTime h := by
  rintro before y after rfl
  exact timely before y (after ++ [x]) (by simp)

theorem Calm.snoc (calm : Calm h busID) (other : ∀ timer, x.event ≠ .fire busID timer) : Calm (h ++ [x]) busID := by
  intro y member
  rcases List.mem_append.mp member with old | last
  · exact calm y old
  · rw [List.mem_singleton.mp last]
    exact other

theorem Calm.shorter (calm : Calm (h ++ [x]) busID) : Calm h busID :=
  fun y member => calm y (List.mem_append_left _ member)

structure Lane.Sound (h : List (Step LaneSession LaneEvent)) (closed : Bool) (busID : String) (l : Lane) :
    Prop where
  serial : Serial l.attachments
  unarmed : ∀ a ∈ l.attachments, a.phase.running = true →
    l.inactivityTimer ≠ .armed ∧ l.reconnectTimer ≠ .armed
  calm : ∀ a ∈ l.attachments, a.phase.running = true → Calm h busID
  opened : closed = false → Calm h busID → l.closers = 0 ∧ l.once = .unused ∧ l.done = false
  faithful : closed = false → ∀ a ∈ l.attachments, a.Faithful

namespace Lane.Sound

variable {h : List (Step LaneSession LaneEvent)} {closed : Bool} {busID : String} {l l' : Lane}
  {x : Step LaneSession LaneEvent}

theorem new : Sound h closed busID .new where
  serial := by
    intro i j a b _ first
    cases first
  unarmed := fun _ member => absurd member List.not_mem_nil
  calm := fun _ member => absurd member List.not_mem_nil
  opened := fun _ _ => ⟨rfl, rfl, rfl⟩
  faithful := fun _ _ member => absurd member List.not_mem_nil

theorem frame (sound : Sound h closed busID l) {closed' : Bool} (later : closed = true → closed' = true)
    (other : ∀ timer, x.event ≠ .fire busID timer) : Sound (h ++ [x]) closed' busID l := by
  have before : closed' = false → closed = false := by
    intro opened
    cases closed with
    | false => rfl
    | true => exact absurd (later rfl) (by simp [opened])
  exact
    { serial := sound.serial
      unarmed := sound.unarmed
      calm := fun a member running => (sound.calm a member running).snoc other
      opened := fun opened calm => sound.opened (before opened) calm.shorter
      faithful := fun opened => sound.faithful (before opened) }

variable {a : Attachment} {i : Nat}

theorem move (sound : Sound h closed busID l) {a' : Attachment} (here : l.attachments[i]? = some a)
    (moves : a.Moves l i a') (source : Option Nat) (other : ∀ timer, x.event ≠ .fire busID timer) :
    Sound (h ++ [x]) closed busID { l with source := source, attachments := l.attachments.set i a' } := by
  have member := List.mem_of_getElem? here
  have old : ∀ b ∈ l.attachments.set i a', b.phase.running = true →
      ∃ c ∈ l.attachments, c.phase.running = true := by
    intro b inside runs
    rcases List.mem_or_eq_of_mem_set inside with same | rfl
    · exact ⟨b, same, runs⟩
    · exact ⟨a, member, moves.running runs⟩
  constructor
  · exact moves.serial here sound.serial
  · intro b inside runs
    obtain ⟨c, there, runs⟩ := old b inside runs
    exact sound.unarmed c there runs
  · intro b inside runs
    obtain ⟨c, there, runs⟩ := old b inside runs
    exact (sound.calm c there runs).snoc other
  · intro opened calm
    exact sound.opened opened calm.shorter
  · intro opened b inside
    rcases List.mem_or_eq_of_mem_set inside with same | rfl
    · exact sound.faithful opened b same
    · apply moves.faithful _ (sound.faithful opened a member)
      intro runs
      exact (sound.opened opened (sound.calm a member runs)).2.2

theorem stop_ne_armed (t : TimerState) : t.stop ≠ .armed := by
  cases t <;> exact nofun

theorem stopTimers (sound : Sound h closed busID l) (here : l.attachments[i]? = some a) (phase : a.phase = .joined)
    (calm : Calm h busID) (other : ∀ timer, x.event ≠ .fire busID timer) :
    Sound (h ++ [x]) closed busID (l.stopTimers.enter i a .cleared) where
  serial := sound.serial.set here (by simp [phase]) fun _ j b before there =>
    sound.serial j i b a before there here (by simp [phase])
  unarmed := fun _ _ _ => ⟨stop_ne_armed _, stop_ne_armed _⟩
  calm := fun _ _ _ => calm.snoc other
  opened := fun opened calm => sound.opened opened calm.shorter
  faithful := by
    intro opened b inside
    rcases List.mem_or_eq_of_mem_set inside with same | rfl
    · exact sound.faithful opened b same
    · have faithful := sound.faithful opened a (List.mem_of_getElem? here)
      simpa [Attachment.Faithful, phase] using faithful

theorem arm (sound : Sound h closed busID l) (here : l.attachments[i]? = some a) (phase : a.phase = .arming) :
    Sound (h ++ [x]) closed busID { l.enter i a .finished with reconnectTimer := .armed } := by
  have quiet : ∀ b ∈ l.attachments.set i { a with phase := .finished }, b.phase.running = false := by
    intro b inside
    obtain ⟨j, there⟩ := List.getElem?_of_mem inside
    rcases Objects.getElem?_set_some there with ⟨_, rfl⟩ | ⟨different, there⟩
    · rfl
    · by_contra runs
      exact different (sound.serial.alone here (by rw [phase]; rfl) there (by simpa using runs))
  constructor
  · exact sound.serial.set here (fun _ => rfl) fun _ j b before there =>
      sound.serial j i b a before there here (by simp [phase])
  · intro b inside runs
    rw [quiet b inside] at runs
    cases runs
  · intro b inside runs
    rw [quiet b inside] at runs
    cases runs
  · intro opened calm
    exact sound.opened opened calm.shorter
  · intro opened b inside
    rcases List.mem_or_eq_of_mem_set inside with same | rfl
    · exact sound.faithful opened b same
    · have faithful := sound.faithful opened a (List.mem_of_getElem? here)
      simpa [Attachment.Faithful, phase] using faithful

theorem change (sound : Sound h closed busID l) (change : l.Change closed busID x.event l')
    (timely : ∀ i, x.event = .loop busID i .stopTimers → Calm h busID) :
    Sound (h ++ [x]) closed busID l' := by
  generalize event : x.event = e at change
  have other : (∀ timer, e ≠ .fire busID timer) → ∀ timer, x.event ≠ .fire busID timer := by
    rw [event]
    exact id
  cases change with
  | caller source callers =>
    have same := sound.frame id (other nofun)
    exact ⟨same.serial, same.unarmed, same.calm, same.opened, same.faithful⟩
  | install n source callers =>
    have same := sound.frame id (other nofun)
    have old : ∀ a ∈ l.attachments ++ [⟨source, .installed, false, false, [], []⟩],
        a ∈ l.attachments ∨ a = ⟨source, .installed, false, false, [], []⟩ := by simp
    constructor
    · exact sound.serial.snoc rfl
    · intro a inside runs
      rcases old a inside with before | rfl
      · exact same.unarmed a before runs
      · cases runs
    · intro a inside runs
      rcases old a inside with before | rfl
      · exact same.calm a before runs
      · cases runs
    · exact same.opened
    · intro opened a inside
      rcases old a inside with before | rfl
      · exact same.faithful opened a before
      · exact ⟨rfl, rfl, rfl⟩
  | move here source moves => exact sound.move here moves source (other nofun)
  | stopTimers here phase => exact sound.stopTimers here phase (timely _ event) (other nofun)
  | arm here phase => exact sound.arm here phase
  | fire timer inactivity reconnect armed =>
    -- an armed timer shows that no loop runs
    have quiet : ∀ a ∈ l.attachments, a.phase.running ≠ true := by
      intro a inside runs
      obtain ⟨first, second⟩ := sound.unarmed a inside runs
      cases timer with
      | inactivity => exact first armed
      | reconnect => exact second armed
    constructor
    · exact sound.serial
    · intro a inside runs
      exact absurd runs (quiet a inside)
    · intro a inside runs
      exact absurd runs (quiet a inside)
    · intro _ calm
      exact absurd event (calm x (by simp) timer)
    · exact sound.faithful
  | startClose pending =>
    have same := sound.frame id (other nofun)
    refine ⟨same.serial, fun _ _ _ => ⟨stop_ne_armed _, stop_ne_armed _⟩, same.calm, ?_, same.faithful⟩
    intro opened calm
    have none := (same.opened opened calm).1
    omega
  | finishClose running =>
    have same := sound.frame id (other nofun)
    refine ⟨same.serial, same.unarmed, same.calm, ?_, same.faithful⟩
    intro opened calm
    have unused := (same.opened opened calm).2.1
    rw [running] at unused
    cases unused
  | closer shut =>
    have same := sound.frame id (other nofun)
    refine ⟨same.serial, same.unarmed, same.calm, ?_, same.faithful⟩
    intro opened
    rw [shut] at opened
    cases opened

end Lane.Sound

theorem lanes_of_run {maxBuses : Nat} (run : LaneSession.Runs maxBuses h s) (timely : StopsInTime h) :
    ∀ busID l, s.lanes.lookup busID = some l → l.Sound h s.closed busID := by
  refine run.history (I := fun h s => ∀ busID l, s.lanes.lookup busID = some l → l.Sound h s.closed busID)
    StopsInTime.shorter nofun ?_ timely
  intro h t e u before timely sound step busID l found
  rcases LaneSession.step_change step with ⟨same, later, other⟩ | ⟨bus, l₀, l', source, change, rfl⟩
  · rw [same] at found
    exact (sound busID l found).frame later (other busID)
  · rcases Table.lookup_insert_some.mp found with ⟨rfl, rfl⟩ | ⟨different, old⟩
    · have was : l₀.Sound h t.closed busID := by
        rcases source with known | ⟨_, rfl⟩
        · exact sound busID l₀ known
        · exact .new
      refine was.change change ?_
      intro i stops
      exact timely h ⟨t, e, _⟩ [] (by simp) busID i stops
    · refine (sound busID l old).frame id ?_
      intro timer fires
      -- the event belongs to the other bus
      rw [show e = LaneEvent.fire busID timer from fires] at change
      cases change
      exact different rfl

/-- As long as no timer of a bus fires before an attachment has stopped them: whatever an
accepted attachment reads while its source lives and the RelaySession is open, it passes on. -/
theorem accepted_attachment_forwards {maxBuses : Nat} {h : List (Step LaneSession LaneEvent)}
    {s : LaneSession} (run : LaneSession.Runs maxBuses h s) (timely : StopsInTime h)
    (opened : s.closed = false) {busID : String} {l : Lane} {i : Nat} {a : Attachment}
    (bus : s.lanes.lookup busID = some l) (here : l.attachments[i]? = some a) (returned : a.returned = true)
    (unfailed : a.failed = false) : a.Forwards := by
  have faithful := (lanes_of_run run timely busID l bus).faithful opened a (List.mem_of_getElem? here)
  unfold Attachment.Faithful at faithful
  unfold Attachment.Forwards
  cases phase : a.phase with
  | installed | joined | cleared =>
    simp only [phase] at faithful
    rw [returned] at faithful
    exact absurd faithful.2.2 (by decide)
  | reading | got | delivering => simpa only [phase] using faithful
  | leaving | detached | arming | finished =>
    simp only [phase] at faithful
    rw [unfailed] at faithful
    cases faithful

/-! A bus whose source is lost and replaced, in time and after the reconnect timer. -/
namespace Plain

def lanePacket : RtpPacket := { RtpPacket.zero with sequenceNumber := 1 }

def attach (busID : String) (source i : Nat) : List LaneEvent :=
  .lookup busID source :: .install busID 0 ::
    [LoopAct.join, .stopTimers, .launch, .answer].map (.loop busID i)

def lose (busID : String) (i : Nat) : List LaneEvent :=
  [LoopAct.fail, .detach, .rest, .arm].map (.loop busID i)

def reattached : List LaneEvent :=
  attach "voice" 1 0 ++ lose "voice" 0 ++ attach "voice" 2 1 ++
    [LoopAct.read lanePacket, .check, .deliver].map (.loop "voice" 1)

def lateAttach : List LaneEvent :=
  attach "voice" 1 0 ++ lose "voice" 0 ++
    ([.fire "voice" .reconnect, .startClose "voice", .finishClose "voice"] : List LaneEvent) ++
    attach "voice" 2 1 ++ [LoopAct.read lanePacket, .check].map (LaneEvent.loop "voice" 1)

def laneHistory (events : List LaneEvent) : List (Step LaneSession LaneEvent) :=
  Machine.trail LaneSession.step (.new 16) events

def laneAfter (events : List LaneEvent) : LaneSession := Machine.final LaneSession.step (.new 16) events

def secondAttachment (events : List LaneEvent) : Option Attachment :=
  ((laneAfter events).lanes.lookup "voice").bind fun l => l.attachments[1]?

def fires : LaneEvent → Bool
  | .fire _ _ => true
  | _ => false

theorem runs_reattached : LaneSession.Runs 16 (laneHistory reattached) (laneAfter reattached) :=
  Machine.exec_of_allows (by decide +kernel)

theorem runs_lateAttach : LaneSession.Runs 16 (laneHistory lateAttach) (laneAfter lateAttach) :=
  Machine.exec_of_allows (by decide +kernel)

theorem reattached_in_time : StopsInTime (laneHistory reattached) := by
  have quiet : ∀ y ∈ laneHistory reattached, fires y.event = false := by decide +kernel
  rintro before x after split busID i _ y member timer same
  have silent := quiet y (by rw [split]; exact List.mem_append_left _ member)
  rw [same] at silent
  cases silent

end Plain

open Plain in
theorem accepted_attachment_forwards_reattached :
    secondAttachment reattached = some ⟨2, .reading, true, false, [lanePacket], [lanePacket]⟩ ∧
      ∀ a, secondAttachment reattached = some a → a.Forwards := by
  have here : secondAttachment reattached = some ⟨2, .reading, true, false, [lanePacket], [lanePacket]⟩ := by
    decide +kernel
  refine ⟨here, ?_⟩
  intro a found
  obtain ⟨l, bus, place⟩ := Option.bind_eq_some_iff.mp found
  rw [here] at found
  cases found
  exact accepted_attachment_forwards runs_reattached reattached_in_time (by decide +kernel) bus place rfl rfl

open Plain in
/-- The reconnect timer has closed the bus, which stays in the map: the next attachment is
accepted and its first packet is dropped. -/
theorem accepted_attachment_drops :
    LaneSession.Runs 16 (laneHistory lateAttach) (laneAfter lateAttach) ∧ (laneAfter lateAttach).closed = false ∧
      ((laneAfter lateAttach).lanes.lookup "voice").map Lane.sourceGeneration = some 2 ∧
      ∃ a, secondAttachment lateAttach = some a ∧ a.returned = true ∧ a.failed = false ∧ a.read = [lanePacket] ∧
        a.delivered = [] ∧ ¬ a.Forwards := by
  refine ⟨runs_lateAttach, by decide +kernel, by decide +kernel,
    ⟨2, .leaving, true, false, [lanePacket], []⟩, by decide +kernel, rfl, rfl, rfl, rfl, ?_⟩
  exact id

end Relay
