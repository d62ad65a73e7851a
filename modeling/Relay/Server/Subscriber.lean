import Relay.Lib.Run
import Relay.Session.RelaySession

/-! A subscriber peer of the signaling server: its join, the callback of its connection and the
cleanup at its end. The join and the cleanup belong to one goroutine, the callback to another;
they share two flags of the peer and what other peers share as well, the subscriptions and the
slots of the RelaySession and the listener count of the server. -/
namespace Relay

/-- `handleJoin` up to the point where the callback is set, with the loop of `TryReserveSlot`. -/
inductive JoinPhase where
  | joining
  | loaded (pending : Int)
  | claiming (pending : Int)
  | reserved
  | refused
  | joined
deriving DecidableEq

/-- The callback of a connection that has connected. At its end, whether it has added the
subscription. -/
inductive CallbackPhase where
  | waiting
  | won
  | released
  | registering
  | added
  | failed
  | finished (added : Bool)
deriving DecidableEq

/-- `cleanup`. From its load of `subscriptionRegistered` on, with what it has read. -/
inductive CleanupPhase where
  | waiting
  | won
  | swapped
  | loaded (registered : Bool)
  | removed (registered : Bool)
  | finished (registered : Bool)
deriving DecidableEq

structure SubscriberPeer where
  id : String
  busID : String
  maximum : Int
  session : RelaySession
  pendingSlots : Int
  listenerCount : Int
  slotReserved : Bool
  subscriptionRegistered : Bool
  join : JoinPhase
  callback : CallbackPhase
  cleanup : CleanupPhase

/-- The operations of the peer's two goroutines, and what other peers do to the shared state. -/
inductive PeerEvent where
  | loadPending
  | compareSlots
  | claimSlot
  | storeReserved
  | swapReserved
  | releaseSlot
  | swapRegistered
  | addBusSubscription
  | countListener
  | resetRegistered
  | cleanupSwap
  | cleanupRelease
  | cleanupLoad
  | cleanupRemove
  | cleanupCount
  | othersSlots (change : Int)
  | othersListeners (change : Int)
  | othersAdd (subscriberID busID : String)
  | othersRemove (subscriberID : String)
deriving DecidableEq

def PeerEvent.slots : PeerEvent → Int
  | .othersSlots change => change
  | _ => 0

def PeerEvent.listeners : PeerEvent → Int
  | .othersListeners change => change
  | _ => 0

namespace SubscriberPeer

def new (id busID : String) (maximum : Int) (session : RelaySession) (pendingSlots listenerCount : Int) :
    SubscriberPeer :=
  ⟨id, busID, maximum, session, pendingSlots, listenerCount, false, false, .joining, .waiting, .waiting⟩

def step (p : SubscriberPeer) : PeerEvent → Option SubscriberPeer
  | .loadPending =>
    if p.join = .joining then
      if p.maximum ≤ 0 then some { p with pendingSlots := p.pendingSlots + 1, join := .reserved }
      else some { p with join := .loaded p.pendingSlots }
    else none
  | .compareSlots =>
    match p.join with
    | .loaded pending =>
      if pending + p.session.subscriptions.length ≥ p.maximum then some { p with join := .refused }
      else some { p with join := .claiming pending }
    | _ => none
  | .claimSlot =>
    match p.join with
    | .claiming pending =>
      -- `CompareAndSwap`, and the next round if it fails
      if p.pendingSlots = pending then some { p with pendingSlots := pending + 1, join := .reserved }
      else some { p with join := .joining }
    | _ => none
  | .storeReserved =>
    if p.join = .reserved then some { p with slotReserved := true, join := .joined } else none
  | .swapReserved =>
    if p.join = .joined ∧ p.callback = .waiting then
      some { p with slotReserved := false, callback := if p.slotReserved then .won else .finished false }
    else none
  | .releaseSlot =>
    if p.callback = .won then some { p with pendingSlots := p.pendingSlots - 1, callback := .released } else none
  | .swapRegistered =>
    if p.callback = .released then
      some { p with
        subscriptionRegistered := true
        callback := if p.subscriptionRegistered then .finished false else .registering }
    else none
  | .addBusSubscription =>
    if p.callback = .registering then
      match p.session.addBusSubscription p.id p.busID with
      | .ok session => some { p with session := session, callback := .added }
      | .error _ => some { p with callback := .failed }
    else none
  | .countListener =>
    if p.callback = .added then some { p with listenerCount := p.listenerCount + 1, callback := .finished true }
    else none
  | .resetRegistered =>
    if p.callback = .failed then some { p with subscriptionRegistered := false, callback := .finished false }
    else none
  | .cleanupSwap =>
    if (p.join = .joined ∨ p.join = .refused) ∧ p.cleanup = .waiting then
      some { p with slotReserved := false, cleanup := if p.slotReserved then .won else .swapped }
    else none
  | .cleanupRelease =>
    if p.cleanup = .won then some { p with pendingSlots := p.pendingSlots - 1, cleanup := .swapped } else none
  | .cleanupLoad =>
    if p.cleanup = .swapped then some { p with cleanup := .loaded p.subscriptionRegistered } else none
  | .cleanupRemove =>
    match p.cleanup with
    | .loaded registered =>
      some { p with session := p.session.removeSubscription p.id, cleanup := .removed registered }
    | _ => none
  | .cleanupCount =>
    match p.cleanup with
    | .removed registered =>
      some { p with
        listenerCount := if registered then p.listenerCount - 1 else p.listenerCount
        cleanup := .finished registered }
    | _ => none
  | .othersSlots change => some { p with pendingSlots := p.pendingSlots + change }
  | .othersListeners change => some { p with listenerCount := p.listenerCount + change }
  | .othersAdd subscriberID busID =>
    if subscriberID = p.id then none
    else
      match p.session.addBusSubscription subscriberID busID with
      | .ok session => some { p with session := session }
      | .error _ => some p
  | .othersRemove subscriberID =>
    if subscriberID = p.id then none else some { p with session := p.session.removeSubscription subscriberID }

def Runs (start : SubscriberPeer) (h : List (Step SubscriberPeer PeerEvent)) (p : SubscriberPeer) : Prop :=
  Exec (Machine.Moves step) start h p

end SubscriberPeer

/-! What each of the three has taken, counted and settled at a point of its way. -/

def JoinPhase.slots : JoinPhase → Int
  | .reserved => 1
  | _ => 0

namespace CallbackPhase

def slots : CallbackPhase → Int
  | .won => 1
  | _ => 0

def listeners : CallbackPhase → Int
  | .finished true => 1
  | _ => 0

def registered : CallbackPhase → Bool
  | .registering | .added | .failed | .finished true => true
  | _ => false

def outcome : CallbackPhase → Option Bool
  | .waiting => some false
  | .added => some true
  | .finished settled => some settled
  | _ => none

theorem registered_of_outcome {phase : CallbackPhase} {added : Bool}
    (settled : phase.outcome = some added) : phase.registered = added := by
  cases phase with
  | waiting | added => cases settled; rfl
  | finished =>
    cases settled
    cases added <;> rfl
  | won | released | registering | failed => cases settled

end CallbackPhase

namespace CleanupPhase

def slots : CleanupPhase → Int
  | .won => 1
  | _ => 0

def listeners : CleanupPhase → Int
  | .finished true => -1
  | _ => 0

def read : CleanupPhase → Option Bool
  | .loaded registered | .removed registered | .finished registered => some registered
  | _ => none

def hasRemoved : CleanupPhase → Bool
  | .removed _ | .finished _ => true
  | _ => false

variable {phase : CleanupPhase}

theorem ne_waiting_of_read {registered : Bool} (read : phase.read = some registered) : phase ≠ .waiting := by
  rintro rfl
  cases read

theorem hasRemoved_of_unread (unread : phase.read = none) : phase.hasRemoved = false := by
  cases phase with
  | waiting | won | swapped => rfl
  | loaded | removed | finished => cases unread

end CleanupPhase

namespace SubscriberPeer

def outstanding (p : SubscriberPeer) : Int :=
  p.join.slots + (if p.slotReserved then 1 else 0) + p.callback.slots + p.cleanup.slots

structure Sound (slots listeners : Int) (p : SubscriberPeer) : Prop where
  joined : p.slotReserved = true → p.join = .joined
  early : p.join ≠ .joined → p.callback = .waiting
  cleaning : p.cleanup ≠ .waiting → (p.join = .joined ∨ p.join = .refused) ∧ p.slotReserved = false
  taken : p.callback ≠ .waiting → p.slotReserved = false
  flag : p.subscriptionRegistered = p.callback.registered
  pending : p.pendingSlots = slots + p.outstanding
  count : p.listenerCount = listeners + p.callback.listeners + p.cleanup.listeners

namespace Sound

variable {p p' : SubscriberPeer} {slots listeners : Int}
variable {count pending : Int} {session : RelaySession}

section

variable (sound : Sound slots listeners p)

include sound

theorem reserving {phase : JoinPhase} (before : p.join ≠ .joined ∧ p.join ≠ .refused)
    (slot : pending = p.pendingSlots + phase.slots - p.join.slots) :
    Sound slots listeners { p with pendingSlots := pending, join := phase } where
  joined reserved := absurd (sound.joined reserved) before.1
  early _ := sound.early before.1
  cleaning started := by
    rcases (sound.cleaning started).1 with joined | refused
    · exact absurd joined before.1
    · exact absurd refused before.2
  taken := sound.taken
  flag := sound.flag
  pending := by
    have held := sound.pending
    simp only [outstanding] at held ⊢
    omega
  count := sound.count

theorem calling {phase : CallbackPhase} {registered : Bool} (before : p.callback ≠ .waiting)
    (flag : registered = phase.registered) (slot : pending = p.pendingSlots + phase.slots - p.callback.slots)
    (listener : count = p.listenerCount + phase.listeners - p.callback.listeners) :
    Sound slots listeners
      { p with
        session := session, pendingSlots := pending, listenerCount := count
        subscriptionRegistered := registered, callback := phase } where
  joined := sound.joined
  early away := absurd (sound.early away) before
  cleaning := sound.cleaning
  taken _ := sound.taken before
  flag := flag
  pending := by
    have held := sound.pending
    simp only [outstanding] at held ⊢
    omega
  count := by
    have counted := sound.count
    simp only at counted ⊢
    omega

theorem clearing {phase : CleanupPhase} (before : p.cleanup ≠ .waiting)
    (slot : pending = p.pendingSlots + phase.slots - p.cleanup.slots)
    (listener : count = p.listenerCount + phase.listeners - p.cleanup.listeners) :
    Sound slots listeners
      { p with session := session, pendingSlots := pending, listenerCount := count, cleanup := phase } where
  joined := sound.joined
  early := sound.early
  cleaning _ := sound.cleaning before
  taken := sound.taken
  flag := sound.flag
  pending := by
    have held := sound.pending
    simp only [outstanding] at held ⊢
    omega
  count := by
    have counted := sound.count
    simp only at counted ⊢
    omega

theorem storeReserved (phase : p.join = .reserved) :
    Sound slots listeners { p with slotReserved := true, join := .joined } where
  joined _ := rfl
  early away := absurd rfl away
  cleaning started := by
    rcases (sound.cleaning started).1 with joined | refused
    · cases phase.symm.trans joined
    · cases phase.symm.trans refused
  taken started := absurd (sound.early (by simp [phase])) started
  flag := sound.flag
  pending := by
    have held := sound.pending
    have free : p.slotReserved = false := by
      by_contra reserved
      have joined := sound.joined (by simpa using reserved)
      cases phase.symm.trans joined
    simp only [outstanding, phase, free, JoinPhase.slots, Bool.false_eq_true, if_true, if_false] at held ⊢
    omega
  count := sound.count

theorem swapReserved (joined : p.join = .joined) (phase : p.callback = .waiting) :
    Sound slots listeners
      { p with slotReserved := false, callback := if p.slotReserved then .won else .finished false } where
  joined := nofun
  early away := absurd joined away
  cleaning started := ⟨.inl joined, rfl⟩
  taken _ := rfl
  flag := by
    have flag := sound.flag
    simp only [phase] at flag ⊢
    rw [flag]
    split <;> rfl
  pending := by
    have held := sound.pending
    cases reserved : p.slotReserved <;>
      simp only [outstanding, phase, reserved, CallbackPhase.slots, Bool.false_eq_true, if_true, if_false] at held ⊢ <;>
      omega
  count := by
    have counted := sound.count
    cases reserved : p.slotReserved <;> simpa [phase, reserved, CallbackPhase.listeners] using counted

theorem cleanupSwap (joined : p.join = .joined ∨ p.join = .refused) (phase : p.cleanup = .waiting) :
    Sound slots listeners
      { p with slotReserved := false, cleanup := if p.slotReserved then .won else .swapped } where
  joined := nofun
  early := sound.early
  cleaning _ := ⟨joined, rfl⟩
  taken _ := rfl
  flag := sound.flag
  pending := by
    have held := sound.pending
    cases reserved : p.slotReserved <;>
      simp only [outstanding, phase, reserved, CleanupPhase.slots, Bool.false_eq_true, if_true, if_false] at held ⊢ <;>
      omega
  count := by
    have counted := sound.count
    cases reserved : p.slotReserved <;> simpa [phase, reserved, CleanupPhase.listeners] using counted

theorem others {slot listener : Int} (moved : pending = p.pendingSlots + slot)
    (told : count = p.listenerCount + listener) :
    Sound (slots + slot) (listeners + listener)
      { p with session := session, pendingSlots := pending, listenerCount := count } where
  joined := sound.joined
  early := sound.early
  cleaning := sound.cleaning
  taken := sound.taken
  flag := sound.flag
  pending := by
    have held := sound.pending
    simp only [outstanding] at held ⊢
    omega
  count := by
    have counted := sound.count
    simp only at counted ⊢
    omega

theorem quiet : Sound (slots + 0) (listeners + 0) p := by
  simpa using sound

theorem step {e : PeerEvent} (taken : p.step e = some p') : Sound (slots + e.slots) (listeners + e.listeners) p' := by
  cases e with
  | loadPending =>
    simp only [SubscriberPeer.step] at taken
    split_ifs at taken with phase unbounded
    all_goals
      cases taken
      exact (sound.reserving (by simp [phase]) (by simp [phase, JoinPhase.slots])).quiet
  | compareSlots =>
    simp only [SubscriberPeer.step] at taken
    split at taken
    · rename_i pending phase
      split_ifs at taken
      all_goals
        cases taken
        exact (sound.reserving (by simp [phase]) (by simp [phase, JoinPhase.slots])).quiet
    · cases taken
  | claimSlot =>
    simp only [SubscriberPeer.step] at taken
    split at taken
    · rename_i pending phase
      split_ifs at taken with same
      · cases taken
        exact (sound.reserving (by simp [phase]) (by simp [phase, JoinPhase.slots, same])).quiet
      · cases taken
        exact (sound.reserving (by simp [phase]) (by simp [phase, JoinPhase.slots])).quiet
    · cases taken
  | storeReserved =>
    obtain ⟨phase, rfl⟩ := Option.guarded taken
    exact (sound.storeReserved phase).quiet
  | swapReserved =>
    obtain ⟨guard, rfl⟩ := Option.guarded taken
    exact (sound.swapReserved guard.1 guard.2).quiet
  | releaseSlot | countListener =>
    obtain ⟨phase, rfl⟩ := Option.guarded taken
    apply quiet
    apply sound.calling
    all_goals simp [phase, sound.flag, CallbackPhase.registered, CallbackPhase.slots, CallbackPhase.listeners]
  | swapRegistered =>
    obtain ⟨phase, rfl⟩ := Option.guarded taken
    -- nobody but this callback sets the flag
    have unset : p.subscriptionRegistered = false := by
      rw [sound.flag, phase]
      rfl
    simp only [unset, Bool.false_eq_true, if_false]
    apply quiet
    apply sound.calling
    all_goals simp [phase, CallbackPhase.registered, CallbackPhase.slots, CallbackPhase.listeners]
  | addBusSubscription =>
    simp only [SubscriberPeer.step] at taken
    split_ifs at taken with phase
    split at taken
    all_goals
      cases taken
      apply quiet
      apply sound.calling
      all_goals simp [phase, sound.flag, CallbackPhase.registered, CallbackPhase.slots, CallbackPhase.listeners]
  | resetRegistered =>
    obtain ⟨phase, rfl⟩ := Option.guarded taken
    apply quiet
    apply sound.calling
    all_goals simp [phase, CallbackPhase.registered, CallbackPhase.slots, CallbackPhase.listeners]
  | cleanupSwap =>
    obtain ⟨guard, rfl⟩ := Option.guarded taken
    exact (sound.cleanupSwap guard.1 guard.2).quiet
  | cleanupRelease | cleanupLoad =>
    obtain ⟨phase, rfl⟩ := Option.guarded taken
    apply quiet
    apply sound.clearing
    all_goals simp [phase, CleanupPhase.slots, CleanupPhase.listeners]
  | cleanupRemove =>
    simp only [SubscriberPeer.step] at taken
    split at taken
    · rename_i registered phase
      cases taken
      apply quiet
      apply sound.clearing
      all_goals simp [phase, CleanupPhase.slots, CleanupPhase.listeners]
    · cases taken
  | cleanupCount =>
    simp only [SubscriberPeer.step] at taken
    split at taken
    · rename_i registered phase
      cases taken
      apply quiet
      apply sound.clearing
      · simp [phase]
      · simp [phase, CleanupPhase.slots]
      · cases registered <;> simp [phase, CleanupPhase.listeners]
        rfl
    · cases taken
  | othersSlots change =>
    cases taken
    apply sound.others
    · rfl
    · simp [PeerEvent.listeners]
  | othersListeners change =>
    cases taken
    apply sound.others
    · simp [PeerEvent.slots]
    · rfl
  | othersAdd subscriberID busID =>
    simp only [SubscriberPeer.step] at taken
    split_ifs at taken with own
    split at taken
    · cases taken
      apply sound.others
      · simp [PeerEvent.slots]
      · simp [PeerEvent.listeners]
    · cases taken
      exact sound.quiet
  | othersRemove subscriberID =>
    simp only [SubscriberPeer.step] at taken
    split_ifs at taken with own
    cases taken
    apply sound.others
    · simp [PeerEvent.slots]
    · simp [PeerEvent.listeners]

end

end Sound

theorem Sound.new {id busID : String} {maximum : Int} {session : RelaySession} {pendingSlots listenerCount : Int} :
    Sound pendingSlots listenerCount (.new id busID maximum session pendingSlots listenerCount) := by
  constructor <;>
    simp [SubscriberPeer.new, outstanding, JoinPhase.slots, CallbackPhase.slots, CleanupPhase.slots,
      CallbackPhase.listeners, CleanupPhase.listeners, CallbackPhase.registered]

/-- `cleanup` and the callback agree on whether there is a subscription to take back, and it is
there until then. -/
structure Settled (p : SubscriberPeer) : Prop where
  agree : ∀ registered, p.cleanup.read = some registered → p.callback.outcome = some registered
  own : ∀ s ∈ p.session.subscriptions, s.subscriberID = p.id →
    p.callback.outcome = some true ∧ p.cleanup.hasRemoved = false

/-- The callback is not at work when `cleanup` loads `subscriptionRegistered`: it has not won the
slot, has added its subscription, or has taken the flag back. -/
def Timely (h : List (Step SubscriberPeer PeerEvent)) : Prop :=
  ∀ x ∈ h, x.event = .cleanupLoad → x.before.callback.outcome ≠ none

instance (h : List (Step SubscriberPeer PeerEvent)) : Decidable (Timely h) :=
  inferInstanceAs (Decidable (∀ x ∈ h, _ → _))

namespace Settled

variable {p p' : SubscriberPeer} {slots listeners : Int}

theorem unread (settled : Settled p) (busy : p.callback.outcome = none) : p.cleanup.read = none := by
  cases read : p.cleanup.read with
  | none => rfl
  | some registered =>
    have known := settled.agree registered read
    rw [busy] at known
    cases known

theorem absent (settled : Settled p) (busy : p.callback.outcome ≠ some true) :
    ∀ s ∈ p.session.subscriptions, s.subscriberID ≠ p.id :=
  fun s member same => busy (settled.own s member same).1

theorem working (settled : Settled p) (busy : p.callback.outcome = none) {phase : CallbackPhase} {pending : Int}
    {registered : Bool} :
    Settled { p with pendingSlots := pending, subscriptionRegistered := registered, callback := phase } where
  agree registered read := by cases (settled.unread busy).symm.trans read
  own s member same := absurd same (settled.absent (by simp [busy]) s member)

theorem frame (settled : Settled p) (same : p'.id = p.id) (session : p'.session = p.session)
    (callback : p'.callback = p.callback) (cleanup : p'.cleanup = p.cleanup) : Settled p' where
  agree := by
    rw [callback, cleanup]
    exact settled.agree
  own := by
    rw [session, callback, cleanup, same]
    exact settled.own

theorem step (settled : Settled p) (sound : Sound slots listeners p) {e : PeerEvent} (taken : p.step e = some p')
    (timely : e = .cleanupLoad → p.callback.outcome ≠ none) : Settled p' := by
  cases e with
  | loadPending | compareSlots | claimSlot | storeReserved =>
    simp only [SubscriberPeer.step] at taken
    repeat' split at taken
    all_goals
      cases taken
      try exact settled.frame rfl rfl rfl rfl
  | othersSlots | othersListeners =>
    cases taken
    exact settled.frame rfl rfl rfl rfl
  | swapReserved =>
    obtain ⟨guard, rfl⟩ := Option.guarded taken
    constructor
    · intro registered read
      -- `cleanup` has taken the slot before
      have free := (sound.cleaning (CleanupPhase.ne_waiting_of_read read)).2
      have known := settled.agree registered read
      rw [guard.2] at known
      simp only [free, Bool.false_eq_true, if_false]
      exact known
    · intro s member same
      exact absurd same (settled.absent (by simp [guard.2, CallbackPhase.outcome]) s member)
  | releaseSlot | resetRegistered | swapRegistered =>
    obtain ⟨phase, rfl⟩ := Option.guarded taken
    exact settled.working (by simp [phase, CallbackPhase.outcome])
  | addBusSubscription =>
    simp only [SubscriberPeer.step] at taken
    split_ifs at taken with phase
    have busy : p.callback.outcome = none := by simp [phase, CallbackPhase.outcome]
    split at taken
    · rename_i session added
      cases taken
      constructor
      · intro registered read
        cases (settled.unread busy).symm.trans read
      · intro s _ _
        refine ⟨rfl, ?_⟩
        exact CleanupPhase.hasRemoved_of_unread (settled.unread busy)
    · cases taken
      exact settled.working busy
  | countListener =>
    obtain ⟨phase, rfl⟩ := Option.guarded taken
    have outcome : p.callback.outcome = CallbackPhase.outcome (.finished true) := by rw [phase]; rfl
    constructor
    · intro registered read
      exact outcome ▸ settled.agree registered read
    · intro s member same
      exact outcome ▸ settled.own s member same
  | cleanupSwap =>
    obtain ⟨guard, rfl⟩ := Option.guarded taken
    constructor
    · intro registered read
      cases reserved : p.slotReserved <;> simp [reserved, CleanupPhase.read] at read
    · intro s member same
      refine ⟨(settled.own s member same).1, ?_⟩
      cases reserved : p.slotReserved <;> simp [CleanupPhase.hasRemoved]
  | cleanupRelease =>
    obtain ⟨phase, rfl⟩ := Option.guarded taken
    exact ⟨nofun, fun s member same => ⟨(settled.own s member same).1, rfl⟩⟩
  | cleanupLoad =>
    obtain ⟨phase, rfl⟩ := Option.guarded taken
    constructor
    · intro registered read
      cases read
      obtain ⟨added, known⟩ := Option.ne_none_iff_exists'.mp (timely rfl)
      rw [sound.flag, CallbackPhase.registered_of_outcome known]
      exact known
    · exact fun s member same => ⟨(settled.own s member same).1, rfl⟩
  | cleanupRemove =>
    simp only [SubscriberPeer.step] at taken
    split at taken
    · rename_i registered phase
      cases taken
      constructor
      · intro registered' read
        cases read
        exact settled.agree registered (by rw [phase]; rfl)
      · intro s member same
        have other := (List.mem_filter.mp member).2
        exact absurd same (by simpa using other)
    · cases taken
  | cleanupCount =>
    simp only [SubscriberPeer.step] at taken
    split at taken
    · rename_i registered phase
      cases taken
      constructor
      · intro registered' read
        cases read
        exact settled.agree registered (by rw [phase]; rfl)
      · intro s member same
        have removed := (settled.own s member same).2
        rw [phase] at removed
        cases removed
    · cases taken
  | othersAdd subscriberID busID =>
    simp only [SubscriberPeer.step] at taken
    split_ifs at taken with own
    split at taken
    · rename_i session added
      cases taken
      refine ⟨settled.agree, ?_⟩
      unfold RelaySession.addBusSubscription at added
      split_ifs at added
      cases added
      intro s member same
      rcases List.mem_append.mp member with old | last
      · exact settled.own s old same
      · rw [List.mem_singleton.mp last] at same
        exact absurd same own
    · cases taken
      exact settled
  | othersRemove subscriberID =>
    simp only [SubscriberPeer.step] at taken
    split_ifs at taken with own
    cases taken
    exact ⟨settled.agree, fun s member => settled.own s (List.mem_of_mem_filter member)⟩

end Settled

def othersSlots (h : List (Step SubscriberPeer PeerEvent)) : Int := (h.map fun x => x.event.slots).sum

def othersListeners (h : List (Step SubscriberPeer PeerEvent)) : Int := (h.map fun x => x.event.listeners).sum

variable {id busID : String} {maximum pendingSlots listenerCount : Int} {session : RelaySession}
  {h : List (Step SubscriberPeer PeerEvent)} {p : SubscriberPeer}

section

variable (run : Runs (.new id busID maximum session pendingSlots listenerCount) h p)

include run

theorem sound_of_run : p.Sound (pendingSlots + othersSlots h) (listenerCount + othersListeners h) := by
  induction run with
  | nil => exact Sound.new.quiet
  | snoc _ step ih =>
    have next := ih.step step
    simpa [othersSlots, othersListeners, Int.add_assoc] using next

omit run in
theorem Timely.shorter {x : Step SubscriberPeer PeerEvent} (timely : Timely (h ++ [x])) : Timely h :=
  fun y member => timely y (List.mem_append_left _ member)

theorem settled_of_run (timely : Timely h) (absent : ∀ s ∈ session.subscriptions, s.subscriberID ≠ id) : p.Settled := by
  refine run.history (I := fun _ p => p.Settled) (G := Timely) Timely.shorter ?_ ?_ timely
  · exact ⟨nofun, fun s member same => absurd same (absent s member)⟩
  · intro h t e u before timely settled step
    apply settled.step (sound_of_run before) step
    intro load
    exact timely ⟨t, e, u⟩ (by simp) load

omit run in
theorem step_id {p' : SubscriberPeer} {e : PeerEvent} (taken : p.step e = some p') : p'.id = p.id := by
  cases e <;> simp only [step] at taken
  all_goals
    repeat' split at taken
    all_goals
      cases taken
      try rfl

theorem id_of_run : p.id = id :=
  run.invariant (I := fun p => p.id = id) (fun same step => (step_id step).trans same) rfl

end

/-- Once the callback and `cleanup` have ended, the slot is given back, whatever the order. If
`cleanup` did not read the flag while the callback was at work, the RelaySession has no
subscription of the peer and the listener count is what it would be without the peer. -/
theorem subscription_ends_with_peer (run : Runs (.new id busID maximum session pendingSlots listenerCount) h p)
    (absent : ∀ s ∈ session.subscriptions, s.subscriberID ≠ id)
    (called : p.callback = .waiting ∨ ∃ added, p.callback = .finished added)
    (cleaned : ∃ registered, p.cleanup = .finished registered) :
    p.pendingSlots = pendingSlots + othersSlots h ∧
    (Timely h → (∀ s ∈ p.session.subscriptions, s.subscriberID ≠ id) ∧
      p.listenerCount = listenerCount + othersListeners h) := by
  have sound := sound_of_run run
  obtain ⟨registered, cleanup⟩ := cleaned
  constructor
  · have held := sound.pending
    obtain ⟨joined, free⟩ := sound.cleaning (by simp [cleanup])
    have unreserved : p.join.slots = 0 := by
      rcases joined with joined | refused
      · rw [joined]
        rfl
      · rw [refused]
        rfl
    have given : p.callback.slots = 0 := by
      rcases called with waiting | ⟨added, finished⟩
      · rw [waiting]
        rfl
      · rw [finished]
        rfl
    rw [outstanding, unreserved, free, given, cleanup] at held
    simpa [CleanupPhase.slots] using held
  · intro timely
    have settled := settled_of_run run timely absent
    have known := settled.agree registered (by rw [cleanup]; rfl)
    constructor
    · intro s member same
      have kept := (settled.own s member (by rw [same, id_of_run run])).2
      rw [cleanup] at kept
      cases kept
    · have counted := sound.count
      rcases called with waiting | ⟨added, finished⟩
      · rw [waiting] at known counted
        cases known
        rw [cleanup] at counted
        simpa [CallbackPhase.listeners, CleanupPhase.listeners] using counted
      · rw [finished] at known counted
        cases known
        rw [cleanup] at counted
        cases registered
        all_goals
          simp only [CallbackPhase.listeners, CleanupPhase.listeners] at counted
          omega

/-! A peer that leaves while its connection comes up. -/
namespace Plain

def connecting : List PeerEvent :=
  [.loadPending, .compareSlots, .claimSlot, .storeReserved, .swapReserved, .releaseSlot]

def outlived : List PeerEvent :=
  connecting ++ ([.cleanupSwap, .cleanupLoad, .cleanupRemove, .cleanupCount, .swapRegistered, .addBusSubscription,
    .countListener] : List PeerEvent)

def inTime : List PeerEvent :=
  connecting ++ ([.swapRegistered, .cleanupSwap, .addBusSubscription, .cleanupLoad, .othersSlots 1, .cleanupRemove,
    .cleanupCount, .countListener] : List PeerEvent)

def joining : SubscriberPeer := .new "p" "mix" 8 (.new "s" 4 8) 0 0

def peerHistory (events : List PeerEvent) : List (Step SubscriberPeer PeerEvent) :=
  Machine.trail SubscriberPeer.step joining events

def peerAfter (events : List PeerEvent) : SubscriberPeer := Machine.final SubscriberPeer.step joining events

end Plain

open Plain in
theorem subscription_outlives_peer :
    Runs joining (peerHistory outlived) (peerAfter outlived) ∧
    joining.session.subscriptions = [] ∧ joining.listenerCount = 0 ∧
    (peerAfter outlived).callback = .finished true ∧ (peerAfter outlived).cleanup = .finished false ∧
    (peerAfter outlived).session.subscriptions = [⟨"p", "mix"⟩] ∧ (peerAfter outlived).listenerCount = 1 :=
  And.imp_left Machine.exec_of_allows (by decide +kernel)

open Plain in
theorem subscription_ends_with_peer_inTime :
    (peerAfter inTime).callback = .finished true ∧ (peerAfter inTime).cleanup = .finished true ∧
    othersSlots (peerHistory inTime) = 1 ∧ (peerAfter inTime).pendingSlots = 0 + othersSlots (peerHistory inTime) ∧
    (∀ s ∈ (peerAfter inTime).session.subscriptions, s.subscriberID ≠ "p") ∧
    (peerAfter inTime).listenerCount = 0 + othersListeners (peerHistory inTime) := by
  obtain ⟨allowed, called, cleaned, others, settles⟩ : Machine.allows SubscriberPeer.step joining inTime = true ∧
      (peerAfter inTime).callback = .finished true ∧ (peerAfter inTime).cleanup = .finished true ∧
      othersSlots (peerHistory inTime) = 1 ∧ Timely (peerHistory inTime) := by
    decide +kernel
  obtain ⟨slots, settled⟩ :=
    subscription_ends_with_peer (Machine.exec_of_allows allowed) nofun (.inr ⟨true, called⟩) ⟨true, cleaned⟩
  exact ⟨called, cleaned, others, slots, settled settles⟩

end SubscriberPeer

end Relay
