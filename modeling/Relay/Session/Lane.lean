import Relay.Downlink.Forwarder
import Relay.Lib.Run

/-! The forwarding side of the buses of a RelaySession: attachments and their forward loops,
the inactivity and reconnect timers of each bus, and the one-way end of a bus. Calls, loops
and timer callbacks interleave between their locks, channel operations and timer operations. -/
namespace Relay

/-- A timer of `time.AfterFunc`: a stop of a timer that has fired changes nothing. -/
inductive TimerState where
  | stopped
  | armed
  | fired
deriving DecidableEq

def TimerState.stop : TimerState → TimerState
  | .armed => .stopped
  | t => t

inductive BusTimer where
  | inactivity
  | reconnect
deriving DecidableEq

/-- `closeOnce` of a bus. -/
inductive CloseOnce where
  | unused
  | running
  | finished
deriving DecidableEq

/-- How far an attachment has come, from the installation of its source by `SetSource` to
the end of its forward loop. -/
inductive LoopPhase where
  | installed
  | joined
  | cleared
  | reading
  | got (pkt : RtpPacket)
  | delivering (pkt : RtpPacket)
  | leaving
  | detached
  | arming
  | finished
deriving DecidableEq

def LoopPhase.launched : LoopPhase → Bool
  | .installed | .joined | .cleared => false
  | _ => true

/-- One attachment: what was read from its source and what was passed to `deliver`. -/
structure Attachment where
  source : Nat
  phase : LoopPhase
  returned : Bool
  failed : Bool
  read : List RtpPacket
  delivered : List RtpPacket
deriving DecidableEq

/-- An `AudioBus`. The generation of an attachment is its place in the list, and `callers`
are the calls of `AttachSource` that have the bus and not yet its lock. -/
structure Lane where
  source : Option Nat
  attachments : List Attachment
  callers : List Nat
  inactivityTimer : TimerState
  reconnectTimer : TimerState
  closers : Nat
  once : CloseOnce
  done : Bool
deriving DecidableEq

inductive LoopAct where
  | join
  | stopTimers
  | launch
  | answer
  | read (pkt : RtpPacket)
  | fail
  | check
  | deliver
  | detach
  | rest
  | arm
deriving DecidableEq

namespace Lane

/-- `newAudioBus`, with `reconnectTimer` still nil. -/
def new : Lane := ⟨none, [], [], .armed, .stopped, 0, .unused, false⟩

variable (l : Lane) (i : Nat) (a : Attachment)

def sourceGeneration : Nat := l.attachments.length

/-- The part of `SetSource` under the lock. The loop of the attachment before it is the one
that it then waits for. -/
def install (n : Nat) : Option Lane :=
  match l.callers[n]? with
  | none => none
  | some source =>
    some { l with
      source := some source
      attachments := l.attachments ++ [⟨source, .installed, false, false, [], []⟩]
      callers := l.callers.eraseIdx n }

def enter (phase : LoopPhase) : Lane :=
  { l with attachments := l.attachments.set i { a with phase := phase } }

def previousDone : Bool :=
  i == 0 || (l.attachments[i - 1]?).any fun a => a.phase == .finished

def stopTimers : Lane :=
  { l with inactivityTimer := l.inactivityTimer.stop, reconnectTimer := l.reconnectTimer.stop }

/-- One operation of `SetSource` after its lock, or of `forwardLoop`. -/
def act : LoopAct → Option Lane
  | .join => if a.phase = .installed ∧ l.previousDone i then some (l.enter i a .joined) else none
  | .stopTimers => if a.phase = .joined then some (l.stopTimers.enter i a .cleared) else none
  | .launch => if a.phase = .cleared then some (l.enter i a .reading) else none
  | .answer =>
    if a.phase.launched then some { l with attachments := l.attachments.set i { a with returned := true } }
    else none
  | .read pkt =>
    if a.phase = .reading then some (l.enter i { a with read := a.read ++ [pkt] } (.got pkt)) else none
  | .fail => if a.phase = .reading then some (l.enter i { a with failed := true } .leaving) else none
  | .check =>
    match a.phase with
    | .got pkt => some (l.enter i a (if l.done then .leaving else .delivering pkt))
    | _ => none
  | .deliver =>
    match a.phase with
    | .delivering pkt => some (l.enter i { a with delivered := a.delivered ++ [pkt] } .reading)
    | _ => none
  | .detach =>
    if a.phase = .leaving then
      some { l.enter i a .detached with source := if l.source = some a.source then none else l.source }
    else none
  | .rest =>
    if a.phase = .detached then some (l.enter i a (if l.done then .finished else .arming)) else none
  | .arm =>
    if a.phase = .arming then some { l.enter i a .finished with reconnectTimer := .armed } else none

def timer : BusTimer → TimerState
  | .inactivity => l.inactivityTimer
  | .reconnect => l.reconnectTimer

def fire (timer : BusTimer) : Option Lane :=
  if l.timer timer = .armed then
    match timer with
    | .inactivity => some { l with inactivityTimer := .fired, closers := l.closers + 1 }
    | .reconnect => some { l with reconnectTimer := .fired, closers := l.closers + 1 }
  else none

/-- `close` up to the stop of the timers. -/
def startClose : Option Lane :=
  if 0 < l.closers ∧ l.once = .unused then some { l.stopTimers with once := .running } else none

def finishClose : Option Lane :=
  if l.once = .running then some { l with once := .finished, done := true } else none

end Lane

structure LaneSession where
  lanes : Table String Lane
  maxBuses : Nat
  closed : Bool

inductive LaneEvent where
  | lookup (busID : String) (source : Nat)
  | install (busID : String) (n : Nat)
  | loop (busID : String) (i : Nat) (act : LoopAct)
  | fire (busID : String) (timer : BusTimer)
  | startClose (busID : String)
  | finishClose (busID : String)
  | closeBus (busID : String)
  | close
deriving DecidableEq

namespace LaneSession

def new (maxBuses : Nat) : LaneSession := ⟨∅, maxBuses, false⟩

/-- `GetOrCreateBus` for a call of `AttachSource`. At the limit the call fails. -/
def lookup (s : LaneSession) (busID : String) (source : Nat) : LaneSession :=
  match s.lanes.lookup busID with
  | some l => { s with lanes := s.lanes.insert busID { l with callers := l.callers ++ [source] } }
  | none =>
    if s.maxBuses ≤ s.lanes.size then s
    else { s with lanes := s.lanes.insert busID { Lane.new with callers := [source] } }

def onLane (s : LaneSession) (busID : String) (f : Lane → Option Lane) : Option LaneSession :=
  match s.lanes.lookup busID with
  | none => none
  | some l => (f l).map fun l' => { s with lanes := s.lanes.insert busID l' }

def step (s : LaneSession) : LaneEvent → Option LaneSession
  | .lookup busID source => some (s.lookup busID source)
  | .install busID n => s.onLane busID fun l => l.install n
  | .loop busID i act => s.onLane busID fun l => (l.attachments[i]?).bind fun a => l.act i a act
  | .fire busID timer => s.onLane busID fun l => l.fire timer
  | .startClose busID => s.onLane busID Lane.startClose
  | .finishClose busID => s.onLane busID Lane.finishClose
  | .closeBus busID =>
    -- the loop of `Close` over the buses
    if s.closed then s.onLane busID fun l => some { l with closers := l.closers + 1 } else none
  | .close => some { s with closed := true }

def Runs (maxBuses : Nat) (h : List (Step LaneSession LaneEvent)) (s : LaneSession) : Prop :=
  Exec (Machine.Moves step) (new maxBuses) h s

end LaneSession

end Relay
