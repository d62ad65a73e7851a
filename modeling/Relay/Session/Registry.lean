import Relay.Access.System
import Relay.Session.RelaySession

/-! The registry of the RelaySessions of one media process, and the goroutine that reports
them to the access service one after the other. A RelaySession that was closed leaves the
registry at its next use, and a later arrival creates another one for the same Session. -/
namespace Relay

/-- Every RelaySession ever created, in order, and the one registered for each Session. -/
structure Registry where
  objects : List LiveSession
  rooms : Table String Nat
  maxBuses : Nat
  maxSubscriptions : Nat

namespace Registry

def new (maxBuses maxSubscriptions : Nat) : Registry := ⟨[], ∅, maxBuses, maxSubscriptions⟩

variable (reg : Registry) (id : String)

def closed (i : Nat) : Bool := (reg.objects[i]?).any (·.session.closed)

def removeClosed : Registry :=
  { reg with rooms := reg.rooms.eraseWhere fun _ i => reg.closed i }

def create : Registry :=
  { reg with
    objects := reg.objects ++ [.new id reg.maxBuses reg.maxSubscriptions]
    rooms := reg.rooms.insert id reg.objects.length }

/-- The registry afterwards and the RelaySession, unless the limit refuses a new one. -/
def getOrCreateWithinLimit (maxSessions : Nat) : Registry × Option Nat :=
  match reg.removeClosed.rooms.lookup id with
  | some i => (reg.removeClosed, some i)
  | none =>
    if 0 < maxSessions ∧ maxSessions ≤ reg.removeClosed.rooms.size then (reg.removeClosed, none)
    else (reg.removeClosed.create id, some reg.objects.length)

def set (i : Nat) (l : LiveSession) : Registry :=
  { reg with objects := reg.objects.set i l }

def delete : Registry :=
  match reg.rooms.lookup id with
  | none => reg
  | some i =>
    { reg with
      objects := reg.objects.modify i fun l => { l with session := l.session.close }
      rooms := reg.rooms.erase id }

end Registry

/-- A media process with its epoch, the snapshot that its reporting goroutine has built and
not yet delivered, and the access service. -/
structure RelayProcess where
  relayEpoch : String
  registry : Registry
  pushing : Option RelayState
  world : World

inductive ProcessEvent where
  | join (id : String) (maxSessions : Nat)
  | sweep
  | attach (i : Nat) (e : SessionEvent)
  | build (i term : Nat)
  | deliver (s : Service) (env : Env)
  | drop (remove : Bool)
  | access (e : Event)

def Action.reports (epoch : String) : Action → Bool
  | .call _ (.apply _ snapshot) => snapshot.relayEpoch = epoch
  | _ => false

def SessionEvent.foreign (epoch : String) : SessionEvent → Bool
  | .compare epoch' _ => epoch' ≠ epoch
  | _ => false

namespace RelayProcess

def start (epoch : String) (maxBuses maxSubscriptions : Nat) : RelayProcess :=
  ⟨epoch, .new maxBuses maxSubscriptions, none, World.empty⟩

/-- The failures after which `pushControlState` removes the RelaySession. -/
def removes : Except Err Answer → Bool
  | .error .noRows | .error .notExist | .error .writerFenced => true
  | _ => false

def delivery (snapshot : RelayState) (s : Service) (env : Env) : Event :=
  ⟨env, .call s (.apply snapshot.sessionID snapshot)⟩

def step (P : Primitives) (p : RelayProcess) : ProcessEvent → Option RelayProcess
  | .join id maxSessions =>
    some { p with registry := (p.registry.getOrCreateWithinLimit id maxSessions).1 }
  | .sweep => some { p with registry := p.registry.removeClosed }
  | .attach i e =>
    match p.registry.objects[i]? with
    | none => none
    | some l =>
      if e.foreign p.relayEpoch then none
      else (l.step e).map fun l' => { p with registry := p.registry.set i l' }
  | .build i term =>
    -- `ControlState` has returned, and the goroutine copies the state under its term
    match p.pushing, p.registry.objects[i]? with
    | none, some l =>
      match l.read with
      | .returned state =>
        some { p with
          registry := p.registry.set i { l with read := .idle }
          pushing := some (state.snapshot term) }
      | _ => none
    | _, _ => none
  | .deliver s env =>
    match p.pushing with
    | none => none
    | some snapshot =>
      if p.world.Allows (delivery snapshot s env) then
        some { p with
          registry :=
            if removes (p.world.exec P (delivery snapshot s env)).reply then
              p.registry.delete snapshot.sessionID
            else p.registry
          pushing := none
          world := p.world.next P (delivery snapshot s env) }
      else none
  | .drop remove =>
    -- no term is known for the Session, so nothing is sent
    match p.pushing with
    | none => none
    | some snapshot =>
      some { p with
        registry := if remove then p.registry.delete snapshot.sessionID else p.registry
        pushing := none }
  | .access e =>
    if p.world.Allows e ∧ e.action.reports p.relayEpoch = false then
      some { p with world := p.world.next P e }
    else none

end RelayProcess

abbrev ProcessHistory : Type := List (Step RelayProcess ProcessEvent)

abbrev ProcessRuns (P : Primitives) (epoch : String) (maxBuses maxSubscriptions : Nat)
    (h : ProcessHistory) (p : RelayProcess) : Prop :=
  Exec (Machine.Moves (RelayProcess.step P)) (.start epoch maxBuses maxSubscriptions) h p

end Relay
