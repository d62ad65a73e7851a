import Relay.Access.Placement

/-! Media processes and the access service they reach over a network. A process is named
by its relay epoch and runs any number of goroutines. A request may be delayed or repeated,
its reply may be late or never come, and a goroutine may give up waiting at any moment. -/
namespace Relay

/-- What a media process tells apart in the errors of the access service. -/
inductive Failure where
  | notFound
  | fenced
  | unavailable
deriving DecidableEq

def Failure.of : Err → Failure
  | .noRows => .notFound
  | .notExist => .notFound
  | .writerFenced => .fenced
  | _ => .unavailable

inductive Inquiry where
  | metadata (id : String)
  | acquire (id epoch : String) (expected : Nat)
  | apply (id : String) (snapshot : RelayState)
deriving DecidableEq

namespace Inquiry

def request : Inquiry → Request
  | .metadata id => .metadata id
  | .acquire id epoch expected => .acquire id epoch expected
  | .apply id snapshot => .apply id snapshot

def sessionID : Inquiry → String
  | .metadata id => id
  | .acquire id _ _ => id
  | .apply id _ => id

theorem visits (q : Inquiry) : q.request.Visits q.sessionID := by
  cases q <;> rfl

end Inquiry

structure Call where
  epoch : String
  ticket : Nat
  inquiry : Inquiry
deriving DecidableEq

/-- One attempt to place the process. The source keeps its Session as the map key only. -/
structure MediaWriter where
  sessionID : String
  done : Bool
  term : Nat
  expected : Nat
  err : Option Failure

def MediaWriter.retries (w : MediaWriter) : Bool :=
  w.done && w.err.isSome && w.err != some .fenced

/-- Where a goroutine stands. A writer is named by its address. -/
inductive Task where
  | idle
  | asking (admitting : Bool) (id : String) (call : Call)
  | holding (metadata : AuthorityMetadata)
  | waiting (metadata : AuthorityMetadata) (writer : Nat)
  | acquiring (id : String) (writer : Nat) (call : Call)
  | looked (id : String) (snapshot : RelayState) (writer : Nat)
  | pushing (id : String) (call : Call)

def Task.call : Task → Option Call
  | .asking _ _ call => some call
  | .acquiring _ _ call => some call
  | .pushing _ call => some call
  | _ => none

structure MediaProcess where
  maxRooms : Nat
  heap : List MediaWriter
  mediaWriters : Table String Nat
  tasks : Nat → Task
  tickets : Nat

inductive Admission where
  | refused
  | wait (writer : Nat)
  | acquire (writer expected : Nat)

namespace MediaProcess

def start (maxRooms : Nat) : MediaProcess := ⟨maxRooms, [], ∅, fun _ => .idle, 0⟩

variable (p : MediaProcess) (epoch : String) (i : Nat)

def register (id : String) (expected : Nat) : MediaProcess :=
  { p with
    heap := p.heap ++ [⟨id, false, 0, expected, none⟩]
    mediaWriters := p.mediaWriters.insert id p.heap.length }

def forget (id : String) : MediaProcess :=
  { p with mediaWriters := p.mediaWriters.erase id }

def settle (writer : Nat) (outcome : Except Failure Nat) : MediaProcess :=
  { p with
    heap := p.heap.modify writer fun w =>
      match outcome with
      | .ok term => { w with done := true, term := term, err := none }
      | .error e => { w with done := true, term := 0, err := some e } }

def setTask (i : Nat) (task : Task) : MediaProcess :=
  { p with tasks := Function.update p.tasks i task }

def ensureMediaWriter (metadata : AuthorityMetadata) : MediaProcess × Admission :=
  match p.mediaWriters.lookup metadata.sessionID with
  | some writer =>
    match p.heap[writer]? with
    | none => (p, .refused)
    | some w =>
      if w.retries then
        -- the new attempt expects what the first one expected
        (p.register metadata.sessionID w.expected, .acquire p.heap.length w.expected)
      else (p, .wait writer)
  | none =>
    if p.maxRooms ≤ p.mediaWriters.size then (p, .refused)
    else (p.register metadata.sessionID metadata.mediaTerm, .acquire p.heap.length metadata.mediaTerm)

def send (inquiry : Inquiry) (wait : Call → Task) : MediaProcess × List Call :=
  let call : Call := ⟨epoch, p.tickets, inquiry⟩
  ({ p with tickets := p.tickets + 1 }.setTask i (wait call), [call])

/-- A goroutine goes on by itself: into the locked part of an admission, or past a writer
that is done. -/
def resume : Option (MediaProcess × List Call) :=
  match p.tasks i with
  | .holding metadata =>
    match p.ensureMediaWriter metadata with
    | (p, .refused) => some (p.setTask i .idle, [])
    | (p, .wait writer) => some (p.setTask i (.waiting metadata writer), [])
    | (p, .acquire writer expected) =>
      some (p.send epoch i (.acquire metadata.sessionID epoch expected)
        (.acquiring metadata.sessionID writer))
  | .waiting metadata writer =>
    match p.heap[writer]? with
    | none => none
    | some w =>
      if w.done = false then none
      else if w.err = none ∧ (metadata.mediaTerm ≠ w.term ∨ metadata.relayEpoch ≠ epoch) then
        some (p.send epoch i (.metadata metadata.sessionID) (.asking false metadata.sessionID))
      else some (p.setTask i .idle, [])
  | .looked id snapshot writer =>
    match p.heap[writer]? with
    | none => none
    | some w =>
      if w.done = false then some (p.setTask i .idle, [])
      else
        match w.err with
        | some .notFound => some ((p.forget id).setTask i .idle, [])
        | some _ => some (p.setTask i .idle, [])
        | none => some (p.send epoch i (.apply id { snapshot with writerTerm := w.term }) (.pushing id))
  | _ => none

def receive (i : Nat) (outcome : Except Failure Answer) : Option MediaProcess :=
  match p.tasks i, outcome with
  | .asking admitting _ _, .ok (.authority metadata) =>
    some (p.setTask i (if admitting then .holding metadata else .idle))
  | .asking _ id _, .error .notFound => some ((p.forget id).setTask i .idle)
  | .asking _ _ _, _ => some (p.setTask i .idle)
  | .acquiring _ writer _, .ok (.term term) => some ((p.settle writer (.ok term)).setTask i .idle)
  | .acquiring _ writer _, .ok _ => some ((p.settle writer (.error .unavailable)).setTask i .idle)
  | .acquiring _ writer _, .error e => some ((p.settle writer (.error e)).setTask i .idle)
  | .pushing id _, .error .notFound => some ((p.forget id).setTask i .idle)
  | .pushing _ _, _ => some (p.setTask i .idle)
  | _, _ => none

def giveUp (i : Nat) : Option MediaProcess :=
  match p.tasks i with
  | .waiting _ _ => some (p.setTask i .idle)
  | _ => p.receive i (.error .unavailable)

def ask (admitting : Bool) (id : String) : Option (MediaProcess × List Call) :=
  match p.tasks i with
  | .idle => some (p.send epoch i (.metadata id) (.asking admitting id))
  | _ => none

def push (id : String) (state : RelayState) : Option MediaProcess :=
  match p.tasks i, p.mediaWriters.lookup id with
  | .idle, some writer =>
    some (p.setTask i (.looked id { state with sessionID := id, relayEpoch := epoch } writer))
  | _, _ => none

end MediaProcess

/-- The media processes by epoch, the access service, and what was sent between them. -/
structure Cluster where
  world : World
  processes : String → MediaProcess
  sent : List Call
  replied : List (Call × Except Failure Answer)

inductive Label where
  | access (e : Event)
  | serve (n : Nat) (s : Service) (env : Env)
  | ask (epoch : String) (i : Nat) (admitting : Bool) (id : String)
  | push (epoch : String) (i : Nat) (id : String) (state : RelayState)
  | resume (epoch : String) (i : Nat)
  | receive (epoch : String) (i n : Nat)
  | giveUp (epoch : String) (i : Nat)

def Action.acquires : Action → Bool
  | .call _ (.acquire _ _ _) => true
  | _ => false

namespace Cluster

def init (maxRooms : String → Nat) : Cluster :=
  ⟨World.empty, fun epoch => .start (maxRooms epoch), [], []⟩

def setProcess (c : Cluster) (epoch : String) (p : MediaProcess) (calls : List Call) : Cluster :=
  { c with processes := Function.update c.processes epoch p, sent := c.sent ++ calls }

/-- One step. Everything else that reaches the access service is an `access` step; only
media processes acquire. -/
def step (P : Primitives) (c : Cluster) : Label → Option Cluster
  | .access e =>
    if c.world.Allows e ∧ e.action.acquires = false then some { c with world := c.world.next P e } else none
  | .serve n s env =>
    match c.sent[n]? with
    | none => none
    | some call =>
      let e : Event := ⟨env, .call s call.inquiry.request⟩
      if c.world.Allows e then
        some { c with
          world := c.world.next P e
          replied := c.replied ++ [(call, (c.world.exec P e).reply.mapError Failure.of)] }
      else none
  | .ask epoch i admitting id =>
    ((c.processes epoch).ask epoch i admitting id).map fun out => c.setProcess epoch out.1 out.2
  | .push epoch i id state =>
    ((c.processes epoch).push epoch i id state).map fun p => c.setProcess epoch p []
  | .resume epoch i => ((c.processes epoch).resume epoch i).map fun out => c.setProcess epoch out.1 out.2
  | .receive epoch i n =>
    match c.replied[n]? with
    | none => none
    | some (call, outcome) =>
      if ((c.processes epoch).tasks i).call = some call then
        ((c.processes epoch).receive i outcome).map fun p => c.setProcess epoch p []
      else none
  | .giveUp epoch i => ((c.processes epoch).giveUp i).map fun p => c.setProcess epoch p []

end Cluster

abbrev ClusterHistory : Type := List (Step Cluster Label)

abbrev ClusterRuns (P : Primitives) (maxRooms : String → Nat) (h : ClusterHistory) (c : Cluster) : Prop :=
  Exec (Machine.Moves (Cluster.step P)) (Cluster.init maxRooms) h c

def accessStep (x : Step Cluster Label) : Option (Step World Event) :=
  match x.event with
  | .access e => some ⟨x.before.world, e, x.after.world⟩
  | .serve n s env =>
    (x.before.sent[n]?).map fun call =>
      ⟨x.before.world, ⟨env, .call s call.inquiry.request⟩, x.after.world⟩
  | _ => none

def accessSteps (h : ClusterHistory) : History := h.filterMap accessStep

end Relay
