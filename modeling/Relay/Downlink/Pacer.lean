import Relay.Downlink.RetransmissionCache
import Relay.Lib.Run
import Mathlib.Data.List.Sort

/-! The pacer of one subscriber in forward mode. Producers, NACK handlers, the worker and
`Stop` interleave between their atomic operations and channel operations. Tickets are not
in the source: they number the packets put in the queue, to tell apart what the completed
count counts. -/
namespace Relay

def defaultPacerMaxQueueAge : Duration := 120 * millisecond
def defaultForwardReorderWait : Duration := 40 * millisecond
def maxPacerPacketBytes : Nat := 1460
def maxPacerHeaderExtensionsCount : Nat := maxPacerPacketBytes / 2
def pendingCapacity : Nat := defaultPacerCapacity + 1

structure PacedPacket where
  owned : Slot
  enqueuedAt : Time
  source : SourceIdentity
  extSeq : Int
  ticket : Nat
deriving DecidableEq

def sortPacedPackets (items : List PacedPacket) : List PacedPacket :=
  items.insertionSort fun a b => a.extSeq ≤ b.extSeq

/-- The word `enqueueState`: its top bit and the producers it counts. -/
structure EnqueueState where
  closed : Bool
  active : Nat
deriving DecidableEq

inductive ProducerPhase where
  | called
  | loaded (state : EnqueueState)
  | admitted
  | searching (pkt : RtpPacket) (startSlot offsetCount : Nat)
  | holding (k : Slot) (enqueuedAt : Time)
  | sent
  | full (k : Slot)
  | leaving
  | returned
deriving DecidableEq

structure Producer where
  packet : Option RtpPacket
  source : SourceIdentity
  phase : ProducerPhase
deriving DecidableEq

inductive WorkerPhase where
  | top
  | drain
  | gap
  | waiting
  | hand (item : PacedPacket)
  | rejected (item : PacedPacket)
  | releasing (k : Slot)
  | stored (ticket : Nat) (previous : Option Slot)
  | exiting (released : List Nat)
  | clearing
  | finished
deriving DecidableEq

structure Worker where
  phase : WorkerPhase
  translator : RtpForwardTranslator
  unwrapper : SequenceUnwrapper
  pending : List PacedPacket
  haveReleased : Bool
  lastReleasedExtSeq : Int
deriving DecidableEq

inductive StopPhase where
  | idle
  | stopping
  | spinning
  | joined
  | waiting
  | draining
  | holding (item : PacedPacket)
  | counting (ticket : Nat)
  | returned
deriving DecidableEq

structure Pacer where
  stopped : Bool
  enqueueState : EnqueueState
  nextOwnedSlot : UInt32
  ownedPackets : OwnedPackets
  queue : List PacedPacket
  nacks : List UInt16
  done : Bool
  workerDone : Bool
  enqueuedCount : Nat
  completedCount : Nat
  retransmissionCache : RetransmissionCache
  producers : List Producer
  handlers : List UInt16
  worker : Worker
  stop : StopPhase
  puts : Nat
  counted : List Nat

inductive WorkerMove where
  | quit
  | retransmit (nowNs : Int)
  | take
  | settle
  | check (now : Time)
  | timeout (now : Time)
  | write (now : Time) (ok : Bool)
  | advance
deriving DecidableEq

inductive PacerEvent where
  | call (packet : Option RtpPacket) (source : SourceIdentity)
  | produce (i : Nat) (now : Time)
  | handleNACK (seq : UInt16)
  | offer (i : Nat)
  | setRTT (rtt : Duration)
  | work (move : WorkerMove)
  | stop
deriving DecidableEq

/-- `MarshalSize` of the packet library is a parameter. -/
def withinPacerPacketBounds (marshalSize : RtpPacket → Nat) (packet : RtpPacket) : Bool :=
  packet.csrc.length ≤ 15 && packet.extensions.length ≤ maxPacerHeaderExtensionsCount &&
    !(packet.extension && packet.extensionProfile != 0xbede && packet.extensionProfile != 0x1000 &&
      packet.extensions.isEmpty) &&
    marshalSize packet ≤ maxPacerPacketBytes

def stripSourceMediaPadding (packet : RtpPacket) : RtpPacket :=
  if !packet.padding || packet.payload.isEmpty then packet
  else { packet with padding := false, paddingSize := 0 }

namespace Worker

def new : Worker := ⟨.top, .zero, .zero, [], false, 0⟩

def loop (w : Worker) : Worker := { w with phase := if w.pending = [] then .top else .drain }

def gapOpen (w : Worker) (item : PacedPacket) : Bool :=
  w.haveReleased && w.lastReleasedExtSeq + 1 < item.extSeq && w.pending.length < pendingCapacity

def deadline (item : PacedPacket) (rest : List PacedPacket) : Time :=
  (rest.foldl (fun t x => if x.enqueuedAt < t then x.enqueuedAt else t) item.enqueuedAt)
    + defaultForwardReorderWait

def pop (w : Worker) (item : PacedPacket) (rest : List PacedPacket) : Worker :=
  let ahead := !w.haveReleased || w.lastReleasedExtSeq < item.extSeq
  { w with
    pending := rest
    phase := .hand item
    haveReleased := w.haveReleased || ahead
    lastReleasedExtSeq := if ahead then item.extSeq else w.lastReleasedExtSeq }

end Worker

namespace Pacer

def new : Pacer :=
  { stopped := false
    enqueueState := ⟨false, 0⟩
    nextOwnedSlot := 0
    ownedPackets := .new
    queue := []
    nacks := []
    done := false
    workerDone := false
    enqueuedCount := 0
    completedCount := 0
    retransmissionCache := .new
    producers := []
    handlers := []
    worker := .new
    stop := .idle
    puts := 0
    counted := [] }

variable (p : Pacer) (item : PacedPacket)

def goto (i : Nat) (q : Producer) (phase : ProducerPhase) : Pacer :=
  { p with producers := p.producers.set i { q with phase := phase } }

def release (k : Slot) : Pacer := { p with ownedPackets := p.ownedPackets.release k }

def complete (tickets : List Nat) : Pacer :=
  { p with completedCount := p.completedCount + tickets.length, counted := p.counted ++ tickets }

def candidate (startSlot offsetCount : Nat) : Slot :=
  ⟨(startSlot + offsetCount) % ownedPacerPacketCount, Nat.mod_lt _ (by decide)⟩

/-- One atomic operation of `EnqueueSource` with what follows it up to the next. -/
def produce (marshalSize : RtpPacket → Nat) (p : Pacer) (i : Nat) (q : Producer) (now : Time) :
    Option Pacer :=
  match q.phase with
  | .called => some (p.goto i q (.loaded p.enqueueState))
  | .loaded state =>
    if state.closed then some (p.goto i q .returned)
    else if p.enqueueState = state then
      some { p.goto i q .admitted with enqueueState := { state with active := state.active + 1 } }
    else some (p.goto i q .called)
  | .admitted =>
    match q.packet with
    | none => some (p.goto i q .leaving)
    | some pkt =>
      if withinPacerPacketBounds marshalSize pkt then
        let next := p.nextOwnedSlot + 1
        some { p.goto i q (.searching pkt (next.toNat % ownedPacerPacketCount) 0) with nextOwnedSlot := next }
      else some (p.goto i q .leaving)
  | .searching pkt startSlot offsetCount =>
    if offsetCount < ownedPacerPacketCount then
      let k := candidate startSlot offsetCount
      if p.ownedPackets.claimed k then some (p.goto i q (.searching pkt startSlot (offsetCount + 1)))
      else some { p.goto i q (.holding k now) with ownedPackets := p.ownedPackets.claim k pkt }
    else some (p.goto i q .leaving)
  | .holding k enqueuedAt =>
    if p.queue.length < defaultPacerCapacity then
      some { p.goto i q .sent with
        queue := p.queue ++ [⟨k, enqueuedAt, q.source, 0, p.puts⟩]
        puts := p.puts + 1 }
    else some (p.goto i q (.full k))
  | .sent => some { p.goto i q .leaving with enqueuedCount := p.enqueuedCount + 1 }
  | .full k => some ((p.release k).goto i q .leaving)
  | .leaving =>
    some { p.goto i q .returned with
      enqueueState := { p.enqueueState with active := p.enqueueState.active - 1 } }
  | .returned => none

def prepareForwardItem : Pacer × PacedPacket :=
  let translated := p.worker.translator.translateAt (p.ownedPackets.packet item.owned) item.source
    item.enqueuedAt
  let unwrapped := p.worker.unwrapper.unwrap translated.2.1.sequenceNumber
  ({ p with
      ownedPackets := p.ownedPackets.write item.owned translated.2.1
      worker := { p.worker with translator := translated.1, unwrapper := unwrapped.1 } },
    { item with extSeq := unwrapped.2 })

def receive : Option Pacer :=
  match p.queue with
  | [] => none
  | item :: rest =>
    let (p', item') := p.prepareForwardItem item
    some { p' with queue := rest, worker := { p'.worker with pending := p'.worker.pending ++ [item'] } }

def retransmit (nowNs : Int) : Option Pacer :=
  match p.nacks with
  | [] => none
  | seq :: rest =>
    some { p with
      nacks := rest
      retransmissionCache := (p.retransmissionCache.load p.ownedPackets seq nowNs).1 }

def enter (phase : WorkerPhase) : Pacer := { p with worker := { p.worker with phase := phase } }

def sorted : Pacer :=
  { p with worker := { p.worker with pending := sortPacedPackets p.worker.pending } }

def quit : Option Pacer := if p.done then some (p.enter (.exiting [])) else none

def writeForwardItem (now : Time) (ok : Bool) : Pacer :=
  if defaultPacerMaxQueueAge < now.sub item.enqueuedAt then p.enter (.rejected item)
  else
    let packet := stripSourceMediaPadding (p.ownedPackets.packet item.owned)
    let p' := { p with ownedPackets := p.ownedPackets.write item.owned packet }
    if ok then
      let (cache, previous) := p'.retransmissionCache.storeOwned p'.ownedPackets item.owned
      { p'.enter (.stored item.ticket previous) with retransmissionCache := cache }
    else p'.enter (.rejected item)

def selectTop : WorkerMove → Option Pacer
  | .quit => p.quit
  | .retransmit nowNs => p.retransmit nowNs
  | .take => p.receive.map (·.enter .drain)
  | _ => none

/-- The receives that do not block, and the sort after them. -/
def drainQueue : WorkerMove → Option Pacer
  | .take => if p.worker.pending.length < pendingCapacity then p.receive else none
  | .settle =>
    if p.worker.pending.length < pendingCapacity ∧ p.queue ≠ [] then none else some (p.sorted.enter .gap)
  | _ => none

/-- The head of the gap wait: its condition and the time that is left. -/
def checkGap : WorkerMove → Option Pacer
  | .check now =>
    match p.worker.pending with
    | [] => none
    | item :: rest =>
      if p.worker.gapOpen item ∧ now < Worker.deadline item rest then some (p.enter .waiting)
      else some { p with worker := p.worker.pop item rest }
  | _ => none

def waitGap : WorkerMove → Option Pacer
  | .quit => p.quit
  | .retransmit nowNs => (p.retransmit nowNs).map (·.enter .gap)
  | .take => p.receive.map fun p' => p'.sorted.enter .gap
  | .timeout now =>
    match p.worker.pending with
    | [] => none
    | item :: rest =>
      if Worker.deadline item rest ≤ now then some { p with worker := p.worker.pop item rest } else none
  | _ => none

/-- One round of the loop of `clear`, and the end of the worker after the last. -/
def clearCache : Pacer :=
  match p.retransmissionCache.occupied with
  | none => { p.enter .finished with workerDone := true }
  | some (j, k) => { p.release k with retransmissionCache := p.retransmissionCache.evict j }

/-- What follows a write, and what the worker defers: counting, releasing, clearing. -/
def advance : WorkerPhase → Option Pacer
  | .rejected item => some ((p.complete [item.ticket]).enter (.releasing item.owned))
  | .releasing k => some { p.release k with worker := p.worker.loop }
  | .stored ticket (some k) => some ((p.release k).enter (.stored ticket none))
  | .stored ticket none => some { p.complete [ticket] with worker := p.worker.loop }
  | .exiting released =>
    match p.worker.pending with
    | [] => some ((p.complete released).enter .clearing)
    | item :: rest =>
      some { p.release item.owned with
        worker := { p.worker with pending := rest, phase := .exiting (released ++ [item.ticket]) } }
  | .clearing => some p.clearCache
  | _ => none

/-- One channel or atomic operation of `runForward` and of what `run` defers. -/
def work (move : WorkerMove) : Option Pacer :=
  match p.worker.phase with
  | .top => p.selectTop move
  | .drain => p.drainQueue move
  | .gap => p.checkGap move
  | .waiting => p.waitGap move
  | .hand item =>
    match move with
    | .write now ok => some (p.writeForwardItem item now ok)
    | _ => none
  | phase => if move = .advance then p.advance phase else none

/-- One atomic or channel operation of `Stop`. -/
def stopStep : Option Pacer :=
  match p.stop with
  | .idle => some { p with stopped := true, stop := .stopping }
  | .stopping => some { p with enqueueState := { p.enqueueState with closed := true }, stop := .spinning }
  | .spinning => some (if p.enqueueState.active = 0 then { p with stop := .joined } else p)
  | .joined => some { p with done := true, stop := .waiting }
  | .waiting => if p.workerDone then some { p with stop := .draining } else none
  | .draining =>
    match p.queue with
    | [] => some { p with stop := .returned }
    | item :: rest => some { p with queue := rest, stop := .holding item }
  | .holding item => some { p.release item.owned with stop := .counting item.ticket }
  | .counting ticket => some { p.complete [ticket] with stop := .draining }
  | .returned => none

def step (marshalSize : RtpPacket → Nat) (p : Pacer) : PacerEvent → Option Pacer
  | .call packet source => some { p with producers := p.producers ++ [⟨packet, source, .called⟩] }
  | .produce i now => (p.producers[i]?).bind fun q => p.produce marshalSize i q now
  | .handleNACK seq => some (if p.stopped then p else { p with handlers := p.handlers ++ [seq] })
  | .offer i =>
    match p.handlers[i]? with
    | none => none
    | some seq =>
      some { p with
        handlers := p.handlers.eraseIdx i
        nacks := if p.nacks.length < defaultPacerCapacity then p.nacks ++ [seq] else p.nacks }
  | .setRTT rtt => some { p with retransmissionCache := p.retransmissionCache.setRTT rtt }
  | .work move => p.work move
  | .stop => p.stopStep

def Runs (marshalSize : RtpPacket → Nat) (h : List (Step Pacer PacerEvent)) (p : Pacer) : Prop :=
  Exec (Machine.Moves (step marshalSize)) new h p

end Pacer

end Relay
