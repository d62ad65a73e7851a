import Relay.Access.Records

/-! The translation of the packets of several sources into one sequence and timestamp
space for a subscriber, and the unwrapping of the 16-bit sequence numbers. -/
namespace Relay

structure SourceIdentity where
  busID : String
  generation : Nat
  ssrc : UInt32
deriving DecidableEq

structure RtpPacket where
  sequenceNumber : UInt16
  timestamp : UInt32
  csrc : List UInt32
  extension : Bool
  extensionProfile : UInt16
  extensions : List (UInt8 × Bytes)
  padding : Bool
  paddingSize : UInt8
  payload : Bytes
deriving DecidableEq

def RtpPacket.zero : RtpPacket := ⟨0, 0, [], false, 0, [], false, 0, []⟩

def defaultAudioFrameSamples : UInt32 := 960

structure RtpForwardTranslator where
  initialized : Bool
  source : SourceIdentity
  sequenceOffset : UInt16
  timestampOffset : UInt32
  lastInputSequence : UInt16
  lastInputTimestamp : UInt32
  lastOutputSequence : UInt16
  lastOutputTimestamp : UInt32
  nominalSamples : UInt32
  lastArrival : Time
deriving DecidableEq

namespace RtpForwardTranslator

def zero : RtpForwardTranslator := ⟨false, ⟨"", 0, 0⟩, 0, 0, 0, 0, 0, 0, 0, 0⟩

variable (t : RtpForwardTranslator) (pkt : RtpPacket) (source : SourceIdentity) (arrival : Time)

/-- The timestamp distance given to a source switch: the frame size, or the time since the
last arrival rounded to whole frames where that is longer. -/
def timestampStep (arrival : Time) : UInt32 :=
  let step := if t.nominalSamples = 0 then defaultAudioFrameSamples else t.nominalSamples
  if !arrival.isZero && !t.lastArrival.isZero then
    let elapsed := arrival.sub t.lastArrival
    if 0 < elapsed then
      -- 64-bit arithmetic that wraps, as in the source
      let elapsedSamples := UInt64.ofInt elapsed * 48000 / UInt64.ofInt second
      let quantizedSamples := (elapsedSamples + step.toUInt64 / 2) / step.toUInt64 * step.toUInt64
      if step.toUInt64 < quantizedSamples ∧ quantizedSamples ≤ 0xffffffff then quantizedSamples.toUInt32
      else step
    else step
  else step

def start : RtpForwardTranslator :=
  { t with
    initialized := true
    source := source
    lastInputSequence := pkt.sequenceNumber
    lastInputTimestamp := pkt.timestamp
    lastOutputSequence := pkt.sequenceNumber
    lastOutputTimestamp := pkt.timestamp
    nominalSamples := defaultAudioFrameSamples
    lastArrival := arrival }

def rebase : RtpForwardTranslator × RtpPacket :=
  let sequenceOffset := t.lastOutputSequence + 1 - pkt.sequenceNumber
  let timestampOffset := t.lastOutputTimestamp + t.timestampStep arrival - pkt.timestamp
  let out := { pkt with
    sequenceNumber := pkt.sequenceNumber + sequenceOffset
    timestamp := pkt.timestamp + timestampOffset }
  ({ t with
      source := source
      sequenceOffset := sequenceOffset
      timestampOffset := timestampOffset
      lastInputSequence := out.sequenceNumber - sequenceOffset
      lastInputTimestamp := out.timestamp - timestampOffset
      lastOutputSequence := out.sequenceNumber
      lastOutputTimestamp := out.timestamp
      lastArrival := arrival }, out)

def frameSize : UInt32 :=
  let sequenceDelta := (pkt.sequenceNumber - t.lastInputSequence).toInt16
  let timestampDelta := (pkt.timestamp - t.lastInputTimestamp).toInt32
  if 0 < timestampDelta then
    let candidate := timestampDelta.toUInt32 / sequenceDelta.toInt32.toUInt32
    if 0 < candidate ∧ candidate ≤ 4800 then candidate else t.nominalSamples
  else t.nominalSamples

/-- The source of the last packet: the offsets stay, and only a packet ahead moves the
translator. -/
def follow (arrival : Time) : RtpForwardTranslator × RtpPacket :=
  let out := { pkt with
    sequenceNumber := pkt.sequenceNumber + t.sequenceOffset
    timestamp := pkt.timestamp + t.timestampOffset }
  if 0 < (pkt.sequenceNumber - t.lastInputSequence).toInt16 then
    ({ t with
        nominalSamples := t.frameSize pkt
        lastInputSequence := pkt.sequenceNumber
        lastInputTimestamp := pkt.timestamp
        lastOutputSequence := out.sequenceNumber
        lastOutputTimestamp := out.timestamp
        lastArrival := arrival }, out)
  else (t, out)

/-- The translator after a packet, the packet as it is sent on, and whether a source switch
reset the timeline. -/
def translateAt : RtpForwardTranslator × RtpPacket × Bool :=
  if !t.initialized then (t.start pkt source arrival, pkt, false)
  else if source ≠ t.source then
    let (t', out) := t.rebase pkt source arrival
    (t', out, true)
  else
    let (t', out) := t.follow pkt arrival
    (t', out, false)

end RtpForwardTranslator

structure SequenceUnwrapper where
  initialized : Bool
  highestExt : Int
deriving DecidableEq

namespace SequenceUnwrapper

def zero : SequenceUnwrapper := ⟨false, 0⟩

def unwrap (u : SequenceUnwrapper) (seq : UInt16) : SequenceUnwrapper × Int :=
  if !u.initialized then (⟨true, seq.toNat⟩, seq.toNat)
  else
    let ext := u.highestExt + (seq - UInt16.ofInt u.highestExt).toInt16.toInt
    (if u.highestExt < ext then { u with highestExt := ext } else u, ext)

end SequenceUnwrapper

end Relay
