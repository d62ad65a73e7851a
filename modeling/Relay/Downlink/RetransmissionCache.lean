import Relay.Downlink.Forwarder
import Mathlib.Data.Fin.Basic
import Mathlib.Logic.Function.Basic

/-! The storage of a pacer: the slots that own the bytes of a packet, and the cache that
keeps the slots of sent packets for retransmission. -/
namespace Relay

def defaultPacerCapacity : Nat := 32
def retransmissionCachePackets : Nat := 512
def ownedPacerPacketCount : Nat := retransmissionCachePackets + 2 * defaultPacerCapacity + 1

abbrev Slot : Type := Fin ownedPacerPacketCount

structure OwnedPackets where
  claimed : Slot → Bool
  packet : Slot → RtpPacket

namespace OwnedPackets

def new : OwnedPackets := ⟨fun _ => false, fun _ => .zero⟩

variable (o : OwnedPackets) (k : Slot) (pkt : RtpPacket)

def claim : OwnedPackets :=
  ⟨Function.update o.claimed k true, Function.update o.packet k pkt⟩

def write : OwnedPackets :=
  { o with packet := Function.update o.packet k pkt }

def release : OwnedPackets :=
  ⟨Function.update o.claimed k false, Function.update o.packet k .zero⟩

end OwnedPackets

structure RetransmissionSlot where
  owned : Option Slot
  lastRetransmitAtNs : Int
  retransmitCount : Nat
deriving DecidableEq

def minRetransmissionThrottle : Duration := 20 * millisecond
def maxRetransmissionThrottle : Duration := 100 * millisecond
def maxRetransmissionsPerPacket : Nat := 3

structure RetransmissionCache where
  slots : Fin retransmissionCachePackets → RetransmissionSlot
  rttNs : Int

inductive Loaded where
  | missed
  | throttled
  | granted (k : Slot)
deriving DecidableEq

/-- The first entry of a table that owns a slot. -/
@[irreducible]
def firstOwned {n : Nat} (slots : Fin n → RetransmissionSlot) : Option (Fin n × Slot) :=
  (List.finRange n).findSome? fun j => (slots j).owned.map (j, ·)

theorem firstOwned_some {n : Nat} {slots : Fin n → RetransmissionSlot} {j : Fin n} {k : Slot}
    (found : firstOwned slots = some (j, k)) : (slots j).owned = some k := by
  rw [firstOwned] at found
  obtain ⟨i, _, here⟩ := List.exists_of_findSome?_eq_some found
  obtain ⟨k', owned, same⟩ := Option.map_eq_some_iff.mp here
  cases same
  exact owned

theorem firstOwned_none {n : Nat} {slots : Fin n → RetransmissionSlot} (found : firstOwned slots = none)
    (j : Fin n) : (slots j).owned = none := by
  rw [firstOwned] at found
  have empty := List.findSome?_eq_none_iff.mp found j (List.mem_finRange j)
  exact Option.map_eq_none_iff.mp empty

namespace RetransmissionCache

def new : RetransmissionCache := ⟨fun _ => ⟨none, 0, 0⟩, 0⟩

def index (seq : UInt16) : Fin retransmissionCachePackets :=
  ⟨seq.toNat % retransmissionCachePackets, Nat.mod_lt _ (by decide)⟩

variable (c : RetransmissionCache) (o : OwnedPackets) (seq : UInt16) (nowNs : Int)

/-- `storeOwned` up to the release of the previous slot, which it returns. -/
def storeOwned (k : Slot) : RetransmissionCache × Option Slot :=
  let j := index (o.packet k).sequenceNumber
  ({ c with slots := Function.update c.slots j ⟨some k, 0, 0⟩ }, (c.slots j).owned)

def setRTT (rtt : Duration) : RetransmissionCache :=
  if 0 ≤ rtt then { c with rttNs := rtt } else c

/-- The product is a 64-bit duration. -/
def throttle : Duration :=
  if 0 < c.rttNs then
    min (max ((2 * c.rttNs).bmod (2 ^ 64)) minRetransmissionThrottle) maxRetransmissionThrottle
  else maxRetransmissionThrottle

def load : RetransmissionCache × Loaded :=
  let j := index seq
  let slot := c.slots j
  match slot.owned with
  | none => (c, .missed)
  | some k =>
    if (o.packet k).sequenceNumber ≠ seq then (c, .missed)
    else if maxRetransmissionsPerPacket ≤ slot.retransmitCount then (c, .throttled)
    else if slot.lastRetransmitAtNs ≠ 0 ∧ nowNs - slot.lastRetransmitAtNs < c.throttle then
      (c, .throttled)
    else
      ({ c with slots := Function.update c.slots j ⟨some k, nowNs, slot.retransmitCount + 1⟩ }, .granted k)

def occupied : Option (Fin retransmissionCachePackets × Slot) :=
  firstOwned c.slots

def evict (j : Fin retransmissionCachePackets) : RetransmissionCache :=
  { c with slots := Function.update c.slots j { c.slots j with owned := none } }

theorem load_owned (j : Fin retransmissionCachePackets) :
    ((c.load o seq nowNs).1.slots j).owned = (c.slots j).owned := by
  unfold load
  cases here : (c.slots (index seq)).owned with
  | none => simp [here]
  | some k =>
    simp only [here]
    split_ifs
    · rfl
    · rfl
    · rfl
    · by_cases same : j = index seq
      · simp [same, here]
      · simp [same]

end RetransmissionCache

end Relay
