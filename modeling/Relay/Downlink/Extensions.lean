import Relay.Downlink.Feedback

/-! The header extensions that carry a clock to a subscriber. The capture time is written as a
whole NTP time and the send time as its middle 24 bits; round trips are measured with the middle
32 bits. The source computes each of them from the instant anew. -/
namespace Relay

def ntpEpochOffset : UInt64 := 2208988800

def putUint64 (value : UInt64) : List UInt8 :=
  [(value >>> 56).toUInt8, (value >>> 48).toUInt8, (value >>> 40).toUInt8, (value >>> 32).toUInt8,
    (value >>> 24).toUInt8, (value >>> 16).toUInt8, (value >>> 8).toUInt8, value.toUInt8]

def encodeAbsSendTime (now : Time) : List UInt8 :=
  let secs := UInt64.ofInt now.unix + ntpEpochOffset
  let fracBits := UInt64.ofInt now.nanosecond * ((1 : UInt64) <<< 18) / 1000000000
  let value := ((secs &&& 0x3f) <<< 18 ||| (fracBits &&& 0x3ffff)).toUInt32
  [(value >>> 16).toUInt8, (value >>> 8).toUInt8, value.toUInt8]

/-- The negotiated extensions; 0 for one that was not negotiated. -/
structure ExtensionMapper where
  absSendTimeID : UInt8
  absCaptureTimeID : UInt8

namespace ExtensionMapper

section Patch

variable {Packet : Type} (setExtension : UInt8 → List UInt8 → Packet → Option Packet)

def patchAbsSendTime (e : ExtensionMapper) (pkt : Packet) (now : Time) : Packet :=
  if e.absSendTimeID = 0 then pkt
  else (setExtension e.absSendTimeID (encodeAbsSendTime now) pkt).getD pkt

def patchAbsCaptureTime (e : ExtensionMapper) (pkt : Packet) (captureTime : Time) : Bool × Packet :=
  if e.absCaptureTimeID = 0 ∨ captureTime.isZero then (false, pkt)
  else
    let seconds := UInt64.ofInt captureTime.unix + ntpEpochOffset
    let fraction := UInt64.ofInt captureTime.nanosecond * ((1 : UInt64) <<< 32) / UInt64.ofInt second
    match setExtension e.absCaptureTimeID (putUint64 (seconds <<< 32 ||| fraction)) pkt with
    | none => (false, pkt)
    | some pkt => (true, pkt)

end Patch

end ExtensionMapper

def bigEndian (bytes : List UInt8) : Nat := bytes.foldl (fun n b => n * 256 + b.toNat) 0

theorem toNat_byte64 (value : UInt64) {shift : UInt64} {k : Nat} (by_ : shift.toNat = k) (small : k < 64) :
    (value >>> shift).toUInt8.toNat = value.toNat / 2 ^ k % 256 := by
  rw [UInt64.toNat_toUInt8, UInt64.toNat_shiftRight, Nat.shiftRight_eq_div_pow, by_, Nat.mod_eq_of_lt small]

theorem toNat_byte32 (value : UInt32) {shift : UInt32} {k : Nat} (by_ : shift.toNat = k) (small : k < 32) :
    (value >>> shift).toUInt8.toNat = value.toNat / 2 ^ k % 256 := by
  rw [UInt32.toNat_toUInt8, UInt32.toNat_shiftRight, Nat.shiftRight_eq_div_pow, by_, Nat.mod_eq_of_lt small]

theorem append_byte (n k : Nat) : n / 2 ^ (k + 8) * 256 + n / 2 ^ k % 256 = n / 2 ^ k := by
  rw [pow_add, ← Nat.div_div_eq_div_mul]
  exact Nat.div_add_mod' _ _

theorem bigEndian_putUint64 (value : UInt64) : bigEndian (putUint64 value) = value.toNat := by
  have byte {shift : UInt64} (k : Nat) (by_ : shift.toNat = k) (small : k < 64) := toNat_byte64 value by_ small
  have above (k : Nat) := append_byte value.toNat k
  have top : 0 * 256 + value.toNat / 2 ^ 56 % 256 = value.toNat / 2 ^ 56 := by
    have range : value.toNat < 2 ^ 64 := value.toNat_lt
    omega
  have last : value.toNat / 2 ^ 8 * 256 + value.toNat % 256 = value.toNat := Nat.div_add_mod' _ _
  simp only [bigEndian, putUint64, List.foldl]
  rw [byte 56 rfl (by decide), top, byte 48 rfl (by decide), above 48, byte 40 rfl (by decide), above 40,
    byte 32 rfl (by decide), above 32, byte 24 rfl (by decide), above 24, byte 16 rfl (by decide), above 16,
    byte 8 rfl (by decide), above 8, UInt64.toNat_toUInt8, last]

theorem bigEndian_low24 (value : UInt32) :
    bigEndian [(value >>> 16).toUInt8, (value >>> 8).toUInt8, value.toUInt8] = value.toNat % 2 ^ 24 := by
  simp only [bigEndian, List.foldl]
  rw [toNat_byte32 value (k := 16) rfl (by decide), toNat_byte32 value (k := 8) rfl (by decide), UInt32.toNat_toUInt8]
  omega

theorem toNat_pack18 {secs fracBits : UInt64} (small : fracBits.toNat < 2 ^ 18) :
    ((secs &&& 0x3f) <<< 18 ||| (fracBits &&& 0x3ffff)).toUInt32.toNat = secs.toNat % 64 * 2 ^ 18 + fracBits.toNat := by
  have low : (secs &&& 0x3f).toNat = secs.toNat % 64 := by
    rw [UInt64.toNat_and]
    exact Nat.and_two_pow_sub_one_eq_mod _ 6
  have kept : (fracBits &&& 0x3ffff).toNat = fracBits.toNat := by
    rw [UInt64.toNat_and]
    exact (Nat.and_two_pow_sub_one_eq_mod _ 18).trans (Nat.mod_eq_of_lt small)
  have shifted : ((secs &&& 0x3f) <<< 18).toNat = (secs.toNat % 64) <<< 18 := by
    rw [UInt64.toNat_shiftLeft, low, Nat.shiftLeft_eq, Nat.shiftLeft_eq, show UInt64.toNat 18 % 64 = 18 from rfl]
    omega
  rw [UInt64.toNat_toUInt32, UInt64.toNat_or, shifted, kept, ← Nat.shiftLeft_add_eq_or_of_lt small, Nat.shiftLeft_eq]
  omega

theorem send_product (t : Time) : t.nanosecond.toNat * 2 ^ 18 < 2 ^ 64 := by
  unfold Time.nanosecond second
  omega

/-- Rounding down to 2^-32 s first does not change how a fraction rounds down to 2^-18 s. -/
theorem middle_bits24 (seconds nanoseconds : Nat) :
    (seconds % 64 * 2 ^ 18 + nanoseconds * 2 ^ 18 / 1000000000) % 2 ^ 24 =
      (seconds % 2 ^ 32 * 2 ^ 32 + nanoseconds * 2 ^ 32 / 1000000000) / 2 ^ 14 % 2 ^ 24 := by
  have coarse : nanoseconds * 2 ^ 18 / 1000000000 = nanoseconds * 2 ^ 32 / 1000000000 / 2 ^ 14 := by
    omega
  have words : ∀ high low : Nat, (high * 2 ^ 32 + low) / 2 ^ 14 = high * 2 ^ 18 + low / 2 ^ 14 := by
    intro high low
    rw [show high * 2 ^ 32 = high * 2 ^ 18 * 2 ^ 14 by ring, add_comm, Nat.add_mul_div_right _ _ (by decide), add_comm]
  have kept : ∀ rest : Nat, (seconds % 64 * 2 ^ 18 + rest) % 2 ^ 24 = (seconds % 2 ^ 32 * 2 ^ 18 + rest) % 2 ^ 24 := by
    intro rest
    omega
  rw [coarse, words, kept]

theorem bigEndian_encodeAbsSendTime (t : Time) :
    bigEndian (encodeAbsSendTime t) = (timeToNTP t).toNat / 2 ^ 14 % 2 ^ 24 := by
  have fraction := toNat_fraction t (show ((1 : UInt64) <<< 18).toNat ≤ 2 ^ 32 by decide)
  rw [show ((1 : UInt64) <<< 18).toNat = 2 ^ 18 from rfl] at fraction
  have high : t.nanosecond < 1000000000 := Int.emod_lt_of_pos _ (by decide)
  have small : (UInt64.ofInt t.nanosecond * ((1 : UInt64) <<< 18) / 1000000000).toNat < 2 ^ 18 := by
    refine fraction.trans_lt ?_
    omega
  rw [encodeAbsSendTime, bigEndian_low24, toNat_pack18 small, toNat_timeToNTP]
  refine (congrArg (fun f => (_ + f) % 2 ^ 24) fraction).trans ?_
  rw [show ntpEpochOffset = ntpUnixEpochOffsetSeconds from rfl]
  exact middle_bits24 _ _

theorem toNat_compactNTP_ntp (t : Time) : (compactNTP t).toNat = (timeToNTP t).toNat / 2 ^ 16 % 2 ^ 32 := by
  rw [compactNTP_eq_middleBits, middleBits, UInt64.toNat_toUInt32, UInt64.toNat_shiftRight, Nat.shiftRight_eq_div_pow]
  rfl

theorem putUint64_length (value : UInt64) : (putUint64 value).length = 8 := rfl

theorem patchAbsCaptureTime_payload {Packet : Type} {setExtension : UInt8 → List UInt8 → Packet → Option Packet}
    {e : ExtensionMapper} {pkt pkt' : Packet} {t : Time}
    (patched : e.patchAbsCaptureTime setExtension pkt t = (true, pkt')) :
    setExtension e.absCaptureTimeID (putUint64 (timeToNTP t)) pkt = some pkt' := by
  unfold ExtensionMapper.patchAbsCaptureTime at patched
  split at patched
  · cases patched
  · dsimp only at patched
    split at patched
    · cases patched
    · rename_i wrote
      cases patched
      exact wrote

theorem converted_back (n : Int) : n * 2 ^ 32 / 1000000000 * 1000000000 / 2 ^ 32 = n ∨
    n * 2 ^ 32 / 1000000000 * 1000000000 / 2 ^ 32 = n - 1 := by
  omega

theorem converted_era (ntp epoch : Int) : (epoch + ntp % 2 ^ 64 * 1000000000 / 2 ^ 32) % (2 ^ 32 * second) =
    (epoch + ntp * 1000000000 / 2 ^ 32) % (2 ^ 32 * second) := by
  have eras : epoch + ntp * 1000000000 / 2 ^ 32 =
      epoch + ntp % 2 ^ 64 * 1000000000 / 2 ^ 32 + ntp / 2 ^ 64 * (2 ^ 32 * 1000000000) := by
    omega
  rw [eras]
  exact (Int.add_mul_emod_self_right _ _ _).symm

theorem ntpTime_timeToNTP (t : Time) :
    (ntpTime (timeToNTP t) : Int) % (2 ^ 32 * second) = (t : Int) % (2 ^ 32 * second) ∨
      (ntpTime (timeToNTP t) : Int) % (2 ^ 32 * second) = (t - 1 : Int) % (2 ^ 32 * second) := by
  have cancel : ∀ a b : Int, a + (b - a) = b ∧ a + (b - a - 1) = b - 1 := by omega
  rw [ntpTime_eq, timeToNTP_eq, converted_era]
  rcases converted_back (t - ntpEpoch) with exact | less
  · left
    rw [exact, (cancel _ _).1]
  · right
    rw [less, (cancel _ _).2]

/-- Every encoding of an instant is the NTP time that `timeToNTP` gives it, whole or cut: the
capture time in a packet, the compact time of round trips and the send time. Converted back, the
instant is lost by at most a nanosecond, and no product leaves 64 bits. -/
theorem ntp_encodings_agree (t : Time) :
    (∀ {Packet : Type} (setExtension : UInt8 → List UInt8 → Packet → Option Packet) (e : ExtensionMapper)
      (pkt pkt' : Packet), e.patchAbsCaptureTime setExtension pkt t = (true, pkt') →
      ∃ payload, setExtension e.absCaptureTimeID payload pkt = some pkt' ∧ payload.length = 8 ∧
        bigEndian payload = (timeToNTP t).toNat) ∧
    (compactNTP t).toNat = (timeToNTP t).toNat / 2 ^ 16 % 2 ^ 32 ∧
    (encodeAbsSendTime t).length = 3 ∧ bigEndian (encodeAbsSendTime t) = (timeToNTP t).toNat / 2 ^ 14 % 2 ^ 24 ∧
    ((ntpTime (timeToNTP t) : Int) % (2 ^ 32 * second) = (t : Int) % (2 ^ 32 * second) ∨
      (ntpTime (timeToNTP t) : Int) % (2 ^ 32 * second) = (t - 1 : Int) % (2 ^ 32 * second)) ∧
    t.nanosecond.toNat * 2 ^ 32 < 2 ^ 64 ∧ t.nanosecond.toNat * 2 ^ 18 < 2 ^ 64 ∧
    (timeToNTP t &&& 0xffffffff).toNat * 1000000000 < 2 ^ 64 := by
  refine ⟨?_, toNat_compactNTP_ntp t, rfl, bigEndian_encodeAbsSendTime t, ntpTime_timeToNTP t, nanosecond_product t,
    send_product t, fraction_product _⟩
  intro Packet setExtension e pkt pkt' patched
  exact ⟨_, patchAbsCaptureTime_payload patched, putUint64_length _, bigEndian_putUint64 _⟩

def secondEra : Time := ntpEpoch + (2 ^ 32 + 1) * second + 1

/-- A packet that keeps what it is given. -/
theorem ntp_encodings_agree_secondEra : timeToNTP secondEra = 0x100000004 ∧
    ∃ payload, some [payload] = some [[0, 0, 0, 1, 0, 0, 0, 4]] ∧ payload.length = 8 ∧
      bigEndian payload = (timeToNTP secondEra).toNat :=
  ⟨by decide, (ntp_encodings_agree secondEra).1 (fun _ payload held => some (payload :: held)) ⟨0, 1⟩ []
    [[0, 0, 0, 1, 0, 0, 0, 4]] (by decide)⟩

end Relay
