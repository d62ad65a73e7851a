import Relay.Access.Records
import Mathlib.Data.Nat.Bitwise
import Mathlib.Tactic.Ring

/-! Conversions between instants in nanoseconds and NTP times, which count seconds since
1900 as 32.32 fixed-point numbers modulo 2^32 seconds. -/
namespace Relay

def unixEpochSeconds : Int := 62135596800

namespace Time

def ofUnix (sec nsec : Int) : Time := (sec + unixEpochSeconds) * second + nsec

def unix (t : Time) : Int := t / second - unixEpochSeconds

def nanosecond (t : Time) : Int := t % second

def unixNano (t : Time) : Int := (t - unixEpochSeconds * second).bmod (2 ^ 64)

end Time

def ntpUnixEpochOffsetSeconds : UInt64 := 2208988800

def ntpTime (value : UInt64) : Time :=
  let seconds : Int := (value >>> 32).toNat - ntpUnixEpochOffsetSeconds.toNat
  let fraction := value &&& 0xffffffff
  let nanoseconds := (fraction * UInt64.ofInt second) >>> 32
  Time.ofUnix seconds nanoseconds.toNat

def timeToNTP (value : Time) : UInt64 :=
  let seconds := UInt64.ofInt value.unix + ntpUnixEpochOffsetSeconds
  let fraction := UInt64.ofInt value.nanosecond * ((1 : UInt64) <<< 32) / UInt64.ofInt second
  seconds <<< 32 ||| fraction

def ntpEpoch : Time := (unixEpochSeconds - ntpUnixEpochOffsetSeconds.toNat) * second

theorem toNat_uint64OfInt (x : Int) : ((UInt64.ofInt x).toNat : Int) = x % 2 ^ 64 := by
  have low : 0 ≤ x % 2 ^ 64 := Int.emod_nonneg _ (by decide)
  have high : x % 2 ^ 64 < 2 ^ 64 := Int.emod_lt_of_pos _ (by decide)
  rw [UInt64.ofInt, UInt64.toNat_ofNat']
  omega

theorem toNat_high (value : UInt64) : (value >>> 32).toNat = value.toNat / 2 ^ 32 := by
  rw [UInt64.toNat_shiftRight, Nat.shiftRight_eq_div_pow]
  rfl

theorem toNat_low (value : UInt64) : (value &&& 0xffffffff).toNat = value.toNat % 2 ^ 32 := by
  rw [UInt64.toNat_and]
  exact Nat.and_two_pow_sub_one_eq_mod _ 32

theorem fraction_product (value : UInt64) : (value &&& 0xffffffff).toNat * 1000000000 < 2 ^ 64 := by
  rw [toNat_low]
  omega

theorem ntpTime_eq (value : UInt64) :
    (ntpTime value : Int) = (ntpEpoch : Int) + value.toNat * 1000000000 / 2 ^ 32 := by
  have exact : ((value &&& 0xffffffff) * UInt64.ofInt second).toNat = value.toNat % 2 ^ 32 * 1000000000 := by
    rw [UInt64.toNat_mul, show (UInt64.ofInt second).toNat = 1000000000 from rfl,
      Nat.mod_eq_of_lt (fraction_product value), toNat_low]
  have split : (value.toNat : Int) * 1000000000 =
      ((value.toNat % 2 ^ 32 * 1000000000 : Nat) : Int) + ((value.toNat / 2 ^ 32 : Nat) : Int) * 1000000000 * 2 ^ 32 := by
    omega
  rw [split, Int.add_mul_ediv_right _ _ (by decide)]
  simp only [ntpTime, Time.ofUnix, ntpEpoch, toNat_high, exact]
  unfold second
  push_cast
  ring

theorem nanosecond_product (t : Time) : t.nanosecond.toNat * 2 ^ 32 < 2 ^ 64 := by
  unfold Time.nanosecond second
  omega

theorem toNat_pack {seconds fraction : UInt64} (small : fraction.toNat < 2 ^ 32) :
    (seconds <<< 32 ||| fraction).toNat = seconds.toNat % 2 ^ 32 * 2 ^ 32 + fraction.toNat := by
  have shifted : (seconds <<< 32).toNat = (seconds.toNat % 2 ^ 32) <<< 32 := by
    rw [UInt64.toNat_shiftLeft, Nat.shiftLeft_eq, Nat.shiftLeft_eq, show UInt64.toNat 32 % 64 = 32 from rfl]
    omega
  rw [UInt64.toNat_or, shifted, ← Nat.shiftLeft_add_eq_or_of_lt small, Nat.shiftLeft_eq]

theorem toNat_fraction (t : Time) {scale : UInt64} (small : scale.toNat ≤ 2 ^ 32) :
    (UInt64.ofInt t.nanosecond * scale / UInt64.ofInt second).toNat =
      t.nanosecond.toNat * scale.toNat / 1000000000 := by
  have low : 0 ≤ t.nanosecond := Int.emod_nonneg _ (by decide)
  have high : t.nanosecond < 1000000000 := Int.emod_lt_of_pos _ (by decide)
  have nanoseconds : (UInt64.ofInt t.nanosecond).toNat = t.nanosecond.toNat := by
    have whole := toNat_uint64OfInt t.nanosecond
    omega
  have product : t.nanosecond.toNat * scale.toNat < 2 ^ 64 :=
    calc t.nanosecond.toNat * scale.toNat ≤ 1000000000 * 2 ^ 32 := Nat.mul_le_mul (by omega) small
      _ < 2 ^ 64 := by decide
  rw [UInt64.toNat_div, UInt64.toNat_mul, nanoseconds, Nat.mod_eq_of_lt product]
  rfl

theorem toNat_timeToNTP (t : Time) : (timeToNTP t).toNat =
    (UInt64.ofInt t.unix + ntpUnixEpochOffsetSeconds).toNat % 2 ^ 32 * 2 ^ 32 +
      t.nanosecond.toNat * 2 ^ 32 / 1000000000 := by
  have fraction := toNat_fraction t (show ((1 : UInt64) <<< 32).toNat ≤ 2 ^ 32 by decide)
  have small : (UInt64.ofInt t.nanosecond * ((1 : UInt64) <<< 32) / UInt64.ofInt second).toNat < 2 ^ 32 := by
    have high : t.nanosecond < 1000000000 := Int.emod_lt_of_pos _ (by decide)
    rw [fraction, show ((1 : UInt64) <<< 32).toNat = 2 ^ 32 from rfl]
    omega
  rw [timeToNTP, toNat_pack small, fraction]
  rfl

theorem timeToNTP_eq (t : Time) :
    ((timeToNTP t).toNat : Int) = ((t - ntpEpoch) * 2 ^ 32 / 1000000000) % 2 ^ 64 := by
  have seconds : ((UInt64.ofInt t.unix + ntpUnixEpochOffsetSeconds).toNat : Int) % 2 ^ 32 =
      (t.unix + 2208988800) % 2 ^ 32 := by
    have low := toNat_uint64OfInt t.unix
    rw [UInt64.toNat_add, show ntpUnixEpochOffsetSeconds.toNat = 2208988800 from rfl]
    omega
  have split : ∀ n : Int, (n - (62135596800 - 2208988800) * 1000000000) * 2 ^ 32 =
      n % 1000000000 * 2 ^ 32 + (n / 1000000000 - 62135596800 + 2208988800) * 2 ^ 32 * 1000000000 := by
    intro n
    omega
  have whole : (t - ntpEpoch) * 2 ^ 32 =
      t.nanosecond * 2 ^ 32 + (t.unix + 2208988800) * 2 ^ 32 * 1000000000 := split t
  obtain ⟨n, nanoseconds⟩ := Int.eq_ofNat_of_zero_le (show 0 ≤ t.nanosecond from Int.emod_nonneg _ (by decide))
  have high : t.nanosecond < 1000000000 := Int.emod_lt_of_pos _ (by decide)
  rw [nanoseconds] at high
  rw [whole, Int.add_mul_ediv_right _ _ (by decide), toNat_timeToNTP, nanoseconds, Int.toNat_natCast]
  push_cast
  omega

end Relay
