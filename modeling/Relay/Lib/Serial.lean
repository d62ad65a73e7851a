import Mathlib.Data.Int.ModEq
import Mathlib.Data.UInt

/-! Serial numbers: 16-bit words that stand for integers modulo 2^16, and the signed
distance between two of them. -/
namespace UInt16

theorem toNat_ofInt (x : Int) : ((ofInt x).toNat : Int) = x % 2 ^ 16 := by
  have low : 0 ≤ x % 2 ^ 16 := Int.emod_nonneg _ (by decide)
  have high : x % 2 ^ 16 < 2 ^ 16 := Int.emod_lt_of_pos _ (by decide)
  rw [ofInt, UInt16.toNat_ofNat']
  omega

theorem ofInt_eq_ofInt_iff {x y : Int} : ofInt x = ofInt y ↔ x % 2 ^ 16 = y % 2 ^ 16 := by
  rw [← toNat_ofInt, ← toNat_ofInt, Nat.cast_inj, UInt16.toNat_inj]

theorem ofInt_toNat (x : UInt16) : ofInt x.toNat = x := by
  have bound := x.toNat_lt
  apply UInt16.toNat_inj.mp
  apply Int.ofNat_inj.mp
  rw [toNat_ofInt]
  omega

theorem eq_of_ofInt_eq {x y : Int} (same : ofInt x = ofInt y) (below : x - y < 2 ^ 16)
    (above : y - x < 2 ^ 16) : x = y := by
  have mod := ofInt_eq_ofInt_iff.mp same
  omega

/-- How far `x` is ahead of `y`, negative if it is behind. -/
def ahead (x y : UInt16) : Int := (x - y).toInt16.toInt

theorem le_ahead (x y : UInt16) : -2 ^ 15 ≤ x.ahead y := Int16.le_toInt _

theorem pos_iff_ahead {x y : UInt16} : 0 < (x - y).toInt16 ↔ 0 < x.ahead y := Int16.lt_iff_toInt_lt

theorem ofInt_ahead (x y : UInt16) : ofInt (x.ahead y) = x - y := by
  have signed : x.ahead y = ((x - y).toNat : Int).bmod (2 ^ 16) := BitVec.toInt_eq_toNat_bmod _
  have bound := (x - y).toNat_lt
  apply UInt16.toNat_inj.mp
  apply Int.ofNat_inj.mp
  rw [toNat_ofInt, signed, show (2 ^ 16 : Int) = ((2 ^ 16 : Nat) : Int) from rfl, Int.bmod_emod]
  omega

theorem ahead_ofInt {x y : Int} (low : -2 ^ 15 ≤ x - y) (high : x - y < 2 ^ 15) :
    (ofInt x).ahead (ofInt y) = x - y := by
  have behind := le_ahead (ofInt x) (ofInt y)
  have front : (ofInt x).ahead (ofInt y) < 2 ^ 15 := Int16.toInt_lt _
  have same : ofInt ((ofInt x).ahead (ofInt y) + y) = ofInt x := by
    rw [UInt16.ofInt_add, ofInt_ahead, sub_add_cancel]
  have value := eq_of_ofInt_eq same (by omega) (by omega)
  omega

end UInt16
