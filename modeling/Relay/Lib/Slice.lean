import Mathlib.Data.UInt
import Mathlib.Data.Nat.Bitwise

/-! Slices with checked reads, and words put together from bytes. A read outside a slice is
an outcome of its own, so that its absence can be proved. -/

inductive Fault (ε : Type) where
  | outOfRange
  | failed (error : ε)
deriving DecidableEq

namespace Slice

variable {ε α : Type}

/-- `s[i]` -/
def get (s : List α) (i : Nat) : Except (Fault ε) α :=
  match s[i]? with
  | some x => .ok x
  | none => .error .outOfRange

/-- `s[lo:hi]` -/
def range (s : List α) (lo hi : Nat) : Except (Fault ε) (List α) :=
  if lo ≤ hi ∧ hi ≤ s.length then .ok ((s.drop lo).take (hi - lo)) else .error .outOfRange

/-- `if c { return e }` -/
def refuseIf (c : Prop) [Decidable c] (e : ε) : Except (Fault ε) Unit :=
  if c then .error (.failed e) else .ok ()

variable {rest s x : List α} {hi i lo : Nat} {β : Type}

theorem refuseIf_bind (c : Prop) [Decidable c] (e : ε) (f : Unit → Except (Fault ε) β) :
    (refuseIf c e >>= f) = if c then .error (.failed e) else f () := by
  by_cases holds : c
  · rw [refuseIf, if_pos holds, if_pos holds]
    rfl
  · rw [refuseIf, if_neg holds, if_neg holds]
    rfl

theorem get_of_drop {x : α} (here : s.drop i = x :: rest) : (get s i : Except (Fault ε) α) = .ok x := by
  have found : s[i]? = some x := by
    have := congrArg (fun l => l[0]?) here
    simpa using this
  simp [get, found]

theorem range_of_drop (here : s.drop lo = x ++ rest) (inside : lo ≤ s.length) (width : hi = lo + x.length) :
    (range s lo hi : Except (Fault ε) (List α)) = .ok x := by
  have length := congrArg List.length here
  simp only [List.length_drop, List.length_append] at length
  have bounds : lo ≤ hi ∧ hi ≤ s.length := by omega
  have size : hi - lo = x.length := by omega
  simp [range, bounds, here, size]

theorem get_bind {x : α} (here : s.drop i = x :: rest) (f : α → Except (Fault ε) β) : (get s i >>= f) = f x := by
  rw [get_of_drop here]
  rfl

theorem range_bind (here : s.drop lo = x ++ rest) (inside : lo ≤ s.length) (width : hi = lo + x.length)
    (f : List α → Except (Fault ε) β) : (range s lo hi >>= f) = f x := by
  rw [range_of_drop here inside width]
  rfl

theorem drop_eq_append {n : Nat} (inside : i + n ≤ s.length) : ∃ x, x.length = n ∧ s.drop i = x ++ s.drop (i + n) := by
  have length : (s.drop i).length = s.length - i := List.length_drop
  exact ⟨(s.drop i).take n, by simp; omega, by rw [← List.drop_drop, List.take_append_drop]⟩

theorem drop_add_of_drop (here : s.drop i = x ++ rest) : s.drop (i + x.length) = rest := by
  rw [← List.drop_drop, here, List.drop_left]

end Slice

/-! Big-endian numbers. -/
namespace Bytes

/-- The number that bytes spell, the most significant first. -/
def toNat (bytes : List UInt8) : Nat := bytes.foldl (fun n b => n * 256 + b.toNat) 0

/-- The `w` bytes of a number, the most significant first. -/
def ofNat : Nat → Nat → List UInt8
  | 0, _ => []
  | w + 1, n => ofNat w (n / 256) ++ [UInt8.ofNat n]

@[simp] theorem toNat_nil : toNat [] = 0 := rfl

@[simp] theorem toNat_snoc (bytes : List UInt8) (b : UInt8) :
    toNat (bytes ++ [b]) = toNat bytes * 256 + b.toNat := by
  simp [toNat, List.foldl_append]

@[simp] theorem length_ofNat (w n : Nat) : (ofNat w n).length = w := by
  induction w generalizing n with
  | zero => rfl
  | succ w ih => simp [ofNat, ih]

theorem toNat_ofNat {w n : Nat} (fits : n < 256 ^ w) : toNat (ofNat w n) = n := by
  induction w generalizing n with
  | zero =>
    have none : n = 0 := by simpa using fits
    simp [ofNat, none]
  | succ w ih =>
    have high : n / 256 < 256 ^ w := by
      rw [Nat.div_lt_iff_lt_mul (by decide)]
      rwa [pow_succ] at fits
    rw [ofNat, toNat_snoc, ih high, UInt8.toNat_ofNat']
    omega

theorem toNat_lt (bytes : List UInt8) : toNat bytes < 256 ^ bytes.length := by
  induction bytes using List.reverseRecOn with
  | nil => simp
  | append_singleton bytes b ih =>
    have low : b.toNat < 256 := b.toNat_lt
    rw [toNat_snoc, List.length_append, List.length_singleton, pow_succ]
    omega

theorem ofNat_toNat (bytes : List UInt8) : ofNat bytes.length (toNat bytes) = bytes := by
  induction bytes using List.reverseRecOn with
  | nil => rfl
  | append_singleton bytes b ih =>
    have low : b.toNat < 256 := b.toNat_lt
    have high : (toNat bytes * 256 + b.toNat) / 256 = toNat bytes := by omega
    have last : UInt8.ofNat (toNat bytes * 256 + b.toNat) = b := by
      apply UInt8.toNat_inj.mp
      rw [UInt8.toNat_ofNat']
      omega
    rw [List.length_append, List.length_singleton, ofNat, toNat_snoc, high, ih, last]

end Bytes
