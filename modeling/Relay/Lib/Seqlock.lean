import Mathlib.Data.UInt
import Mathlib.Order.Nat

/-! Records that are written and read one field at a time under a version. The version is odd
while a record is written and no version comes back, so that a reader who meets the same even
version before and after its copy has one record. -/
namespace Seqlock

variable {φ ρ : Type}

/-- The fields of a list copied from `source` one after another, where `copy` copies one. -/
def transfer (copy : φ → ρ → ρ → ρ) (source : ρ) (fields : List φ) (target : ρ) : ρ :=
  fields.foldl (fun target field => copy field source target) target

@[simp] theorem transfer_nil (copy : φ → ρ → ρ → ρ) (source target : ρ) : transfer copy source [] target = target :=
  rfl

@[simp] theorem transfer_cons (copy : φ → ρ → ρ → ρ) (source target : ρ) (field : φ) (fields : List φ) :
    transfer copy source (field :: fields) target = transfer copy source fields (copy field source target) :=
  rfl

/-- A record and the number of times its version has been moved on. -/
structure Guarded (ρ : Type) where
  version : Nat
  record : ρ

/-- What a step may do to a record under a version. -/
inductive Move (g : Guarded ρ) : Guarded ρ → Prop
  | stay : Move g g
  | store (held : g.version % 2 = 1) (record : ρ) : Move g ⟨g.version, record⟩
  | advance {version : Nat} (later : g.version < version) : Move g ⟨version, g.record⟩

/-- A copy in the making: the version met before it, the fields so far and those to come. -/
structure Copying (φ ρ : Type) where
  version : Nat
  record : ρ
  todo : List φ

/-- While the version is the one met before, the fields to come complete the record. -/
structure Consistent (copy : φ → ρ → ρ → ρ) (c : Copying φ ρ) (g : Guarded ρ) : Prop where
  even : c.version % 2 = 0
  met : c.version ≤ g.version
  completes : g.version = c.version → transfer copy g.record c.todo c.record = g.record

namespace Consistent

variable {copy : φ → ρ → ρ → ρ} {c : Copying φ ρ} {g g' : Guarded ρ}

theorem start {fields : List φ} (all : ∀ source target, transfer copy source fields target = source)
    (even : g.version % 2 = 0) (record : ρ) : Consistent copy ⟨g.version, record, fields⟩ g :=
  ⟨even, le_rfl, fun _ => all g.record record⟩

theorem load {version : Nat} {record : ρ} {field : φ} {fields : List φ}
    (consistent : Consistent copy ⟨version, record, field :: fields⟩ g) :
    Consistent copy ⟨version, copy field g.record record, fields⟩ g :=
  ⟨consistent.even, consistent.met, consistent.completes⟩

/-- No step of a writer breaks a copy: it stores under an odd version only, and the copy was
begun under an even one. -/
theorem move (consistent : Consistent copy c g) (moved : Move g g') : Consistent copy c g' := by
  obtain ⟨even, met, completes⟩ := consistent
  cases moved with
  | stay => exact ⟨even, met, completes⟩
  | store held record =>
    refine ⟨even, met, fun same => ?_⟩
    dsimp only at same
    omega
  | advance later =>
    refine ⟨even, le_trans met later.le, fun same => ?_⟩
    dsimp only at same
    omega

theorem record_eq {version : Nat} {record : ρ} (consistent : Consistent copy ⟨version, record, []⟩ g)
    (same : g.version = version) : record = g.record :=
  consistent.completes same

end Consistent

end Seqlock

/-! Versions in 64-bit words. -/
namespace UInt64

theorem ofNat_eq_ofNat_iff {m n : Nat} : ofNat m = ofNat n ↔ m % 2 ^ 64 = n % 2 ^ 64 := by
  rw [UInt64.ofNat_eq_iff_mod_eq_toNat, UInt64.toNat_ofNat']

theorem ofNat_even_iff (n : Nat) : ofNat n % 2 = 0 ↔ n % 2 = 0 := by
  have word : (ofNat n % 2).toNat = n % 2 ^ 64 % 2 := by
    rw [UInt64.toNat_mod, UInt64.toNat_ofNat']
    rfl
  rw [← UInt64.toNat_inj, word, show (0 : UInt64).toNat = 0 from rfl]
  omega

end UInt64
