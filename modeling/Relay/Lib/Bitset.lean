import Mathlib.Data.Nat.Bitwise
import Mathlib.Data.List.Sort
import Mathlib.Data.List.Nodup

/-! Sets of small numbers as rows of 64-bit words: membership, the number of members, and the
member of a given rank, found by counting ones word by word and clearing the lowest one in turn.
What the operations do is said over the ascending list of the members. -/

/-- A set of numbers below `64 * n`, one bit each. -/
abbrev Bitset (n : Nat) : Type := Vector (BitVec 64) n

namespace Bitset

def ones (w : BitVec 64) : List Nat := (List.range 64).filter (w.getLsbD ·)

/-- `w &= w - 1` -/
def clearLowest (w : BitVec 64) : BitVec 64 := w &&& (w - 1#64)

variable {w : BitVec 64} {i : Nat}

theorem mem_ones : i ∈ ones w ↔ w.getLsbD i = true := by
  rw [ones, List.mem_filter, List.mem_range]
  constructor
  · exact fun set => set.2
  · exact fun set => ⟨BitVec.lt_of_getLsbD set, set⟩

theorem sorted_ones (w : BitVec 64) : (ones w).Pairwise (· < ·) :=
  List.pairwise_lt_range.filter _

theorem nodup_ones (w : BitVec 64) : (ones w).Nodup :=
  (sorted_ones w).imp fun order => Nat.ne_of_lt order

theorem length_ones (w : BitVec 64) : (ones w).length = w.cpop.toNat := by
  -- the ones below a position, counted upwards
  have counted : ∀ k, w.cpopNatRec k 0 = ((List.range k).filter (w.getLsbD ·)).length := by
    intro k
    induction k with
    | zero => rfl
    | succ k ih =>
      rw [BitVec.cpopNatRec_succ, BitVec.cpopNatRec_add, ih, List.range_succ, List.filter_append, List.length_append]
      cases set : w.getLsbD k <;> simp [set]
  rw [BitVec.toNat_cpop, counted, ones]

theorem testBit_and_pred {x : Nat} (positive : 0 < x) :
    ∃ k, x.testBit k = true ∧ (∀ j < k, x.testBit j = false) ∧
      ∀ i, (x &&& (x - 1)).testBit i = (x.testBit i && decide (i ≠ k)) := by
  induction x using Nat.strongRecOn with
  | ind x ih =>
    obtain ⟨y, even | odd⟩ := Nat.even_or_odd' x
    · -- the lowest one of an even number is that of its half, one place up
      obtain ⟨k, set, below, rest⟩ := ih y (by omega) (by omega)
      have pred : x - 1 = 2 * (y - 1) + 1 := by omega
      refine ⟨k + 1, ?_, ?_, ?_⟩
      · rw [even, Nat.testBit_succ]
        simpa using set
      · intro j small
        cases j with
        | zero => simp [even]
        | succ j =>
          rw [even, Nat.testBit_succ]
          simpa using below j (by omega)
      · intro i
        cases i with
        | zero => simp [even]
        | succ i =>
          have here := rest i
          rw [Nat.testBit_and] at here ⊢
          have half : (2 * (y - 1) + 1) / 2 = y - 1 := by omega
          rw [pred, even, Nat.testBit_succ, Nat.testBit_succ, half, Nat.mul_div_cancel_left y (by omega), here]
          simp
    · refine ⟨0, by simp [odd], fun j small => absurd small (Nat.not_lt_zero j), ?_⟩
      intro i
      have pred : x - 1 = 2 * y := by omega
      rw [Nat.testBit_and, pred, odd]
      cases i with
      | zero => simp
      | succ i =>
        have half : (2 * y + 1) / 2 = y := by omega
        rw [Nat.testBit_succ, Nat.testBit_succ, half, Nat.mul_div_cancel_left y (by omega)]
        simp

theorem getLsbD_clearLowest (some_bit : w ≠ 0#64) (i : Nat) :
    (clearLowest w).getLsbD i = (w.getLsbD i && decide (i ≠ w.ctz.toNat)) := by
  have positive : 0 < w.toNat := by
    rw [Nat.pos_iff_ne_zero]
    exact fun zero => some_bit (BitVec.eq_of_toNat_eq zero)
  have pred : (w - 1#64).toNat = w.toNat - 1 := by
    have bound := w.isLt
    rw [BitVec.toNat_sub]
    simp only [BitVec.toNat_ofNat]
    omega
  obtain ⟨k, set, below, rest⟩ := testBit_and_pred positive
  -- both numbers are the lowest one of the word
  have lowest : w.ctz.toNat = k := by
    have first := BitVec.getLsbD_true_ctz_of_ne_zero some_bit
    rcases Nat.lt_trichotomy w.ctz.toNat k with before | same | after
    · have clear := below _ before
      rw [BitVec.getLsbD, clear] at first
      cases first
    · exact same
    · have clear := BitVec.getLsbD_false_of_lt_ctz after
      rw [BitVec.getLsbD, set] at clear
      cases clear
  rw [lowest, BitVec.getLsbD, clearLowest, BitVec.toNat_and, pred, rest i, BitVec.getLsbD]

theorem ones_ne_nil : ones w ≠ [] ↔ w ≠ 0#64 := by
  constructor
  · rintro some_one rfl
    exact some_one (List.eq_nil_iff_forall_not_mem.mpr fun i member => by simp [mem_ones] at member)
  · intro some_bit none
    have first := mem_ones.mpr (BitVec.getLsbD_true_ctz_of_ne_zero some_bit)
    rw [none] at first
    cases first

theorem ones_eq_cons (some_bit : w ≠ 0#64) : ones w = w.ctz.toNat :: ones (clearLowest w) := by
  obtain ⟨first, rest, split⟩ := List.exists_cons_of_ne_nil (ones_ne_nil.mpr some_bit)
  have sorted := sorted_ones w
  rw [split, List.pairwise_cons] at sorted
  have member : w.ctz.toNat ∈ first :: rest := split ▸ mem_ones.mpr (BitVec.getLsbD_true_ctz_of_ne_zero some_bit)
  have lowest : first = w.ctz.toNat := by
    rcases List.mem_cons.mp member with same | later
    · exact same.symm
    · have set : w.getLsbD first = true := mem_ones.mp (split ▸ List.mem_cons_self)
      rw [BitVec.getLsbD_false_of_lt_ctz (sorted.1 _ later)] at set
      cases set
  have others : ones (clearLowest w) = (ones w).filter (· ≠ w.ctz.toNat) := by
    rw [ones, ones, List.filter_filter]
    apply List.filter_congr
    intro i _
    rw [getLsbD_clearLowest some_bit, Bool.and_comm]
  have kept : rest.filter (· ≠ w.ctz.toNat) = rest := by
    rw [List.filter_eq_self]
    intro i later
    have beyond := sorted.1 i later
    rw [decide_eq_true_eq]
    omega
  rw [others, split, List.filter_cons, if_neg (by simp [lowest]), kept, lowest]

/-- `for rank > 0 { w &= w - 1; rank-- }` -/
def clear (w : BitVec 64) : Nat → BitVec 64
  | 0 => w
  | rank + 1 => clear (clearLowest w) rank

theorem getElem?_ones {rank : Nat} (inside : rank < w.cpop.toNat) :
    (ones w)[rank]? = some (clear w rank).ctz.toNat := by
  rw [← length_ones] at inside
  induction rank generalizing w with
  | zero =>
    have some_bit : w ≠ 0#64 := ones_ne_nil.mp (List.ne_nil_of_length_pos inside)
    rw [ones_eq_cons some_bit, clear, List.getElem?_cons_zero]
  | succ rank ih =>
    have some_bit : w ≠ 0#64 := ones_ne_nil.mp (List.ne_nil_of_length_pos (by omega))
    have inside' : rank + 1 < (ones w).length := inside
    rw [ones_eq_cons some_bit, List.length_cons] at inside'
    rw [ones_eq_cons some_bit, clear, List.getElem?_cons_succ]
    exact ih (by omega)

variable {n : Nat}

def empty : Bitset n := Vector.replicate n 0#64

variable (s : Bitset n) (rank : Nat)

def word (slot : Nat) : BitVec 64 := s[slot]?.getD 0#64

/-- `s[i/64] |= 1 << (i%64)` -/
def add (i : Nat) : Bitset n :=
  s.setIfInBounds (i / 64) (s.word (i / 64) ||| 1#64 <<< (i % 64))

/-- `s[i/64] & (1 << (i%64)) != 0` -/
def has (i : Nat) : Bool := s.word (i / 64) &&& 1#64 <<< (i % 64) != 0#64

def count : Nat := s.toList.foldl (fun total w => total + w.cpop.toNat) 0

def inter (s t : Bitset n) : Bitset n := s.zipWith (· &&& ·) t

def union (s t : Bitset n) : Bitset n := s.zipWith (· ||| ·) t

def selectFrom : List (BitVec 64) → Nat → Nat → Option Nat
  | [], _, _ => none
  | w :: ws, slot, rank =>
    if w.cpop.toNat ≤ rank then selectFrom ws (slot + 1) (rank - w.cpop.toNat)
    else some (slot * 64 + (clear w rank).ctz.toNat)

def select : Option Nat := selectFrom s.toList 0 rank

def membersFrom : List (BitVec 64) → Nat → List Nat
  | [], _ => []
  | w :: ws, slot => (ones w).map (slot * 64 + ·) ++ membersFrom ws (slot + 1)

def members : List Nat := membersFrom s.toList 0

theorem has_eq (i : Nat) : s.has i = (s.word (i / 64)).getLsbD (i % 64) := by
  have inside : i % 64 < 64 := Nat.mod_lt i (by decide)
  -- the mask leaves this one bit and no other
  have masked : ∀ j, (s.word (i / 64) &&& 1#64 <<< (i % 64)).getLsbD j =
      ((s.word (i / 64)).getLsbD j && decide (j = i % 64)) := by
    intro j
    rw [BitVec.getLsbD_and, BitVec.getLsbD_shiftLeft, BitVec.getLsbD_one]
    by_cases here : j = i % 64
    · simp [here, inside]
    · have apart : j < i % 64 ∨ j - i % 64 ≠ 0 := by omega
      rcases apart with before | after
      · simp [before, here]
      · simp [after, here]
  rw [has, Bool.eq_iff_iff, bne_iff_ne]
  constructor
  · intro some_bit
    by_contra clear
    apply some_bit
    apply BitVec.eq_of_getLsbD_eq
    intro j _
    rw [masked, BitVec.getLsbD_zero]
    by_cases here : j = i % 64
    · rw [here, Bool.eq_false_iff.mpr clear, Bool.false_and]
    · simp [here]
  · intro set none
    have bit := masked (i % 64)
    rw [none, set, BitVec.getLsbD_zero] at bit
    simp at bit

theorem word_add (i slot : Nat) : (s.add i).word slot =
    if slot = i / 64 ∧ slot < n then s.word slot ||| 1#64 <<< (i % 64) else s.word slot := by
  unfold add word
  rw [Vector.getElem?_setIfInBounds]
  by_cases same : i / 64 = slot
  · subst same
    by_cases inside : i / 64 < n <;> simp [inside]
  · have other : ¬ (slot = i / 64 ∧ slot < n) := fun both => same both.1.symm
    rw [if_neg same, if_neg other]

theorem has_empty (i : Nat) : (empty : Bitset n).has i = false := by
  rw [has_eq, word, empty, Vector.getElem?_replicate]
  by_cases inside : i / 64 < n <;> simp [inside]

theorem has_add (small : i < 64 * n) (j : Nat) : (s.add i).has j = (s.has j || decide (j = i)) := by
  have slot : i / 64 < n := by omega
  have inside : j % 64 < 64 := Nat.mod_lt j (by decide)
  rw [has_eq, has_eq, word_add]
  by_cases same : j / 64 = i / 64
  · rw [if_pos ⟨same, same ▸ slot⟩, BitVec.getLsbD_or, BitVec.getLsbD_shiftLeft]
    congr 1
    by_cases here : j = i
    · subst here
      simp [inside]
    · have apart : j % 64 < i % 64 ∨ j % 64 - i % 64 ≠ 0 := by omega
      rcases apart with before | after
      · simp [before, here]
      · simp [after, here]
  · rw [if_neg fun both => same both.1]
    have other : j ≠ i := fun here => same (here ▸ rfl)
    simp [other]

theorem has_inter (s t : Bitset n) (i : Nat) : (s.inter t).has i = (s.has i && t.has i) := by
  rw [has_eq, has_eq, has_eq, word, word, word, inter]
  by_cases inside : i / 64 < n <;> simp [inside]

theorem has_union (s t : Bitset n) (i : Nat) : (s.union t).has i = (s.has i || t.has i) := by
  rw [has_eq, has_eq, has_eq, word, word, word, union]
  by_cases inside : i / 64 < n <;> simp [inside]

theorem mem_membersFrom {ws : List (BitVec 64)} {slot : Nat} :
    i ∈ membersFrom ws slot ↔ slot ≤ i / 64 ∧ (ws[i / 64 - slot]?.getD 0#64).getLsbD (i % 64) = true := by
  induction ws generalizing slot with
  | nil => simp [membersFrom]
  | cons w ws ih =>
    rw [membersFrom, List.mem_append, List.mem_map, ih]
    constructor
    · rintro (⟨j, member, rfl⟩ | ⟨later, set⟩)
      · have set := mem_ones.mp member
        have small := BitVec.lt_of_getLsbD set
        have here : (slot * 64 + j) / 64 = slot := by omega
        have low : (slot * 64 + j) % 64 = j := by omega
        rw [here, low, Nat.sub_self, List.getElem?_cons_zero]
        exact ⟨Nat.le_refl slot, set⟩
      · have next : i / 64 - slot = i / 64 - (slot + 1) + 1 := by omega
        rw [next, List.getElem?_cons_succ]
        exact ⟨by omega, set⟩
    · rintro ⟨reached, set⟩
      rcases Nat.eq_or_lt_of_le reached with here | later
      · rw [← here, Nat.sub_self, List.getElem?_cons_zero] at set
        exact .inl ⟨i % 64, mem_ones.mpr set, by omega⟩
      · have next : i / 64 - slot = i / 64 - (slot + 1) + 1 := by omega
        rw [next, List.getElem?_cons_succ] at set
        exact .inr ⟨later, set⟩

theorem mem_members {s : Bitset n} : i ∈ s.members ↔ s.has i = true := by
  rw [members, mem_membersFrom, has_eq, word, Nat.sub_zero, Vector.getElem?_toList]
  simp

theorem nodup_membersFrom (ws : List (BitVec 64)) (slot : Nat) : (membersFrom ws slot).Nodup := by
  induction ws generalizing slot with
  | nil => exact List.nodup_nil
  | cons w ws ih =>
    rw [membersFrom, List.nodup_append]
    refine ⟨(nodup_ones w).map fun a b same => by simpa using same, ih (slot + 1), ?_⟩
    intro i here j later same
    obtain ⟨k, member, rfl⟩ := List.mem_map.mp here
    have small := BitVec.lt_of_getLsbD (mem_ones.mp member)
    have beyond := (mem_membersFrom.mp later).1
    omega

theorem nodup_members : s.members.Nodup := nodup_membersFrom s.toList 0

theorem count_eq : s.count = s.members.length := by
  have walked : ∀ (ws : List (BitVec 64)) (slot total : Nat),
      ws.foldl (fun total w => total + w.cpop.toNat) total = total + (membersFrom ws slot).length := by
    intro ws
    induction ws with
    | nil => intro slot total; rfl
    | cons w ws ih =>
      intro slot total
      rw [List.foldl_cons, ih (slot + 1), membersFrom, List.length_append, List.length_map, length_ones, Nat.add_assoc]
  rw [count, walked s.toList 0 0, Nat.zero_add, members]

theorem select_eq : s.select rank = s.members[rank]? := by
  have walked : ∀ (ws : List (BitVec 64)) (slot rank : Nat),
      selectFrom ws slot rank = (membersFrom ws slot)[rank]? := by
    intro ws
    induction ws with
    | nil => intro slot rank; simp [selectFrom, membersFrom]
    | cons w ws ih =>
      intro slot rank
      rw [selectFrom, membersFrom]
      have size : ((ones w).map (slot * 64 + ·)).length = w.cpop.toNat := by rw [List.length_map, length_ones]
      by_cases beyond : w.cpop.toNat ≤ rank
      · rw [if_pos beyond, ih, List.getElem?_append_right (by omega), size]
      · rw [if_neg beyond, List.getElem?_append_left (by omega), List.getElem?_map, getElem?_ones (by omega)]
        rfl
  exact walked s.toList 0 rank

end Bitset
