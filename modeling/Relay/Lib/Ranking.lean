import Mathlib.Data.List.Forall2
import Mathlib.Tactic.Ring
import Mathlib.Algebra.BigOperators.Group.List.Basic
import Relay.Lib.Shared
import Relay.Lib.Slice
import Relay.Lib.Table

/-! Numbering the members of a collection and finding the member of a number: lists with the
position of every item, pools laid end to end with a binary search for the one that holds an
index, and one choice from each of several pools by the digits of a number. -/

section Positions

variable {α : Type} [DecidableEq α]

/-- `for position, key := range keys { index[key] = position }` -/
def Table.positions (keys : List α) : Table α Nat :=
  keys.zipIdx.foldl (fun index entry => index.insert entry.1 entry.2) ∅

theorem Table.positions_snoc (keys : List α) (key : α) :
    positions (keys ++ [key]) = (positions keys).insert key keys.length := by
  simp [positions, List.zipIdx_append]

theorem Table.lookup_positions {keys : List α} (distinct : keys.Nodup) {key : α} {i : Nat} :
    (positions keys).lookup key = some i ↔ keys[i]? = some key := by
  induction keys using List.reverseRecOn with
  | nil => simp [positions]
  | append_singleton keys last ih =>
    obtain ⟨distinct, fresh⟩ : keys.Nodup ∧ last ∉ keys := by
      rw [List.nodup_append] at distinct
      exact ⟨distinct.1, fun member => distinct.2.2 last member last List.mem_cons_self rfl⟩
    rw [positions_snoc, lookup_insert_some, ih distinct]
    constructor
    · rintro (⟨rfl, rfl⟩ | ⟨_, found⟩)
      · simp
      · exact Objects.getElem?_snoc_of_some found
    · intro found
      rcases Objects.getElem?_snoc_some found with ⟨rfl, rfl⟩ | ⟨_, earlier⟩
      · exact .inl ⟨rfl, rfl⟩
      · refine .inr ⟨?_, earlier⟩
        rintro rfl
        exact fresh (List.mem_of_getElem? earlier)

structure Roster (α : Type) [DecidableEq α] where
  items : List α
  ranks : Table α Nat

namespace Roster

def empty : Roster α := ⟨[], ∅⟩

def push (r : Roster α) (x : α) : Roster α := ⟨r.items ++ [x], r.ranks.insert x r.items.length⟩

def collect {β : Type} (passes : β → Bool) (text : β → α) (candidates : List β) : Roster α :=
  candidates.foldl (fun r c => if passes c then r.push (text c) else r) empty

variable {β : Type} {passes : β → Bool} {text : β → α}

theorem collect_snoc (candidates : List β) (c : β) : collect passes text (candidates ++ [c]) =
    if passes c then (collect passes text candidates).push (text c) else collect passes text candidates := by
  simp [collect]

theorem items_collect (candidates : List β) :
    (collect passes text candidates).items = (candidates.filter passes).map text := by
  induction candidates using List.reverseRecOn with
  | nil => rfl
  | append_singleton candidates c ih =>
    rw [collect_snoc, List.filter_append, List.map_append, ← ih]
    by_cases passed : passes c = true
    · rw [if_pos passed, push, List.filter_cons_of_pos passed]
      rfl
    · rw [if_neg passed, List.filter_cons_of_neg passed]
      simp

theorem isSome_lookup_collect (candidates : List β) {x : α} :
    ((collect passes text candidates).ranks.lookup x).isSome = true ↔
      x ∈ (collect passes text candidates).items := by
  induction candidates using List.reverseRecOn with
  | nil => simp [collect, empty]
  | append_singleton candidates c ih =>
    rw [collect_snoc]
    split
    · simp only [push, List.mem_append, List.mem_singleton]
      rw [← ih]
      by_cases same : x = text c
      · subst same
        simp [AList.lookup_insert]
      · simp [AList.lookup_insert_ne same, same]
    · exact ih

end Roster

end Positions

section Blocks

/-- `sort.Search` between two bounds: the least number at which a predicate holds. -/
def search (holds : Nat → Bool) (i j : Nat) : Nat :=
  if i < j then
    let h := (i + j) / 2
    if holds h then search holds i h else search holds (h + 1) j
  else i
termination_by j - i

variable {pools : List (List α)} {i index : Nat}

/-- The search finds the place where a predicate that stays true becomes true. -/
theorem search_spec {holds : Nat → Bool} {j : Nat} (ordered : i ≤ j)
    (stays : ∀ a b, a ≤ b → b < j → holds a = true → holds b = true) :
    i ≤ search holds i j ∧ search holds i j ≤ j ∧ (∀ k, i ≤ k → k < search holds i j → holds k = false) ∧
      (search holds i j < j → holds (search holds i j) = true) := by
  fun_induction search holds i j with
  | case1 i j proper h found ih =>
    obtain ⟨low, high, before, reached⟩ := ih (by omega) fun a b order small => stays a b order (by omega)
    refine ⟨low, by omega, before, fun _ => ?_⟩
    rcases Nat.lt_or_eq_of_le high with inside | same
    · exact reached inside
    · rw [same]
      exact found
  | case2 i j proper h missed ih =>
    obtain ⟨low, high, before, reached⟩ := ih (by omega) stays
    refine ⟨by omega, high, ?_, reached⟩
    intro k from_i below
    by_cases left : k ≤ h
    · by_contra held
      exact missed (stays k h left (by omega) (by simpa using held))
    · exact before k (by omega) below
  | case3 i j done => exact ⟨Nat.le_refl i, ordered, fun k _ _ => by omega, fun inside => absurd inside done⟩

variable {α : Type}

def total (pools : List (List α)) (k : Nat) : Nat := (pools.take k).flatten.length

theorem total_mono (pools : List (List α)) {a b : Nat} (order : a ≤ b) : total pools a ≤ total pools b := by
  have cut : pools.take a = (pools.take b).take a := by rw [List.take_take, Nat.min_eq_left order]
  have split : pools.take b = pools.take a ++ (pools.take b).drop a := by
    rw [cut, List.take_append_drop]
  rw [total, total, split, List.flatten_append, List.length_append]
  exact Nat.le_add_right _ _

theorem total_all (pools : List (List α)) : total pools pools.length = pools.flatten.length := by
  rw [total, List.take_length]

theorem getElem?_flatten (reached : total pools i ≤ index) (inside : index < total pools (i + 1)) :
    pools.flatten[index]? = (pools[i]?.getD [])[index - total pools i]? := by
  by_cases last : i < pools.length
  · have split : pools = pools.take i ++ pools[i] :: pools.drop (i + 1) := by
      rw [List.cons_getElem_drop_succ, List.take_append_drop]
    have here : pools[i]? = some pools[i] := List.getElem?_eq_getElem last
    have next : total pools (i + 1) = total pools i + pools[i].length := by
      rw [total, total, List.take_add_one, here, List.flatten_append, List.length_append]
      simp
    rw [here, Option.getD_some]
    nth_rewrite 1 [split]
    rw [List.flatten_append, List.flatten_cons, List.getElem?_append_right reached,
      List.getElem?_append_left (by rw [← total]; omega), ← total]
  · have done : total pools (i + 1) = total pools i := by
      rw [total, total, List.take_of_length_le (by omega), List.take_of_length_le (by omega)]
    omega

/-- With the ends of the pools at hand, the search finds the pool that holds an index. -/
theorem search_ends {ends : Nat → Nat} (cumulative : ∀ i < pools.length, ends i = total pools (i + 1))
    (inside : index < pools.flatten.length) :
    search (fun i => decide (index < ends i)) 0 pools.length < pools.length ∧
      total pools (search (fun i => decide (index < ends i)) 0 pools.length) ≤ index ∧
      index < total pools (search (fun i => decide (index < ends i)) 0 pools.length + 1) := by
  have stays : ∀ a b, a ≤ b → b < pools.length → decide (index < ends a) = true → decide (index < ends b) = true := by
    intro a b order small held
    have sizes := total_mono pools (Nat.add_le_add_right order 1)
    rw [decide_eq_true_eq, cumulative a (by omega)] at held
    rw [decide_eq_true_eq, cumulative b small]
    omega
  obtain ⟨_, high, before, reached⟩ := search_spec (Nat.zero_le pools.length) stays
  generalize search (fun i => decide (index < ends i)) 0 pools.length = i at high before reached ⊢
  -- no pool before the one found reaches the index
  have past : ∀ k < i, total pools (k + 1) ≤ index := by
    intro k below
    have missed := before k (Nat.zero_le k) below
    rw [decide_eq_false_iff_not, cumulative k (by omega)] at missed
    omega
  have start : total pools i ≤ index := by
    cases i with
    | zero => simp [total]
    | succ k => exact past k (Nat.lt_succ_self k)
  have proper : i < pools.length := by
    rcases Nat.lt_or_eq_of_le high with small | all
    · exact small
    · rw [all, total_all] at start
      omega
  have held := reached proper
  rw [decide_eq_true_eq, cumulative i proper] at held
  exact ⟨proper, start, held⟩

end Blocks

section Digits

variable {α ε : Type}

/-- One choice from every pool by the digits of a rank, the last pool first, with what is left
of the rank. -/
def draw : List (List α) → Nat → Except (Fault ε) (Nat × List α)
  | [], rank => .ok (rank, [])
  | pool :: pools, rank => do
    let (rank, chosen) ← draw pools rank
    let x ← Slice.get pool (rank % pool.length)
    .ok (rank / pool.length, x :: chosen)

def ways (pools : List (List α)) : Nat := (pools.map List.length).prod

theorem ways_cons (pool : List α) (pools : List (List α)) : ways (pool :: pools) = ways pools * pool.length := by
  rw [ways, List.map_cons, List.prod_cons, Nat.mul_comm, ways]

variable {left : Nat} {pools : List (List α)} {chosen : List α}

theorem ways_pos (nonempty : ∀ pool ∈ pools, pool ≠ []) : 0 < ways pools := by
  induction pools with
  | nil => simp [ways]
  | cons pool pools ih =>
    rw [ways_cons]
    have here := List.length_pos_iff.mpr (nonempty pool List.mem_cons_self)
    exact Nat.mul_pos (ih fun p member => nonempty p (List.mem_cons_of_mem _ member)) here

theorem draw_cons {pool : List α} {rank : Nat} :
    (draw (pool :: pools) rank : Except (Fault ε) _) = .ok (left, chosen) ↔
      ∃ q x rest, (draw pools rank : Except (Fault ε) _) = .ok (q, rest) ∧ pool[q % pool.length]? = some x ∧
        left = q / pool.length ∧ chosen = x :: rest := by
  rw [draw]
  cases later : (draw pools rank : Except (Fault ε) _) with
  | error fault => simp [bind, Except.bind]
  | ok out =>
    obtain ⟨q, rest⟩ := out
    cases here : pool[q % pool.length]? with
    | none => simp [bind, Except.bind, Slice.get, here]
    | some x =>
      simp only [bind, Except.bind, Slice.get, here, Except.ok.injEq, Prod.mk.injEq]
      constructor
      · rintro ⟨rfl, rfl⟩
        exact ⟨q, x, rest, ⟨rfl, rfl⟩, here, rfl, rfl⟩
      · rintro ⟨_, _, _, ⟨rfl, rfl⟩, found, rfl, rfl⟩
        rw [here] at found
        cases found
        exact ⟨rfl, rfl⟩

/-- Every rank chooses, and what is left of it is its multiple of the number of ways. -/
theorem draw_mem (nonempty : ∀ pool ∈ pools, pool ≠ []) (rank : Nat) :
    ∃ chosen, (draw pools rank : Except (Fault ε) _) = .ok (rank / ways pools, chosen) ∧
      List.Forall₂ (· ∈ ·) chosen pools := by
  induction pools with
  | nil => exact ⟨[], by simp [draw, ways], .nil⟩
  | cons pool pools ih =>
    obtain ⟨chosen, drawn, members⟩ := ih fun p member => nonempty p (List.mem_cons_of_mem _ member)
    have positive : 0 < pool.length := List.length_pos_iff.mpr (nonempty pool List.mem_cons_self)
    have inside : rank / ways pools % pool.length < pool.length := Nat.mod_lt _ positive
    refine ⟨pool[rank / ways pools % pool.length] :: chosen, ?_, .cons (List.getElem_mem inside) members⟩
    rw [draw_cons]
    refine ⟨_, _, chosen, drawn, List.getElem?_eq_getElem inside, ?_, rfl⟩
    rw [ways_cons, Nat.div_div_eq_div_mul]

theorem draw_injective (distinct : ∀ pool ∈ pools, pool.Nodup) {r r' : Nat}
    (drawn : (draw pools r : Except (Fault ε) _) = .ok (left, chosen))
    (drawn' : (draw pools r' : Except (Fault ε) _) = .ok (left, chosen)) : r = r' := by
  induction pools generalizing left chosen with
  | nil =>
    cases drawn
    cases drawn'
    rfl
  | cons pool pools ih =>
    obtain ⟨q, x, rest, later, here, rfl, rfl⟩ := draw_cons.mp drawn
    obtain ⟨q', x', rest', later', here', left', chosen'⟩ := draw_cons.mp drawn'
    cases chosen'
    have digit : q % pool.length = q' % pool.length := by
      have inside := (List.getElem?_eq_some_iff.mp here).1
      exact (List.getElem?_inj inside (distinct pool List.mem_cons_self)).mp (here.trans here'.symm)
    have same : q = q' := by rw [← Nat.div_add_mod q pool.length, ← Nat.div_add_mod q' pool.length, left', digit]
    subst same
    exact ih (fun p member => distinct p (List.mem_cons_of_mem _ member)) later later'

theorem draw_surjective (members : List.Forall₂ (· ∈ ·) chosen pools) :
    ∃ r < ways pools, ∀ q, (draw pools (q * ways pools + r) : Except (Fault ε) _) = .ok (q, chosen) := by
  induction members with
  | nil => exact ⟨0, by simp [ways], fun q => by simp [draw, ways]⟩
  | @cons x pool chosen pools here _ ih =>
    obtain ⟨r, small, drawn⟩ := ih
    obtain ⟨k, inside, found⟩ := List.getElem_of_mem here
    refine ⟨k * ways pools + r, ?_, ?_⟩
    · rw [ways_cons]
      calc k * ways pools + r < k * ways pools + ways pools := Nat.add_lt_add_left small _
        _ = ways pools * (k + 1) := by ring
        _ ≤ ways pools * pool.length := Nat.mul_le_mul_left _ inside
    · intro q
      rw [draw_cons]
      have digits : q * ways (pool :: pools) + (k * ways pools + r) = (q * pool.length + k) * ways pools + r := by
        rw [ways_cons]
        ring
      have digit : (q * pool.length + k) % pool.length = k := by
        rw [Nat.mul_add_mod_self_right, Nat.mod_eq_of_lt inside]
      refine ⟨q * pool.length + k, x, chosen, ?_, ?_, ?_, rfl⟩
      · rw [digits]
        exact drawn _
      · rw [digit, List.getElem?_eq_getElem inside, found]
      · rw [Nat.mul_comm, Nat.mul_add_div (by omega), Nat.div_eq_of_lt inside, Nat.add_zero]

end Digits
