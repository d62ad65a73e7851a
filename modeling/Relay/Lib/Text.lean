import Mathlib.Data.List.Nodup
import Mathlib.Data.Nat.Bitwise

/-! Texts made of parts with a separator between them, texts of plain lower-case letters, and
two quick checks for long lists of texts, over their bytes. -/
namespace Text

/-- `strings.Split` by one character. -/
def split (sep : Char) (s : String) : List String := (s.toList.splitOn sep).map String.ofList

/-- `strings.Join` with one character. -/
def join (sep : Char) (parts : List String) : String := (String.singleton sep).intercalate parts

variable {sep : Char} {parts : List String}

theorem toList_join (sep : Char) (parts : List String) :
    (join sep parts).toList = [sep].intercalate (parts.map String.toList) := by
  rw [join, String.toList_intercalate, String.toList_singleton]

theorem join_split (sep : Char) (s : String) : join sep (split sep s) = s := by
  apply String.toList_inj.mp
  rw [toList_join, split, List.map_map]
  have same : String.toList ∘ String.ofList = id := funext fun l => String.toList_ofList
  rw [same, List.map_id, List.intercalate_splitOn]

theorem split_join (some_part : parts ≠ []) (plain : ∀ w ∈ parts, sep ∉ w.toList) :
    split sep (join sep parts) = parts := by
  have lists : ∀ l ∈ parts.map String.toList, sep ∉ l := by
    intro l member
    obtain ⟨w, here, rfl⟩ := List.mem_map.mp member
    exact plain w here
  rw [split, toList_join, List.splitOn_intercalate sep lists (by simpa using some_part), List.map_map]
  have same : String.ofList ∘ String.toList = id := funext fun s => String.ofList_toList
  rw [same, List.map_id]

theorem join_flatten {groups : List (List String)} (some_part : ∀ group ∈ groups, group ≠ []) :
    join sep (groups.map (join sep)) = join sep groups.flatten := by
  induction groups with
  | nil => rfl
  | cons group groups ih =>
    have later : ∀ g ∈ groups, g ≠ [] := fun g member => some_part g (List.mem_cons_of_mem _ member)
    cases groups with
    | nil => simp [join]
    | cons next rest =>
      have left := some_part group List.mem_cons_self
      have right : (next :: rest).flatten ≠ [] := by
        rw [List.flatten_cons]
        exact List.append_ne_nil_of_left_ne_nil (later next List.mem_cons_self) _
      rw [List.flatten_cons, join, join, String.intercalate_append_of_ne_nil left right, List.map_cons,
        String.intercalate_cons_of_ne_nil (by simp)]
      rw [← join, ← join, ← join, ih later]

theorem mem_join {c : Char} (member : c ∈ (join sep parts).toList) : c = sep ∨ ∃ w ∈ parts, c ∈ w.toList := by
  induction parts with
  | nil => simp [join] at member
  | cons w parts ih =>
    cases parts with
    | nil =>
      rw [join, String.intercalate_singleton] at member
      exact .inr ⟨w, List.mem_cons_self, member⟩
    | cons next rest =>
      rw [join, String.intercalate_cons_of_ne_nil (by simp), ← join, String.toList_append, String.toList_append,
        String.toList_singleton, List.mem_append, List.mem_append, List.mem_singleton] at member
      obtain (first | separator) | later := member
      · exact .inr ⟨w, List.mem_cons_self, first⟩
      · exact .inl separator
      · obtain separator | ⟨v, listed, inside⟩ := ih later
        · exact .inl separator
        · exact .inr ⟨v, List.mem_cons_of_mem _ listed, inside⟩

theorem join_size {limit : Nat} (narrow : sep.utf8Size = 1) (some_part : parts ≠ [])
    (small : ∀ w ∈ parts, w.utf8ByteSize ≤ limit) :
    (join sep parts).utf8ByteSize + 1 ≤ parts.length * (limit + 1) := by
  induction parts with
  | nil => exact absurd rfl some_part
  | cons w parts ih =>
    have here := small w List.mem_cons_self
    cases parts with
    | nil =>
      rw [join, String.intercalate_singleton, List.length_singleton]
      omega
    | cons next rest =>
      have later := ih (by simp) fun w member => small w (List.mem_cons_of_mem _ member)
      rw [join] at later ⊢
      rw [String.intercalate_cons_of_ne_nil (by simp), String.utf8ByteSize_append, String.utf8ByteSize_append,
        String.utf8ByteSize_singleton, narrow, List.length_cons, Nat.succ_mul]
      omega

def Letters (s : String) : Prop := ∀ c ∈ s.toList, 'a' ≤ c ∧ c ≤ 'z'

def bytes (s : String) : List UInt8 := s.toByteArray.data.toList

theorem encode_letter : ∀ n < 123, 97 ≤ n → String.utf8EncodeChar (Char.ofNat n) = [UInt8.ofNat n] := by decide

theorem letter_of_byte : ∀ n < 123, 97 ≤ n → 'a' ≤ Char.ofNat n ∧ Char.ofNat n ≤ 'z' := by decide

theorem letters_of_bytes {s : String} (plain : (bytes s).all (fun b => 97 ≤ b && b ≤ 122) = true) : Letters s := by
  have range : ∀ b ∈ bytes s, 97 ≤ b.toNat ∧ b.toNat < 123 := by
    intro b member
    have both := List.all_eq_true.mp plain b member
    simp only [Bool.and_eq_true, decide_eq_true_eq, UInt8.le_iff_toNat_le] at both
    have low : 97 ≤ b.toNat := both.1
    have high : b.toNat ≤ 122 := both.2
    omega
  have encoded : ((bytes s).map fun b => Char.ofNat b.toNat).flatMap String.utf8EncodeChar = bytes s := by
    rw [List.flatMap_map]
    have single : ∀ b ∈ bytes s, String.utf8EncodeChar (Char.ofNat b.toNat) = [b] := by
      intro b member
      rw [encode_letter _ (range b member).2 (range b member).1, UInt8.ofNat_toNat]
    rw [List.flatMap_congr single]
    simp
  have same : String.ofList ((bytes s).map fun b => Char.ofNat b.toNat) = s := by
    apply String.toByteArray_inj.mp
    rw [String.toByteArray_ofList, List.utf8Encode, encoded]
    apply ByteArray.ext
    rw [List.data_toByteArray, bytes, Array.toArray_toList]
  intro c member
  rw [← same, String.toList_ofList] at member
  obtain ⟨b, here, rfl⟩ := List.mem_map.mp member
  exact letter_of_byte _ (range b here).2 (range b here).1

def unmarked : Nat → List Nat → Bool
  | _, [] => true
  | seen, k :: ks => !seen.testBit k && unmarked (seen ||| 1 <<< k) ks

theorem nodup_of_unmarked {seen : Nat} {ks : List Nat} (fresh : unmarked seen ks = true) :
    ks.Nodup ∧ ∀ k ∈ ks, seen.testBit k = false := by
  induction ks generalizing seen with
  | nil => simp
  | cons k ks ih =>
    rw [unmarked, Bool.and_eq_true, Bool.not_eq_true'] at fresh
    obtain ⟨distinct, unseen⟩ := ih fresh.2
    have apart : ∀ j ∈ ks, seen.testBit j = false ∧ k ≠ j := by
      intro j member
      have clear := unseen j member
      rw [Nat.testBit_or, Bool.or_eq_false_iff, Nat.one_shiftLeft, Nat.testBit_two_pow] at clear
      exact ⟨clear.1, by simpa using clear.2⟩
    refine ⟨List.nodup_cons.mpr ⟨fun member => (apart k member).2 rfl, distinct⟩, ?_⟩
    intro j member
    rcases List.mem_cons.mp member with rfl | later
    · exact fresh.1
    · exact (apart j later).1

def marked (ks : List Nat) : Nat := ks.foldr (fun k seen => seen ||| 1 <<< k) 0

theorem testBit_marked {k : Nat} {ks : List Nat} (member : k ∈ ks) : (marked ks).testBit k = true := by
  induction ks with
  | nil => cases member
  | cons j ks ih =>
    rw [marked, List.foldr_cons, ← marked, Nat.testBit_or, Nat.one_shiftLeft, Nat.testBit_two_pow, Bool.or_eq_true]
    rcases List.mem_cons.mp member with rfl | later
    · exact .inr (by simp)
    · exact .inl (ih later)

def hash (modulus : Nat) (s : String) : Nat := (bytes s).foldl (fun n b => n * 32 + b.toNat) 0 % modulus

theorem nodup_of_hash {texts : List String} (modulus : Nat) (fresh : unmarked 0 (texts.map (hash modulus)) = true) :
    texts.Nodup :=
  (nodup_of_unmarked fresh).1.of_map _

end Text
