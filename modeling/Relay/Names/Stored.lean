import Relay.Names.Composed

/-! Texts of names. Plain words joined by dashes are normal, and stay as they are when a stored
name is read. -/
namespace Relay.Names

def Plain (parts : List String) : Prop :=
  ∀ w ∈ parts, Text.Letters w ∧ 3 ≤ w.utf8ByteSize ∧ w.utf8ByteSize ≤ 8

def Ordinary (c : Char) : Prop := c = '-' ∨ ('a' ≤ c ∧ c ≤ 'z')

theorem ordinary_spec {c : Char} (ordinary : Ordinary c) : isSpace c = false ∧ toLower c = c := by
  have small : ∀ n < 123, Ordinary (Char.ofNat n) →
      isSpace (Char.ofNat n) = false ∧ toLower (Char.ofNat n) = Char.ofNat n := by
    unfold Ordinary
    decide
  have bound : c.toNat < 123 := by
    obtain rfl | ⟨_, high⟩ := ordinary
    · decide
    · exact Nat.lt_succ_of_le (Char.le_def.mp high)
  have same : Char.ofNat c.toNat = c := Char.ofNat_toNat c
  have checked := small c.toNat bound
  rw [same] at checked
  exact checked ordinary

theorem trimSpace_ordinary {text : List Char} (ordinary : ∀ c ∈ text, Ordinary c) : trimSpace text = text := by
  have kept : ∀ {l : List Char}, (∀ c ∈ l, Ordinary c) → l.dropWhile isSpace = l := by
    intro l all
    cases l with
    | nil => rfl
    | cons c rest =>
      have visible := (ordinary_spec (all c List.mem_cons_self)).1
      rw [List.dropWhile_cons_of_neg (by simp [visible])]
  rw [trimSpace, kept ordinary, kept fun c member => ordinary c (List.mem_reverse.mp member), List.reverse_reverse]

theorem lower_ordinary {text : List Char} (ordinary : ∀ c ∈ text, Ordinary c) : text.map toLower = text := by
  rw [List.map_congr_left fun c member => (ordinary_spec (ordinary c member)).2, List.map_id']

section Joined

variable {parts : List String}

section

variable (plain : Plain parts)

include plain

theorem Plain.no_dash : ∀ w ∈ parts, '-' ∉ w.toList := by
  intro w member dash
  have letter := (plain w member).1 '-' dash
  exact absurd letter.1 (by decide)

theorem Plain.split (some_part : parts ≠ []) : Text.split '-' (Text.join '-' parts) = parts :=
  Text.split_join some_part plain.no_dash

theorem Plain.join_injective {parts' : List String} (plain' : Plain parts') (size : parts.length = parts'.length)
    (same : Text.join '-' parts = Text.join '-' parts') : parts = parts' := by
  by_cases some_part : parts = []
  · subst some_part
    exact (List.length_eq_zero_iff.mp size.symm).symm
  · have some_part' : parts' ≠ [] := by
      rintro rfl
      exact some_part (List.length_eq_zero_iff.mp size)
    rw [← plain.split some_part, same, plain'.split some_part']

theorem Plain.ordinary : ∀ c ∈ (Text.join '-' parts).toList, Ordinary c := by
  intro c member
  obtain dash | ⟨w, listed, inside⟩ := Text.mem_join member
  · exact .inl dash
  · exact .inr ((plain w listed).1 c inside)

theorem Plain.size (some_part : parts ≠ []) (few : parts.length ≤ maxWordCount) :
    (Text.join '-' parts).utf8ByteSize ≤ maxNameBytes := by
  have bound : (Text.join '-' parts).utf8ByteSize + 1 ≤ parts.length * (8 + 1) :=
    Text.join_size (by decide) some_part fun w member => (plain w member).2.2
  have most : parts.length * (8 + 1) ≤ maxWordCount * (8 + 1) := Nat.mul_le_mul_right _ few
  have value : maxWordCount * (8 + 1) = maxNameBytes + 1 := by decide
  omega

theorem Plain.normalWord : parts.all normalWord = true := by
  rw [List.all_eq_true]
  intro w member
  obtain ⟨letters, low, high⟩ := plain w member
  simp only [Names.normalWord, Bool.and_eq_true, decide_eq_true_eq, List.all_eq_true]
  exact ⟨⟨low, by omega⟩, letters⟩

theorem Plain.normalize (many : minWordCount ≤ parts.length) (few : parts.length ≤ maxWordCount) :
    normalize (Text.join '-' parts) = .ok (Text.join '-' parts) := by
  have some_part : parts ≠ [] := by
    rintro rfl
    exact absurd many (by decide)
  have value : String.ofList ((trimSpace (Text.join '-' parts).toList).map toLower) = Text.join '-' parts := by
    rw [trimSpace_ordinary plain.ordinary, lower_ordinary plain.ordinary, String.ofList_toList]
  rw [Names.normalize, if_neg (Nat.not_lt.mpr (plain.size some_part few))]
  dsimp only
  rw [value, plain.split some_part, if_neg (by omega), if_pos plain.normalWord]

end

end Joined

namespace Tables

variable {T : Tables} {grammar text : String} {name : Name}

theorem parseStored_ok : T.parseStored grammar text = .ok name ↔
    ∃ value, normalize text = .ok value ∧ T.recognizes grammar (Text.split '-' value) = .ok true ∧
      name = ⟨value, grammar, (Text.split '-' value).length⟩ := by
  rw [parseStored]
  cases normal : normalize text with
  | error e => simp
  | ok value =>
    cases valid : T.recognizes grammar (Text.split '-' value) with
    | error e => simp [bind, Except.bind, valid]
    | ok known =>
      cases known with
      | false => simp [bind, Except.bind, valid, Slice.refuseIf]
      | true =>
        simp only [valid, bind, Except.bind, Slice.refuseIf]
        constructor
        · rintro ⟨⟩
          exact ⟨value, rfl, valid, rfl⟩
        · rintro ⟨_, ⟨⟩, _, rfl⟩
          rfl

end Tables

end Relay.Names
