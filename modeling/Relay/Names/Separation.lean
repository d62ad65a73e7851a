import Relay.Names.Bijection

/-! No name has two words that are equal or easily taken for each other. Within a phrase the rules
see to it: words that must not meet are not compatible, whatever else is added to the tables.
Between the groups of a longer name only the choice of the palettes does: they share no word, and
no list of confusable words reaches into two of them. -/
namespace Relay.Names

namespace Lexicon

variable {L : Lexicon} {count : Nat}

/-! ### Within a phrase -/

variable {a b : Nat} {x y : String}

theorem apart_of_meet (wf : L.WellFormed) (here : L.words[a]? = some x) (there : L.words[b]? = some y)
    (meets : meet (L.blocked L.wordIndex) a b = true) : L.Apart x y := by
  have first := position_of_word wf here
  have second := position_of_word wf there
  simp only [meet, Bool.not_eq_true', Bool.or_eq_false_iff, beq_eq_false_iff_ne, List.contains_eq_mem,
    decide_eq_false_iff_not, blocked, List.mem_append, List.mem_flatMap, not_or] at meets
  obtain ⟨unequal, free, allowed⟩ := meets
  refine ⟨?_, ?_, ?_⟩
  · rintro rfl
    exact unequal (first.symm.trans second)
  · rintro list listed ⟨left, right⟩
    exact free ⟨list, listed, x, left, List.mem_map.mpr ⟨y, right, by rw [first, second]⟩⟩
  · intro pair listed
    constructor
    · rintro rfl
      exact allowed ⟨_, listed, by rw [first, second]; exact List.mem_cons_self⟩
    · rintro rfl
      exact allowed ⟨_, listed, by rw [first, second]; exact List.mem_cons_of_mem _ List.mem_cons_self⟩

theorem apart_of_compatible (wf : L.WellFormed) (here : L.words[a]? = some x) (there : L.words[b]? = some y)
    (found : (wordsOf L.buildRules.compatible a).has b = true) : L.Apart x y :=
  apart_of_meet wf here there ((has_compatible wf).mp found).2.2

theorem compatible_of_patterns {c : Nat} {b : Option Nat} (found : (L.buildRules.patterns a b).has c = true) :
    (wordsOf L.buildRules.compatible a).has c = true ∧ ∀ b' ∈ b,
      (wordsOf L.buildRules.compatible a).has b' = true ∧ (wordsOf L.buildRules.compatible b').has c = true := by
  cases b with
  | none =>
    rw [PhraseRules.patterns, Bitset.has_inter, Bool.and_eq_true] at found
    exact ⟨found.2, fun b missing => absurd missing (Option.not_mem_none b)⟩
  | some b =>
    rw [PhraseRules.patterns] at found
    split at found
    · rw [Bitset.has_empty] at found
      cases found
    · rename_i open_row
      simp only [Bitset.has_inter, Bool.and_eq_true] at found
      refine ⟨found.1.1.2, ?_⟩
      rintro _ ⟨⟩
      refine ⟨?_, found.1.2⟩
      by_contra incompatible
      exact open_row (.inr (Bool.eq_false_iff.mpr incompatible))

theorem apart_of_admits (wf : L.WellFormed) {parts : List String} (short : parts.length = 2 ∨ parts.length = 3)
    (admitted : L.buildPhraseGrammar.admits L L.wordIndex parts = true) :
    parts.Pairwise L.Apart ∧ ∀ w ∈ parts, w ∈ L.words := by
  rcases short with size | size
  · obtain ⟨x, y, rfl⟩ := List.length_eq_two.mp size
    obtain ⟨a, c, first, last, found⟩ := (admits_pair wf).mp admitted
    obtain ⟨apart, _⟩ := compatible_of_patterns ((has_heads wf).mp found).1
    have apart := apart_of_compatible wf first last apart
    simp only [List.pairwise_cons, List.mem_cons, List.not_mem_nil, or_false, forall_eq_or_imp, forall_eq,
      IsEmpty.forall_iff, implies_true, List.Pairwise.nil, and_true]
    exact ⟨apart, List.mem_of_getElem? first, List.mem_of_getElem? last⟩
  · obtain ⟨x, y, z, rfl⟩ := List.length_eq_three.mp size
    obtain ⟨a, b, c, first, second, last, found⟩ := (admits_triple wf).mp admitted
    obtain ⟨ends, between⟩ := compatible_of_patterns ((has_heads wf).mp found).1
    obtain ⟨begins, later⟩ := between b rfl
    simp only [List.pairwise_cons, List.mem_cons, List.not_mem_nil, or_false, forall_eq_or_imp, forall_eq,
      IsEmpty.forall_iff, implies_true, List.Pairwise.nil, and_true]
    exact ⟨⟨⟨apart_of_compatible wf first second begins, apart_of_compatible wf first last ends⟩,
      apart_of_compatible wf second last later⟩,
      List.mem_of_getElem? first, List.mem_of_getElem? second, List.mem_of_getElem? last⟩

end Lexicon

/-! ### Between the groups -/

def PhrasePalette.words (palette : PhrasePalette) : List String := palette.modifiers ++ palette.subjects

variable {group : List String} {palette : PhrasePalette}

theorem PhrasePalette.words_of_pairs (listed : group ∈ palette.pairs) : ∀ w ∈ group, w ∈ palette.words := by
  simp only [pairs, List.mem_flatMap, List.mem_map] at listed
  obtain ⟨a, modifier, b, subject, rfl⟩ := listed
  simp [words, modifier, subject]

theorem PhrasePalette.words_of_triples (listed : group ∈ palette.triples) : ∀ w ∈ group, w ∈ palette.words := by
  simp only [triples, List.mem_flatMap, List.mem_map] at listed
  obtain ⟨a, modifier, b, modifier', c, subject, rfl⟩ := listed
  simp [words, modifier, modifier', subject]

namespace Lexicon

def confusables (L : Lexicon) : List (List String) :=
  L.confusableGroups ++ L.disallowedPairs.map fun pair => [pair.1, pair.2]

/-- The palettes share no word, and every list of confusable words meets one of them at most. -/
structure Separated (L : Lexicon) : Prop where
  distinct : (L.composedPalettes.flatMap PhrasePalette.words).Nodup
  confusable : ∀ list ∈ L.confusables, L.composedPalettes.countP (fun p => list.any p.words.contains) ≤ 1

variable {L : Lexicon} {count : Nat}

theorem apart_of_confusables {x y : String} (different : x ≠ y)
    (clear : ∀ list ∈ L.confusables, ¬(x ∈ list ∧ y ∈ list)) : L.Apart x y := by
  refine ⟨different, fun list listed => clear list (List.mem_append_left _ listed), fun pair listed => ?_⟩
  have free := clear [pair.1, pair.2] (List.mem_append_right _ (List.mem_map_of_mem listed))
  constructor
  · rintro rfl
    exact free (by simp)
  · rintro rfl
    exact free (by simp)

theorem Separated.apart (separated : L.Separated) :
    L.composedPalettes.Pairwise fun p q => ∀ x ∈ p.words, ∀ y ∈ q.words, L.Apart x y := by
  obtain ⟨_, disjoint⟩ := List.nodup_flatMap.mp separated.distinct
  rw [List.pairwise_iff_forall_sublist] at disjoint ⊢
  intro p q two x left y right
  apply apart_of_confusables
  · rintro rfl
    exact disjoint two left right
  · rintro list listed ⟨first, second⟩
    have both := two.countP_le.trans (separated.confusable list listed)
    have here : list.any p.words.contains = true := List.any_eq_true.mpr ⟨x, first, by simpa using left⟩
    have there : list.any q.words.contains = true := List.any_eq_true.mpr ⟨y, second, by simpa using right⟩
    simp [here, there] at both

variable {group : List String}

theorem mem_collect (wf : L.WellFormed) {width : Nat} (short : width = 2 ∨ width = 3) {candidates : List (List String)}
    (sized : ∀ group ∈ candidates, group.length = width) (plain : Plain group) (size : group.length = width)
    (member : Text.join '-' group ∈
      (Roster.collect (L.buildPhraseGrammar.admits L L.wordIndex) (Text.join '-') candidates).items) :
    group ∈ candidates ∧ L.buildPhraseGrammar.admits L L.wordIndex group = true := by
  rw [Roster.items_collect] at member
  obtain ⟨group', passed, same⟩ := List.mem_map.mp member
  obtain ⟨listed, admitted⟩ := List.mem_filter.mp passed
  have plain' := plain_of_admits wf short (sized group' listed) admitted
  cases plain'.join_injective plain ((sized group' listed).trans size.symm) same
  exact ⟨listed, admitted⟩

theorem phrase_of_slot (wf : L.WellFormed) {i : Nat} {slot : Nat × Roster String}
    (found : (L.slots count)[i]? = some slot) (plain : Plain group) (size : group.length = slot.1)
    (member : Text.join '-' group ∈ slot.2.items) :
    (group.Pairwise L.Apart ∧ ∀ w ∈ group, w ∈ L.words) ∧
      ∃ palette, L.composedPalettes[i]? = some palette ∧ ∀ w ∈ group, w ∈ palette.words := by
  obtain ⟨palette, listed, ⟨_, rfl⟩ | rfl⟩ := slot_of_palette found
  · obtain ⟨drawn, admitted⟩ := mem_collect wf (.inr rfl) (fun _ => PhrasePalette.length_triples) plain size member
    exact ⟨apart_of_admits wf (.inr size) admitted, palette, listed, PhrasePalette.words_of_triples drawn⟩
  · obtain ⟨drawn, admitted⟩ := mem_collect wf (.inl rfl) (fun _ => PhrasePalette.length_pairs) plain size member
    exact ⟨apart_of_admits wf (.inl size) admitted, palette, listed, PhrasePalette.words_of_pairs drawn⟩

theorem apart_of_fills (wf : L.WellFormed) (separated : L.Separated) {groups : List (List String)}
    (plain : Plain groups.flatten) (fills : Fills groups (L.slots count)) :
    groups.flatten.Pairwise L.Apart ∧ ∀ w ∈ groups.flatten, w ∈ L.words := by
  obtain ⟨sizes, each⟩ := List.forall₂_iff_get.mp fills
  have phrase : ∀ i (inside : i < groups.length), (groups[i].Pairwise L.Apart ∧ ∀ w ∈ groups[i], w ∈ L.words) ∧
      ∃ palette, L.composedPalettes[i]? = some palette ∧ ∀ w ∈ groups[i], w ∈ palette.words := by
    intro i inside
    have inside' : i < (L.slots count).length := by omega
    obtain ⟨size, member⟩ := each i inside inside'
    refine phrase_of_slot wf (List.getElem?_eq_getElem inside') ?_ size member
    exact fun w listed => plain w (List.mem_flatten.mpr ⟨_, List.getElem_mem inside, listed⟩)
  constructor
  · rw [List.pairwise_flatten]
    constructor
    · intro group listed
      obtain ⟨i, inside, rfl⟩ := List.getElem_of_mem listed
      exact (phrase i inside).1.1
    · rw [List.pairwise_iff_getElem]
      intro i j inside inside' before x left y right
      obtain ⟨_, p, here, within⟩ := phrase i inside
      obtain ⟨_, q, there, within'⟩ := phrase j inside'
      obtain ⟨first, rfl⟩ := List.getElem?_eq_some_iff.mp here
      obtain ⟨second, rfl⟩ := List.getElem?_eq_some_iff.mp there
      exact List.pairwise_iff_getElem.mp separated.apart i j first second before x (within x left) y (within' y right)
  · intro w listed
    obtain ⟨group, member, inside⟩ := List.mem_flatten.mp listed
    obtain ⟨i, _, rfl⟩ := List.getElem_of_mem member
    exact (phrase i _).1.2 w inside

theorem apart_of_recognizes (wf : L.WellFormed) (supplied : L.Supplied) (separated : L.Separated)
    (many : minWordCount ≤ count) (few : count ≤ maxWordCount) {parts : List String} (plain : Plain parts)
    (size : parts.length = count) (recognized : L.tables.recognizes (recorded count) parts = .ok true) :
    parts.Pairwise L.Apart ∧ ∀ w ∈ parts, w ∈ L.words := by
  simp only [minWordCount] at many
  by_cases short : count ≤ 3
  · rw [recorded, if_pos short, Tables.recognizes, if_pos rfl, Except.ok.injEq, Bool.and_eq_true] at recognized
    exact apart_of_admits wf (by omega) recognized.2
  · rw [recorded, if_neg short] at recognized
    have enough := wf.enough
    have groups : L.tables.composedGroups.length = L.composedPalettes.length := by simp [tables, buildComposedGroups]
    have width : ((L.slots count).map Prod.fst).sum = count := width_slots (by omega) (by omega)
    obtain ⟨groups, rfl, fills⟩ :=
      (recognizes_composed (fair_slots wf supplied) width (by omega) few size).mp recognized
    exact apart_of_fills wf separated plain fills

end Lexicon

/-! ### The words of the package -/

theorem lexicon_separated : lexicon.Separated where
  distinct := Text.nodup_of_hash 55894 (by decide +kernel)
  confusable := by
    -- The words are compared by their numbers: a palette that has a word has its mark.
    have checked : ∀ list ∈ lexicon.confusables.map (List.map (Text.hash 55894)),
        (lexicon.composedPalettes.map fun p => Text.marked (p.words.map (Text.hash 55894))).countP
          (fun marks => list.any marks.testBit) ≤ 1 := by decide +kernel
    intro list listed
    refine le_trans ?_ (checked _ (List.mem_map_of_mem listed))
    rw [List.countP_map]
    apply List.countP_mono_left
    intro p _ meets
    obtain ⟨w, member, inside⟩ := List.any_eq_true.mp meets
    have mark := Text.testBit_marked (List.mem_map_of_mem (f := Text.hash 55894) (List.contains_iff_mem.mp inside))
    exact List.any_eq_true.mpr ⟨_, List.mem_map_of_mem member, mark⟩

/-- The words of every name that a rank below the capacity leads to are words of the vocabulary,
all different, and no two of them are listed together as confusable or disallowed. -/
theorem names_apart (count : Nat) (many : minWordCount ≤ count) (few : count ≤ maxWordCount) (rank : Int)
    (low : 0 ≤ rank) (high : rank < tables.capacityBig count) : ∃ name, tables.atBig (some rank) count = .ok name ∧
      (Text.split '-' name.text).length = count ∧ (∀ w ∈ Text.split '-' name.text, w ∈ words) ∧
      (Text.split '-' name.text).Nodup ∧ (Text.split '-' name.text).Pairwise fun x y =>
        (∀ list ∈ confusableGroups, ¬(x ∈ list ∧ y ∈ list)) ∧
        ∀ pair ∈ disallowedPairs, pair ≠ (x, y) ∧ pair ≠ (y, x) := by
  have ranks : Ranks tables (Lexicon.recorded count) count :=
    Lexicon.ranks lexicon_wellFormed lexicon_supplied many few
  obtain ⟨r, rfl⟩ := Int.eq_ofNat_of_zero_le low
  obtain ⟨parts, plain, size, recognized, named⟩ := ranks.named r (by omega)
  have some_part : parts ≠ [] := by
    rintro rfl
    simp only [minWordCount, List.length_nil] at many size
    omega
  obtain ⟨apart, known⟩ :=
    Lexicon.apart_of_recognizes lexicon_wellFormed lexicon_supplied lexicon_separated many few plain size recognized
  refine ⟨_, named, ?_⟩
  rw [plain.split some_part]
  exact ⟨size, known, apart.imp fun apart => apart.1, apart.imp fun apart => apart.2⟩

theorem names_apart_longest : minWordCount ≤ 15 ∧ 15 ≤ maxWordCount ∧ ∃ name,
    tables.atBig (some 0) (15 : Nat) = .ok name ∧ (Text.split '-' name.text).Nodup := by
  have ranks : Ranks tables _ 15 := Lexicon.ranks lexicon_wellFormed lexicon_supplied (by decide) (by decide)
  obtain ⟨name, named, _, _, distinct, _⟩ :=
    names_apart 15 (by decide) (by decide) 0 (by decide) (by exact_mod_cast ranks.some_rank)
  exact ⟨by decide, by decide, name, named, distinct⟩

end Relay.Names
