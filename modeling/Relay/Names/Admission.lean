import Relay.Names.Composed

/-! What the tables of the phrase rules say about words. Every table is described by the words it
was built from, so that the enumeration and the recognition of phrases need not look inside. -/
namespace Relay.Names

/-! ### Sets and rows of words -/

variable {b n : Nat}

theorem has_setOf (fits : n ≤ 64 * bitsetWords) {passes : Nat → Bool} :
    (setOf n passes).has b = true ↔ b < n ∧ passes b = true := by
  induction n with
  | zero => simp [setOf, Bitset.has_empty]
  | succ n ih =>
    have step : setOf (n + 1) passes = if passes n then (setOf n passes).add n else setOf n passes := by
      simp [setOf, List.range_succ]
    have earlier := ih (by omega)
    rw [step]
    split
    next passed =>
      rw [Bitset.has_add _ (by omega), Bool.or_eq_true, earlier, decide_eq_true_eq]
      constructor
      · rintro (⟨below, passed⟩ | rfl)
        · exact ⟨by omega, passed⟩
        · exact ⟨by omega, passed⟩
      · intro both
        by_cases last : b = n
        · exact .inr last
        · exact .inl ⟨by omega, both.2⟩
    next failed =>
      rw [earlier]
      constructor
      · exact fun both => ⟨by omega, both.2⟩
      · intro both
        have other : b ≠ n := fun last => failed (last ▸ both.2)
        exact ⟨by omega, both.2⟩

theorem has_rowsOf (fits : n ≤ 64 * bitsetWords) {joins : Nat → Nat → Bool} {a : Nat} :
    (wordsOf (rowsOf n joins) a).has b = true ↔ a < n ∧ b < n ∧ joins a b = true := by
  by_cases inside : a < n
  · have row : wordsOf (rowsOf n joins) a = setOf n (joins a) := by simp [wordsOf, rowsOf, inside]
    rw [row, has_setOf fits]
    simp [inside]
  · have row : wordsOf (rowsOf n joins) a = Bitset.empty := by simp [wordsOf, rowsOf, inside]
    rw [row, Bitset.has_empty]
    simp [inside]

theorem roleOf_modify (roles : Array LexicalRole) (i a : Nat) (f : LexicalRole → LexicalRole) :
    roleOf (roles.modify i f) a = if i = a ∧ a < roles.size then f (roleOf roles a) else roleOf roles a := by
  rw [roleOf, roleOf, Array.getElem?_modify]
  by_cases inside : a < roles.size
  · by_cases here : i = a <;> simp [here, inside]
  · simp [inside]

theorem wordsOf_modify (rows : Array WordSet) (i a : Nat) (f : WordSet → WordSet) :
    wordsOf (rows.modify i f) a = if i = a ∧ a < rows.size then f (wordsOf rows a) else wordsOf rows a := by
  rw [wordsOf, wordsOf, Array.getElem?_modify]
  by_cases inside : a < rows.size
  · by_cases here : i = a <;> simp [here, inside]
  · simp [inside]

namespace Lexicon

structure WellFormed (L : Lexicon) : Prop where
  distinct : L.words.Nodup
  plain : ∀ w ∈ L.words, Text.Letters w ∧ 3 ≤ w.utf8ByteSize ∧ w.utf8ByteSize ≤ 8
  fits : L.words.length ≤ 64 * bitsetWords
  palettes : ∀ palette ∈ L.composedPalettes, palette.modifiers.Nodup ∧ palette.subjects.Nodup
  enough : maxWordCount / 2 ≤ L.composedPalettes.length

variable {L : Lexicon}

/-! ### Positions -/

variable {groups : List LexicalGroup} {w x y : String} {a b c k : Nat}

theorem word_of_some (here : L.words[a]? = some w) : L.word a = w := by
  rw [word, here, Option.getD_some]

theorem some_word (inside : a < L.words.length) : L.words[a]? = some (L.word a) := by
  rw [word, List.getElem?_eq_getElem inside, Option.getD_some]

theorem lookup_wordIndex (wf : L.WellFormed) : L.wordIndex.lookup w = some a ↔ L.words[a]? = some w :=
  Table.lookup_positions wf.distinct

theorem position_of_word (wf : L.WellFormed) (here : L.words[a]? = some w) : position L.wordIndex w = a := by
  rw [position, (lookup_wordIndex wf).mpr here, Option.getD_some]

theorem word_of_position (wf : L.WellFormed) (found : position L.wordIndex w = a) (later : a ≠ 0) :
    L.words[a]? = some w := by
  rw [position] at found
  cases looked : L.wordIndex.lookup w with
  | none =>
    rw [looked] at found
    exact absurd found.symm later
  | some i =>
    rw [looked, Option.getD_some] at found
    rw [← found]
    exact (lookup_wordIndex wf).mp looked

theorem position_small (wf : L.WellFormed) (w : String) : position L.wordIndex w < 64 * bitsetWords := by
  by_cases first : position L.wordIndex w = 0
  · rw [first]
    decide
  · have inside := (List.getElem?_eq_some_iff.mp (word_of_position wf rfl first)).1
    exact Nat.lt_of_lt_of_le inside wf.fits

theorem has_members (wf : L.WellFormed) (list : List String) (set : WordSet) :
    (members L.wordIndex list set).has c = true ↔
      set.has c = true ∨ ∃ w ∈ list, position L.wordIndex w = c := by
  induction list generalizing set with
  | nil => simp [members]
  | cons w list ih =>
    have step : members L.wordIndex (w :: list) set =
        members L.wordIndex list (set.add (position L.wordIndex w)) := rfl
    rw [step, ih, Bitset.has_add _ (position_small wf w), Bool.or_eq_true, decide_eq_true_eq, or_assoc]
    apply or_congr_right
    rw [List.exists_mem_cons_iff]
    exact or_congr_left eq_comm

/-! ### Roles -/

def marks (index : Table String Nat) (groups : List LexicalGroup) : List (Nat × Family) :=
  groups.flatMap fun group => group.words.map fun w => (position index w, group.family)

theorem assign_eq (index : Table String Nat) (groups : List LexicalGroup)
    (set : LexicalRole → Family → LexicalRole) (roles : Array LexicalRole) : assign index groups set roles =
      (marks index groups).foldl (fun roles mark => roles.modify mark.1 fun role => set role mark.2) roles := by
  rw [assign, marks, List.foldl_flatMap]
  simp only [List.foldl_map]

section Assign

variable {index : Table String Nat} {groups : List LexicalGroup} {set : LexicalRole → Family → LexicalRole}
  {roles : Array LexicalRole} {a : Nat}

theorem size_assign : (assign index groups set roles).size = roles.size := by
  rw [assign_eq]
  induction marks index groups generalizing roles with
  | nil => rfl
  | cons mark rest ih => rw [List.foldl_cons, ih, Array.size_modify]

theorem assign_keeps (field : LexicalRole → Family) (same : ∀ role f, field (set role f) = field role) :
    field (roleOf (assign index groups set roles) a) = field (roleOf roles a) := by
  rw [assign_eq]
  induction marks index groups generalizing roles with
  | nil => rfl
  | cons mark rest ih =>
    rw [List.foldl_cons, ih, roleOf_modify]
    split
    · exact same _ _
    · rfl

theorem assign_adds (field : LexicalRole → Family) (adds : ∀ role f, field (set role f) = field role ||| f)
    (inside : a < roles.size) {k : Nat} :
    (field (roleOf (assign index groups set roles) a)).getLsbD k = true ↔
      (field (roleOf roles a)).getLsbD k = true ∨
        ∃ mark ∈ marks index groups, mark.1 = a ∧ mark.2.getLsbD k = true := by
  rw [assign_eq]
  induction marks index groups generalizing roles with
  | nil => simp
  | cons mark rest ih =>
    rw [List.foldl_cons, ih (by rwa [Array.size_modify]), roleOf_modify, List.exists_mem_cons_iff, ← or_assoc]
    apply or_congr_left
    by_cases here : mark.1 = a
    · rw [if_pos ⟨here, inside⟩, adds, BitVec.getLsbD_or, Bool.or_eq_true]
      simp [here]
    · rw [if_neg fun both => here both.1]
      simp [here]

end Assign

def Carries (L : Lexicon) (groups : List LexicalGroup) (a k : Nat) : Prop :=
  ∃ mark ∈ marks L.wordIndex groups, mark.1 = a ∧ mark.2.getLsbD k = true

theorem carries_of_mem (wf : L.WellFormed) {group : LexicalGroup} (listed : group ∈ groups) (member : w ∈ group.words)
    (here : L.words[a]? = some w) (family : group.family.getLsbD k = true) : L.Carries groups a k := by
  refine ⟨(a, group.family), ?_, rfl, family⟩
  rw [marks, List.mem_flatMap]
  exact ⟨group, listed, List.mem_map.mpr ⟨w, member, by rw [position_of_word wf here]⟩⟩

section Roles

variable {a : Nat} (inside : a < L.words.length) {k : Nat}
include inside

theorem noun_buildRoles :
    (roleOf (L.buildRoles L.wordIndex) a).noun.getLsbD k = true ↔ L.Carries L.nounGroups a k := by
  rw [buildRoles, assign_keeps LexicalRole.noun fun _ _ => by rfl,
    assign_keeps LexicalRole.noun fun _ _ => by rfl,
    assign_adds LexicalRole.noun (fun _ _ => by rfl) (by simpa using inside)]
  simp [Carries, roleOf, inside, default]

theorem adjective_buildRoles :
    (roleOf (L.buildRoles L.wordIndex) a).adjective.getLsbD k = true ↔ L.Carries L.adjectiveGroups a k := by
  rw [buildRoles, assign_keeps LexicalRole.adjective fun _ _ => by rfl,
    assign_adds LexicalRole.adjective (fun _ _ => by rfl) (by simpa [size_assign] using inside),
    assign_keeps LexicalRole.adjective fun _ _ => by rfl]
  simp [Carries, roleOf, inside, default]

theorem modifier_buildRoles :
    (roleOf (L.buildRoles L.wordIndex) a).modifier.getLsbD k = true ↔ L.Carries L.modifierGroups a k := by
  rw [buildRoles, assign_adds LexicalRole.modifier (fun _ _ => by rfl) (by simpa [size_assign] using inside),
    assign_keeps LexicalRole.modifier fun _ _ => by rfl,
    assign_keeps LexicalRole.modifier fun _ _ => by rfl]
  simp [Carries, roleOf, inside, default]

end Roles

/-! ### Which words may meet -/

theorem shared_family {x y : Family} : (x &&& y != 0) = true ↔ ∃ k, x.getLsbD k = true ∧ y.getLsbD k = true := by
  rw [bne_iff_ne, ne_eq, BitVec.eq_of_getLsbD_eq_iff]
  simp only [BitVec.getLsbD_and]
  constructor
  · intro different
    by_contra apart
    push Not at apart
    apply different
    intro k _
    cases held : x.getLsbD k with
    | false => simp
    | true => simpa using apart k held
  · rintro ⟨k, left, right⟩ same
    have small : k < 16 := BitVec.lt_of_getLsbD left
    have bit := same k small
    simp [left, right] at bit

theorem has_compatible (wf : L.WellFormed) :
    (wordsOf L.buildRules.compatible a).has b = true ↔
      a < L.words.length ∧ b < L.words.length ∧ meet (L.blocked L.wordIndex) a b = true :=
  has_rowsOf wf.fits

theorem has_modifierHeads (wf : L.WellFormed) :
    (wordsOf L.buildRules.modifierHeads a).has b = true ↔
      a < L.words.length ∧ b < L.words.length ∧ meet (L.blocked L.wordIndex) a b = true ∧
        ∃ k, L.Carries L.modifierGroups a k ∧ L.Carries L.nounGroups b k := by
  rw [buildRules, has_rowsOf wf.fits]
  refine and_congr_right fun first => and_congr_right fun second => ?_
  rw [Bool.and_eq_true, shared_family]
  simp only [modifier_buildRoles first, noun_buildRoles second]

theorem has_adjectiveHeads (wf : L.WellFormed) (first : a < L.words.length) (second : b < L.words.length)
    (apart : meet (L.blocked L.wordIndex) a b = true) (adjective : L.Carries L.adjectiveGroups a k)
    (noun : L.Carries L.nounGroups b k) : (wordsOf L.buildRules.adjectiveHeads a).has b = true := by
  rw [buildRules]
  refine List.foldlRecOn (motive := fun rows => (wordsOf rows a).has b = true) _ _ ?_ ?_
  · rw [has_rowsOf wf.fits, Bool.and_eq_true, shared_family]
    exact ⟨first, second, apart, k, (adjective_buildRoles first).mpr adjective, (noun_buildRoles second).mpr noun⟩
  · intro rows held entry _
    rw [wordsOf_modify]
    split
    · exact (has_members wf _ _).mpr (.inl held)
    · exact held

theorem adjective_ne_zero (inside : a < L.words.length) (adjective : L.Carries L.adjectiveGroups a k) :
    L.buildRules.adjective a ≠ 0 := by
  rw [PhraseRules.adjective, buildRules]
  refine List.foldlRecOn (motive := fun roles => (roleOf roles a).adjective ≠ 0) _ _ ?_ ?_
  · intro none
    have bit := (adjective_buildRoles inside).mpr adjective
    rw [none] at bit
    simp at bit
  · intro roles held entry _
    rw [roleOf_modify]
    split
    · exact (by decide : allFamilies ≠ 0)
    · exact held

/-- Two different words that are not listed as confusable or disallowed. -/
def Apart (L : Lexicon) (x y : String) : Prop :=
  x ≠ y ∧ (∀ list ∈ L.confusableGroups, ¬(x ∈ list ∧ y ∈ list)) ∧
    ∀ pair ∈ L.disallowedPairs, pair ≠ (x, y) ∧ pair ≠ (y, x)

instance (x y : String) : Decidable (L.Apart x y) := inferInstanceAs (Decidable (_ ∧ _ ∧ _))

theorem meet_of_apart (wf : L.WellFormed) (here : L.words[a]? = some x) (there : L.words[b]? = some y) (later : a ≠ 0)
    (later' : b ≠ 0) (apart : L.Apart x y) : meet (L.blocked L.wordIndex) a b = true := by
  obtain ⟨different, clear, allowed⟩ := apart
  have named : ∀ {w : String} {i : Nat} {v : String}, L.words[i]? = some v → i ≠ 0 →
      position L.wordIndex w = i → w = v := by
    intro w i v known later found
    exact Option.some_inj.mp ((word_of_position wf found later).symm.trans known)
  have unequal : a ≠ b := by
    rintro rfl
    exact different (Option.some_inj.mp (here.symm.trans there))
  have free : (a, b) ∉ L.blocked L.wordIndex := by
    rw [blocked, List.mem_append, List.mem_flatMap, List.mem_flatMap]
    rintro (⟨list, listed, member⟩ | ⟨pair, listed, member⟩)
    · obtain ⟨u, left, member⟩ := List.mem_flatMap.mp member
      obtain ⟨v, right, same⟩ := List.mem_map.mp member
      cases named here later (Prod.mk.inj same).1
      cases named there later' (Prod.mk.inj same).2
      exact clear list listed ⟨left, right⟩
    · rw [List.mem_pair, Prod.mk.injEq, Prod.mk.injEq] at member
      obtain ⟨left, right⟩ | ⟨left, right⟩ := member
      · exact (allowed pair listed).1 (Prod.ext (named here later left.symm) (named there later' right.symm))
      · exact (allowed pair listed).2 (Prod.ext (named there later' right.symm) (named here later left.symm))
  simp [meet, unequal, free]

/-! ### Admission -/

def taken (L : Lexicon) (a : Nat) (b : Option Nat) : Nat :=
  (L.word a).utf8ByteSize + 1 + (b.map fun b => (L.word b).utf8ByteSize + 1).getD 0

theorem has_heads (wf : L.WellFormed) {b : Option Nat} :
    (L.buildRules.heads L a b).has c = true ↔
      (L.buildRules.patterns a b).has c = true ∧ c < L.words.length ∧
        L.taken a b + (L.word c).utf8ByteSize ≤ maxPhraseBytes := by
  rw [PhraseRules.heads, ← taken]
  split
  next long =>
    rw [Bitset.has_empty]
    constructor
    · simp
    · intro all
      omega
  next short =>
    have mask : wordsOf L.buildRules.lengthMasks (maxPhraseBytes - L.taken a b) =
        L.lengthMask (maxPhraseBytes - L.taken a b) := by
      have inside : maxPhraseBytes - L.taken a b < maxPhraseBytes + 1 := by omega
      simp [wordsOf, buildRules, inside]
    rw [Bitset.has_inter, Bool.and_eq_true, mask, lengthMask, has_setOf wf.fits, decide_eq_true_eq]
    refine and_congr_right fun _ => and_congr_right fun _ => ?_
    omega

theorem heads_small (wf : L.WellFormed) {b : Option Nat} (found : (L.buildRules.heads L a b).has c = true) :
    c < L.words.length :=
  ((has_heads wf).mp found).2.1

theorem admits_pair (wf : L.WellFormed) :
    L.buildPhraseGrammar.admits L L.wordIndex [x, y] = true ↔
      ∃ a c, L.words[a]? = some x ∧ L.words[c]? = some y ∧ (L.buildRules.heads L a none).has c = true := by
  simp only [← lookup_wordIndex wf]
  rw [PhraseGrammar.admits]
  cases first : L.wordIndex.lookup x with
  | none => simp [first]
  | some a =>
    cases last : L.wordIndex.lookup y with
    | none => simp [first, last]
    | some c => simp [first, last, buildPhraseGrammar]

theorem admits_triple (wf : L.WellFormed) {z : String} :
    L.buildPhraseGrammar.admits L L.wordIndex [x, y, z] = true ↔
      ∃ a b c, L.words[a]? = some x ∧ L.words[b]? = some y ∧ L.words[c]? = some z ∧
        (L.buildRules.heads L a (some b)).has c = true := by
  simp only [← lookup_wordIndex wf]
  rw [PhraseGrammar.admits]
  cases first : L.wordIndex.lookup x with
  | none => simp [first]
  | some a =>
    cases second : L.wordIndex.lookup y with
    | none => simp [first, second]
    | some b =>
      cases last : L.wordIndex.lookup z with
      | none => simp [first, second, last]
      | some c => simp [first, second, last, buildPhraseGrammar]

/-! ### Phrases read off the groups -/

def Suits (L : Lexicon) (groups : List LexicalGroup) (x y : String) : Prop :=
  ∃ group ∈ groups, x ∈ group.words ∧
    ∃ nouns ∈ L.nounGroups, y ∈ nouns.words ∧ (group.family &&& nouns.family != 0) = true

instance (groups : List LexicalGroup) (x y : String) : Decidable (L.Suits groups x y) := List.decidableBEx _ _

theorem carries_of_suits (wf : L.WellFormed) (here : L.words[a]? = some x) (there : L.words[b]? = some y)
    (suits : L.Suits groups x y) : ∃ k, L.Carries groups a k ∧ L.Carries L.nounGroups b k := by
  obtain ⟨group, listed, member, nouns, listed', member', shared⟩ := suits
  obtain ⟨k, left, right⟩ := shared_family.mp shared
  exact ⟨k, carries_of_mem wf listed member here left, carries_of_mem wf listed' member' there right⟩

def At (L : Lexicon) (x : String) (a : Nat) : Prop := L.words[a]? = some x ∧ a ≠ 0

instance (x : String) (a : Nat) : Decidable (L.At x a) := inferInstanceAs (Decidable (_ ∧ _))

theorem At.small (here : L.At x a) : a < L.words.length :=
  (List.getElem?_eq_some_iff.mp here.1).1

theorem At.word (here : L.At x a) : L.word a = x := word_of_some here.1

section Words

variable (wf : L.WellFormed) {x y z : String} {a b c : Nat}
include wf

theorem compatible_of_apart (here : L.At x a) (there : L.At y b) (apart : L.Apart x y) :
    (wordsOf L.buildRules.compatible a).has b = true :=
  (has_compatible wf).mpr ⟨here.small, there.small, meet_of_apart wf here.1 there.1 here.2 there.2 apart⟩

theorem adjectiveHeads_of_suits (here : L.At x a) (there : L.At y b) (apart : L.Apart x y)
    (suits : L.Suits L.adjectiveGroups x y) : (wordsOf L.buildRules.adjectiveHeads a).has b = true := by
  obtain ⟨k, adjective, noun⟩ := carries_of_suits wf here.1 there.1 suits
  have meets := meet_of_apart wf here.1 there.1 here.2 there.2 apart
  exact has_adjectiveHeads wf here.small there.small meets adjective noun

theorem modifierHeads_of_suits (here : L.At x a) (there : L.At y b) (apart : L.Apart x y)
    (suits : L.Suits L.modifierGroups x y) : (wordsOf L.buildRules.modifierHeads a).has b = true := by
  have meets := meet_of_apart wf here.1 there.1 here.2 there.2 apart
  exact (has_modifierHeads wf).mpr ⟨here.small, there.small, meets, carries_of_suits wf here.1 there.1 suits⟩

theorem admits_pair_of_suits (here : L.At x a) (there : L.At y c) (apart : L.Apart x y)
    (suits : L.Suits L.adjectiveGroups x y ∨ L.Suits L.modifierGroups x y)
    (short : x.utf8ByteSize + 1 + y.utf8ByteSize ≤ maxPhraseBytes) :
    L.buildPhraseGrammar.admits L L.wordIndex [x, y] = true := by
  refine (admits_pair wf).mpr ⟨a, c, here.1, there.1, (has_heads wf).mpr ⟨?_, there.small, ?_⟩⟩
  · have head :
        ((wordsOf L.buildRules.adjectiveHeads a).has c || (wordsOf L.buildRules.modifierHeads a).has c) = true := by
      rw [Bool.or_eq_true]
      exact suits.imp (adjectiveHeads_of_suits wf here there apart) (modifierHeads_of_suits wf here there apart)
    rw [PhraseRules.patterns, Bitset.has_inter, Bitset.has_union, head, compatible_of_apart wf here there apart]
    rfl
  · simpa [taken, here.word, there.word] using short

theorem admits_triple_of_suits (first : L.At x a) (second : L.At y b) (last : L.At z c)
    (apart : L.Apart x y ∧ L.Apart x z ∧ L.Apart y z) (adjective : L.Suits L.adjectiveGroups x z)
    (modifier : L.Suits L.modifierGroups y z) (begins : x ∈ L.tripleAdjectives) (ends : z ∈ L.tripleHeads)
    (short : x.utf8ByteSize + 1 + (y.utf8ByteSize + 1) + z.utf8ByteSize ≤ maxPhraseBytes) :
    L.buildPhraseGrammar.admits L L.wordIndex [x, y, z] = true := by
  refine (admits_triple wf).mpr
    ⟨a, b, c, first.1, second.1, last.1, (has_heads wf).mpr ⟨?_, last.small, ?_⟩⟩
  · obtain ⟨k, carried, _⟩ := carries_of_suits wf first.1 last.1 adjective
    have starts : L.buildRules.tripleAdjectives.has a = true :=
      (has_members wf _ _).mpr (.inr ⟨x, begins, position_of_word wf first.1⟩)
    have stops : L.buildRules.tripleHeads.has c = true :=
      (has_members wf _ _).mpr (.inr ⟨z, ends, position_of_word wf last.1⟩)
    have open_row : ¬(L.buildRules.adjective a = 0 ∨ (wordsOf L.buildRules.compatible a).has b = false) := by
      rw [compatible_of_apart wf first second apart.1]
      simpa using adjective_ne_zero first.small carried
    have modified :
        ((wordsOf L.buildRules.adjectiveHeads a).inter (wordsOf L.buildRules.modifierHeads b)).has c = true := by
      rw [Bitset.has_inter, adjectiveHeads_of_suits wf first last apart.2.1 adjective,
        modifierHeads_of_suits wf second last apart.2.2 modifier]
      rfl
    rw [PhraseRules.patterns, if_neg open_row]
    simp only [Bitset.has_inter, compatible_of_apart wf first last apart.2.1,
      compatible_of_apart wf second last apart.2.2, stops, starts, if_true, Bool.and_true]
    split
    · rw [Bitset.has_union, modified, Bool.true_or]
    · exact modified
  · simpa [taken, first.word, second.word, last.word] using short

end Words

end Lexicon

end Relay.Names
