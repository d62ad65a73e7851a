import Relay.Names.Ranks

/-! The names of the package. For every number of words the ranks below the capacity are in
one-to-one correspondence with the texts that are read back under the recorded grammar. -/
namespace Relay.Names

/-! ### Palettes -/

namespace Lexicon

variable {L : Lexicon} {count : Nat}

theorem plain_of_admits (wf : L.WellFormed) {width : Nat} (short : width = 2 ∨ width = 3) {group : List String}
    (size : group.length = width) (admitted : L.buildPhraseGrammar.admits L L.wordIndex group = true) : Plain group := by
  obtain ⟨entry, phrase, rfl⟩ := (admits_iff wf short size).mp admitted
  exact parts_plain wf short phrase

theorem fair_collect (wf : L.WellFormed) {width : Nat} (short : width = 2 ∨ width = 3) {candidates : List (List String)}
    (distinct : candidates.Nodup) (sized : ∀ group ∈ candidates, group.length = width)
    (some_group : ∃ group ∈ candidates, L.buildPhraseGrammar.admits L L.wordIndex group = true) :
    Fair (width, Roster.collect (L.buildPhraseGrammar.admits L L.wordIndex) (Text.join '-') candidates) := by
  have plain : ∀ group ∈ candidates.filter (L.buildPhraseGrammar.admits L L.wordIndex),
      group.length = width ∧ Plain group := by
    intro group member
    obtain ⟨listed, admitted⟩ := List.mem_filter.mp member
    exact ⟨sized group listed, plain_of_admits wf short (sized group listed) admitted⟩
  constructor
  case wide => omega
  case some_item =>
    obtain ⟨group, listed, admitted⟩ := some_group
    rw [Roster.items_collect]
    exact List.ne_nil_of_mem (List.mem_map_of_mem (List.mem_filter.mpr ⟨listed, admitted⟩))
  case distinct =>
    rw [Roster.items_collect]
    apply List.Nodup.map_on _ (distinct.filter _)
    intro group member group' member' same
    obtain ⟨size, words⟩ := plain group member
    obtain ⟨size', words'⟩ := plain group' member'
    exact words.join_injective words' (size.trans size'.symm) same
  case spelled =>
    intro text member
    rw [Roster.items_collect] at member
    obtain ⟨group, listed, rfl⟩ := List.mem_map.mp member
    exact ⟨group, rfl, plain group listed⟩
  case ranked => exact fun text => Roster.isSome_lookup_collect candidates

end Lexicon

namespace PhrasePalette

variable {palette : PhrasePalette} (modifiers : palette.modifiers.Nodup) (subjects : palette.subjects.Nodup)

theorem length_pairs {group : List String} (listed : group ∈ palette.pairs) : group.length = 2 := by
  simp only [pairs, List.mem_flatMap, List.mem_map] at listed
  obtain ⟨a, _, b, _, rfl⟩ := listed
  rfl

theorem length_triples {group : List String} (listed : group ∈ palette.triples) : group.length = 3 := by
  simp only [triples, List.mem_flatMap, List.mem_map] at listed
  obtain ⟨a, _, b, _, c, _, rfl⟩ := listed
  rfl

theorem nodup_headed {heads : List String} {tails : List (List String)} (distinct : heads.Nodup)
    (each : tails.Nodup) : (heads.flatMap fun a => tails.map (a :: ·)).Nodup := by
  rw [List.nodup_flatMap]
  constructor
  · intro a _
    exact each.map fun _ _ same => (List.cons.inj same).2
  · refine distinct.imp ?_
    intro a a' apart group member member'
    obtain ⟨_, _, rfl⟩ := List.mem_map.mp member
    obtain ⟨_, _, same⟩ := List.mem_map.mp member'
    exact apart (List.cons.inj same).1.symm

include modifiers subjects

theorem nodup_pairs : palette.pairs.Nodup := by
  have headed : palette.pairs =
      palette.modifiers.flatMap fun a => (palette.subjects.map fun b => [b]).map (a :: ·) := by
    simp [pairs, Function.comp_def]
  rw [headed]
  exact nodup_headed modifiers (subjects.map fun _ _ same => (List.cons.inj same).1)

theorem nodup_triples : palette.triples.Nodup := by
  have headed : palette.triples = palette.modifiers.flatMap fun a => palette.pairs.map (a :: ·) := by
    simp [triples, pairs, List.map_flatMap, Function.comp_def]
  rw [headed]
  exact nodup_headed modifiers (nodup_pairs modifiers subjects)

end PhrasePalette

namespace Lexicon

variable {L : Lexicon} {count : Nat}

structure Supplied (L : Lexicon) : Prop where
  pair : ∀ palette ∈ L.composedPalettes,
    ∃ group ∈ palette.pairs, L.buildPhraseGrammar.admits L L.wordIndex group = true
  triple : ∀ palette, L.composedPalettes[0]? = some palette →
    ∃ group ∈ palette.triples, L.buildPhraseGrammar.admits L L.wordIndex group = true

theorem slot_of_palette {i : Nat} {slot : Nat × Roster String} (found : (L.slots count)[i]? = some slot) :
    ∃ palette, L.composedPalettes[i]? = some palette ∧
      ((i = 0 ∧ slot = (3, Roster.collect (L.buildPhraseGrammar.admits L L.wordIndex) (Text.join '-') palette.triples)) ∨
        slot = (2, Roster.collect (L.buildPhraseGrammar.admits L L.wordIndex) (Text.join '-') palette.pairs)) := by
  rw [slots, List.getElem?_mapIdx, Option.map_eq_some_iff] at found
  obtain ⟨group, here, rfl⟩ := found
  rw [List.getElem?_take] at here
  split at here
  case isFalse => cases here
  simp only [tables, buildComposedGroups, List.getElem?_mapIdx, Option.map_eq_some_iff] at here
  obtain ⟨palette, listed, rfl⟩ := here
  refine ⟨palette, listed, ?_⟩
  by_cases odd : i = 0 ∧ count % 2 = 1
  · left
    obtain ⟨rfl, odd⟩ := odd
    simp only [Tables.width, Tables.pool, odd, and_self, if_true]
  · right
    simp only [Tables.width, Tables.pool, odd, if_false]

theorem fair_slots (wf : L.WellFormed) (supplied : L.Supplied) : ∀ slot ∈ L.slots count, Fair slot := by
  intro slot member
  obtain ⟨i, found⟩ := List.getElem?_of_mem member
  obtain ⟨palette, listed, ⟨rfl, rfl⟩ | rfl⟩ := slot_of_palette found
  · obtain ⟨modifiers, subjects⟩ := wf.palettes palette (List.mem_of_getElem? listed)
    exact fair_collect wf (.inr rfl) (PhrasePalette.nodup_triples modifiers subjects)
      (fun _ => PhrasePalette.length_triples) (supplied.triple palette listed)
  · obtain ⟨modifiers, subjects⟩ := wf.palettes palette (List.mem_of_getElem? listed)
    exact fair_collect wf (.inl rfl) (PhrasePalette.nodup_pairs modifiers subjects)
      (fun _ => PhrasePalette.length_pairs) (supplied.pair palette (List.mem_of_getElem? listed))

theorem entries_ne_nil (wf : L.WellFormed) (short : count = 2 ∨ count = 3) {group : List String}
    (size : group.length = count) (admitted : L.buildPhraseGrammar.admits L L.wordIndex group = true) :
    L.entries count ≠ [] := by
  obtain ⟨entry, listed, _⟩ := (admits_iff wf short size).mp admitted
  exact List.ne_nil_of_mem listed

def recorded (count : Nat) : String := if count ≤ 3 then grammarName else composedGrammarName

theorem ranks (wf : L.WellFormed) (supplied : L.Supplied) (many : minWordCount ≤ count) (few : count ≤ maxWordCount) :
    Ranks L.tables (recorded count) count := by
  obtain ⟨palette, first⟩ : ∃ palette, L.composedPalettes[0]? = some palette := by
    have some_palette : 0 < L.composedPalettes.length := Nat.lt_of_lt_of_le (by decide) wf.enough
    exact ⟨_, List.getElem?_eq_getElem some_palette⟩
  have groups : L.tables.composedGroups.length = L.composedPalettes.length := by simp [tables, buildComposedGroups]
  simp only [minWordCount] at many
  by_cases short : count ≤ 3
  · rw [recorded, if_pos short]
    obtain rfl | rfl : count = 2 ∨ count = 3 := by omega
    · obtain ⟨group, listed, admitted⟩ := supplied.pair palette (List.mem_of_getElem? first)
      exact ranks_short wf (.inl rfl) (entries_ne_nil wf (.inl rfl) (PhrasePalette.length_pairs listed) admitted)
    · obtain ⟨group, listed, admitted⟩ := supplied.triple palette first
      exact ranks_short wf (.inr rfl) (entries_ne_nil wf (.inr rfl) (PhrasePalette.length_triples listed) admitted)
  · rw [recorded, if_neg short]
    have enough := wf.enough
    have width : ((L.slots count).map Prod.fst).sum = count := width_slots (by omega) (by omega)
    exact ranks_composed (fair_slots wf supplied) width (by omega) few

end Lexicon

/-! ### The words of the package -/

theorem lexicon_wellFormed : lexicon.WellFormed where
  distinct := words_nodup
  plain := words_plain
  fits := by decide +kernel
  palettes := palettes_nodup
  enough := by decide +kernel

def samples : List (String × Nat × String × Nat) := [
  ("quiet", 197, "arch", 7), ("clear", 44, "alley", 289), ("fresh", 87, "anchor", 295),
  ("elegant", 502, "accent", 286), ("copper", 433, "badger", 311), ("steel", 244, "harp", 591),
  ("honey", 113, "scarf", 836)]

theorem samples_admitted :
    ∀ s ∈ samples, lexicon.buildPhraseGrammar.admits lexicon lexicon.wordIndex [s.1, s.2.2.1] = true := by
  have checked : ∀ s ∈ samples, lexicon.At s.1 s.2.1 ∧ lexicon.At s.2.2.1 s.2.2.2 ∧ lexicon.Apart s.1 s.2.2.1 ∧
      (lexicon.Suits lexicon.adjectiveGroups s.1 s.2.2.1 ∨ lexicon.Suits lexicon.modifierGroups s.1 s.2.2.1) ∧
      s.1.utf8ByteSize + 1 + s.2.2.1.utf8ByteSize ≤ maxPhraseBytes := by decide +kernel
  intro s member
  obtain ⟨first, last, apart, suits, short⟩ := checked s member
  exact Lexicon.admits_pair_of_suits lexicon_wellFormed first last apart suits short

theorem lexicon_supplied : lexicon.Supplied where
  pair := by
    have covered : ∀ palette ∈ composedPalettes,
        ∃ s ∈ samples, s.1 ∈ palette.modifiers ∧ s.2.2.1 ∈ palette.subjects := by decide +kernel
    intro palette listed
    obtain ⟨s, member, modifier, subject⟩ := covered palette listed
    refine ⟨[s.1, s.2.2.1], ?_, samples_admitted s member⟩
    exact List.mem_flatMap.mpr ⟨s.1, modifier, List.mem_map.mpr ⟨s.2.2.1, subject, rfl⟩⟩
  triple := by
    have checked : lexicon.At "quiet" 197 ∧ lexicon.At "amber" 4 ∧ lexicon.At "arch" 7 ∧
        (lexicon.Apart "quiet" "amber" ∧ lexicon.Apart "quiet" "arch" ∧ lexicon.Apart "amber" "arch") ∧
        lexicon.Suits lexicon.adjectiveGroups "quiet" "arch" ∧ lexicon.Suits lexicon.modifierGroups "amber" "arch" ∧
        "quiet" ∈ lexicon.tripleAdjectives ∧ "arch" ∈ lexicon.tripleHeads := by decide +kernel
    have covered : ∀ palette, composedPalettes[0]? = some palette →
        "quiet" ∈ palette.modifiers ∧ "amber" ∈ palette.modifiers ∧ "arch" ∈ palette.subjects := by
      rintro _ ⟨⟩
      decide +kernel
    intro palette listed
    obtain ⟨first, second, last⟩ := covered palette listed
    obtain ⟨here, between, there, apart, adjective, modifier, begins, ends⟩ := checked
    refine ⟨["quiet", "amber", "arch"], ?_, ?_⟩
    · exact List.mem_flatMap.mpr ⟨_, first, List.mem_flatMap.mpr ⟨_, second, List.mem_map.mpr ⟨_, last, rfl⟩⟩⟩
    · exact Lexicon.admits_triple_of_suits lexicon_wellFormed here between there apart adjective modifier begins ends
        (by decide +kernel)

def tables : Tables := lexicon.tables

/-- The ranks below the capacity correspond one to one to the texts that are read back under the
recorded grammar, and every other number is out of range. -/
theorem names_ranked (count : Nat) (many : minWordCount ≤ count) (few : count ≤ maxWordCount) :
    (∀ rank : Int, 0 ≤ rank → rank < tables.capacityBig count → ∃ name,
      tables.atBig (some rank) count = .ok name ∧ name.grammarName = Lexicon.recorded count ∧ name.wordCount = count ∧
        name.text.utf8ByteSize ≤ maxNameBytes ∧ normalize name.text = .ok name.text ∧
        tables.parseStored name.grammarName name.text = .ok name) ∧
    (∀ (rank rank' : Int) (name name' : Name), tables.atBig (some rank) count = .ok name →
      tables.atBig (some rank') count = .ok name' → name.text = name'.text → rank = rank') ∧
    (∀ (text : String) (name : Name), tables.parseStored (Lexicon.recorded count) text = .ok name →
      name.wordCount = count → normalize text = .ok name.text ∧
        ∃ rank : Int, 0 ≤ rank ∧ rank < tables.capacityBig count ∧ tables.atBig (some rank) count = .ok name) ∧
    ∀ rank : Int, ¬(0 ≤ rank ∧ rank < tables.capacityBig count) →
      tables.atBig (some rank) count = .error (.failed .index) := by
  have ranks : Ranks tables (Lexicon.recorded count) count :=
    Lexicon.ranks lexicon_wellFormed lexicon_supplied many few
  refine ⟨?_, ?_, ?_, ?_⟩
  · exact fun rank low high => ranks.round_trip many few low high
  · exact fun rank rank' name name' found found' same => ranks.injective found found' same
  · exact fun text name read size => ranks.surjective read size
  · exact fun rank other => ranks.outside other

theorem names_ranked_longest : minWordCount ≤ 15 ∧ 15 ≤ maxWordCount ∧ ∃ name,
    tables.atBig (some 0) (15 : Nat) = .ok name ∧ tables.parseStored name.grammarName name.text = .ok name := by
  have ranks : Ranks tables _ 15 := Lexicon.ranks lexicon_wellFormed lexicon_supplied (by decide) (by decide)
  obtain ⟨name, named, _, _, _, _, read⟩ :=
    (names_ranked 15 (by decide) (by decide)).1 0 (by decide) (by exact_mod_cast ranks.some_rank)
  exact ⟨by decide, by decide, name, named, read⟩

end Relay.Names
