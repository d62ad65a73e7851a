import Relay.Names.Enumeration

/-! Ranks and words. A name is found from its rank and recognized from its words; both go through
the same lists, of phrases for short names and of groups for longer ones. -/
namespace Relay.Names

/-- What a grammar must do for the names of one length. The words are what both sides share: a
rank leads to words, and words that are recognized have a rank. -/
structure Ranks (T : Tables) (grammar : String) (count : Nat) : Prop where
  some_rank : 0 < T.capacityBig count
  named : ∀ rank < T.capacityBig count, ∃ parts, Plain parts ∧ parts.length = count ∧
    T.recognizes grammar parts = .ok true ∧ T.atBig (some rank) count = .ok ⟨Text.join '-' parts, grammar, count⟩
  distinct : ∀ rank < T.capacityBig count, ∀ rank' < T.capacityBig count,
    T.atBig (some rank) count = T.atBig (some rank') count → rank = rank'
  reached : ∀ parts, parts.length = count → T.recognizes grammar parts = .ok true →
    ∃ rank < T.capacityBig count, T.atBig (some rank) count = .ok ⟨Text.join '-' parts, grammar, count⟩

section Lookup

variable {T : Tables} {count : Nat}

theorem atBig_outside (some_rank : T.capacityBig count ≠ 0) {rank : Int}
    (outside : ¬(0 ≤ rank ∧ rank < T.capacityBig count)) : T.atBig (some rank) count = .error (.failed .index) := by
  rw [Tables.atBig, Slice.refuseIf_bind, if_neg some_rank, Slice.refuseIf_bind, if_pos (by omega)]

theorem atBig_inside {rank : Nat} (inside : rank < T.capacityBig count) :
    T.atBig (some rank) count =
      if count ≤ 3 then T.phrases.phraseAt T.lexicon rank count else T.composedAt rank count := by
  rw [Tables.atBig, Slice.refuseIf_bind, if_neg (by omega), Slice.refuseIf_bind, if_neg (by omega)]
  have same : ((count : Int) ≤ 3) = (count ≤ 3) := by simp
  simp only [same, Int.toNat_natCast]

end Lookup

namespace Ranks

variable {T : Tables} {grammar : String} {count : Nat} (ranks : Ranks T grammar count)
include ranks

theorem outside {rank : Int} (other : ¬(0 ≤ rank ∧ rank < T.capacityBig count)) :
    T.atBig (some rank) count = .error (.failed .index) :=
  atBig_outside (Nat.pos_iff_ne_zero.mp ranks.some_rank) other

theorem inside {rank : Int} {name : Name} (found : T.atBig (some rank) count = .ok name) :
    ∃ r < T.capacityBig count, rank = (r : Int) ∧ name.grammarName = grammar ∧ name.wordCount = count := by
  have range : 0 ≤ rank ∧ rank < T.capacityBig count := by
    by_contra other
    rw [ranks.outside other] at found
    cases found
  obtain ⟨r, rfl⟩ := Int.eq_ofNat_of_zero_le range.1
  have small : r < T.capacityBig count := by omega
  obtain ⟨parts, _, _, _, named⟩ := ranks.named r small
  cases found.symm.trans named
  exact ⟨r, small, rfl, rfl, rfl⟩

theorem injective {rank rank' : Int} {name name' : Name} (found : T.atBig (some rank) count = .ok name)
    (found' : T.atBig (some rank') count = .ok name') (same : name.text = name'.text) : rank = rank' := by
  obtain ⟨r, small, rfl, grammar, words⟩ := ranks.inside found
  obtain ⟨r', small', rfl, grammar', words'⟩ := ranks.inside found'
  have equal : name = name' := by
    cases name
    cases name'
    simp_all
  subst equal
  exact congrArg _ (ranks.distinct r small r' small' (found.trans found'.symm))

theorem round_trip (many : minWordCount ≤ count) (few : count ≤ maxWordCount) {rank : Int} (low : 0 ≤ rank)
    (high : rank < T.capacityBig count) : ∃ name, T.atBig (some rank) count = .ok name ∧
      name.grammarName = grammar ∧ name.wordCount = count ∧ name.text.utf8ByteSize ≤ maxNameBytes ∧
      normalize name.text = .ok name.text ∧ T.parseStored name.grammarName name.text = .ok name := by
  obtain ⟨r, rfl⟩ := Int.eq_ofNat_of_zero_le low
  obtain ⟨parts, plain, size, recognized, named⟩ := ranks.named r (by omega)
  have some_part : parts ≠ [] := by
    rintro rfl
    simp only [minWordCount, List.length_nil] at many size
    omega
  have normal := plain.normalize (size ▸ many) (size ▸ few)
  have split := plain.split some_part
  refine ⟨_, named, rfl, rfl, plain.size some_part (size ▸ few), normal, ?_⟩
  exact Tables.parseStored_ok.mpr ⟨_, normal, by rw [split, recognized], by rw [split, size]⟩

theorem surjective {text : String} {name : Name} (read : T.parseStored grammar text = .ok name)
    (size : name.wordCount = count) : normalize text = .ok name.text ∧
      ∃ rank : Int, 0 ≤ rank ∧ rank < T.capacityBig count ∧ T.atBig (some rank) count = .ok name := by
  obtain ⟨value, normal, recognized, rfl⟩ := Tables.parseStored_ok.mp read
  obtain ⟨r, small, named⟩ := ranks.reached _ size recognized
  rw [Text.join_split] at named
  refine ⟨normal, r, by omega, by omega, ?_⟩
  rw [named, ← size]

end Ranks

/-! ### Two and three words -/

namespace Lexicon

variable {L : Lexicon} {count : Nat}

theorem ranks_short (wf : L.WellFormed) (short : count = 2 ∨ count = 3) (some_phrase : L.entries count ≠ []) :
    Ranks L.tables grammarName count := by
  have capacity : L.tables.capacityBig count = (L.entries count).length := by
    rw [Tables.capacityBig, if_neg, if_pos (by omega), ← phraseCapacity_eq short]
    · rfl
    · simp only [minWordCount, maxWordCount]
      omega
  have known : ∀ {parts : List String}, parts.length = count →
      L.tables.recognizes grammarName parts = .ok (L.buildPhraseGrammar.admits L L.wordIndex parts) := by
    intro parts size
    have short' : (parts.length == 2 || parts.length == 3) = true := by simpa [size] using short
    rw [Tables.recognizes, if_pos rfl, short', Bool.true_and]
    rfl
  have found : ∀ {rank : Nat} {entry : Nat × Nat × Nat}, (L.entries count)[rank]? = some entry →
      L.tables.atBig (some rank) count = .ok ⟨Text.join '-' (L.parts count entry), grammarName, count⟩ := by
    intro rank entry here
    have inside : rank < L.tables.capacityBig count := by
      rw [capacity]
      exact (List.getElem?_eq_some_iff.mp here).1
    rw [atBig_inside inside, if_pos (by omega)]
    exact phraseAt_eq wf short here
  constructor
  case some_rank =>
    rw [capacity]
    exact List.length_pos_iff.mpr some_phrase
  case named =>
    intro rank inside
    rw [capacity] at inside
    have here := List.getElem?_eq_getElem inside
    have listed := List.getElem_mem inside
    refine ⟨_, parts_plain wf short listed, length_parts short _, ?_, found here⟩
    rw [known (length_parts short _)]
    exact congrArg _ ((admits_iff wf short (length_parts short _)).mpr ⟨_, listed, rfl⟩)
  case distinct =>
    intro rank inside rank' inside' same
    rw [capacity] at inside inside'
    rw [found (List.getElem?_eq_getElem inside), found (List.getElem?_eq_getElem inside')] at same
    have texts := (Name.mk.inj (Except.ok.inj same)).1
    have words := Plain.join_injective (parts_plain wf short (List.getElem_mem inside))
      (parts_plain wf short (List.getElem_mem inside')) (by rw [length_parts short, length_parts short]) texts
    have entry := parts_injective wf short (List.getElem_mem inside) (List.getElem_mem inside') words
    exact (List.Nodup.getElem_inj_iff (nodup_entries count)).mp entry
  case reached =>
    intro parts size recognized
    rw [known size, Except.ok.injEq, admits_iff wf short size] at recognized
    obtain ⟨entry, listed, rfl⟩ := recognized
    obtain ⟨rank, inside, here⟩ := List.getElem_of_mem listed
    refine ⟨rank, by rw [capacity]; exact inside, found ?_⟩
    rw [List.getElem?_eq_getElem inside, here]

end Lexicon

/-! ### Longer names -/

structure Fair (slot : Nat × Roster String) : Prop where
  wide : 0 < slot.1
  some_item : slot.2.items ≠ []
  distinct : slot.2.items.Nodup
  spelled : ∀ text ∈ slot.2.items, ∃ group, text = Text.join '-' group ∧ group.length = slot.1 ∧ Plain group
  ranked : ∀ text, (slot.2.ranks.lookup text).isSome = true ↔ text ∈ slot.2.items

def Fills (groups : List (List String)) (slots : List (Nat × Roster String)) : Prop :=
  List.Forall₂ (fun group slot => group.length = slot.1 ∧ Text.join '-' group ∈ slot.2.items) groups slots

section Slots

variable {slots : List (Nat × Roster String)} {groups : List (List String)} {parts : List String}

theorem parseGroups_iff (fair : ∀ slot ∈ slots, Fair slot) {offset : Nat}
    (fits : offset + (slots.map Prod.fst).sum = parts.length) :
    Tables.parseGroups parts slots offset = .ok true ↔
      ∃ groups, parts.drop offset = groups.flatten ∧ Fills groups slots := by
  induction slots generalizing offset with
  | nil =>
    have all : offset = parts.length := by simpa using fits
    rw [Tables.parseGroups, all]
    simp only [beq_self_eq_true, true_iff]
    exact ⟨[], by simp, .nil⟩
  | cons slot slots ih =>
    obtain ⟨width, pool⟩ := slot
    have here := fair (width, pool) List.mem_cons_self
    have later := ih (fun slot member => fair slot (List.mem_cons_of_mem _ member)) (by
      simp only [List.map_cons, List.sum_cons] at fits
      omega : offset + width + (slots.map Prod.fst).sum = parts.length)
    obtain ⟨group, size, cut⟩ :
        ∃ group, group.length = width ∧ parts.drop offset = group ++ parts.drop (offset + width) := by
      apply Slice.drop_eq_append
      simp only [List.map_cons, List.sum_cons] at fits
      omega
    have inside : offset ≤ parts.length := by omega
    rw [Tables.parseGroups, Slice.range_bind cut inside (by rw [size])]
    constructor
    · intro read
      split at read
      · cases read
      next found =>
        obtain ⟨groups, rest, fills⟩ := later.mp read
        refine ⟨group :: groups, by rw [cut, rest, List.flatten_cons], .cons ⟨size, ?_⟩ fills⟩
        exact (here.ranked _).mp (by simpa [Option.isSome_iff_ne_none] using found)
    · rintro ⟨_, whole, fills⟩
      cases fills with
      | @cons group' _ groups _ first fills =>
        rw [cut, List.flatten_cons] at whole
        obtain ⟨rfl, rest⟩ := List.append_inj whole (by rw [size, first.1])
        have found := (here.ranked _).mpr first.2
        rw [if_neg (by simpa [Option.isSome_iff_ne_none] using found)]
        exact later.mpr ⟨groups, rest, fills⟩

theorem Fills.lengths (fills : Fills groups slots) : groups.map List.length = slots.map Prod.fst := by
  induction fills with
  | nil => rfl
  | cons first _ ih => rw [List.map_cons, List.map_cons, first.1, ih]

theorem groups_of_texts (fair : ∀ slot ∈ slots, Fair slot) {texts : List String}
    (members : List.Forall₂ (· ∈ ·) texts (slots.map (·.2.items))) :
    ∃ groups, texts = groups.map (Text.join '-') ∧ Fills groups slots ∧ Plain groups.flatten := by
  induction slots generalizing texts with
  | nil =>
    cases members
    exact ⟨[], rfl, .nil, fun w member => absurd member (by simp)⟩
  | cons slot slots ih =>
    cases members with
    | @cons text _ texts _ here members =>
      obtain ⟨group, rfl, size, plain⟩ := (fair slot List.mem_cons_self).spelled text here
      obtain ⟨groups, rfl, fills, later⟩ := ih (fun slot member => fair slot (List.mem_cons_of_mem _ member)) members
      refine ⟨group :: groups, rfl, .cons ⟨size, here⟩ fills, ?_⟩
      intro w member
      obtain first | rest := List.mem_append.mp (List.flatten_cons ▸ member)
      · exact plain w first
      · exact later w rest

theorem Fills.texts (fills : Fills groups slots) :
    List.Forall₂ (· ∈ ·) (groups.map (Text.join '-')) (slots.map (·.2.items)) := by
  induction fills with
  | nil => exact .nil
  | cons first _ ih => exact .cons first.2 ih

theorem Fills.join (fair : ∀ slot ∈ slots, Fair slot) (fills : Fills groups slots) :
    Text.join '-' (groups.map (Text.join '-')) = Text.join '-' groups.flatten := by
  apply Text.join_flatten
  induction fills with
  | nil => simp
  | @cons group slot groups slots first _ ih =>
    intro g member
    obtain rfl | later := List.mem_cons.mp member
    · have wide := (fair slot List.mem_cons_self).wide
      rw [← first.1] at wide
      exact List.length_pos_iff.mp wide
    · exact ih (fun slot member => fair slot (List.mem_cons_of_mem _ member)) g later

end Slots

namespace Lexicon

variable {L : Lexicon} {count : Nat}

def slots (L : Lexicon) (count : Nat) : List (Nat × Roster String) :=
  (L.tables.composedGroups.take (count / 2)).mapIdx fun i group => (Tables.width count i, Tables.pool count i group)

theorem items_pools : (L.tables.pools count).map (·.items) = (L.slots count).map (·.2.items) := by
  apply List.ext_getElem?
  intro i
  simp [Tables.pools, slots, Function.comp_def]

theorem capacity_composed (long : 4 ≤ count) (few : count ≤ maxWordCount) :
    L.tables.capacityBig count = ways ((L.slots count).map (·.2.items)) := by
  have range : ¬((count : Int) < minWordCount ∨ (maxWordCount : Int) < count) := by
    simp only [minWordCount, maxWordCount] at few ⊢
    omega
  rw [Tables.capacityBig, if_neg range, if_neg (by omega), Int.toNat_natCast, ways, List.prod_eq_foldl,
    ← items_pools, List.map_map, List.foldl_map]
  rfl

theorem width_slots (enough : count / 2 ≤ L.tables.composedGroups.length) (long : 2 ≤ count) :
    ((L.slots count).map Prod.fst).sum = count := by
  have size : (L.tables.composedGroups.take (count / 2)).length = count / 2 := by
    rw [List.length_take]
    omega
  have widths : (L.slots count).map Prod.fst =
      (L.tables.composedGroups.take (count / 2)).mapIdx fun i _ => Tables.width count i := by
    apply List.ext_getElem?
    intro i
    simp [slots, Function.comp_def]
  rw [widths]
  cases groups : L.tables.composedGroups.take (count / 2) with
  | nil =>
    rw [groups, List.length_nil] at size
    omega
  | cons group rest =>
    have pairs : rest.mapIdx (fun i _ => Tables.width count (i + 1)) = List.replicate rest.length 2 := by
      apply List.ext_getElem <;> simp [Tables.width]
    rw [groups, List.length_cons] at size
    simp only [List.mapIdx_cons, List.sum_cons, pairs, List.sum_replicate_nat]
    rw [Tables.width]
    split <;> omega

theorem recognizes_composed (fair : ∀ slot ∈ L.slots count, Fair slot)
    (width : ((L.slots count).map Prod.fst).sum = count) (long : 4 ≤ count) (few : count ≤ maxWordCount)
    {parts : List String} (size : parts.length = count) :
    L.tables.recognizes composedGrammarName parts = .ok true ↔
      ∃ groups, parts = groups.flatten ∧ Fills groups (L.slots count) := by
  have composed : L.tables.recognizes composedGrammarName parts = Tables.parseGroups parts (L.slots count) 0 := by
    rw [Tables.recognizes, if_neg (by decide), if_pos rfl, Tables.parseComposed, if_neg (by omega), size]
    rfl
  rw [composed, parseGroups_iff fair (by omega), List.drop_zero]

theorem ranks_composed (fair : ∀ slot ∈ L.slots count, Fair slot)
    (width : ((L.slots count).map Prod.fst).sum = count) (long : 4 ≤ count) (few : count ≤ maxWordCount) :
    Ranks L.tables composedGrammarName count := by
  have capacity := capacity_composed (L := L) long few
  have nonempty : ∀ pool ∈ (L.slots count).map (·.2.items), pool ≠ [] := by
    intro pool member
    obtain ⟨slot, listed, rfl⟩ := List.mem_map.mp member
    exact (fair slot listed).some_item
  have unequal : ∀ pool ∈ (L.slots count).map (·.2.items), pool.Nodup := by
    intro pool member
    obtain ⟨slot, listed, rfl⟩ := List.mem_map.mp member
    exact (fair slot listed).distinct
  have drawn : ∀ {rank : Nat} {texts : List String}, rank < L.tables.capacityBig count →
      (draw ((L.slots count).map (·.2.items)) rank : Except (Fault NameError) _) = .ok (0, texts) →
      L.tables.atBig (some rank) count = .ok ⟨Text.join '-' texts, composedGrammarName, count⟩ := by
    intro rank texts inside digits
    rw [atBig_inside inside, if_neg (by omega), Tables.composedAt, items_pools, digits]
    rfl
  -- every rank below the capacity has all its digits used up
  have groups_of_rank : ∀ {rank : Nat}, rank < L.tables.capacityBig count → ∃ groups,
      (draw ((L.slots count).map (·.2.items)) rank : Except (Fault NameError) _) =
        .ok (0, groups.map (Text.join '-')) ∧
      Fills groups (L.slots count) ∧ Plain groups.flatten ∧ groups.flatten.length = count := by
    intro rank inside
    obtain ⟨texts, digits, members⟩ := draw_mem nonempty rank
    rw [capacity] at inside
    rw [Nat.div_eq_of_lt inside] at digits
    obtain ⟨groups, rfl, fills, plain⟩ := groups_of_texts fair members
    exact ⟨groups, digits, fills, plain, by rw [List.length_flatten, fills.lengths, width]⟩
  constructor
  case some_rank =>
    rw [capacity]
    exact ways_pos nonempty
  case named =>
    intro rank inside
    obtain ⟨groups, digits, fills, plain, size⟩ := groups_of_rank inside
    refine ⟨groups.flatten, plain, size, ?_, ?_⟩
    · exact (recognizes_composed fair width long few size).mpr ⟨groups, rfl, fills⟩
    · rw [drawn inside digits, fills.join fair]
  case distinct =>
    intro rank inside rank' inside' same
    obtain ⟨groups, digits, fills, plain, size⟩ := groups_of_rank inside
    obtain ⟨groups', digits', fills', plain', size'⟩ := groups_of_rank inside'
    rw [drawn inside digits, drawn inside' digits', fills.join fair, fills'.join fair] at same
    have texts := (Name.mk.inj (Except.ok.inj same)).1
    have words := plain.join_injective plain' (size.trans size'.symm) texts
    have equal : groups = groups' := List.eq_iff_flatten_eq.mpr ⟨words, fills.lengths.trans fills'.lengths.symm⟩
    subst equal
    exact draw_injective unequal digits digits'
  case reached =>
    intro parts size recognized
    obtain ⟨groups, rfl, fills⟩ := (recognizes_composed fair width long few size).mp recognized
    obtain ⟨rank, small, digits⟩ := draw_surjective fills.texts
    rw [← capacity] at small
    refine ⟨rank, small, ?_⟩
    rw [drawn small (by simpa using digits 0), fills.join fair]

end Lexicon

end Relay.Names
