import Relay.Names.Admission
import Relay.Names.Stored

/-! The short phrases in the order of their ranks. The blocks of a length, laid end to end, list
every phrase of that length once, and a rank leads to the phrase at its place. -/
namespace Relay.Names

def PhraseBlock.entries (block : PhraseBlock) : List (Nat × Nat × Nat) :=
  block.heads.members.map fun head => (block.first, block.second, head)

def entryPools (blocks : Array PhraseBlock) : List (List (Nat × Nat × Nat)) := blocks.toList.map PhraseBlock.entries

structure Laid (blocks : Array PhraseBlock × Nat) : Prop where
  cumulative : ∀ i < (entryPools blocks.1).length, endOf blocks.1 i = total (entryPools blocks.1) (i + 1)
  reached : blocks.2 = (entryPools blocks.1).flatten.length

def lay (rows : List (Nat × Nat × WordSet)) : Array PhraseBlock × Nat :=
  rows.foldl (fun blocks row => addBlock blocks row.1 row.2.1 row.2.2) (#[], 0)

theorem entries_addBlock (blocks : Array PhraseBlock × Nat) (a b : Nat) (heads : WordSet) :
    (entryPools (addBlock blocks a b heads).1).flatten =
      (entryPools blocks.1).flatten ++ heads.members.map fun head => (a, b, head) := by
  rw [addBlock, Bitset.count_eq]
  split
  · simp [entryPools, PhraseBlock.entries]
  next none =>
    have empty : heads.members = [] := List.length_eq_zero_iff.mp (by omega)
    simp [empty]

theorem Laid.addBlock {blocks : Array PhraseBlock × Nat} (laid : Laid blocks) (a b : Nat) (heads : WordSet) :
    Laid (addBlock blocks a b heads) := by
  rw [Names.addBlock]
  split
  next some_head =>
    have block : entryPools (blocks.1.push ⟨a, b, heads, blocks.2 + heads.count⟩) =
        entryPools blocks.1 ++ [heads.members.map fun head => (a, b, head)] := by
      simp [entryPools, PhraseBlock.entries]
    have size : (entryPools blocks.1).length = blocks.1.size := by simp [entryPools]
    constructor
    · intro i inside
      rw [block] at inside ⊢
      simp only [List.length_append, List.length_singleton] at inside
      by_cases earlier : i < (entryPools blocks.1).length
      · have before : endOf (blocks.1.push ⟨a, b, heads, blocks.2 + heads.count⟩) i = endOf blocks.1 i := by
          rw [endOf, endOf, Array.getElem?_push, if_neg (by omega)]
        rw [before, laid.cumulative i earlier, total, total, List.take_append_of_le_length earlier]
      · have last : i = blocks.1.size := by omega
        rw [endOf, last, Array.getElem?_push_size, total, List.take_of_length_le (by simp; omega)]
        simp [laid.reached, Bitset.count_eq]
    · rw [block, laid.reached]
      simp [Bitset.count_eq]
  next => exact laid

theorem lay_spec (rows : List (Nat × Nat × WordSet)) :
    Laid (lay rows) ∧ (entryPools (lay rows).1).flatten =
      rows.flatMap fun row => row.2.2.members.map fun head => (row.1, row.2.1, head) := by
  induction rows using List.reverseRecOn with
  | nil =>
    refine ⟨⟨?_, rfl⟩, rfl⟩
    intro i inside
    simp [lay, entryPools] at inside
  | append_singleton rows row ih =>
    have step : lay (rows ++ [row]) = addBlock (lay rows) row.1 row.2.1 row.2.2 := by simp [lay]
    rw [step]
    refine ⟨ih.1.addBlock _ _ _, ?_⟩
    rw [entries_addBlock, ih.2, List.flatMap_append]
    simp

theorem mem_lay {rows : List (Nat × Nat × WordSet)} {a b c : Nat} :
    (a, b, c) ∈ (entryPools (lay rows).1).flatten ↔ ∃ heads, (a, b, heads) ∈ rows ∧ heads.has c = true := by
  rw [(lay_spec rows).2, List.mem_flatMap]
  constructor
  · rintro ⟨⟨a', b', heads⟩, listed, member⟩
    obtain ⟨head, found, same⟩ := List.mem_map.mp member
    cases same
    exact ⟨heads, listed, Bitset.mem_members.mp found⟩
  · rintro ⟨heads, listed, found⟩
    exact ⟨(a, b, heads), listed, List.mem_map.mpr ⟨c, Bitset.mem_members.mpr found, rfl⟩⟩

theorem nodup_lay {rows : List (Nat × Nat × WordSet)}
    (distinct : rows.Pairwise fun row row' => (row.1, row.2.1) ≠ (row'.1, row'.2.1)) :
    (entryPools (lay rows).1).flatten.Nodup := by
  rw [(lay_spec rows).2, List.nodup_flatMap]
  constructor
  · intro row _
    apply (Bitset.nodup_members row.2.2).map
    intro head head' same
    exact (Prod.mk.inj (Prod.mk.inj same).2).2
  · refine distinct.imp ?_
    intro row row' apart entry member member'
    obtain ⟨head, _, rfl⟩ := List.mem_map.mp member
    obtain ⟨head', _, same⟩ := List.mem_map.mp member'
    exact apart (Prod.ext (Prod.mk.inj same).1.symm (Prod.mk.inj (Prod.mk.inj same).2).1.symm)

namespace Lexicon

variable (L : Lexicon)

def pairRows : List (Nat × Nat × WordSet) :=
  (List.range L.words.length).map fun a => (a, 0, L.buildRules.heads L a none)

def tripleRows : List (Nat × Nat × WordSet) :=
  ((List.range L.words.length).filter fun a => L.buildRules.adjective a ≠ 0).flatMap fun a =>
    (List.range L.words.length).map fun b => (a, b, L.buildRules.heads L a (some b))

theorem buildPairs_eq : L.buildPairs L.buildRules = lay L.pairRows := by
  rw [lay, pairRows, List.foldl_map]
  rfl

theorem buildTriples_eq : L.buildTriples L.buildRules = lay L.tripleRows := by
  rw [lay, tripleRows, List.foldl_flatMap, List.foldl_filter, buildTriples]
  simp only [List.foldl_map]
  congr 1
  funext blocks a
  by_cases none : L.buildRules.adjective a = 0 <;> simp [none]

def rows (count : Nat) : List (Nat × Nat × WordSet) := if count = 3 then L.tripleRows else L.pairRows

theorem blocks_eq {count : Nat} (short : count = 2 ∨ count = 3) :
    L.buildPhraseGrammar.blocks count = (lay (L.rows count)).1 := by
  obtain rfl | rfl := short
  · exact congrArg Prod.fst L.buildPairs_eq
  · exact congrArg Prod.fst L.buildTriples_eq

def entries (count : Nat) : List (Nat × Nat × Nat) := (entryPools (lay (L.rows count)).1).flatten

variable {L}

theorem mem_entries_two {a b c : Nat} :
    (a, b, c) ∈ L.entries 2 ↔ a < L.words.length ∧ b = 0 ∧ (L.buildRules.heads L a none).has c = true := by
  rw [entries, mem_lay, rows, if_neg (by decide)]
  simp only [pairRows, List.mem_map, List.mem_range, Prod.mk.injEq]
  constructor
  · rintro ⟨heads, ⟨_, inside, rfl, rfl, rfl⟩, found⟩
    exact ⟨inside, rfl, found⟩
  · rintro ⟨inside, rfl, found⟩
    exact ⟨_, ⟨a, inside, rfl, rfl, rfl⟩, found⟩

theorem adjective_of_heads (wf : L.WellFormed) {a b c : Nat}
    (found : (L.buildRules.heads L a (some b)).has c = true) : L.buildRules.adjective a ≠ 0 := by
  intro none
  have allowed := ((has_heads wf).mp found).1
  rw [PhraseRules.patterns, if_pos (.inl none), Bitset.has_empty] at allowed
  cases allowed

theorem mem_entries_three (wf : L.WellFormed) {a b c : Nat} :
    (a, b, c) ∈ L.entries 3 ↔
      a < L.words.length ∧ b < L.words.length ∧ (L.buildRules.heads L a (some b)).has c = true := by
  rw [entries, mem_lay, rows, if_pos rfl]
  simp only [tripleRows, List.mem_flatMap, List.mem_filter, List.mem_map, List.mem_range, Prod.mk.injEq,
    decide_eq_true_eq]
  constructor
  · rintro ⟨heads, ⟨_, ⟨first, _⟩, _, second, rfl, rfl, rfl⟩, found⟩
    exact ⟨first, second, found⟩
  · rintro ⟨first, second, found⟩
    exact ⟨_, ⟨a, ⟨first, adjective_of_heads wf found⟩, b, second, rfl, rfl, rfl⟩, found⟩

theorem nodup_entries (count : Nat) : (L.entries count).Nodup := by
  apply nodup_lay
  have numbers : (List.range L.words.length).Pairwise (· ≠ ·) := List.nodup_range
  rw [rows]
  split
  · rw [tripleRows, List.pairwise_flatMap]
    constructor
    · intro a _
      rw [List.pairwise_map]
      exact numbers.imp fun apart same => apart (Prod.mk.inj same).2
    · refine (numbers.filter _).imp ?_
      intro a a' apart row member row' member' same
      obtain ⟨b, _, rfl⟩ := List.mem_map.mp member
      obtain ⟨b', _, rfl⟩ := List.mem_map.mp member'
      exact apart (Prod.mk.inj same).1
  · rw [pairRows, List.pairwise_map]
    exact numbers.imp fun apart same => apart (Prod.mk.inj same).1

end Lexicon

/-! ### Ranks -/

section Rank

variable {blocks : Array PhraseBlock × Nat}

theorem Laid.capacity (laid : Laid blocks) :
    ((blocks.1.back?).map (·.last)).getD 0 = (entryPools blocks.1).flatten.length := by
  have last : ((blocks.1.back?).map (·.last)).getD 0 = endOf blocks.1 (blocks.1.size - 1) := by
    rw [endOf, Array.back?_eq_getElem?]
  have size : (entryPools blocks.1).length = blocks.1.size := by simp [entryPools]
  rw [last]
  by_cases empty : blocks.1.size = 0
  · have none : blocks.1 = #[] := Array.eq_empty_of_size_eq_zero empty
    rw [none]
    rfl
  · rw [laid.cumulative _ (by omega), Nat.sub_add_cancel (by omega), ← size, total_all]

theorem Laid.locate (laid : Laid blocks) {index a b c : Nat}
    (found : (entryPools blocks.1).flatten[index]? = some (a, b, c)) :
    let i := search (fun i => decide (index < endOf blocks.1 i)) 0 blocks.1.size
    ∃ block, blocks.1.toList[i]? = some block ∧ block.first = a ∧ block.second = b ∧
      block.heads.select (index - if 0 < i then endOf blocks.1 (i - 1) else 0) = some c := by
  intro i
  have size : (entryPools blocks.1).length = blocks.1.size := by simp [entryPools]
  have inside : index < (entryPools blocks.1).flatten.length := (List.getElem?_eq_some_iff.mp found).1
  obtain ⟨proper, start, stop⟩ := search_ends laid.cumulative inside
  rw [size] at proper start stop
  -- what is subtracted is the number of phrases before the block
  have prior : (if 0 < i then endOf blocks.1 (i - 1) else 0) = total (entryPools blocks.1) i := by
    split
    next later => rw [laid.cumulative (i - 1) (by omega), Nat.sub_add_cancel later]
    next first =>
      have zero : i = 0 := by omega
      rw [zero]
      rfl
  obtain ⟨block, here⟩ : ∃ block, blocks.1.toList[i]? = some block := ⟨_, List.getElem?_eq_getElem proper⟩
  have pool : (entryPools blocks.1)[i]?.getD [] = block.entries := by
    rw [entryPools, List.getElem?_map, here]
    rfl
  rw [getElem?_flatten start stop, pool, PhraseBlock.entries, List.getElem?_map, ← Bitset.select_eq] at found
  obtain ⟨head, selected, same⟩ := Option.map_eq_some_iff.mp found
  cases same
  exact ⟨block, here, rfl, rfl, by rw [prior, selected]⟩

end Rank

namespace Lexicon

variable {L : Lexicon} {count : Nat}

theorem phraseCapacity_eq (short : count = 2 ∨ count = 3) :
    L.buildPhraseGrammar.phraseCapacity count = (L.entries count).length := by
  rw [PhraseGrammar.phraseCapacity, L.blocks_eq short]
  exact (lay_spec (L.rows count)).1.capacity

def parts (L : Lexicon) (count : Nat) (entry : Nat × Nat × Nat) : List String :=
  if count = 3 then [L.word entry.1, L.word entry.2.1, L.word entry.2.2] else [L.word entry.1, L.word entry.2.2]

theorem get_word {a : Nat} (inside : a < L.words.length) :
    (Slice.get L.words a : Except (Fault NameError) String) = .ok (L.word a) := by
  rw [Slice.get, some_word inside]

theorem entry_small (wf : L.WellFormed) (short : count = 2 ∨ count = 3) {a b c : Nat}
    (listed : (a, b, c) ∈ L.entries count) :
    a < L.words.length ∧ c < L.words.length ∧ (count = 3 → b < L.words.length) := by
  obtain rfl | rfl := short
  · obtain ⟨first, _, found⟩ := mem_entries_two.mp listed
    exact ⟨first, heads_small wf found, fun three => absurd three (by decide)⟩
  · obtain ⟨first, second, found⟩ := (mem_entries_three wf).mp listed
    exact ⟨first, heads_small wf found, fun _ => second⟩

theorem phraseText_eq (wf : L.WellFormed) (short : count = 2 ∨ count = 3) {block : PhraseBlock} {head : Nat}
    (listed : (block.first, block.second, head) ∈ L.entries count) :
    L.phraseText count block head = .ok (Text.join '-' (L.parts count (block.first, block.second, head))) := by
  obtain ⟨first, last, second⟩ := entry_small wf short listed
  rw [phraseText, get_word first, get_word last, parts]
  split
  next three =>
    rw [get_word (second three)]
    simp [bind, Except.bind, Text.join, String.append_assoc]
  next two => simp [bind, Except.bind, Text.join]

theorem phraseAt_eq (wf : L.WellFormed) (short : count = 2 ∨ count = 3) {index : Nat} {entry : Nat × Nat × Nat}
    (found : (L.entries count)[index]? = some entry) :
    L.buildPhraseGrammar.phraseAt L index count =
      .ok ⟨Text.join '-' (L.parts count entry), grammarName, count⟩ := by
  obtain ⟨a, b, c⟩ := entry
  have inside : index < (L.entries count).length := (List.getElem?_eq_some_iff.mp found).1
  have listed := List.mem_of_getElem? found
  obtain ⟨block, here, rfl, rfl, head⟩ := (lay_spec (L.rows count)).1.locate found
  have blocks : (if count = 3 then L.buildPhraseGrammar.triples else L.buildPhraseGrammar.pairs) =
      (lay (L.rows count)).1 := by
    rw [← L.blocks_eq short]
    obtain rfl | rfl := short <;> rfl
  rw [PhraseGrammar.phraseAt, phraseCapacity_eq short, Slice.refuseIf_bind, if_neg (by omega),
    Slice.refuseIf_bind, if_neg (by omega), blocks]
  simp only [Slice.get, here, head, phraseText_eq wf short listed, bind, Except.bind]

/-! ### Words of a phrase -/

theorem word_injective (wf : L.WellFormed) {a b : Nat} (inside : a < L.words.length) (inside' : b < L.words.length)
    (same : L.word a = L.word b) : a = b := by
  apply (List.getElem?_inj inside wf.distinct).mp
  rw [some_word inside, some_word inside', same]

theorem admits_iff (wf : L.WellFormed) (short : count = 2 ∨ count = 3) {parts : List String}
    (size : parts.length = count) :
    L.buildPhraseGrammar.admits L L.wordIndex parts = true ↔
      ∃ entry ∈ L.entries count, L.parts count entry = parts := by
  obtain rfl | rfl := short
  · obtain ⟨x, y, rfl⟩ := List.length_eq_two.mp size
    rw [admits_pair wf]
    constructor
    · rintro ⟨a, c, first, last, found⟩
      refine ⟨(a, 0, c), mem_entries_two.mpr ⟨(List.getElem?_eq_some_iff.mp first).1, rfl, found⟩, ?_⟩
      simp [Lexicon.parts, word_of_some first, word_of_some last]
    · rintro ⟨⟨a, b, c⟩, listed, same⟩
      obtain ⟨first, _, found⟩ := mem_entries_two.mp listed
      have last := heads_small wf found
      simp only [Lexicon.parts, Nat.reduceEqDiff, if_false, List.cons.injEq, and_true] at same
      exact ⟨a, c, same.1 ▸ some_word first, same.2 ▸ some_word last, found⟩
  · obtain ⟨x, y, z, rfl⟩ := List.length_eq_three.mp size
    rw [admits_triple wf]
    constructor
    · rintro ⟨a, b, c, first, second, last, found⟩
      have inside := (List.getElem?_eq_some_iff.mp first).1
      have inside' := (List.getElem?_eq_some_iff.mp second).1
      refine ⟨(a, b, c), (mem_entries_three wf).mpr ⟨inside, inside', found⟩, ?_⟩
      simp [Lexicon.parts, word_of_some first, word_of_some second, word_of_some last]
    · rintro ⟨⟨a, b, c⟩, listed, same⟩
      obtain ⟨first, second, found⟩ := (mem_entries_three wf).mp listed
      have last := heads_small wf found
      simp only [Lexicon.parts, if_true, List.cons.injEq, and_true] at same
      exact ⟨a, b, c, same.1 ▸ some_word first, same.2.1 ▸ some_word second, same.2.2 ▸ some_word last, found⟩

theorem parts_plain (wf : L.WellFormed) (short : count = 2 ∨ count = 3) {entry : Nat × Nat × Nat}
    (listed : entry ∈ L.entries count) : Plain (L.parts count entry) := by
  obtain ⟨a, b, c⟩ := entry
  obtain ⟨first, last, second⟩ := entry_small wf short listed
  have known : ∀ {i : Nat}, i < L.words.length → L.word i ∈ L.words :=
    fun inside => List.mem_of_getElem? (some_word inside)
  intro w member
  apply wf.plain
  rw [parts] at member
  split at member
  next three =>
    simp only [List.mem_cons, List.not_mem_nil, or_false] at member
    obtain rfl | rfl | rfl := member
    · exact known first
    · exact known (second three)
    · exact known last
  next two =>
    simp only [List.mem_cons, List.not_mem_nil, or_false] at member
    obtain rfl | rfl := member
    · exact known first
    · exact known last

theorem parts_injective (wf : L.WellFormed) (short : count = 2 ∨ count = 3) {entry entry' : Nat × Nat × Nat}
    (listed : entry ∈ L.entries count) (listed' : entry' ∈ L.entries count)
    (same : L.parts count entry = L.parts count entry') : entry = entry' := by
  obtain ⟨a, b, c⟩ := entry
  obtain ⟨a', b', c'⟩ := entry'
  obtain ⟨first, last, second⟩ := entry_small wf short listed
  obtain ⟨first', last', second'⟩ := entry_small wf short listed'
  obtain rfl | rfl := short
  · obtain ⟨_, rfl, _⟩ := mem_entries_two.mp listed
    obtain ⟨_, rfl, _⟩ := mem_entries_two.mp listed'
    simp only [parts, Nat.reduceEqDiff, if_false, List.cons.injEq, and_true] at same
    rw [word_injective wf first first' same.1, word_injective wf last last' same.2]
  · simp only [parts, if_true, List.cons.injEq, and_true] at same
    rw [word_injective wf first first' same.1, word_injective wf (second rfl) (second' rfl) same.2.1,
      word_injective wf last last' same.2.2]

theorem length_parts (short : count = 2 ∨ count = 3) (entry : Nat × Nat × Nat) :
    (L.parts count entry).length = count := by
  obtain rfl | rfl := short <;> rfl

end Lexicon

end Relay.Names
