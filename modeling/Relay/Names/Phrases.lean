import Relay.Lib.Bitset
import Relay.Lib.Ranking
import Relay.Access.Records
import Relay.Names.Lexicon

/-! Short phrases: two words, or three. The rules say which words may end a phrase that begins
with one or two given words; the same rules are used to enumerate the phrases and to recognize
them. -/
namespace Relay.Names

def grammarName : String := "natural-phrases-1"

def maxPhraseBytes : Nat := 24
def bitsetWords : Nat := (1023 + 63) / 64

abbrev WordSet : Type := Bitset bitsetWords

structure LexicalRole where
  noun : Family
  adjective : Family
  modifier : Family

instance : Inhabited LexicalRole := ⟨⟨0, 0, 0⟩⟩

/-- The phrases that begin with the same word or words. `last` is the number of phrases up to
the end of the block. -/
structure PhraseBlock where
  first : Nat
  second : Nat
  heads : WordSet
  last : Nat

structure PhraseRules where
  roles : Array LexicalRole
  compatible : Array WordSet
  adjectiveHeads : Array WordSet
  modifierHeads : Array WordSet
  qualifiers : List (Nat × Nat)
  tripleHeads : WordSet
  tripleAdjectives : WordSet
  lengthMasks : Array WordSet

def roleOf (roles : Array LexicalRole) (a : Nat) : LexicalRole := roles[a]?.getD default

def wordsOf (rows : Array WordSet) (a : Nat) : WordSet := rows[a]?.getD Bitset.empty

def setOf (n : Nat) (passes : Nat → Bool) : WordSet :=
  (List.range n).foldl (fun set b => if passes b then set.add b else set) Bitset.empty

def rowsOf (n : Nat) (joins : Nat → Nat → Bool) : Array WordSet := (Array.range n).map fun a => setOf n (joins a)

namespace Lexicon

variable (L : Lexicon)

def wordIndex : Table String Nat := Table.positions L.words

variable (index : Table String Nat)

/-- A lookup that does not find the word yields zero, as any Go map does. -/
def position (w : String) : Nat := (index.lookup w).getD 0

def word (a : Nat) : String := L.words[a]?.getD ""

def assign (groups : List LexicalGroup) (set : LexicalRole → Family → LexicalRole) (roles : Array LexicalRole) :
    Array LexicalRole :=
  groups.foldl (fun roles group =>
    group.words.foldl (fun roles w => roles.modify (position index w) fun role => set role group.family) roles) roles

def buildRoles : Array LexicalRole :=
  let roles := Array.replicate L.words.length (default : LexicalRole)
  let roles := assign index L.nounGroups (fun role f => { role with noun := role.noun ||| f }) roles
  let roles := assign index L.adjectiveGroups (fun role f => { role with adjective := role.adjective ||| f }) roles
  assign index L.modifierGroups (fun role f => { role with modifier := role.modifier ||| f }) roles

def blocked : List (Nat × Nat) :=
  (L.confusableGroups.flatMap fun list =>
      list.flatMap fun a => list.map fun b => (position index a, position index b)) ++
    L.disallowedPairs.flatMap fun pair =>
      [(position index pair.1, position index pair.2), (position index pair.2, position index pair.1)]

def lengthMask (limit : Nat) : WordSet := setOf L.words.length fun i => decide ((L.word i).utf8ByteSize ≤ limit)

def members (list : List String) (set : WordSet) : WordSet :=
  list.foldl (fun set w => set.add (position index w)) set

def meet (blocked : List (Nat × Nat)) (a b : Nat) : Bool := !(a == b || blocked.contains (a, b))

def buildRules : PhraseRules :=
  let index := L.wordIndex
  let n := L.words.length
  let roles := L.buildRoles index
  let meets := meet (L.blocked index)
  { roles := L.specificAdjectiveHeads.foldl
      (fun roles entry => roles.modify (position index entry.1) fun role => { role with adjective := allFamilies }) roles
    compatible := rowsOf n meets
    adjectiveHeads := L.specificAdjectiveHeads.foldl
      (fun rows entry => rows.modify (position index entry.1) (members index entry.2))
      (rowsOf n fun a b => meets a b && (roleOf roles a).adjective &&& (roleOf roles b).noun != 0)
    modifierHeads := rowsOf n fun a b => meets a b && (roleOf roles a).modifier &&& (roleOf roles b).noun != 0
    qualifiers := L.qualifierPairs.map fun pair => (position index pair.1, position index pair.2)
    tripleHeads := members index L.tripleHeads Bitset.empty
    tripleAdjectives := members index L.tripleAdjectives Bitset.empty
    lengthMasks := (Array.range (maxPhraseBytes + 1)).map L.lengthMask }

end Lexicon

namespace PhraseRules

variable (g : PhraseRules)

def adjective (a : Nat) : Family := (roleOf g.roles a).adjective

/-- The last words that the patterns allow, before their length is looked at. -/
def patterns (a : Nat) : Option Nat → WordSet
  | none => ((wordsOf g.adjectiveHeads a).union (wordsOf g.modifierHeads a)).inter (wordsOf g.compatible a)
  | some b =>
    if g.adjective a = 0 ∨ (wordsOf g.compatible a).has b = false then Bitset.empty
    else
      let modified :=
        if g.tripleAdjectives.has a then (wordsOf g.adjectiveHeads a).inter (wordsOf g.modifierHeads b)
        else Bitset.empty
      let qualified :=
        if g.qualifiers.contains (a, b) then
          modified.union ((wordsOf g.adjectiveHeads a).inter (wordsOf g.adjectiveHeads b))
        else modified
      ((qualified.inter (wordsOf g.compatible a)).inter (wordsOf g.compatible b)).inter g.tripleHeads

/-- The only rule of admission: what may follow one word, or two. -/
def heads (L : Lexicon) (a : Nat) (b : Option Nat) : WordSet :=
  let taken := (L.word a).utf8ByteSize + 1 + (b.map fun b => (L.word b).utf8ByteSize + 1).getD 0
  if maxPhraseBytes < taken then Bitset.empty
  else (g.patterns a b).inter (wordsOf g.lengthMasks (maxPhraseBytes - taken))

end PhraseRules

/-- A block is appended unless it is empty; the second component is the end reached. -/
def addBlock (blocks : Array PhraseBlock × Nat) (first second : Nat) (heads : WordSet) : Array PhraseBlock × Nat :=
  if 0 < heads.count then
    (blocks.1.push ⟨first, second, heads, blocks.2 + heads.count⟩, blocks.2 + heads.count)
  else blocks

structure PhraseGrammar where
  rules : PhraseRules
  pairs : Array PhraseBlock
  triples : Array PhraseBlock

namespace Lexicon

variable (L : Lexicon)

def buildPairs (g : PhraseRules) : Array PhraseBlock × Nat :=
  (List.range L.words.length).foldl (fun blocks a => addBlock blocks a 0 (g.heads L a none)) (#[], 0)

def buildTriples (g : PhraseRules) : Array PhraseBlock × Nat :=
  (List.range L.words.length).foldl (fun blocks a =>
    if g.adjective a = 0 then blocks
    else
      (List.range L.words.length).foldl (fun blocks b => addBlock blocks a b (g.heads L a (some b))) blocks) (#[], 0)

def buildPhraseGrammar : PhraseGrammar :=
  let rules := L.buildRules
  ⟨rules, (L.buildPairs rules).1, (L.buildTriples rules).1⟩

end Lexicon

def endOf (blocks : Array PhraseBlock) (i : Nat) : Nat := (blocks[i]?.map (·.last)).getD 0

inductive NameError where
  | wordCount
  | name
  | index
deriving DecidableEq

/-- The text of a phrase, whose second word is written only if there are three. -/
def Lexicon.phraseText (L : Lexicon) (count : Nat) (block : PhraseBlock) (head : Nat) :
    Except (Fault NameError) String := do
  let first ← Slice.get L.words block.first
  let text ←
    if count = 3 then do
      let second ← Slice.get L.words block.second
      .ok (first ++ "-" ++ second ++ "-")
    else .ok (first ++ "-")
  let last ← Slice.get L.words head
  .ok (text ++ last)

namespace PhraseGrammar

variable (phrases : PhraseGrammar) (L : Lexicon)

def admits (index : Table String Nat) (parts : List String) : Bool :=
  match parts.mapM index.lookup with
  | none => false
  | some ids =>
    (phrases.rules.heads L (ids[0]?.getD 0) (if parts.length = 3 then ids[1]? else none)).has
      (ids[parts.length - 1]?.getD 0)

def blocks (count : Nat) : Array PhraseBlock :=
  if count = 2 then phrases.pairs else if count = 3 then phrases.triples else #[]

def phraseCapacity (count : Nat) : Nat := (((phrases.blocks count).back?).map (·.last)).getD 0

def phraseAt (index count : Nat) : Except (Fault NameError) Name := do
  Slice.refuseIf (phrases.phraseCapacity count = 0) .wordCount
  Slice.refuseIf (phrases.phraseCapacity count ≤ index) .index
  let blocks := if count = 3 then phrases.triples else phrases.pairs
  let i := search (fun i => decide (index < endOf blocks i)) 0 blocks.size
  let prior := if 0 < i then endOf blocks (i - 1) else 0
  let block ← Slice.get blocks.toList i
  match block.heads.select (index - prior) with
  | none => .error .outOfRange
  | some head =>
    let text ← L.phraseText count block head
    .ok ⟨text, grammarName, count⟩

end PhraseGrammar

end Relay.Names
