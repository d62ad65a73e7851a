import Relay.Access.Identifier
import Relay.Names.Phrases

/-! Names of every length and their four grammars. A longer name is made of groups, one from
each palette in turn; a name with an odd number of words begins with a group of three. -/
namespace Relay.Names

def composedGrammarName : String := "composed-phrases-1"
def previousGrammarName : String := "natural-words-1"
def legacyGrammarName : String := "en-scene-v1"

structure ComposedGroup where
  pairs : Roster String
  triples : Roster String

structure Tables where
  lexicon : Lexicon
  wordIndex : Table String Nat
  phrases : PhraseGrammar
  composedGroups : List ComposedGroup

namespace PhrasePalette

variable (palette : PhrasePalette)

def pairs : List (List String) := palette.modifiers.flatMap fun a => palette.subjects.map fun b => [a, b]

def triples : List (List String) :=
  palette.modifiers.flatMap fun a => palette.modifiers.flatMap fun b => palette.subjects.map fun c => [a, b, c]

end PhrasePalette

def buildComposedGroups (admits : List String → Bool) (palettes : List PhrasePalette) : List ComposedGroup :=
  palettes.mapIdx fun i palette =>
    { pairs := Roster.collect admits (Text.join '-') palette.pairs
      triples := if i = 0 then Roster.collect admits (Text.join '-') palette.triples else Roster.empty }

def Lexicon.tables (L : Lexicon) : Tables :=
  let wordIndex := L.wordIndex
  let phrases := L.buildPhraseGrammar
  ⟨L, wordIndex, phrases, buildComposedGroups (phrases.admits L wordIndex) L.composedPalettes⟩

namespace Tables

variable (T : Tables)

/-- The phrases that a group of a name may be, the first group of an odd name being one of
three words. -/
def pool (count i : Nat) (group : ComposedGroup) : Roster String :=
  if i = 0 ∧ count % 2 = 1 then group.triples else group.pairs

def pools (count : Nat) : List (Roster String) := (T.composedGroups.take (count / 2)).mapIdx (pool count)

def capacityBig (count : Int) : Nat :=
  if count < minWordCount ∨ maxWordCount < count then 0
  else if count ≤ 3 then T.phrases.phraseCapacity count.toNat
  else (T.pools count.toNat).foldl (fun capacity pool => capacity * pool.items.length) 1

def composedAt (index count : Nat) : Except (Fault NameError) Name := do
  let (_, texts) ← draw ((T.pools count).map (·.items)) index
  .ok ⟨Text.join '-' texts, composedGrammarName, count⟩

def atBig (index : Option Int) (count : Int) : Except (Fault NameError) Name := do
  Slice.refuseIf (T.capacityBig count = 0) .wordCount
  match index with
  | none => .error (.failed .index)
  | some index =>
    Slice.refuseIf (index < 0 ∨ T.capacityBig count ≤ index) .index
    if count ≤ 3 then T.phrases.phraseAt T.lexicon index.toNat count.toNat
    else T.composedAt index.toNat count.toNat

def parseGroups (parts : List String) : List (Nat × Roster String) → Nat → Except (Fault NameError) Bool
  | [], offset => .ok (offset == parts.length)
  | (width, pool) :: groups, offset => do
    let group ← Slice.range parts offset (offset + width)
    if (pool.ranks.lookup (Text.join '-' group)).isNone then .ok false
    else parseGroups parts groups (offset + width)

def width (count i : Nat) : Nat := if i = 0 ∧ count % 2 = 1 then 3 else 2

def parseComposed (parts : List String) : Except (Fault NameError) Bool :=
  if parts.length < 4 ∨ maxWordCount < parts.length then .ok false
  else
    parseGroups parts
      ((T.composedGroups.take (parts.length / 2)).mapIdx fun i group =>
        (width parts.length i, pool parts.length i group)) 0

end Tables

def isSpace (c : Char) : Bool :=
  c == ' ' || ('\t' ≤ c && c ≤ '\r') || c == '\u0085' || c == '\u00a0' || c == '\u1680' ||
    ('\u2000' ≤ c && c ≤ '\u200a') || c == '\u2028' || c == '\u2029' || c == '\u202f' || c == '\u205f' ||
    c == '\u3000'

def trimSpace (text : List Char) : List Char := ((text.dropWhile isSpace).reverse.dropWhile isSpace).reverse

/-- Lower case, as far as a name can depend on it. Beside the capital letters two characters have
a plain letter as their lower case. Every other one stays outside the plain letters, and a text
that holds it is refused. -/
def toLower (c : Char) : Char :=
  if 'A' ≤ c ∧ c ≤ 'Z' then Char.ofNat (c.toNat + 32)
  else if c = '\u0130' then 'i'
  else if c = '\u212a' then 'k'
  else c

def normalWord (w : String) : Bool :=
  3 ≤ w.utf8ByteSize && w.utf8ByteSize ≤ 24 && w.toList.all fun c => 'a' ≤ c && c ≤ 'z'

def normalize (text : String) : Except NameError String :=
  if maxNameBytes < text.utf8ByteSize then .error .name
  else
    let value := String.ofList ((trimSpace text.toList).map toLower)
    let words := Text.split '-' value
    if words.length < minWordCount ∨ maxWordCount < words.length then .error .name
    else if words.all normalWord then .ok value
    else .error .name

def legacyWord (word : String) (roots tails : List String) : Bool :=
  roots.any fun root =>
    root.toList.isPrefixOf word.toList && tails.contains (String.ofList (word.toList.drop root.toList.length))

def legacyName : List String → Bool
  | [modifier, subject] =>
    legacyWord modifier legacyModifierRoots legacyModifierTails &&
      legacyWord subject legacySubjectRoots legacySubjectTails
  | [modifier, subject, place] =>
    legacyWord modifier legacyModifierRoots legacyModifierTails &&
      legacyWord subject legacySubjectRoots legacySubjectTails && legacyWord place legacyPlaceRoots legacyPlaceTails
  | _ => false

namespace Tables

variable (T : Tables)

def previousName (parts : List String) : Bool :=
  (parts.length == 2 || parts.length == 3) &&
    parts.zipIdx.all fun entry =>
      (T.wordIndex.lookup entry.1).isSome && !(parts.take entry.2).contains entry.1

def recognizes (grammar : String) (parts : List String) : Except (Fault NameError) Bool :=
  if grammar = grammarName then
    .ok ((parts.length == 2 || parts.length == 3) && T.phrases.admits T.lexicon T.wordIndex parts)
  else if grammar = composedGrammarName then T.parseComposed parts
  else if grammar = previousGrammarName then .ok (T.previousName parts)
  else if grammar = legacyGrammarName then .ok (legacyName parts)
  else .ok false

def parseStored (grammar text : String) : Except (Fault NameError) Name :=
  match normalize text with
  | .error e => .error (.failed e)
  | .ok value => do
    let valid ← T.recognizes grammar (Text.split '-' value)
    Slice.refuseIf (valid = false) .name
    .ok ⟨value, grammar, (Text.split '-' value).length⟩

end Tables

end Relay.Names
