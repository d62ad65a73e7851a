import Relay.Access.Memory

/-! Identifiers: which texts are accepted as one, and how random ones are drawn. -/
namespace Relay

def identifierCharacter (c : Char) : Bool :=
  ('a' ≤ c && c ≤ 'z') || ('A' ≤ c && c ≤ 'Z') || ('0' ≤ c && c ≤ '9') ||
    c == '.' || c == '_' || c == '-'

def validIdentifier (value : String) (maximum : Nat) : Bool :=
  value.utf8ByteSize != 0 && value.utf8ByteSize ≤ maximum && value.toList.all identifierCharacter

def hexDigit (n : Nat) : Char := if n < 10 then Char.ofNat (48 + n) else Char.ofNat (87 + n)

def hexByte (b : UInt8) : List Char := [hexDigit (b.toNat / 16), hexDigit (b.toNat % 16)]

def hexEncode (bytes : Bytes) : List Char := bytes.flatMap hexByte

theorem hexDigit_injective : ∀ m < 16, ∀ n < 16, hexDigit m = hexDigit n → m = n := by decide

theorem hexByte_injective {a b : UInt8} (same : hexByte a = hexByte b) : a = b := by
  simp only [hexByte, List.cons.injEq, and_true] at same
  have bound := a.toNat_lt
  have bound' := b.toNat_lt
  have high := hexDigit_injective _ (by omega) _ (by omega) same.1
  have low := hexDigit_injective _ (by omega) _ (by omega) same.2
  apply UInt8.toNat_inj.mp
  omega

theorem hexEncode_injective : Function.Injective hexEncode := by
  intro a
  induction a with
  | nil =>
    intro b same
    cases b with
    | nil => rfl
    | cons y b => simp [hexEncode, hexByte] at same
  | cons x a ih =>
    intro b same
    cases b with
    | nil => simp [hexEncode, hexByte] at same
    | cons y b =>
      have parts : hexByte x = hexByte y ∧ hexEncode a = hexEncode b := List.append_inj same rfl
      rw [hexByte_injective parts.1, ih parts.2]

def Digest.hex (d : Digest) : String := String.ofList (hexEncode d.toList)

theorem Digest.hex_injective : Function.Injective Digest.hex := by
  intro a b same
  have lists := hexEncode_injective (String.ofList_injective same)
  exact Vector.toList_inj.mp lists

def uuidBytes (value : Bytes) : Bytes :=
  (value.modify 6 (fun b => (b &&& 15) ||| 64)).modify 8 (fun b => (b &&& 63) ||| 128)

def uuidText (value : Bytes) : String :=
  let encoded := hexEncode (uuidBytes value)
  String.ofList ((encoded.take 8) ++ '-' :: ((encoded.drop 8).take 4) ++
    '-' :: ((encoded.drop 12).take 4) ++ '-' :: ((encoded.drop 16).take 4) ++
    '-' :: (encoded.drop 20))

theorem uuidText_ne_empty (value : Bytes) : uuidText value ≠ "" := by
  intro empty
  have lists := congrArg String.toList empty
  simp [uuidText] at lists

def randomSessionID : TxM String := do
  let value ← Tx.readRandom 16
  Txn.modify fun tx => { tx with drawn := tx.drawn ++ [uuidText value] }
  pure (uuidText value)

def randomTokenID : TxM String := do
  let value ← Tx.readRandom 16
  pure (String.ofList (hexEncode value))

theorem randomSessionID_ok {tx tx' : Tx} {id : String}
    (drew : randomSessionID tx = (.ok id, tx')) :
    id ≠ "" ∧ ∃ rest, tx' = { tx with entropy := rest, drawn := tx.drawn ++ [id] } := by
  simp only [randomSessionID, Txn.bind_ok, Tx.readRandom_ok, Txn.modify_run, Txn.pure_run] at drew
  obtain ⟨bytes, u, ⟨_, rfl, rfl⟩, _, v, moved, out⟩ := drew
  cases moved
  cases out
  exact ⟨uuidText_ne_empty _, _, rfl⟩

theorem randomTokenID_ok {tx tx' : Tx} {id : String}
    (drew : randomTokenID tx = (.ok id, tx')) : ∃ rest, tx' = { tx with entropy := rest } := by
  simp only [randomTokenID, Txn.bind_ok, Tx.readRandom_ok, Txn.pure_run] at drew
  obtain ⟨bytes, u, ⟨_, rfl, rfl⟩, out⟩ := drew
  cases out
  exact ⟨_, rfl⟩

def minWordCount : Nat := 2
def maxWordCount : Nat := 15
def maxNameBytes : Nat := maxWordCount * 8 + maxWordCount - 1

def validOpaqueInvitationCode (P : Primitives) (value : String) : Bool :=
  value.utf8ByteSize == 36 && P.uuidParse value && value.toList.count '-' == 4

end Relay
