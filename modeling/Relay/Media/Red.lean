import Relay.Lib.Slice

/-! The RED payload format: redundant blocks ahead of a primary payload, every header before
any data. The data of a block is located only by the lengths of the headers before it. -/
namespace Relay.Red

def maxBlockLength : Nat := 1023
def maxTimestampOffset : UInt32 := 16383
def redundantHeaderLen : Nat := 4
def payloadTypeMask : UInt8 := 0x7f
def fBit : UInt8 := 0x80

structure Block where
  payloadType : UInt8
  timestampOffsetSamples : UInt32
  payload : List UInt8
deriving DecidableEq

inductive EncodeError where
  | emptyPrimary
  | payloadExceeds (block length : Nat)
  | offsetExceeds (block : Nat) (offset : UInt32)
deriving DecidableEq

def EncodeError.message : EncodeError → String
  | .emptyPrimary => "red: primary payload must not be empty"
  | .payloadExceeds i n => s!"red: redundant block {i} payload {n} exceeds {maxBlockLength}"
  | .offsetExceeds i off =>
    s!"red: redundant block {i} timestamp offset {off} exceeds {maxTimestampOffset}"

def checkBlocks : Nat → List Block → Except EncodeError Unit
  | _, [] => .ok ()
  | i, b :: rest =>
    if b.payload.length > maxBlockLength then .error (.payloadExceeds i b.payload.length)
    else if b.timestampOffsetSamples > maxTimestampOffset then
      .error (.offsetExceeds i b.timestampOffsetSamples)
    else checkBlocks (i + 1) rest

def header (payloadType : UInt8) (offset : UInt32) (length : Nat) : List UInt8 :=
  let v := (offset <<< 10) ||| UInt32.ofNat length
  [fBit ||| (payloadType &&& payloadTypeMask), (v >>> 16).toUInt8, (v >>> 8).toUInt8, v.toUInt8]

def Block.header (b : Block) : List UInt8 :=
  Red.header b.payloadType b.timestampOffsetSamples b.payload.length

def encode (primaryPayloadType : UInt8) (primary : List UInt8) (redundant : List Block) :
    Except EncodeError (List UInt8) :=
  if primary.length = 0 then .error .emptyPrimary
  else do
    checkBlocks 0 redundant
    return redundant.flatMap Block.header ++ [primaryPayloadType &&& payloadTypeMask]
      ++ redundant.flatMap Block.payload ++ primary

structure Parsed where
  redundant : List Block
  primaryType : UInt8
  primaryPayload : List UInt8
deriving DecidableEq

inductive ParseError where
  | malformed
deriving DecidableEq

def ParseError.message : ParseError → String
  | .malformed => "red: malformed payload"

abbrev Reading := Except (Fault ParseError)

structure Hdr where
  pt : UInt8
  tsOff : UInt32
  length : Nat
deriving DecidableEq

def readHeader (payload : List UInt8) (pos : Nat) (first : UInt8) : Reading Hdr := do
  let b1 ← Slice.get payload (pos + 1)
  let b2 ← Slice.get payload (pos + 2)
  let b3 ← Slice.get payload (pos + 3)
  let v := b1.toUInt32 <<< 16 ||| b2.toUInt32 <<< 8 ||| b3.toUInt32
  return ⟨first &&& payloadTypeMask, v >>> 10, (v &&& UInt32.ofNat maxBlockLength).toNat⟩

/-- The headers up to the primary one, its payload type and the position behind it. -/
def readHeaders (payload : List UInt8) (pos : Nat) (redHdrs : List Hdr) :
    Reading (List Hdr × UInt8 × Nat) :=
  if payload.length ≤ pos then .error (.failed .malformed)
  else do
    let first ← Slice.get payload pos
    if first &&& fBit = 0 then
      return (redHdrs, first &&& payloadTypeMask, pos + 1)
    if pos + redundantHeaderLen > payload.length then
      throw (.failed .malformed)
    let hdr ← readHeader payload pos first
    readHeaders payload (pos + redundantHeaderLen) (redHdrs ++ [hdr])
termination_by payload.length - pos
decreasing_by simp only [redundantHeaderLen]; omega

def readPayloads (payload : List UInt8) (pos : Nat) : List Hdr → List Block →
    Reading (List Block × Nat)
  | [], redundant => return (redundant, pos)
  | h :: rest, redundant => do
    if pos + h.length > payload.length then
      throw (.failed .malformed)
    let data ← Slice.range payload pos (pos + h.length)
    readPayloads payload (pos + h.length) rest (redundant ++ [⟨h.pt, h.tsOff, data⟩])

def parse (payload : List UInt8) : Reading Parsed := do
  let (redHdrs, primaryType, pos) ← readHeaders payload 0 []
  let (redundant, pos) ← readPayloads payload pos redHdrs []
  let primaryPayload ← Slice.range payload pos payload.length
  if primaryPayload.length = 0 then
    throw (.failed .malformed)
  return ⟨redundant, primaryType, primaryPayload⟩


/-! Words and headers. -/

theorem toNat_word (b1 b2 b3 : UInt8) :
    (b1.toUInt32 <<< 16 ||| b2.toUInt32 <<< 8 ||| b3.toUInt32).toNat = Bytes.toNat [b1, b2, b3] := by
  have h1 := b1.toNat_lt
  have h2 := b2.toNat_lt
  have h3 := b3.toNat_lt
  have high : b1.toNat <<< 16 % 2 ^ 32 = 2 ^ 16 * b1.toNat := by
    rw [Nat.shiftLeft_eq]
    omega
  have middle : b2.toNat <<< 8 % 2 ^ 32 = 2 ^ 8 * b2.toNat := by
    rw [Nat.shiftLeft_eq]
    omega
  have low : 2 ^ 8 * b2.toNat + b3.toNat < 2 ^ 16 := by omega
  calc (b1.toUInt32 <<< 16 ||| b2.toUInt32 <<< 8 ||| b3.toUInt32).toNat
      = 2 ^ 16 * b1.toNat ||| 2 ^ 8 * b2.toNat ||| b3.toNat := by
        simp only [UInt32.toNat_or, UInt32.toNat_shiftLeft, UInt8.toNat_toUInt32]
        rw [← high, ← middle]
        rfl
    _ = 2 ^ 16 * b1.toNat + (2 ^ 8 * b2.toNat + b3.toNat) := by
        rw [Nat.or_assoc, ← Nat.two_pow_add_eq_or_of_lt h3, ← Nat.two_pow_add_eq_or_of_lt low]
    _ = Bytes.toNat [b1, b2, b3] := by
        simp only [Bytes.toNat, List.foldl_cons, List.foldl_nil]
        omega

variable {payload primary rest : List UInt8} {off : UInt32} {b first pt : UInt8} {n pos : Nat}

theorem header_eq (offset : off.toNat ≤ 16383) (length : n ≤ 1023) :
    header pt off n = (fBit ||| (pt &&& payloadTypeMask)) :: Bytes.ofNat 3 (off.toNat * 1024 + n) := by
  have value : (off <<< 10 ||| UInt32.ofNat n).toNat = off.toNat * 1024 + n := by
    have small : n % 2 ^ 32 = n := by omega
    have shifted : off.toNat <<< 10 % 2 ^ 32 = 2 ^ 10 * off.toNat := by
      rw [Nat.shiftLeft_eq]
      omega
    have low : n < 2 ^ 10 := by omega
    rw [UInt32.toNat_or, UInt32.toNat_shiftLeft, UInt32.toNat_ofNat', small]
    rw [show (10 : UInt32).toNat % 32 = 10 from rfl, shifted, ← Nat.two_pow_add_eq_or_of_lt low]
    omega
  have high : ((off <<< 10 ||| UInt32.ofNat n) >>> 16).toUInt8 = UInt8.ofNat ((off.toNat * 1024 + n) / 256 / 256) := by
    apply UInt8.toNat_inj.mp
    rw [UInt32.toNat_toUInt8, UInt32.toNat_shiftRight, value, UInt8.toNat_ofNat',
      Nat.div_div_eq_div_mul, show (16 : UInt32).toNat % 32 = 16 from rfl, Nat.shiftRight_eq_div_pow]
  have middle : ((off <<< 10 ||| UInt32.ofNat n) >>> 8).toUInt8 = UInt8.ofNat ((off.toNat * 1024 + n) / 256) := by
    apply UInt8.toNat_inj.mp
    rw [UInt32.toNat_toUInt8, UInt32.toNat_shiftRight, value, UInt8.toNat_ofNat',
      show (8 : UInt32).toNat % 32 = 8 from rfl, Nat.shiftRight_eq_div_pow]
  have low : (off <<< 10 ||| UInt32.ofNat n).toUInt8 = UInt8.ofNat (off.toNat * 1024 + n) := by
    apply UInt8.toNat_inj.mp
    rw [UInt32.toNat_toUInt8, value, UInt8.toNat_ofNat']
  simp only [header, Bytes.ofNat, high, middle, low, List.nil_append, List.cons_append]

theorem word_fields {v : UInt32} (length : n ≤ 1023) (value : v.toNat = off.toNat * 1024 + n) :
    v >>> 10 = off ∧ (v &&& UInt32.ofNat maxBlockLength).toNat = n := by
  constructor
  · apply UInt32.toNat_inj.mp
    rw [UInt32.toNat_shiftRight, value, show (10 : UInt32).toNat % 32 = 10 from rfl,
      Nat.shiftRight_eq_div_pow]
    omega
  · rw [UInt32.toNat_and, value]
    have mask : (UInt32.ofNat maxBlockLength).toNat = 2 ^ 10 - 1 := rfl
    rw [mask, Nat.and_two_pow_sub_one_eq_mod]
    omega

theorem mask_of_clear (clear : b &&& fBit = 0) : b &&& payloadTypeMask = b := by
  revert clear
  have all : ∀ n < 256, UInt8.ofNat n &&& fBit = 0 → UInt8.ofNat n &&& payloadTypeMask = UInt8.ofNat n := by
    decide +kernel
  simpa using all b.toNat b.toNat_lt

theorem first_of_set (set : b &&& fBit ≠ 0) : fBit ||| (b &&& payloadTypeMask &&& payloadTypeMask) = b := by
  revert set
  have all : ∀ n < 256, UInt8.ofNat n &&& fBit ≠ 0 →
      fBit ||| (UInt8.ofNat n &&& payloadTypeMask &&& payloadTypeMask) = UInt8.ofNat n := by
    decide +kernel
  simpa using all b.toNat b.toNat_lt

/-! One header of the input. -/

def Hdr.bytes (h : Hdr) : List UInt8 := header h.pt h.tsOff h.length

def Block.hdr (b : Block) : Hdr := ⟨b.payloadType, b.timestampOffsetSamples, b.payload.length⟩

structure Hdr.Fits (h : Hdr) : Prop where
  pt : h.pt &&& payloadTypeMask = h.pt
  tsOff : h.tsOff.toNat ≤ 16383
  length : h.length ≤ 1023

variable {h : Hdr}

theorem Hdr.Fits.bytes_eq (fits : h.Fits) :
    h.bytes = (fBit ||| h.pt) :: Bytes.ofNat 3 (h.tsOff.toNat * 1024 + h.length) := by
  rw [Hdr.bytes, header_eq fits.tsOff fits.length, fits.pt]

theorem Hdr.length_bytes (h : Hdr) : h.bytes.length = redundantHeaderLen := rfl

theorem flag_of_masked (masked : b &&& payloadTypeMask = b) :
    (fBit ||| b) &&& fBit ≠ 0 ∧ (fBit ||| b) &&& payloadTypeMask = b := by
  revert masked
  have all : ∀ n < 256, UInt8.ofNat n &&& payloadTypeMask = UInt8.ofNat n →
      (fBit ||| UInt8.ofNat n) &&& fBit ≠ 0 ∧
        (fBit ||| UInt8.ofNat n) &&& payloadTypeMask = UInt8.ofNat n := by
    decide +kernel
  simpa using all b.toNat b.toNat_lt

theorem readHeader_eq {b1 b2 b3 : UInt8} (here : payload.drop pos = first :: b1 :: b2 :: b3 :: rest) :
    readHeader payload pos first =
      let v := b1.toUInt32 <<< 16 ||| b2.toUInt32 <<< 8 ||| b3.toUInt32
      .ok ⟨first &&& payloadTypeMask, v >>> 10, (v &&& UInt32.ofNat maxBlockLength).toNat⟩ := by
  have second : payload.drop (pos + 1) = b1 :: b2 :: b3 :: rest := Slice.drop_add_of_drop (x := [first]) here
  have third : payload.drop (pos + 2) = b2 :: b3 :: rest := Slice.drop_add_of_drop (x := [first, b1]) here
  have fourth : payload.drop (pos + 3) = b3 :: rest := Slice.drop_add_of_drop (x := [first, b1, b2]) here
  rw [readHeader, Slice.get_bind second, Slice.get_bind third, Slice.get_bind fourth]
  rfl

theorem exists_hdr (b1 b2 b3 : UInt8) (flag : first &&& fBit ≠ 0) :
    ∃ h : Hdr, h.Fits ∧ h.bytes = [first, b1, b2, b3] := by
  have bound : Bytes.toNat [b1, b2, b3] < 256 ^ 3 := Bytes.toNat_lt _
  have offset : (UInt32.ofNat (Bytes.toNat [b1, b2, b3] / 1024)).toNat = Bytes.toNat [b1, b2, b3] / 1024 := by
    rw [UInt32.toNat_ofNat']
    omega
  refine ⟨⟨first &&& payloadTypeMask, UInt32.ofNat (Bytes.toNat [b1, b2, b3] / 1024),
    Bytes.toNat [b1, b2, b3] % 1024⟩, ⟨?_, ?_, ?_⟩, ?_⟩
  · have masked : payloadTypeMask &&& payloadTypeMask = payloadTypeMask := rfl
    rw [UInt8.and_assoc, masked]
  · rw [offset]
    omega
  · exact Nat.le_of_lt_succ (Nat.mod_lt _ (by decide))
  · have whole : Bytes.toNat [b1, b2, b3] / 1024 * 1024 + Bytes.toNat [b1, b2, b3] % 1024 =
        Bytes.toNat [b1, b2, b3] := by omega
    have low : Bytes.toNat [b1, b2, b3] % 1024 ≤ 1023 := by omega
    rw [Hdr.bytes, header_eq (by rw [offset]; omega) low, offset, whole, first_of_set flag]
    exact congrArg (first :: ·) (Bytes.ofNat_toNat [b1, b2, b3])

theorem readHeader_bytes (fits : h.Fits) (here : payload.drop pos = h.bytes ++ rest) :
    readHeader payload pos (fBit ||| h.pt) = .ok h := by
  have three : (Bytes.ofNat 3 (h.tsOff.toNat * 1024 + h.length)).length = 3 := Bytes.length_ofNat ..
  have value : Bytes.toNat (Bytes.ofNat 3 (h.tsOff.toNat * 1024 + h.length)) =
      h.tsOff.toNat * 1024 + h.length := by
    apply Bytes.toNat_ofNat
    have := fits.tsOff
    have := fits.length
    omega
  rw [fits.bytes_eq] at here
  generalize Bytes.ofNat 3 (h.tsOff.toNat * 1024 + h.length) = bytes at three value here
  match bytes, three with
  | [b1, b2, b3], _ =>
    obtain ⟨offset, length⟩ := word_fields fits.length ((toNat_word b1 b2 b3).trans value)
    rw [readHeader_eq here]
    simp only [offset, length, (flag_of_masked fits.pt).2]

/-! The header loop. -/

theorem readHeaders_primary (clear : pt &&& fBit = 0) (here : payload.drop pos = pt :: rest) (hs : List Hdr) :
    readHeaders payload pos hs = .ok (hs, pt, pos + 1) := by
  have inside : ¬ payload.length ≤ pos := by
    intro ended
    simp [List.drop_eq_nil_of_le ended] at here
  rw [readHeaders, if_neg inside, Slice.get_bind here, if_pos clear, mask_of_clear clear]
  rfl

theorem readHeaders_redundant (fits : h.Fits) (here : payload.drop pos = h.bytes ++ rest) (hs : List Hdr) :
    readHeaders payload pos hs = readHeaders payload (pos + redundantHeaderLen) (hs ++ [h]) := by
  have length := congrArg List.length here
  simp only [List.length_drop, List.length_append, h.length_bytes, redundantHeaderLen] at length
  have first := here
  rw [fits.bytes_eq] at first
  have inside : ¬ payload.length ≤ pos := by omega
  have room : ¬ pos + redundantHeaderLen > payload.length := by simp only [redundantHeaderLen]; omega
  rw [readHeaders, if_neg inside, Slice.get_bind first, if_neg (flag_of_masked fits.pt).1, if_neg room,
    readHeader_bytes fits here]
  rfl

theorem readHeaders_short (hs : List Hdr) (short : payload.drop pos = [] ∨
      ∃ first rest, payload.drop pos = first :: rest ∧ first &&& fBit ≠ 0 ∧ rest.length < 3) :
    readHeaders payload pos hs = .error (.failed .malformed) := by
  rcases short with none | ⟨first, rest, here, flag, few⟩
  · rw [readHeaders, if_pos (List.drop_eq_nil_iff.mp none)]
  · have length := congrArg List.length here
    simp only [List.length_drop, List.length_cons] at length
    have inside : ¬ payload.length ≤ pos := by omega
    have room : pos + redundantHeaderLen > payload.length := by simp only [redundantHeaderLen]; omega
    rw [readHeaders, if_neg inside, Slice.get_bind here, if_neg flag, if_pos room]
    rfl

theorem input_cases (input : List UInt8) :
    (input = [] ∨ ∃ first rest, input = first :: rest ∧ first &&& fBit ≠ 0 ∧ rest.length < 3) ∨
      (∃ pt rest, pt &&& fBit = 0 ∧ input = pt :: rest) ∨
      ∃ (h : Hdr) (rest : List UInt8), h.Fits ∧ input = h.bytes ++ rest := by
  match input with
  | [] => exact .inl (.inl rfl)
  | first :: rest =>
    by_cases clear : first &&& fBit = 0
    · exact .inr (.inl ⟨first, rest, clear, rfl⟩)
    · match rest with
      | b1 :: b2 :: b3 :: rest =>
        obtain ⟨h, fits, bytes⟩ := exists_hdr b1 b2 b3 clear
        exact .inr (.inr ⟨h, rest, fits, by rw [bytes]; rfl⟩)
      | [] => exact .inl (.inr ⟨first, _, rfl, clear, by decide⟩)
      | [b1] | [b1, b2] => exact .inl (.inr ⟨first, _, rfl, clear, Nat.lt_of_sub_eq_succ rfl⟩)

theorem readHeaders_complete (clear : pt &&& fBit = 0) {new : List Hdr} (fits : ∀ h ∈ new, h.Fits)
    (here : payload.drop pos = new.flatMap Hdr.bytes ++ pt :: rest) (hs : List Hdr) :
    readHeaders payload pos hs = .ok (hs ++ new, pt, pos + (new.flatMap Hdr.bytes).length + 1) := by
  induction new generalizing pos hs with
  | nil => simpa using readHeaders_primary clear here hs
  | cons h new ih =>
    rw [List.flatMap_cons, List.append_assoc] at here
    have next := Slice.drop_add_of_drop here
    rw [readHeaders_redundant (fits h (by simp)) here, ← h.length_bytes,
      ih (fun g member => fits g (by simp [member])) next]
    simp [Nat.add_assoc]

theorem readHeaders_sound (payload : List UInt8) (pos : Nat) (hs : List Hdr) :
    readHeaders payload pos hs = .error (.failed .malformed) ∨
      ∃ (new : List Hdr) (pt : UInt8) (rest : List UInt8), (∀ h ∈ new, h.Fits) ∧ pt &&& fBit = 0 ∧
        payload.drop pos = new.flatMap Hdr.bytes ++ pt :: rest := by
  -- by induction on what is left of the input: a header is taken off at each turn
  generalize left : (payload.drop pos).length = n
  induction n using Nat.strong_induction_on generalizing pos hs with
  | _ n ih =>
    subst left
    rcases input_cases (payload.drop pos) with short | ⟨pt, rest, clear, here⟩ | ⟨h, rest, fits, here⟩
    · exact .inl (readHeaders_short hs short)
    · exact .inr ⟨[], pt, rest, by simp, clear, here⟩
    · have next := Slice.drop_add_of_drop here
      rw [readHeaders_redundant fits here, ← h.length_bytes]
      have fewer : rest.length < (payload.drop pos).length := by
        rw [here, List.length_append, h.length_bytes]
        simp [redundantHeaderLen]
      rcases ih rest.length fewer (pos + h.bytes.length) (hs ++ [h]) (by rw [next]) with failed | read
      · exact .inl failed
      · obtain ⟨new, pt, tail, all, clear, found⟩ := read
        refine .inr ⟨h :: new, pt, tail, ?_, clear, ?_⟩
        · simpa using ⟨fits, all⟩
        · rw [here, ← next, found, List.flatMap_cons, List.append_assoc]

/-! The data of the blocks. -/

variable {blocks : List Block}

theorem readPayloads_complete (inside : pos ≤ payload.length)
    (here : payload.drop pos = blocks.flatMap Block.payload ++ rest) (redundant : List Block) :
    readPayloads payload pos (blocks.map Block.hdr) redundant =
      .ok (redundant ++ blocks, pos + (blocks.flatMap Block.payload).length) := by
  induction blocks generalizing pos redundant with
  | nil => simp [readPayloads, pure, Except.pure]
  | cons b blocks ih =>
    rw [List.flatMap_cons, List.append_assoc] at here
    have length := congrArg List.length here
    simp only [List.length_drop, List.length_append] at length
    have room : ¬ pos + b.hdr.length > payload.length := by simp only [Block.hdr]; omega
    have next := ih (by omega) (Slice.drop_add_of_drop here) (redundant ++ [b])
    have width : pos + b.hdr.length = pos + b.payload.length := rfl
    rw [List.map_cons, readPayloads, if_neg room, Slice.range_bind here inside width]
    simpa [Block.hdr, Nat.add_assoc] using next

theorem readPayloads_sound (inside : pos ≤ payload.length) (hdrs : List Hdr) (redundant : List Block) :
    readPayloads payload pos hdrs redundant = .error (.failed .malformed) ∨
      ∃ (blocks : List Block) (rest : List UInt8), hdrs = blocks.map Block.hdr ∧
        payload.drop pos = blocks.flatMap Block.payload ++ rest := by
  induction hdrs generalizing pos redundant with
  | nil => exact .inr ⟨[], payload.drop pos, rfl, rfl⟩
  | cons h hdrs ih =>
    by_cases beyond : pos + h.length > payload.length
    · left
      rw [readPayloads, if_pos beyond]
      rfl
    · obtain ⟨data, size, here⟩ := Slice.drop_eq_append (s := payload) (i := pos) (n := h.length) (by omega)
      have width : pos + h.length = pos + data.length := by omega
      have hdr : (⟨h.pt, h.tsOff, data⟩ : Block).hdr = h := by rw [Block.hdr, size]
      have next : pos + h.length ≤ payload.length := by omega
      rcases ih next (redundant ++ [⟨h.pt, h.tsOff, data⟩]) with failed | found
      · left
        rw [readPayloads, if_neg beyond, Slice.range_bind here inside width]
        exact failed
      · obtain ⟨blocks, rest, rfl, tail⟩ := found
        refine .inr ⟨⟨h.pt, h.tsOff, data⟩ :: blocks, rest, by rw [List.map_cons, hdr], ?_⟩
        rw [here, tail, List.flatMap_cons, List.append_assoc]

/-! Payloads that are written and read. -/

def Parsed.wire (p : Parsed) : List UInt8 :=
  p.redundant.flatMap Block.header ++ [p.primaryType] ++ p.redundant.flatMap Block.payload ++ p.primaryPayload

structure Parsed.Carried (p : Parsed) : Prop where
  primary : p.primaryPayload ≠ []
  primaryType : p.primaryType &&& fBit = 0
  blocks : ∀ b ∈ p.redundant, b.hdr.Fits

theorem Parsed.wire_eq (p : Parsed) :
    p.wire = (p.redundant.map Block.hdr).flatMap Hdr.bytes ++
      p.primaryType :: (p.redundant.flatMap Block.payload ++ p.primaryPayload) := by
  have headers : (p.redundant.map Block.hdr).flatMap Hdr.bytes = p.redundant.flatMap Block.header := by
    rw [List.flatMap_map]
    rfl
  rw [headers, Parsed.wire]
  simp

theorem range_to_end (here : payload.drop pos = rest) (inside : pos ≤ payload.length) (f : List UInt8 → Reading Parsed) :
    (Slice.range payload pos payload.length >>= f) = f rest := by
  have length := congrArg List.length here
  rw [List.length_drop] at length
  have whole : payload.drop pos = rest ++ [] := by rw [here, List.append_nil]
  exact Slice.range_bind whole inside (by omega) f

variable {p : Parsed}

theorem parse_wire (clear : p.primaryType &&& fBit = 0) (blocks : ∀ b ∈ p.redundant, b.hdr.Fits) :
    parse p.wire = if p.primaryPayload.length = 0 then .error (.failed .malformed) else .ok p := by
  have fits : ∀ h ∈ p.redundant.map Block.hdr, h.Fits := by simpa using blocks
  have start : p.wire.drop 0 = _ := p.wire_eq
  have headers := readHeaders_complete clear fits start []
  set pos := 0 + ((p.redundant.map Block.hdr).flatMap Hdr.bytes).length + 1 with place
  have data : p.wire.drop pos = p.redundant.flatMap Block.payload ++ p.primaryPayload := by
    rw [place, p.wire_eq, Nat.zero_add, ← List.drop_drop, List.drop_left]
    rfl
  have inside : pos ≤ p.wire.length := by
    rw [place, p.wire_eq, List.length_append, List.length_cons]
    omega
  have payloads := readPayloads_complete inside data []
  have rest := Slice.drop_add_of_drop data
  have length := congrArg List.length data
  rw [List.length_drop, List.length_append] at length
  rw [parse, headers]
  show (readPayloads p.wire pos (p.redundant.map Block.hdr) [] >>= _) = _
  rw [payloads]
  show (Slice.range p.wire (pos + (p.redundant.flatMap Block.payload).length) p.wire.length >>= _) = _
  rw [range_to_end rest (by omega)]
  rfl

theorem Parsed.Carried.parse_wire (carried : p.Carried) : parse p.wire = .ok p := by
  rw [Red.parse_wire carried.primaryType carried.blocks, if_neg (by simpa using carried.primary)]

theorem parse_cases (payload : List UInt8) :
    parse payload = .error (.failed .malformed) ∨ ∃ p : Parsed, p.Carried ∧ payload = p.wire := by
  rcases readHeaders_sound payload 0 [] with failed | ⟨hdrs, pt, rest, fits, clear, here⟩
  · left
    rw [parse, failed]
    rfl
  have headers := readHeaders_complete clear fits here []
  set pos := 0 + (hdrs.flatMap Hdr.bytes).length + 1 with place
  rw [List.drop_zero] at here
  have data : payload.drop pos = rest := by
    rw [place, here, Nat.zero_add, ← List.drop_drop, List.drop_left]
    rfl
  have inside : pos ≤ payload.length := by
    rw [place, here, List.length_append, List.length_cons]
    omega
  rcases readPayloads_sound inside hdrs [] with failed | ⟨blocks, primary, rfl, found⟩
  · left
    rw [parse, headers]
    show (readPayloads payload pos hdrs [] >>= _) = _
    rw [failed]
    rfl
  have known : ∀ b ∈ blocks, b.hdr.Fits := by simpa using fits
  have whole : payload = Parsed.wire ⟨blocks, pt, primary⟩ := by
    rw [Parsed.wire_eq, ← found, data, ← here]
  by_cases none : primary.length = 0
  · left
    rw [whole, parse_wire clear known, if_pos none]
  · exact .inr ⟨⟨blocks, pt, primary⟩, ⟨by simpa using none, clear, known⟩, whole⟩

theorem parse_ok_iff : parse payload = .ok p ↔ p.Carried ∧ payload = p.wire := by
  constructor
  · intro parsed
    rcases parse_cases payload with failed | ⟨q, carried, rfl⟩
    · rw [failed] at parsed
      cases parsed
    · rw [carried.parse_wire] at parsed
      cases parsed
      exact ⟨carried, rfl⟩
  · rintro ⟨carried, rfl⟩
    exact carried.parse_wire

/-! Encoding. -/

def Block.InRange (b : Block) : Prop := b.payload.length ≤ 1023 ∧ b.timestampOffsetSamples.toNat ≤ 16383

theorem checkBlocks_ok_iff {i : Nat} : checkBlocks i blocks = .ok () ↔ ∀ b ∈ blocks, b.InRange := by
  induction blocks generalizing i with
  | nil => simp [checkBlocks]
  | cons b blocks ih =>
    have offset : b.timestampOffsetSamples > maxTimestampOffset ↔ ¬ b.timestampOffsetSamples.toNat ≤ 16383 := by
      rw [gt_iff_lt, UInt32.lt_iff_toNat_lt, not_le]
      rfl
    rw [List.forall_mem_cons, ← @ih (i + 1), checkBlocks, Block.InRange]
    split
    · next long =>
      have : ¬ b.payload.length ≤ 1023 := not_le.mpr long
      simp [this]
    · next short =>
      have : b.payload.length ≤ 1023 := not_lt.mp short
      split
      · next far => simp [offset.mp far]
      · next near => simp [this, not_not.mp (mt offset.mpr near)]

def Block.reduced (b : Block) : Block := { b with payloadType := b.payloadType &&& payloadTypeMask }

theorem masked_clear (b : UInt8) : b &&& payloadTypeMask &&& fBit = 0 := by
  have bits : payloadTypeMask &&& fBit = 0 := rfl
  rw [UInt8.and_assoc, bits, UInt8.and_zero]

theorem masked_masked (b : UInt8) : b &&& payloadTypeMask &&& payloadTypeMask = b &&& payloadTypeMask := by
  have bits : payloadTypeMask &&& payloadTypeMask = payloadTypeMask := rfl
  rw [UInt8.and_assoc, bits]

theorem Block.header_reduced (b : Block) : b.reduced.header = b.header := by
  simp only [Block.header, Block.reduced, Red.header, masked_masked]

def sent (primaryPayloadType : UInt8) (primary : List UInt8) (redundant : List Block) : Parsed :=
  ⟨redundant.map Block.reduced, primaryPayloadType &&& payloadTypeMask, primary⟩

variable {redundant : List Block}

theorem encode_eq (there : primary ≠ []) (inRange : ∀ b ∈ redundant, b.InRange) :
    encode pt primary redundant = .ok (sent pt primary redundant).wire := by
  have headers : (redundant.map Block.reduced).flatMap Block.header = redundant.flatMap Block.header := by
    rw [List.flatMap_map]
    exact List.flatMap_congr fun b _ => b.header_reduced
  have payloads : (redundant.map Block.reduced).flatMap Block.payload = redundant.flatMap Block.payload := by
    rw [List.flatMap_map]
    rfl
  rw [encode, if_neg (by simpa using there), checkBlocks_ok_iff.mpr inRange, sent, Parsed.wire, headers, payloads]
  rfl

theorem encode_ok_iff : (∃ out, encode pt primary redundant = .ok out) ↔ primary ≠ [] ∧ ∀ b ∈ redundant, b.InRange := by
  constructor
  · rintro ⟨out, encoded⟩
    rw [encode] at encoded
    split at encoded
    · cases encoded
    · next there =>
      cases checked : checkBlocks 0 redundant with
      | error e =>
        rw [checked] at encoded
        cases encoded
      | ok => exact ⟨by simpa using there, checkBlocks_ok_iff.mp checked⟩
  · rintro ⟨there, inRange⟩
    exact ⟨_, encode_eq there inRange⟩

theorem sent_carried (there : primary ≠ []) (inRange : ∀ b ∈ redundant, b.InRange) :
    (sent pt primary redundant).Carried := by
  constructor
  · exact there
  · exact masked_clear pt
  · intro b member
    obtain ⟨a, given, rfl⟩ := List.mem_map.mp member
    exact ⟨masked_masked _, (inRange a given).2, (inRange a given).1⟩

theorem Parsed.Carried.sent_eq (carried : p.Carried) : sent p.primaryType p.primaryPayload p.redundant = p := by
  have blocks : p.redundant.map Block.reduced = p.redundant := by
    rw [List.map_congr_left fun b member => ?_, List.map_id]
    rw [Block.reduced]
    exact congrArg (fun pt => ({ b with payloadType := pt } : Block)) (carried.blocks b member).pt
  rw [sent, blocks, mask_of_clear carried.primaryType]

theorem Parsed.Carried.inRange (carried : p.Carried) : ∀ b ∈ p.redundant, b.InRange :=
  fun b member => ⟨(carried.blocks b member).length, (carried.blocks b member).tsOff⟩

theorem red_round_trips :
    (∀ (pt : UInt8) (primary : List UInt8) (redundant : List Block),
      ((∃ out, encode pt primary redundant = .ok out) ↔
        primary ≠ [] ∧ ∀ b ∈ redundant, b.payload.length ≤ 1023 ∧ b.timestampOffsetSamples.toNat ≤ 16383) ∧
      ∀ out, encode pt primary redundant = .ok out →
        parse out = .ok ⟨redundant.map Block.reduced, pt &&& 0x7f, primary⟩) ∧
    (∀ (payload : List UInt8) (p : Parsed), parse payload = .ok p →
      encode p.primaryType p.primaryPayload p.redundant = .ok payload) ∧
    ∀ payload : List UInt8, parse payload ≠ .error .outOfRange := by
  refine ⟨fun pt primary redundant => ⟨encode_ok_iff, ?_⟩, ?_, ?_⟩
  · intro out encoded
    obtain ⟨there, inRange⟩ := encode_ok_iff.mp ⟨out, encoded⟩
    rw [encode_eq there inRange] at encoded
    cases encoded
    exact (sent_carried there inRange).parse_wire
  · intro payload p parsed
    obtain ⟨carried, rfl⟩ := parse_ok_iff.mp parsed
    rw [encode_eq carried.primary carried.inRange, carried.sent_eq]
  · intro payload outside
    rcases parse_cases payload with failed | ⟨p, carried, rfl⟩
    · rw [failed] at outside
      cases outside
    · rw [carried.parse_wire] at outside
      cases outside

end Relay.Red
