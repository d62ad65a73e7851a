import Relay.Lib.Slice

/-! The pks-opus-v1 messages of a WebSocket publisher: a header of fixed layout and one Opus
packet, whose duration is told by its first octets. -/
namespace Relay.Ingress

open Slice (refuseIf)

def headerBytes : Nat := 40
def maxPayloadBytes : Nat := 1275
def maxMessageBytes : Nat := headerBytes + maxPayloadBytes
def frameSamples : UInt16 := 960

inductive Error where
  | frame
deriving DecidableEq

def Error.message : Error → String
  | .frame => "invalid pks-opus-v1 frame"

abbrev Reading := Except (Fault Error)

structure Frame where
  sequence : UInt64
  timestampSamples : UInt32
  captureTimestampNs : UInt64
  outputGeneration : UInt64
  channels : UInt8
  payload : List UInt8
deriving DecidableEq

/-- The octets of `"PKSO"`. -/
def magic : List UInt8 := [0x50, 0x4b, 0x53, 0x4f]

/-- `binary.BigEndian` on `message[lo:hi]`. -/
def bigEndian (message : List UInt8) (lo hi : Nat) : Reading Nat := do
  let bytes ← Slice.range message lo hi
  return Bytes.toNat bytes

def samplesOf (configuration : UInt8) : Reading UInt16 :=
  if configuration < 12 then Slice.get [480, 960, 1920, 2880] (configuration &&& 3).toNat
  else if configuration < 16 then .ok (480 <<< (configuration &&& 1).toUInt16)
  else .ok (120 <<< (configuration &&& 3).toUInt16)

def countOf (payload : List UInt8) (toc : UInt8) : Reading UInt16 :=
  match (toc &&& 3).toNat with
  | 1 | 2 => .ok 2
  | 3 => do
    refuseIf (payload.length < 2) .frame
    let second ← Slice.get payload 1
    return (second &&& 63).toUInt16
  | _ => .ok 1

def checkPacket (payload : List UInt8) : Reading Unit := do
  let toc ← Slice.get payload 0
  let samples ← samplesOf (toc >>> 3)
  let count ← countOf payload toc
  refuseIf (count = 0 ∨ samples * count ≠ frameSamples) .frame

/-- The conditions on the header, each read only after those before it held. -/
def checkHeader (message : List UInt8) : Reading Unit := do
  refuseIf (message.length ≤ headerBytes ∨ message.length > maxMessageBytes) .frame
  let start ← Slice.range message 0 4
  refuseIf (start ≠ magic) .frame
  let version ← Slice.get message 4
  refuseIf (version ≠ 1) .frame
  let channels ← Slice.get message 5
  refuseIf (channels ≠ 1 ∧ channels ≠ 2) .frame
  let reserved ← Slice.get message 6
  refuseIf (reserved ≠ 0) .frame
  let reserved ← Slice.get message 7
  refuseIf (reserved ≠ 0) .frame
  let duration ← bigEndian message 20 22
  refuseIf (UInt16.ofNat duration ≠ frameSamples) .frame
  let length ← bigEndian message 22 24
  refuseIf ((UInt16.ofNat length).toNat ≠ message.length - headerBytes) .frame

def parse (message : List UInt8) : Reading Frame := do
  checkHeader message
  let payload ← Slice.range message headerBytes message.length
  checkPacket payload
  let sequence ← bigEndian message 8 16
  let timestampSamples ← bigEndian message 16 20
  let captureTimestampNs ← bigEndian message 24 32
  let outputGeneration ← bigEndian message 32 40
  let channels ← Slice.get message 5
  return ⟨UInt64.ofNat sequence, UInt32.ofNat timestampSamples, UInt64.ofNat captureTimestampNs,
    UInt64.ofNat outputGeneration, channels, payload⟩


/-! The format: an Opus packet of 20 ms, and the header before it. -/

/-- The samples of one frame at 48 kHz by TOC configuration, as in RFC 6716, section 3.1. -/
def tocDuration (configuration : Nat) : Nat :=
  ([480, 960, 1920, 2880,  480, 960, 1920, 2880,  480, 960, 1920, 2880,  480, 960,  480, 960,
    120, 240, 480, 960,  120, 240, 480, 960,  120, 240, 480, 960,  120, 240, 480, 960] : List Nat).getD configuration 0

def frameCount (toc : UInt8) (rest : List UInt8) : Option Nat :=
  match toc.toNat % 4 with
  | 0 => some 1
  | 1 | 2 => some 2
  | _ => rest.head?.map (·.toNat % 64)

def Timed : List UInt8 → Prop
  | [] => False
  | toc :: rest => ∃ n, frameCount toc rest = some n ∧ 1 ≤ n ∧ tocDuration (toc.toNat / 8) * n = 960

def Frame.wire (f : Frame) : List UInt8 :=
  magic ++ [1, f.channels, 0, 0] ++ Bytes.ofNat 8 f.sequence.toNat ++ Bytes.ofNat 4 f.timestampSamples.toNat
    ++ Bytes.ofNat 2 960 ++ Bytes.ofNat 2 f.payload.length ++ Bytes.ofNat 8 f.captureTimestampNs.toNat
    ++ Bytes.ofNat 8 f.outputGeneration.toNat ++ f.payload

structure Frame.Contract (f : Frame) : Prop where
  channels : f.channels = 1 ∨ f.channels = 2
  length : 1 ≤ f.payload.length ∧ f.payload.length ≤ 1275
  timed : Timed f.payload

/-! The duration of a packet. The product of the code is taken modulo 2^16. -/

theorem samplesOf_toc (toc : UInt8) :
    samplesOf (toc >>> 3) = .ok (UInt16.ofNat (tocDuration (toc.toNat / 8))) := by
  have all : ∀ n < 256, (samplesOf (UInt8.ofNat n >>> 3)).toOption =
      some (UInt16.ofNat (tocDuration ((UInt8.ofNat n).toNat / 8))) := by
    decide +kernel
  have here := all toc.toNat toc.toNat_lt
  rw [UInt8.ofNat_toNat] at here
  cases read : samplesOf (toc >>> 3) with
  | error e => simp [read, Except.toOption] at here
  | ok samples => simpa [read, Except.toOption] using here

theorem low_bits (toc : UInt8) : (toc &&& 3).toNat = toc.toNat % 4 := by
  rw [UInt8.toNat_and]
  exact Nat.and_two_pow_sub_one_eq_mod toc.toNat 2

theorem coded_count (b : UInt8) : (b &&& 63).toUInt16 = UInt16.ofNat (b.toNat % 64) := by
  have bits : (b &&& 63).toNat = b.toNat % 64 := by
    rw [UInt8.toNat_and]
    exact Nat.and_two_pow_sub_one_eq_mod b.toNat 6
  apply UInt16.toNat_inj.mp
  rw [UInt8.toNat_toUInt16, bits, UInt16.toNat_ofNat']
  omega

theorem countOf_eq (toc : UInt8) (rest : List UInt8) :
    countOf (toc :: rest) toc =
      match frameCount toc rest with
      | some n => .ok (UInt16.ofNat n)
      | none => .error (.failed .frame) := by
  rw [countOf, low_bits, frameCount]
  have few : toc.toNat % 4 < 4 := Nat.mod_lt _ (by decide)
  match toc.toNat % 4, few with
  | 0, _ => rfl
  | 1, _ => rfl
  | 2, _ => rfl
  | 3, _ =>
    cases rest with
    | nil => rfl
    | cons b rest =>
      have second : (toc :: b :: rest).drop 1 = b :: rest := rfl
      have long : ¬ (toc :: b :: rest).length < 2 := by simp
      show (refuseIf ((toc :: b :: rest).length < 2) .frame >>= _) = _
      rw [Slice.refuseIf_bind, if_neg long, Slice.get_bind second, coded_count]
      rfl

variable {m x : List UInt8} {n : Nat}

theorem frameCount_lt {toc : UInt8} {rest : List UInt8} (count : frameCount toc rest = some n) : n < 64 := by
  rw [frameCount] at count
  split at count
  · cases count
    decide
  · cases count
    decide
  · cases count
    decide
  · obtain ⟨b, _, rfl⟩ := Option.map_eq_some_iff.mp count
    exact Nat.mod_lt _ (by decide)

theorem product_exact {configuration : Nat} (known : configuration < 32) (few : n < 64) :
    (UInt16.ofNat n = 0 ∨ UInt16.ofNat (tocDuration configuration) * UInt16.ofNat n ≠ frameSamples) ↔
      ¬ (1 ≤ n ∧ tocDuration configuration * n = 960) := by
  have all : ∀ configuration < 32, ∀ n < 64,
      (UInt16.ofNat n = 0 ∨ UInt16.ofNat (tocDuration configuration) * UInt16.ofNat n ≠ frameSamples) ↔
        ¬ (1 ≤ n ∧ tocDuration configuration * n = 960) := by
    decide +kernel
  exact all configuration known n few

theorem checkPacket_cases {payload : List UInt8} (there : payload ≠ []) :
    (Timed payload ∧ checkPacket payload = .ok ()) ∨
      (¬ Timed payload ∧ checkPacket payload = .error (.failed .frame)) := by
  match payload with
  | [] => exact absurd rfl there
  | toc :: rest =>
    have first : (toc :: rest).drop 0 = toc :: rest := rfl
    have known : toc.toNat / 8 < 32 := by
      have := toc.toNat_lt
      omega
    have run : checkPacket (toc :: rest) =
        (countOf (toc :: rest) toc >>= fun count =>
          refuseIf (count = 0 ∨ UInt16.ofNat (tocDuration (toc.toNat / 8)) * count ≠ frameSamples) .frame) := by
      rw [checkPacket, Slice.get_bind first, samplesOf_toc]
      rfl
    rw [run, countOf_eq]
    cases count : frameCount toc rest with
    | none =>
      right
      constructor
      · rintro ⟨n, counted, _⟩
        rw [count] at counted
        cases counted
      · rfl
    | some n =>
      have exact_product := product_exact known (frameCount_lt count)
      show (_ ∧ refuseIf _ _ = _) ∨ (_ ∧ refuseIf _ _ = _)
      rw [refuseIf]
      by_cases good : 1 ≤ n ∧ tocDuration (toc.toNat / 8) * n = 960
      · left
        rw [if_neg (mt exact_product.mp (not_not.mpr good))]
        exact ⟨⟨n, count, good⟩, rfl⟩
      · right
        rw [if_pos (exact_product.mpr good)]
        constructor
        · rintro ⟨k, counted, product⟩
          rw [count] at counted
          cases counted
          exact good product
        · rfl

/-! The header. -/

structure Layout where
  start : List UInt8
  version : UInt8
  channels : UInt8
  reserved : UInt8 × UInt8
  sequence : List UInt8
  timestamp : List UInt8
  duration : List UInt8
  length : List UInt8
  capture : List UInt8
  generation : List UInt8
  payload : List UInt8

namespace Layout

def bytes (l : Layout) : List UInt8 :=
  l.start ++ (l.version :: l.channels :: l.reserved.1 :: l.reserved.2 :: (l.sequence ++ (l.timestamp ++
    (l.duration ++ (l.length ++ (l.capture ++ (l.generation ++ l.payload)))))))

structure Sized (l : Layout) : Prop where
  start : l.start.length = 4
  sequence : l.sequence.length = 8
  timestamp : l.timestamp.length = 4
  duration : l.duration.length = 2
  length : l.length.length = 2
  capture : l.capture.length = 8
  generation : l.generation.length = 8

theorem Sized.length_bytes {l : Layout} (sized : l.Sized) : l.bytes.length = 40 + l.payload.length := by
  simp only [bytes, List.length_append, List.length_cons, sized.start, sized.sequence, sized.timestamp,
    sized.duration, sized.length, sized.capture, sized.generation]
  omega

theorem exists_of_length {m : List UInt8} (long : 40 ≤ m.length) : ∃ l : Layout, l.Sized ∧ l.bytes = m := by
  obtain ⟨start, size₀, cut₀⟩ := Slice.drop_eq_append (s := m) (i := 0) (n := 4) (by omega)
  obtain ⟨fixed, size₁, cut₁⟩ := Slice.drop_eq_append (s := m) (i := 4) (n := 4) (by omega)
  obtain ⟨sequence, size₂, cut₂⟩ := Slice.drop_eq_append (s := m) (i := 8) (n := 8) (by omega)
  obtain ⟨timestamp, size₃, cut₃⟩ := Slice.drop_eq_append (s := m) (i := 16) (n := 4) (by omega)
  obtain ⟨duration, size₄, cut₄⟩ := Slice.drop_eq_append (s := m) (i := 20) (n := 2) (by omega)
  obtain ⟨length, size₅, cut₅⟩ := Slice.drop_eq_append (s := m) (i := 22) (n := 2) (by omega)
  obtain ⟨capture, size₆, cut₆⟩ := Slice.drop_eq_append (s := m) (i := 24) (n := 8) (by omega)
  obtain ⟨generation, size₇, cut₇⟩ := Slice.drop_eq_append (s := m) (i := 32) (n := 8) (by omega)
  match fixed, size₁ with
  | [version, channels, r₁, r₂], _ =>
    refine ⟨⟨start, version, channels, (r₁, r₂), sequence, timestamp, duration, length, capture, generation,
      m.drop 40⟩, ⟨size₀, size₂, size₃, size₄, size₅, size₆, size₇⟩, ?_⟩
    calc _ = start ++ ([version, channels, r₁, r₂] ++ (sequence ++ (timestamp ++ (duration ++ (length ++
            (capture ++ (generation ++ m.drop 40))))))) := rfl
      _ = m := by rw [← cut₇, ← cut₆, ← cut₅, ← cut₄, ← cut₃, ← cut₂, ← cut₁, ← cut₀, List.drop_zero]

variable {l : Layout}

structure Placed (l : Layout) : Prop where
  at0 : ∃ rest, l.bytes.drop 0 = l.start ++ rest
  at4 : ∃ rest, l.bytes.drop 4 = l.version :: rest
  at5 : ∃ rest, l.bytes.drop 5 = l.channels :: rest
  at6 : ∃ rest, l.bytes.drop 6 = l.reserved.1 :: rest
  at7 : ∃ rest, l.bytes.drop 7 = l.reserved.2 :: rest
  at8 : ∃ rest, l.bytes.drop 8 = l.sequence ++ rest
  at16 : ∃ rest, l.bytes.drop 16 = l.timestamp ++ rest
  at20 : ∃ rest, l.bytes.drop 20 = l.duration ++ rest
  at22 : ∃ rest, l.bytes.drop 22 = l.length ++ rest
  at24 : ∃ rest, l.bytes.drop 24 = l.capture ++ rest
  at32 : ∃ rest, l.bytes.drop 32 = l.generation ++ rest
  at40 : l.bytes.drop 40 = l.payload

theorem Sized.placed (sized : l.Sized) : l.Placed := by
  have at0 : l.bytes.drop 0 = l.start ++ _ := rfl
  have at4 := Slice.drop_add_of_drop at0
  rw [sized.start] at at4
  have at5 := Slice.drop_add_of_drop (x := [l.version]) at4
  have at6 := Slice.drop_add_of_drop (x := [l.channels]) at5
  have at7 := Slice.drop_add_of_drop (x := [l.reserved.1]) at6
  have at8 := Slice.drop_add_of_drop (x := [l.reserved.2]) at7
  have at16 := Slice.drop_add_of_drop at8
  rw [sized.sequence] at at16
  have at20 := Slice.drop_add_of_drop at16
  rw [sized.timestamp] at at20
  have at22 := Slice.drop_add_of_drop at20
  rw [sized.duration] at at22
  have at24 := Slice.drop_add_of_drop at22
  rw [sized.length] at at24
  have at32 := Slice.drop_add_of_drop at24
  rw [sized.capture] at at32
  have at40 := Slice.drop_add_of_drop at32
  rw [sized.generation] at at40
  exact ⟨⟨_, at0⟩, ⟨_, at4⟩, ⟨_, at5⟩, ⟨_, at6⟩, ⟨_, at7⟩, ⟨_, at8⟩, ⟨_, at16⟩, ⟨_, at20⟩, ⟨_, at22⟩, ⟨_, at24⟩,
    ⟨_, at32⟩, at40⟩

structure Accepted (l : Layout) : Prop where
  start : l.start = magic
  version : l.version = 1
  channels : l.channels = 1 ∨ l.channels = 2
  reserved : l.reserved = (0, 0)
  duration : Bytes.toNat l.duration = 960
  length : Bytes.toNat l.length = l.payload.length
  bounds : 1 ≤ l.payload.length ∧ l.payload.length ≤ 1275

end Layout

theorem bigEndian_bind {α : Type} {lo hi : Nat} (here : ∃ rest, m.drop lo = x ++ rest) (inside : lo ≤ m.length)
    (width : hi = lo + x.length) (f : Nat → Reading α) : (bigEndian m lo hi >>= f) = f (Bytes.toNat x) := by
  obtain ⟨rest, here⟩ := here
  rw [bigEndian, Slice.range_of_drop here inside width]
  rfl

theorem toNat_two (two : x.length = 2) : (UInt16.ofNat (Bytes.toNat x)).toNat = Bytes.toNat x := by
  have bound := Bytes.toNat_lt x
  rw [two] at bound
  rw [UInt16.toNat_ofNat']
  omega

variable {l : Layout}

theorem checkHeader_layout (sized : l.Sized) :
    (l.Accepted ∧ checkHeader l.bytes = .ok ()) ∨
      (¬ l.Accepted ∧ checkHeader l.bytes = .error (.failed .frame)) := by
  have placed := sized.placed
  have length := sized.length_bytes
  obtain ⟨_, at0⟩ := placed.at0
  obtain ⟨_, at4⟩ := placed.at4
  obtain ⟨_, at5⟩ := placed.at5
  obtain ⟨_, at6⟩ := placed.at6
  obtain ⟨_, at7⟩ := placed.at7
  have short : l.bytes.length ≤ headerBytes ∨ l.bytes.length > maxMessageBytes ↔
      ¬ (1 ≤ l.payload.length ∧ l.payload.length ≤ 1275) := by
    simp only [headerBytes, maxMessageBytes, maxPayloadBytes]
    omega
  have duration : UInt16.ofNat (Bytes.toNat l.duration) ≠ frameSamples ↔ ¬ Bytes.toNat l.duration = 960 := by
    rw [ne_eq, ← UInt16.toNat_inj, toNat_two sized.duration]
    rfl
  have declared : (UInt16.ofNat (Bytes.toNat l.length)).toNat ≠ l.bytes.length - headerBytes ↔
      ¬ Bytes.toNat l.length = l.payload.length := by
    rw [toNat_two sized.length, length, headerBytes, Nat.add_sub_cancel_left]
  have run : checkHeader l.bytes =
      if (l.bytes.length ≤ headerBytes ∨ l.bytes.length > maxMessageBytes) ∨ l.start ≠ magic ∨ l.version ≠ 1 ∨
          (l.channels ≠ 1 ∧ l.channels ≠ 2) ∨ l.reserved.1 ≠ 0 ∨ l.reserved.2 ≠ 0 ∨
          UInt16.ofNat (Bytes.toNat l.duration) ≠ frameSamples ∨
          (UInt16.ofNat (Bytes.toNat l.length)).toNat ≠ l.bytes.length - headerBytes
        then .error (.failed .frame) else .ok () := by
    rw [checkHeader, Slice.refuseIf_bind]
    simp only [ite_or]
    rw [Slice.range_bind at0 (by omega) (by rw [sized.start]), Slice.refuseIf_bind, Slice.get_bind at4,
      Slice.refuseIf_bind, Slice.get_bind at5, Slice.refuseIf_bind, Slice.get_bind at6, Slice.refuseIf_bind,
      Slice.get_bind at7, Slice.refuseIf_bind, bigEndian_bind placed.at20 (by omega) (by rw [sized.duration]),
      Slice.refuseIf_bind, bigEndian_bind placed.at22 (by omega) (by rw [sized.length])]
    rfl
  have refused : ((l.bytes.length ≤ headerBytes ∨ l.bytes.length > maxMessageBytes) ∨ l.start ≠ magic ∨
      l.version ≠ 1 ∨ (l.channels ≠ 1 ∧ l.channels ≠ 2) ∨ l.reserved.1 ≠ 0 ∨ l.reserved.2 ≠ 0 ∨
      UInt16.ofNat (Bytes.toNat l.duration) ≠ frameSamples ∨
      (UInt16.ofNat (Bytes.toNat l.length)).toNat ≠ l.bytes.length - headerBytes) ↔ ¬ l.Accepted := by
    rw [short, duration, declared]
    constructor
    · rintro (bounds | start | version | channels | first | second | duration | length) accepted
      · exact bounds accepted.bounds
      · exact start accepted.start
      · exact version accepted.version
      · exact accepted.channels.elim channels.1 channels.2
      · exact first (congrArg Prod.fst accepted.reserved)
      · exact second (congrArg Prod.snd accepted.reserved)
      · exact duration accepted.duration
      · exact length accepted.length
    · intro bad
      by_contra good
      push Not at good
      obtain ⟨bounds, start, version, channels, first, second, duration, length⟩ := good
      apply bad
      have either : l.channels = 1 ∨ l.channels = 2 := or_iff_not_imp_left.mpr channels
      exact ⟨start, version, either, Prod.ext first second, duration, length, bounds⟩
  by_cases accepted : l.Accepted
  · left
    rw [run, if_neg (mt refused.mp (not_not.mpr accepted))]
    exact ⟨accepted, rfl⟩
  · right
    rw [run, if_pos (refused.mpr accepted)]
    exact ⟨accepted, rfl⟩

def Layout.frame (l : Layout) : Frame :=
  ⟨UInt64.ofNat (Bytes.toNat l.sequence), UInt32.ofNat (Bytes.toNat l.timestamp),
    UInt64.ofNat (Bytes.toNat l.capture), UInt64.ofNat (Bytes.toNat l.generation), l.channels, l.payload⟩

theorem parse_layout (sized : l.Sized) :
    (l.Accepted ∧ Timed l.payload ∧ parse l.bytes = .ok l.frame) ∨
      (¬ (l.Accepted ∧ Timed l.payload) ∧ parse l.bytes = .error (.failed .frame)) := by
  have placed := sized.placed
  have length := sized.length_bytes
  obtain ⟨_, at5⟩ := placed.at5
  rcases checkHeader_layout sized with ⟨accepted, checked⟩ | ⟨refused, failed⟩
  · have run : parse l.bytes = (checkPacket l.payload >>= fun _ => .ok l.frame) := by
      have rest : l.bytes.drop headerBytes = l.payload ++ [] := by rw [List.append_nil]; exact placed.at40
      rw [parse, checked]
      show (Slice.range l.bytes headerBytes l.bytes.length >>= _) = _
      rw [Slice.range_bind rest (by simp only [headerBytes]; omega) (by simp only [headerBytes]; omega)]
      congr 1
      funext _
      rw [bigEndian_bind placed.at8 (by omega) (by rw [sized.sequence]),
        bigEndian_bind placed.at16 (by omega) (by rw [sized.timestamp]),
        bigEndian_bind placed.at24 (by omega) (by rw [sized.capture]),
        bigEndian_bind placed.at32 (by omega) (by rw [sized.generation]), Slice.get_bind at5]
      rfl
    have there : l.payload ≠ [] := by
      intro none
      have := accepted.bounds.1
      rw [none] at this
      simp at this
    rcases checkPacket_cases there with ⟨timed, packet⟩ | ⟨untimed, packet⟩
    · left
      rw [run, packet]
      exact ⟨accepted, timed, rfl⟩
    · right
      rw [run, packet]
      exact ⟨fun both => untimed both.2, rfl⟩
  · right
    rw [parse, failed]
    exact ⟨fun both => refused both.1, rfl⟩

/-! Messages and frames. -/

theorem ofNat_toNat_eq {w : Nat} (size : x.length = w) (value : n = Bytes.toNat x) : Bytes.ofNat w n = x := by
  rw [value, ← size, Bytes.ofNat_toNat]

theorem Layout.Accepted.wire_frame (accepted : l.Accepted) (sized : l.Sized) : l.frame.wire = l.bytes := by
  have wide {x : List UInt8} (size : x.length = 8) : (UInt64.ofNat (Bytes.toNat x)).toNat = Bytes.toNat x := by
    have bound := Bytes.toNat_lt x
    rw [size] at bound
    rw [UInt64.toNat_ofNat']
    omega
  have stamp : (UInt32.ofNat (Bytes.toNat l.timestamp)).toNat = Bytes.toNat l.timestamp := by
    have bound := Bytes.toNat_lt l.timestamp
    rw [sized.timestamp] at bound
    rw [UInt32.toNat_ofNat']
    omega
  simp only [Frame.wire, Layout.frame]
  rw [ofNat_toNat_eq sized.sequence (wide sized.sequence), ofNat_toNat_eq sized.timestamp stamp,
    ofNat_toNat_eq sized.duration accepted.duration.symm, ofNat_toNat_eq sized.length accepted.length.symm,
    ofNat_toNat_eq sized.capture (wide sized.capture), ofNat_toNat_eq sized.generation (wide sized.generation),
    Layout.bytes, accepted.start, accepted.version, accepted.reserved]
  simp

def Frame.layout (f : Frame) : Layout :=
  ⟨magic, 1, f.channels, (0, 0), Bytes.ofNat 8 f.sequence.toNat, Bytes.ofNat 4 f.timestampSamples.toNat,
    Bytes.ofNat 2 960, Bytes.ofNat 2 f.payload.length, Bytes.ofNat 8 f.captureTimestampNs.toNat,
    Bytes.ofNat 8 f.outputGeneration.toNat, f.payload⟩

theorem Frame.layout_sized (f : Frame) : f.layout.Sized := by
  constructor
  · rfl
  all_goals exact Bytes.length_ofNat ..

theorem Frame.bytes_layout (f : Frame) : f.layout.bytes = f.wire := by
  simp [Frame.layout, Layout.bytes, Frame.wire]

theorem Frame.Contract.accepted {f : Frame} (contract : f.Contract) : f.layout.Accepted := by
  have few := contract.length.2
  constructor
  · rfl
  · rfl
  · exact contract.channels
  · rfl
  · exact Bytes.toNat_ofNat (by decide)
  · exact Bytes.toNat_ofNat (lt_of_le_of_lt few (by decide))
  · exact contract.length

theorem Layout.Accepted.contract (accepted : l.Accepted) (timed : Timed l.payload) : l.frame.Contract :=
  ⟨accepted.channels, accepted.bounds, timed⟩

theorem parse_short (short : m.length < 40) : parse m = .error (.failed .frame) := by
  have bound : m.length ≤ headerBytes ∨ m.length > maxMessageBytes := .inl (Nat.le_of_lt short)
  rw [parse, checkHeader, Slice.refuseIf_bind, if_pos bound]
  rfl

theorem parse_cases (m : List UInt8) :
    (∃ f : Frame, f.Contract ∧ m = f.wire ∧ parse m = .ok f) ∨
      ((¬ ∃ f : Frame, f.Contract ∧ m = f.wire) ∧ parse m = .error (.failed .frame)) := by
  have length_wire (f : Frame) : f.wire.length = 40 + f.payload.length := by
    rw [← f.bytes_layout, f.layout_sized.length_bytes]
    rfl
  by_cases long : 40 ≤ m.length
  · obtain ⟨l, sized, rfl⟩ := Layout.exists_of_length long
    rcases parse_layout sized with ⟨accepted, timed, parsed⟩ | ⟨refused, failed⟩
    · exact .inl ⟨l.frame, accepted.contract timed, (accepted.wire_frame sized).symm, parsed⟩
    · right
      refine ⟨?_, failed⟩
      rintro ⟨f, contract, same⟩
      rcases parse_layout f.layout_sized with ⟨_, _, parsed⟩ | ⟨bad, _⟩
      · rw [f.bytes_layout, ← same, failed] at parsed
        cases parsed
      · exact bad ⟨contract.accepted, contract.timed⟩
  · right
    refine ⟨?_, parse_short (not_le.mp long)⟩
    rintro ⟨f, _, rfl⟩
    have := length_wire f
    omega

theorem ingress_accepts_format (m : List UInt8) :
    ((∃ f, parse m = .ok f) ↔ ∃ f : Frame, f.Contract ∧ m = f.wire) ∧
    (∀ f, parse m = .ok f → f.Contract ∧ f.wire = m) ∧
    parse m ≠ .error .outOfRange := by
  rcases parse_cases m with ⟨f, contract, rfl, parsed⟩ | ⟨none, failed⟩
  · rw [parsed]
    refine ⟨⟨fun _ => ⟨f, contract, rfl⟩, fun _ => ⟨f, rfl⟩⟩, ?_, by simp⟩
    intro g same
    cases same
    exact ⟨contract, rfl⟩
  · rw [failed]
    refine ⟨⟨?_, fun found => absurd found none⟩, ?_, by simp⟩
    · rintro ⟨f, impossible⟩
      cases impossible
    · intro f impossible
      cases impossible

end Relay.Ingress
