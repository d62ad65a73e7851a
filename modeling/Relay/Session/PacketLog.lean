import Relay.Lib.Run
import Relay.Lib.Seqlock
import Relay.Lib.Shared
import Mathlib.Logic.Function.Basic

/-! The packet log of an audio bus: a ring of slots that one writer fills while any number of
readers take snapshots. Every step is one atomic operation, and the calls take turns in any
order. -/
namespace Relay

def packetLogWindowSize : Nat := 1000

structure PacketLogEntry where
  seq : UInt16
  rtpTsSamples : UInt32
  payloadType : UInt8
  ssrc : UInt32
  payloadBytes : UInt64
  padding : Bool
  paddingBytes : UInt8
  rxTsNs : Int64
  txTsNs : Int64
deriving DecidableEq

def PacketLogEntry.zero : PacketLogEntry := ⟨0, 0, 0, 0, 0, false, 0, 0, 0⟩

inductive PacketLogField where
  | seq
  | rtpTsSamples
  | payloadType
  | ssrc
  | payloadBytes
  | padding
  | paddingBytes
  | rxTsNs
  | txTsNs
deriving DecidableEq

def PacketLogEntry.copy (field : PacketLogField) (source target : PacketLogEntry) : PacketLogEntry :=
  match field with
  | .seq => { target with seq := source.seq }
  | .rtpTsSamples => { target with rtpTsSamples := source.rtpTsSamples }
  | .payloadType => { target with payloadType := source.payloadType }
  | .ssrc => { target with ssrc := source.ssrc }
  | .payloadBytes => { target with payloadBytes := source.payloadBytes }
  | .padding => { target with padding := source.padding }
  | .paddingBytes => { target with paddingBytes := source.paddingBytes }
  | .rxTsNs => { target with rxTsNs := source.rxTsNs }
  | .txTsNs => { target with txTsNs := source.txTsNs }

/-- A slot of the ring: the words of an entry, the narrow ones widened, under a generation. -/
structure PacketLogSlot where
  generation : UInt64
  seq : UInt32
  rtpTsSamples : UInt32
  payloadType : UInt32
  ssrc : UInt32
  payloadBytes : UInt64
  padding : Bool
  paddingBytes : UInt32
  rxTsNs : Int64
  txTsNs : Int64
deriving DecidableEq

/-- The order in which `record` stores the fields and `last` loads them. -/
def packetLogFields : List PacketLogField :=
  [.seq, .rtpTsSamples, .payloadType, .ssrc, .payloadBytes, .padding, .paddingBytes, .rxTsNs, .txTsNs]

namespace PacketLogSlot

def zero : PacketLogSlot := ⟨0, 0, 0, 0, 0, 0, false, 0, 0, 0⟩

variable (slot : PacketLogSlot)

def store (entry : PacketLogEntry) : PacketLogField → PacketLogSlot
  | .seq => { slot with seq := entry.seq.toUInt32 }
  | .rtpTsSamples => { slot with rtpTsSamples := entry.rtpTsSamples }
  | .payloadType => { slot with payloadType := entry.payloadType.toUInt32 }
  | .ssrc => { slot with ssrc := entry.ssrc }
  | .payloadBytes => { slot with payloadBytes := entry.payloadBytes }
  | .padding => { slot with padding := entry.padding }
  | .paddingBytes => { slot with paddingBytes := entry.paddingBytes.toUInt32 }
  | .rxTsNs => { slot with rxTsNs := entry.rxTsNs }
  | .txTsNs => { slot with txTsNs := entry.txTsNs }

def load (entry : PacketLogEntry) : PacketLogField → PacketLogEntry
  | .seq => { entry with seq := slot.seq.toUInt16 }
  | .rtpTsSamples => { entry with rtpTsSamples := slot.rtpTsSamples }
  | .payloadType => { entry with payloadType := slot.payloadType.toUInt8 }
  | .ssrc => { entry with ssrc := slot.ssrc }
  | .payloadBytes => { entry with payloadBytes := slot.payloadBytes }
  | .padding => { entry with padding := slot.padding }
  | .paddingBytes => { entry with paddingBytes := slot.paddingBytes.toUInt8 }
  | .rxTsNs => { entry with rxTsNs := slot.rxTsNs }
  | .txTsNs => { entry with txTsNs := slot.txTsNs }

def entry : PacketLogEntry :=
  ⟨slot.seq.toUInt16, slot.rtpTsSamples, slot.payloadType.toUInt8, slot.ssrc, slot.payloadBytes, slot.padding,
    slot.paddingBytes.toUInt8, slot.rxTsNs, slot.txTsNs⟩

theorem load_eq_copy (entry : PacketLogEntry) (field : PacketLogField) :
    slot.load entry field = PacketLogEntry.copy field slot.entry entry := by
  cases field <;> rfl

theorem entry_store (entry : PacketLogEntry) (field : PacketLogField) :
    (slot.store entry field).entry = PacketLogEntry.copy field entry slot.entry := by
  cases field <;> simp [store, PacketLogSlot.entry, PacketLogEntry.copy]

theorem generation_store (entry : PacketLogEntry) (field : PacketLogField) :
    (slot.store entry field).generation = slot.generation := by
  cases field <;> rfl

end PacketLogSlot

theorem transfer_packetLogFields (source target : PacketLogEntry) :
    Seqlock.transfer PacketLogEntry.copy source packetLogFields target = source := by
  simp only [packetLogFields, Seqlock.transfer_cons, Seqlock.transfer_nil, PacketLogEntry.copy]

namespace PacketLog

inductive Recording where
  | idle
  | begun (entry : PacketLogEntry) (position : UInt64)
  /-- With no field left the generation is published next. -/
  | storing (entry : PacketLogEntry) (position : UInt64) (todo : List PacketLogField)
  | published (position : UInt64)
deriving DecidableEq

/-- Where a call of `last` stands in its loop, with the entries it has appended. -/
inductive Reading where
  | checking (writeCount position : UInt64) (entries : List PacketLogEntry)
  /-- With no field left the generation is loaded again next. -/
  | loading (writeCount position : UInt64) (entries : List PacketLogEntry) (entry : PacketLogEntry)
    (todo : List PacketLogField)
  | returned (entries : List PacketLogEntry)
deriving DecidableEq

structure World where
  entries : Fin packetLogWindowSize → PacketLogSlot
  writeCount : UInt64
  writer : Recording
  readers : List Reading

inductive Event where
  | record (entry : PacketLogEntry)
  | write
  | last (limit : Int64)
  | read (k : Nat)
deriving DecidableEq

def place (position : UInt64) : Fin packetLogWindowSize :=
  ⟨position.toNat % packetLogWindowSize, Nat.mod_lt _ (by decide)⟩

def publishedGeneration (position : UInt64) : UInt64 := position * 2 + 2

def Reading.next (writeCount position : UInt64) (entries : List PacketLogEntry) : Reading :=
  if position + 1 < writeCount then .checking writeCount (position + 1) entries else .returned entries

namespace World

def new : World := ⟨fun _ => .zero, 0, .idle, []⟩

def setSlot (w : World) (position : UInt64) (slot : PacketLogSlot) : World :=
  { w with entries := Function.update w.entries (place position) slot }

def slot (w : World) (position : UInt64) : PacketLogSlot := w.entries (place position)

def write (w : World) : Option World :=
  match w.writer with
  | .idle => none
  | .begun entry position =>
    some { w.setSlot position { w.slot position with generation := publishedGeneration position - 1 } with
      writer := .storing entry position packetLogFields }
  | .storing entry position (field :: todo) =>
    some { w.setSlot position ((w.slot position).store entry field) with writer := .storing entry position todo }
  | .storing _ position [] =>
    some { w.setSlot position { w.slot position with generation := publishedGeneration position } with
      writer := .published position }
  | .published position => some { w with writeCount := position + 1, writer := .idle }

def last (w : World) (limit : Int64) : Reading :=
  let count := min w.writeCount (.ofNat packetLogWindowSize)
  let limit := if limit.toUInt64 > count then count else limit.toUInt64
  if limit = 0 then .returned [] else .checking w.writeCount (w.writeCount - limit) []

def read (w : World) : Reading → Option Reading
  | .checking writeCount position entries =>
    if (w.slot position).generation ≠ publishedGeneration position then some (.next writeCount position entries)
    else some (.loading writeCount position entries .zero packetLogFields)
  | .loading writeCount position entries entry (field :: todo) =>
    some (.loading writeCount position entries ((w.slot position).load entry field) todo)
  | .loading writeCount position entries entry [] =>
    if (w.slot position).generation = publishedGeneration position then
      some (.next writeCount position (entries ++ [entry]))
    else some (.next writeCount position entries)
  | .returned _ => none

/-- There is one writer: it calls `record` again when the last call has returned. -/
def step (w : World) : Event → Option World
  | .record entry => if w.writer = .idle then some { w with writer := .begun entry w.writeCount } else none
  | .write => w.write
  | .last limit => some { w with readers := w.readers ++ [w.last limit] }
  | .read k => (w.readers[k]?.bind w.read).map fun r => { w with readers := w.readers.set k r }

end World

def World.inProgress (w : World) : Nat := if w.writer = .idle then 0 else 1

def recordCall (x : Step World Event) : Option PacketLogEntry :=
  match x.event with
  | .record entry => some entry
  | _ => none

def recorded (h : List (Step World Event)) : List PacketLogEntry := h.filterMap recordCall

/-! ### The ring

Position `p` goes to the slot `p % 1000`. The generation of a slot is `2 * p + 1` while the
entry of position `p` is written there, and `2 * p + 2` afterwards. -/

abbrev Ring := Fin packetLogWindowSize → Seqlock.Guarded PacketLogEntry

def slotOf (position : Nat) : Fin packetLogWindowSize :=
  ⟨position % packetLogWindowSize, Nat.mod_lt _ (by decide)⟩

theorem place_ofNat {position : Nat} (fits : position < 2 ^ 64) : place (.ofNat position) = slotOf position := by
  apply Fin.ext
  change (UInt64.ofNat position).toNat % packetLogWindowSize = position % packetLogWindowSize
  rw [UInt64.toNat_ofNat', Nat.mod_eq_of_lt fits]

theorem publishedGeneration_ofNat (position : Nat) :
    publishedGeneration (.ofNat position) = .ofNat (2 * position + 2) := by
  unfold publishedGeneration
  rw [Nat.mul_comm, UInt64.ofNat_add, UInt64.ofNat_mul]
  rfl

inductive Placed (log : List PacketLogEntry) (marked published : Nat) (s : Fin packetLogWindowSize) :
    Seqlock.Guarded PacketLogEntry → Prop
  | unused {record : PacketLogEntry} (ahead : marked ≤ s.val) : Placed log marked published s ⟨0, record⟩
  | settled {p : Nat} {record : PacketLogEntry} (here : p % 1000 = s.val) (done : p < published)
    (last : marked ≤ p + 1000) (entry : log[p]? = some record) : Placed log marked published s ⟨2 * p + 2, record⟩
  | writing {p : Nat} {record : PacketLogEntry} (here : p % 1000 = s.val) (current : marked = p + 1)
    (unpublished : published = p) : Placed log marked published s ⟨2 * p + 1, record⟩

inductive Progress (log : List PacketLogEntry) (ring : Ring) (count : UInt64) : Recording → Nat → Nat → Prop
  | idle (counted : count = .ofNat log.length) : Progress log ring count .idle log.length log.length
  | begun {earlier : List PacketLogEntry} {entry : PacketLogEntry} (calls : log = earlier ++ [entry])
    (counted : count = .ofNat earlier.length) :
    Progress log ring count (.begun entry (.ofNat earlier.length)) earlier.length earlier.length
  | storing {earlier : List PacketLogEntry} {entry : PacketLogEntry} {todo : List PacketLogField}
    (calls : log = earlier ++ [entry]) (counted : count = .ofNat earlier.length)
    (writes : Seqlock.transfer PacketLogEntry.copy entry todo (ring (slotOf earlier.length)).record = entry) :
    Progress log ring count (.storing entry (.ofNat earlier.length) todo) (earlier.length + 1) earlier.length
  | published {earlier : List PacketLogEntry} {entry : PacketLogEntry} (calls : log = earlier ++ [entry])
    (counted : count = .ofNat earlier.length) :
    Progress log ring count (.published (.ofNat earlier.length)) (earlier.length + 1) (earlier.length + 1)

def Mirrors (entries : Fin packetLogWindowSize → PacketLogSlot) (ring : Ring) : Prop :=
  ∀ s, (entries s).generation = .ofNat (ring s).version ∧ (entries s).entry = (ring s).record

structure Sound (log : List PacketLogEntry) (w : World) (ring : Ring) (marked published : Nat) : Prop where
  mirrors : Mirrors w.entries ring
  progress : Progress log ring w.writeCount w.writer marked published
  placed : ∀ s, Placed log marked published s (ring s)

variable {log : List PacketLogEntry} {w w' : World} {ring : Ring} {marked published p : Nat} {e : Event}
  {s : Fin packetLogWindowSize} {g : Seqlock.Guarded PacketLogEntry}

theorem Placed.grow (placed : Placed log marked published s g) (entry : PacketLogEntry) :
    Placed (log ++ [entry]) marked published s g := by
  cases placed with
  | unused ahead => exact .unused ahead
  | settled here done last there => exact .settled here done last (Objects.getElem?_snoc_of_some there)
  | writing here current unpublished => exact .writing here current unpublished

theorem Placed.version_lt (placed : Placed log p p (slotOf p) g) : g.version < 2 * p + 1 := by
  cases placed with
  | unused => exact Nat.succ_pos _
  | settled _ done =>
    dsimp only
    omega
  | writing _ current => omega

theorem Placed.mark (placed : Placed log p p s g) (other : s ≠ slotOf p) : Placed log (p + 1) p s g := by
  have apart : s.val ≠ p % 1000 := fun same => other (Fin.ext same)
  have inside : s.val < 1000 := s.isLt
  cases placed with
  | unused ahead => exact .unused (by omega)
  | settled here done last entry => exact .settled here done (by omega) entry
  | writing _ current => omega

theorem Placed.publish (placed : Placed log (p + 1) p s g) (other : s ≠ slotOf p) :
    Placed log (p + 1) (p + 1) s g := by
  have apart : s.val ≠ p % 1000 := fun same => other (Fin.ext same)
  cases placed with
  | unused ahead => exact .unused ahead
  | settled here done last entry => exact .settled here (by omega) last entry
  | writing here current => omega

theorem Placed.version_eq (placed : Placed log (p + 1) p (slotOf p) g) : g.version = 2 * p + 1 := by
  have here : (slotOf p).val = p % 1000 := rfl
  cases placed with
  | unused ahead => omega
  | settled there done last => omega
  | writing _ current =>
    dsimp only
    omega

namespace Sound

theorem new : Sound [] World.new (fun _ => ⟨0, .zero⟩) 0 0 where
  mirrors := fun _ => ⟨rfl, rfl⟩
  progress := .idle rfl
  placed := fun s => .unused (Nat.zero_le s.val)

section

variable (sound : Sound log w ring marked published)

include sound

theorem record (idle : w.writer = .idle) (entry : PacketLogEntry) :
    Sound (log ++ [entry]) { w with writer := .begun entry w.writeCount } ring marked published where
  mirrors := sound.mirrors
  progress := by
    have progress := sound.progress
    rw [idle] at progress
    cases progress with
    | idle counted =>
      dsimp only
      rw [counted]
      exact .begun rfl rfl
  placed := fun s => (sound.placed s).grow entry

theorem counts :
    w.writeCount = .ofNat (log.length - w.inProgress) ∧ log.length - w.inProgress ≤ published ∧
      published ≤ marked ∧ marked ≤ log.length := by
  unfold World.inProgress
  have progress := sound.progress
  generalize w.writer = stage at progress
  cases progress with
  | idle counted => simp [counted]
  | begun calls counted | storing calls counted | published calls counted => simp [calls, counted]

theorem slot (fits : p < 2 ^ 64) :
    (w.slot (.ofNat p)).generation = .ofNat (ring (slotOf p)).version ∧
      (w.slot (.ofNat p)).entry = (ring (slotOf p)).record := by
  unfold World.slot
  rw [place_ofNat fits]
  exact sound.mirrors (slotOf p)

theorem put {marked' published' : Nat} {slot : PacketLogSlot} {stage : Recording} (fits : p < 2 ^ 64)
    (shows : slot.generation = .ofNat g.version ∧ slot.entry = g.record) (moved : Seqlock.Move (ring (slotOf p)) g)
    (progress : Progress log (Function.update ring (slotOf p) g) w.writeCount stage marked' published')
    (new : Placed log marked' published' (slotOf p) g)
    (others : ∀ s, s ≠ slotOf p → Placed log marked' published' s (ring s)) (grown : published ≤ published') :
    ∃ ring' marked' published', (∀ s, Seqlock.Move (ring s) (ring' s)) ∧ published ≤ published' ∧
      Sound log { w.setSlot (.ofNat p) slot with writer := stage } ring' marked' published' := by
  refine ⟨Function.update ring (slotOf p) g, _, _, ?_, grown, ?_, progress, ?_⟩
  · exact (Function.forall_update_iff ring fun s => Seqlock.Move (ring s)).mpr ⟨moved, fun _ _ => .stay⟩
  · change Mirrors (Function.update w.entries (place (.ofNat p)) slot) _
    rw [place_ofNat fits]
    intro s
    by_cases here : s = slotOf p
    · subst here
      rw [Function.update_self, Function.update_self]
      exact shows
    · rw [Function.update_of_ne here, Function.update_of_ne here]
      exact sound.mirrors s
  · exact (Function.forall_update_iff ring (Placed log marked' published')).mpr ⟨new, others⟩

theorem write (few : log.length < 2 ^ 64) (taken : w.write = some w') :
    ∃ ring' marked' published', (∀ s, Seqlock.Move (ring s) (ring' s)) ∧ published ≤ published' ∧
      Sound log w' ring' marked' published' := by
  have progress := sound.progress
  unfold World.write at taken
  generalize w.writer = stage at progress taken
  cases progress with
  | idle => cases taken
  | @begun earlier entry calls counted =>
    subst calls
    cases taken
    have fits : earlier.length < 2 ^ 64 := lt_of_le_of_lt (by simp) few
    have odd : publishedGeneration (.ofNat earlier.length) - 1 = .ofNat (2 * earlier.length + 1) := by
      rw [publishedGeneration_ofNat, UInt64.ofNat_add (2 * earlier.length + 1) 1]
      exact add_sub_cancel_right _ _
    exact sound.put (g := ⟨2 * earlier.length + 1, _⟩) fits ⟨odd, (sound.slot fits).2⟩
      (.advance (sound.placed _).version_lt) (.storing rfl counted (transfer_packetLogFields _ _))
      (.writing rfl rfl rfl) (fun s other => (sound.placed s).mark other) le_rfl
  | @storing earlier entry todo calls counted writes =>
    subst calls
    have fits : earlier.length < 2 ^ 64 := lt_of_le_of_lt (by simp) few
    obtain ⟨version, record⟩ := sound.slot fits
    have odd := (sound.placed (slotOf earlier.length)).version_eq
    cases todo with
    | nil =>
      cases taken
      have entered : (earlier ++ [entry])[earlier.length]? = some (ring (slotOf earlier.length)).record :=
        List.getElem?_concat_length.trans (congrArg some writes.symm)
      exact sound.put (g := ⟨2 * earlier.length + 2, _⟩) fits ⟨publishedGeneration_ofNat _, record⟩
        (.advance (by omega)) (.published rfl counted) (.settled rfl (Nat.lt_succ_self _) (by omega) entered)
        (fun s other => (sound.placed s).publish other) (Nat.le_succ _)
    | cons field todo =>
      cases taken
      have copied : ((w.slot (.ofNat earlier.length)).store entry field).entry =
          PacketLogEntry.copy field entry (ring (slotOf earlier.length)).record := by
        rw [PacketLogSlot.entry_store, record]
      refine sound.put (g := ⟨(ring (slotOf earlier.length)).version, PacketLogEntry.copy field entry _⟩) fits
        ⟨(PacketLogSlot.generation_store ..).trans version, copied⟩ (.store (by omega) _)
        (.storing rfl counted (by rw [Function.update_self]; exact writes)) ?_ (fun s _ => sound.placed s) le_rfl
      rw [odd]
      exact .writing rfl rfl rfl
  | @published earlier entry calls =>
    subst calls
    cases taken
    have length : (earlier ++ [entry]).length = earlier.length + 1 := List.length_append
    refine ⟨ring, _, _, fun _ => .stay, le_rfl, sound.mirrors, ?_, sound.placed⟩
    rw [← length]
    refine .idle ?_
    rw [length, UInt64.ofNat_add]
    rfl

end

end Sound

end PacketLog

end Relay
