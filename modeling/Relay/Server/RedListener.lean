import Relay.Media.Red
import Relay.Downlink.Forwarder

/-! The writer that wraps the packets for a listener in RED payloads, each with the packet
before it as redundancy. The writer remembers a packet only when it has written it. -/
namespace Relay

open Red (EncodeError Block Parsed encode parse)

def redMaxTimestampOffsetSamples : UInt32 := 16383

structure RedListener where
  opusPT : UInt8
  prevPayload : Bytes
  prevTimestampSamples : UInt32
  havePrev : Bool

namespace RedListener

def new (opusPT : UInt8) : RedListener := ⟨opusPT, [], 0, false⟩

def redundant (r : RedListener) (pkt : RtpPacket) : List Block :=
  if r.havePrev then
    let offsetSamples := pkt.timestamp - r.prevTimestampSamples
    if 0 < offsetSamples ∧ offsetSamples ≤ redMaxTimestampOffsetSamples then [⟨r.opusPT, offsetSamples, r.prevPayload⟩]
    else []
  else []

/-- The packet given to the inner writer, or the error for which none is. -/
def writeRTP (r : RedListener) (pkt : RtpPacket) : RedListener × Except EncodeError RtpPacket :=
  match encode r.opusPT pkt.payload (r.redundant pkt) with
  | .error e => (r, .error e)
  | .ok redPayload =>
    ({ r with prevPayload := pkt.payload, prevTimestampSamples := pkt.timestamp, havePrev := true },
      .ok { pkt with payload := redPayload })

def writeAll (r : RedListener) : List RtpPacket → List (Except EncodeError RtpPacket)
  | [] => []
  | pkt :: pkts => (r.writeRTP pkt).2 :: (r.writeRTP pkt).1.writeAll pkts

end RedListener

/-- The timestamp of `pkt` is 1 to 16383 samples after that of `previous`. -/
def Near (previous pkt : RtpPacket) : Prop :=
  1 ≤ (pkt.timestamp - previous.timestamp).toNat ∧ (pkt.timestamp - previous.timestamp).toNat ≤ 16383

instance (previous pkt : RtpPacket) : Decidable (Near previous pkt) := inferInstanceAs (Decidable (_ ∧ _))

/-- What a listener is owed for a packet: its header, its payload, and the packet before it
where a block can hold that one. -/
structure Carries (previous : Option RtpPacket) (pkt out : RtpPacket) (parsed : Parsed) : Prop where
  header : { out with payload := pkt.payload } = pkt
  decoded : parse out.payload = .ok parsed
  primary : parsed.primaryPayload = pkt.payload
  single : parsed.redundant.length ≤ 1
  copied : ∀ b ∈ parsed.redundant, ∃ prev ∈ previous, b.payload = prev.payload ∧
    pkt.timestamp - b.timestampOffsetSamples = prev.timestamp
  present : ∀ prev ∈ previous, Near prev pkt → prev.payload.length ≤ 1023 → parsed.redundant ≠ []

def AllCarried : Option RtpPacket → List RtpPacket → List (Except EncodeError RtpPacket) → Prop
  | _, [], [] => True
  | previous, pkt :: pkts, .ok out :: outs =>
    (∃ parsed, Carries previous pkt out parsed) ∧ AllCarried (some pkt) pkts outs
  | _, _, _ => False

theorem AllCarried.written {previous : Option RtpPacket} {pkts : List RtpPacket}
    {outs : List (Except EncodeError RtpPacket)} (carried : AllCarried previous pkts outs) :
    ∀ x ∈ outs, ∃ out, x = .ok out := by
  fun_induction AllCarried previous pkts outs with
  | case1 => exact fun x member => absurd member List.not_mem_nil
  | case2 previous pkt pkts out outs ih =>
    intro x member
    rcases List.mem_cons.mp member with rfl | later
    · exact ⟨out, rfl⟩
    · exact ih carried.2 x later
  | case3 => exact carried.elim

def MayFollow (previous pkt : RtpPacket) : Prop := Near previous pkt → previous.payload.length ≤ 1023

instance (previous pkt : RtpPacket) : Decidable (MayFollow previous pkt) := inferInstanceAs (Decidable (_ → _))

namespace RedListener

variable {r : RedListener} {previous : Option RtpPacket} {pkt : RtpPacket}

def Remembers (r : RedListener) : Option RtpPacket → Prop
  | none => r.havePrev = false
  | some prev => r.havePrev = true ∧ r.prevPayload = prev.payload ∧ r.prevTimestampSamples = prev.timestamp

variable {pkts : List RtpPacket} {prev : RtpPacket}

theorem near_iff :
    0 < pkt.timestamp - prev.timestamp ∧ pkt.timestamp - prev.timestamp ≤ redMaxTimestampOffsetSamples ↔
      Near prev pkt := by
  rw [UInt32.lt_iff_toNat_lt, UInt32.le_iff_toNat_le]
  exact Iff.rfl

theorem redundant_none (remembers : r.Remembers none) : r.redundant pkt = [] := by
  rw [redundant, remembers]
  rfl

theorem redundant_near (remembers : r.Remembers (some prev)) (near : Near prev pkt) :
    r.redundant pkt = [⟨r.opusPT, pkt.timestamp - prev.timestamp, prev.payload⟩] := by
  obtain ⟨known, payload, timestamp⟩ := remembers
  simp only [redundant, known, payload, timestamp, if_true]
  exact if_pos (near_iff.mpr near)

theorem redundant_far (remembers : r.Remembers (some prev)) (far : ¬ Near prev pkt) : r.redundant pkt = [] := by
  obtain ⟨known, payload, timestamp⟩ := remembers
  simp only [redundant, known, timestamp, if_true]
  exact if_neg fun near => far (near_iff.mp near)

theorem writeRTP_ok (there : pkt.payload ≠ []) (inRange : ∀ b ∈ r.redundant pkt, b.InRange) :
    r.writeRTP pkt =
      ({ r with prevPayload := pkt.payload, prevTimestampSamples := pkt.timestamp, havePrev := true },
        .ok { pkt with payload := (Red.sent r.opusPT pkt.payload (r.redundant pkt)).wire }) := by
  rw [writeRTP, Red.encode_eq there inRange]

theorem carries_sent (there : pkt.payload ≠ []) (inRange : ∀ b ∈ r.redundant pkt, b.InRange)
    (single : (r.redundant pkt).length ≤ 1)
    (copied : ∀ b ∈ r.redundant pkt, ∃ prev ∈ previous, b.payload = prev.payload ∧
      pkt.timestamp - b.timestampOffsetSamples = prev.timestamp)
    (present : ∀ prev ∈ previous, Near prev pkt → prev.payload.length ≤ 1023 → r.redundant pkt ≠ []) :
    Carries previous pkt { pkt with payload := (Red.sent r.opusPT pkt.payload (r.redundant pkt)).wire }
      (Red.sent r.opusPT pkt.payload (r.redundant pkt)) where
  header := rfl
  decoded := (Red.sent_carried there inRange).parse_wire
  primary := rfl
  single := by simpa [Red.sent] using single
  copied := by
    intro b member
    obtain ⟨a, given, rfl⟩ := List.mem_map.mp member
    exact copied a given
  present := by
    intro prev here near short
    simpa [Red.sent] using present prev here near short

theorem write_follows (remembers : r.Remembers previous) (there : pkt.payload ≠ [])
    (follows : ∀ prev ∈ previous, MayFollow prev pkt) :
    (∃ out parsed, (r.writeRTP pkt).2 = .ok out ∧ Carries previous pkt out parsed) ∧
      (r.writeRTP pkt).1.Remembers (some pkt) := by
  cases previous with
  | none =>
    have blocks : r.redundant pkt = [] := redundant_none remembers
    have inRange : ∀ b ∈ r.redundant pkt, b.InRange := by simp [blocks]
    rw [writeRTP_ok there inRange]
    refine ⟨⟨_, _, rfl, carries_sent there inRange ?_ ?_ ?_⟩, rfl, rfl, rfl⟩
    · simp [blocks]
    · simp [blocks]
    · simp
  | some prev =>
    by_cases near : Near prev pkt
    · have short := follows prev rfl near
      have blocks := redundant_near remembers near
      have inRange : ∀ b ∈ r.redundant pkt, b.InRange := by
        simpa [blocks] using ⟨short, near.2⟩
      rw [writeRTP_ok there inRange]
      refine ⟨⟨_, _, rfl, carries_sent there inRange ?_ ?_ ?_⟩, rfl, rfl, rfl⟩
      · simp [blocks]
      · simp [blocks]
      · simp [blocks]
    · have blocks := redundant_far remembers near
      have inRange : ∀ b ∈ r.redundant pkt, b.InRange := by simp [blocks]
      rw [writeRTP_ok there inRange]
      refine ⟨⟨_, _, rfl, carries_sent there inRange ?_ ?_ ?_⟩, rfl, rfl, rfl⟩
      · simp [blocks]
      · simp [blocks]
      · simp [near]

theorem write_near_long (remembers : r.Remembers (some prev)) (near : Near prev pkt) (long : 1023 < prev.payload.length) :
    ∃ e, r.writeRTP pkt = (r, .error e) := by
  have blocks := redundant_near remembers near
  cases encoded : encode r.opusPT pkt.payload (r.redundant pkt) with
  | error e => exact ⟨e, by rw [writeRTP, encoded]⟩
  | ok out =>
    have inRange := (Red.encode_ok_iff.mp ⟨out, encoded⟩).2
    rw [blocks] at inRange
    exact absurd (inRange _ (List.mem_singleton_self _)).1 (not_le.mpr long)

def Chained : Option RtpPacket → List RtpPacket → Prop
  | _, [] => True
  | previous, pkt :: pkts => (∀ prev ∈ previous, MayFollow prev pkt) ∧ Chained (some pkt) pkts

theorem writeAll_iff (remembers : r.Remembers previous) (there : ∀ pkt ∈ pkts, pkt.payload ≠ []) :
    AllCarried previous pkts (r.writeAll pkts) ↔ Chained previous pkts := by
  induction pkts generalizing r previous with
  | nil => simp [writeAll, AllCarried, Chained]
  | cons pkt pkts ih =>
    have here := there pkt List.mem_cons_self
    have later := fun next member => there next (List.mem_cons_of_mem _ member)
    by_cases follows : ∀ prev ∈ previous, MayFollow prev pkt
    · obtain ⟨⟨out, parsed, written, carries⟩, next⟩ := write_follows remembers here follows
      rw [writeAll, written, AllCarried, Chained, ih next later]
      exact and_congr_left fun _ => ⟨fun _ => follows, fun _ => ⟨parsed, carries⟩⟩
    · have refused : ¬ Chained previous (pkt :: pkts) := fun chained => follows chained.1
      push Not at follows
      obtain ⟨prev, rfl, near⟩ := follows
      unfold MayFollow at near
      push Not at near
      obtain ⟨e, failed⟩ := write_near_long remembers near.1 near.2
      rw [writeAll, failed]
      exact iff_of_false id refused

theorem chained_iff : Chained (some prev) pkts ↔ (prev :: pkts).IsChain MayFollow := by
  induction pkts generalizing prev with
  | nil => simp [Chained]
  | cons pkt pkts ih =>
    rw [Chained, ih, List.isChain_cons_cons]
    simp

end RedListener

/-- Packets with payloads are all written with what they owe exactly if none of more than
1023 bytes is directly followed by one near it. -/
theorem red_listener_carries_iff (opusPT : UInt8) (pkts : List RtpPacket) (there : ∀ pkt ∈ pkts, pkt.payload ≠ []) :
    AllCarried none pkts ((RedListener.new opusPT).writeAll pkts) ↔ pkts.IsChain MayFollow := by
  have start : (RedListener.new opusPT).Remembers none := rfl
  rw [RedListener.writeAll_iff start there]
  cases pkts with
  | nil => simp [RedListener.Chained]
  | cons pkt pkts =>
    rw [RedListener.Chained, RedListener.chained_iff]
    simp

namespace Plain

def opusPacket (timestamp : UInt32) (size : Nat) : RtpPacket :=
  { RtpPacket.zero with timestamp := timestamp, payload := List.replicate size 1 }

end Plain

open Plain in
theorem red_listener_carries_iff_plain :
    AllCarried none [opusPacket 0 120, opusPacket 960 1200, opusPacket 20000 90]
      ((RedListener.new 111).writeAll [opusPacket 0 120, opusPacket 960 1200, opusPacket 20000 90]) :=
  (red_listener_carries_iff 111 _ (by decide)).mpr (by decide)

open Plain in
/-- After a packet of 1024 bytes neither of the next two is written. -/
theorem red_listener_withholds :
    ¬ AllCarried none [opusPacket 0 1024, opusPacket 960 120, opusPacket 1920 120]
        ((RedListener.new 111).writeAll [opusPacket 0 1024, opusPacket 960 120, opusPacket 1920 120]) ∧
      ((RedListener.new 111).writeAll [opusPacket 0 1024, opusPacket 960 120, opusPacket 1920 120]).drop 1 =
        [.error (.payloadExceeds 0 1024), .error (.payloadExceeds 0 1024)] := by
  have refused : ((RedListener.new 111).writeAll [opusPacket 0 1024, opusPacket 960 120, opusPacket 1920 120]).drop 1 =
      [.error (.payloadExceeds 0 1024), .error (.payloadExceeds 0 1024)] := by decide +kernel
  refine ⟨mt AllCarried.written ?_, refused⟩
  intro written
  have second : .error (.payloadExceeds 0 1024) ∈
      (RedListener.new 111).writeAll [opusPacket 0 1024, opusPacket 960 120, opusPacket 1920 120] := by
    apply List.mem_of_mem_drop (i := 1)
    rw [refused]
    exact List.mem_cons_self
  obtain ⟨out, ok⟩ := written _ second
  cases ok

end Relay
