import Relay.Downlink.Forwarder
import Relay.Lib.Run
import Relay.Session.RelaySession

/-! The delivery of one attachment. Every packet of its source is written to the subscriptions
that hear its bus; the attachment counts the failures of each subscriber and removes one whose
writes fail five times in a row. -/
namespace Relay

def maxConsecutiveErrors : Nat := 5

/-- A subscription in the list of its RelaySession. Implementations are told apart by their identity. -/
structure BusSubscriptionEntry where
  subscriberID : String
  busID : String
  subscription : Nat
deriving DecidableEq

/-- A packet in memory, with the cells of its header: the header itself, its CSRC list, its
extensions and the bytes of each. -/
structure HeldPacket where
  packet : RtpPacket
  header : List Nat
deriving DecidableEq

def HeldPacket.clone (p : HeldPacket) (next : Nat) : HeldPacket :=
  { p with header := List.range' next p.header.length }

def HeldPacket.after (p : HeldPacket) (next : Nat) : Nat := p.header.foldr (fun cell n => max (cell + 1) n) next

/-- One packet that an attachment passes on, and how the subscriptions take it. -/
structure Incoming where
  packet : HeldPacket
  captureTime : Time
  captureTimeKnown : Bool
  ssrc : UInt32
  requiresPacketCopy : String → Bool
  fails : String → Bool

structure Offer where
  subscriberID : String
  outgoing : HeldPacket
  captureTime : Time
  captureTimeKnown : Bool
  source : SourceIdentity
  copied : Bool
  failed : Bool
deriving DecidableEq

/-- A RelaySession as one attachment sees it, with what the attachment remembers between packets. -/
structure FanOut where
  busID : String
  generation : Nat
  maxSubscriptions : Nat
  subscriptions : List BusSubscriptionEntry
  errorCounts : Table String Nat
  deadSubscriptions : List String
  evictionsTotal : Nat
  stopped : List BusSubscriptionEntry
  next : Nat

namespace FanOut

def attach (busID : String) (generation maxSubscriptions : Nat) (subscriptions : List BusSubscriptionEntry)
    (evictionsTotal next : Nat) : FanOut :=
  ⟨busID, generation, maxSubscriptions, subscriptions, ∅, [], evictionsTotal, [], next⟩

def addBusSubscription (f : FanOut) (entry : BusSubscriptionEntry) : FanOut :=
  if 0 < f.maxSubscriptions ∧ f.maxSubscriptions ≤ f.subscriptions.length then f
  else { f with subscriptions := f.subscriptions ++ [entry] }

def removeSubscription (f : FanOut) (subscriberID : String) : FanOut :=
  { f with
    subscriptions := f.subscriptions.filter fun e => e.subscriberID ≠ subscriberID
    stopped := f.stopped ++ f.subscriptions.filter fun e => e.subscriberID = subscriberID }

def hears (busID : String) (entry : BusSubscriptionEntry) : Bool := entry.busID == busID || entry.busID == busMix

theorem hears_eq (busID : String) (entry : BusSubscriptionEntry) :
    hears busID entry = decide (entry.busID = busID ∨ entry.busID = busMix) := by
  rw [hears, Bool.decide_or]
  rfl

def count (f : FanOut) (subscriberID : String) : Nat := (f.errorCounts.lookup subscriberID).getD 0

def offered (f : FanOut) (i : Incoming) (entry : BusSubscriptionEntry) : Offer where
  subscriberID := entry.subscriberID
  outgoing := if i.requiresPacketCopy entry.subscriberID then i.packet.clone f.next else i.packet
  captureTime := i.captureTime
  captureTimeKnown := i.captureTimeKnown
  source := ⟨f.busID, f.generation, i.ssrc⟩
  copied := i.requiresPacketCopy entry.subscriberID
  failed := i.fails entry.subscriberID

/-- What a write leaves behind: a failure is counted, and the fifth one marks the subscriber; a
success forgets the failures before it. -/
def wrote (f : FanOut) (i : Incoming) (entry : BusSubscriptionEntry) : FanOut :=
  { f with
    errorCounts :=
      if i.fails entry.subscriberID then f.errorCounts.insert entry.subscriberID (f.count entry.subscriberID + 1)
      else f.errorCounts.erase entry.subscriberID
    deadSubscriptions :=
      if i.fails entry.subscriberID ∧ maxConsecutiveErrors ≤ f.count entry.subscriberID + 1 then
        f.deadSubscriptions ++ [entry.subscriberID]
      else f.deadSubscriptions
    next := if i.requiresPacketCopy entry.subscriberID then f.next + i.packet.header.length else f.next }

def offerAll (i : Incoming) : List BusSubscriptionEntry → FanOut → List Offer × FanOut
  | [], f => ([], f)
  | entry :: entries, f =>
    if hears f.busID entry then
      (f.offered i entry :: (offerAll i entries (f.wrote i entry)).1, (offerAll i entries (f.wrote i entry)).2)
    else offerAll i entries f

def evict (f : FanOut) (subscriberID : String) : FanOut :=
  let f := f.removeSubscription subscriberID
  { f with
    errorCounts := f.errorCounts.erase subscriberID
    evictionsTotal := f.evictionsTotal + 1 }

def begun (f : FanOut) (i : Incoming) : FanOut :=
  { f with deadSubscriptions := [], next := i.packet.after f.next }

def offers (f : FanOut) (i : Incoming) : List Offer := (offerAll i f.subscriptions (f.begun i)).1

def deliverWithSource (f : FanOut) (i : Incoming) : FanOut :=
  let f := (offerAll i f.subscriptions (f.begun i)).2
  f.deadSubscriptions.foldl evict f

end FanOut

/-- What happens while an attachment delivers: a packet of its source, or a change of the
subscriptions by another call between two packets. -/
inductive FanOutEvent where
  | packet (i : Incoming)
  | join (entry : BusSubscriptionEntry)
  | leave (subscriberID : String)

def FanOut.step (f : FanOut) : FanOutEvent → Option FanOut
  | .packet i => some (f.deliverWithSource i)
  | .join entry => some (f.addBusSubscription entry)
  | .leave subscriberID => some (f.removeSubscription subscriberID)

abbrev FanOutHistory : Type := List (Step FanOut FanOutEvent)

abbrev Delivers (start : FanOut) : FanOutHistory → FanOut → Prop := Exec (Machine.Moves FanOut.step) start

namespace FanOutHistory

def offersOf (x : Step FanOut FanOutEvent) : List Offer :=
  match x.event with
  | .packet i => x.before.offers i
  | .join _ | .leave _ => []

def offers (h : FanOutHistory) : List Offer := h.flatMap offersOf

def joinedBy (x : Step FanOut FanOutEvent) : List BusSubscriptionEntry :=
  match x.event with
  | .join entry => [entry]
  | .packet _ | .leave _ => []

def joined (h : FanOutHistory) : List BusSubscriptionEntry := h.flatMap joinedBy

end FanOutHistory

def writeOutcomes (offers : List Offer) (subscriberID : String) : List Bool :=
  (offers.filter fun o => o.subscriberID = subscriberID).map (·.failed)

/-- The failures at the end of a list of outcomes, since the last success. -/
def streak (outcomes : List Bool) : Nat := (outcomes.reverse.takeWhile id).length

@[simp] theorem streak_failed (l : List Bool) : streak (l ++ [true]) = streak l + 1 := by
  simp [streak]

@[simp] theorem streak_succeeded (l : List Bool) : streak (l ++ [false]) = 0 := by
  simp [streak]

@[simp] theorem writeOutcomes_append (l k : List Offer) (subscriberID : String) :
    writeOutcomes (l ++ k) subscriberID = writeOutcomes l subscriberID ++ writeOutcomes k subscriberID := by
  simp [writeOutcomes]

variable {subscriberID : String} {l : List Offer} {o : Offer}

theorem writeOutcomes_cons_same (same : o.subscriberID = subscriberID) :
    writeOutcomes (o :: l) subscriberID = o.failed :: writeOutcomes l subscriberID := by
  simp [writeOutcomes, same]

theorem writeOutcomes_cons_other (other : o.subscriberID ≠ subscriberID) :
    writeOutcomes (o :: l) subscriberID = writeOutcomes l subscriberID := by
  simp [writeOutcomes, other]

namespace FanOut

variable {f : FanOut} {i : Incoming} {entry : BusSubscriptionEntry} {entries : List BusSubscriptionEntry}

/-! ### One write -/

@[simp] theorem wrote_busID (f : FanOut) (i : Incoming) (entry : BusSubscriptionEntry) :
    (f.wrote i entry).busID = f.busID := rfl

theorem count_wrote (f : FanOut) (i : Incoming) (entry : BusSubscriptionEntry) (subscriberID : String) :
    (f.wrote i entry).count subscriberID =
      if subscriberID = entry.subscriberID then (if i.fails subscriberID then f.count subscriberID + 1 else 0)
      else f.count subscriberID := by
  by_cases same : subscriberID = entry.subscriberID
  · subst same
    cases failed : i.fails entry.subscriberID <;> simp [wrote, count, failed]
  · cases failed : i.fails entry.subscriberID <;> simp [wrote, count, failed, same]

/-! ### The loop -/

def hearers (busID : String) (entries : List BusSubscriptionEntry) : List String :=
  (entries.filter (hears busID)).map (·.subscriberID)

variable {busID subscriberID : String} {high low : Nat}

theorem hearers_cons_hears (hear : hears busID entry = true) :
    hearers busID (entry :: entries) = entry.subscriberID :: hearers busID entries := by
  simp [hearers, hear]

theorem hearers_cons_deaf (deaf : ¬hears busID entry = true) :
    hearers busID (entry :: entries) = hearers busID entries := by
  simp [hearers, deaf]

theorem hearers_sublist (busID : String) (entries : List BusSubscriptionEntry) :
    (hearers busID entries).Sublist (entries.map (·.subscriberID)) :=
  List.filter_sublist.map _

theorem offerAll_kept (i : Incoming) (entries : List BusSubscriptionEntry) (f : FanOut) :
    (offerAll i entries f).2.busID = f.busID ∧ (offerAll i entries f).2.subscriptions = f.subscriptions ∧
      (offerAll i entries f).2.evictionsTotal = f.evictionsTotal ∧ (offerAll i entries f).2.stopped = f.stopped := by
  fun_induction offerAll i entries f with
  | case1 => exact ⟨rfl, rfl, rfl, rfl⟩
  | case2 _ _ _ _ ih | case3 _ _ _ _ ih => exact ih

theorem offerAll_subscribers (i : Incoming) (entries : List BusSubscriptionEntry) (f : FanOut) :
    (offerAll i entries f).1.map (·.subscriberID) = hearers f.busID entries := by
  fun_induction offerAll i entries f with
  | case1 => rfl
  | case2 entry entries f hear ih =>
    rw [hearers_cons_hears hear, List.map_cons, ih]
    rfl
  | case3 entry entries f deaf ih => rw [hearers_cons_deaf deaf, ih]

structure Carries (f : FanOut) (i : Incoming) (o : Offer) : Prop where
  packet : o.outgoing.packet = i.packet.packet
  captureTime : o.captureTime = i.captureTime
  captureTimeKnown : o.captureTimeKnown = i.captureTimeKnown
  source : o.source = ⟨f.busID, f.generation, i.ssrc⟩
  copied : o.copied = i.requiresPacketCopy o.subscriberID
  failed : o.failed = i.fails o.subscriberID

theorem carries_offered (f : FanOut) (i : Incoming) (entry : BusSubscriptionEntry) :
    f.Carries i (f.offered i entry) := by
  refine ⟨?_, rfl, rfl, rfl, rfl, rfl⟩
  simp only [offered]
  split <;> rfl

theorem offerAll_carries (i : Incoming) (entries : List BusSubscriptionEntry) (f : FanOut) :
    ∀ o ∈ (offerAll i entries f).1, f.Carries i o := by
  fun_induction offerAll i entries f with
  | case1 => exact fun _ member => absurd member List.not_mem_nil
  | case2 entry entries f hear ih =>
    intro o member
    rcases List.mem_cons.mp member with rfl | later
    · exact carries_offered f i entry
    · exact { ih o later with source := (ih o later).source }
  | case3 _ _ _ _ ih => exact ih

theorem not_mem_hearers (new : subscriberID ∉ entries.map (·.subscriberID)) (busID : String) :
    subscriberID ∉ hearers busID entries := fun heard => new ((hearers_sublist busID entries).subset heard)

theorem offerAll_count (distinct : (entries.map (·.subscriberID)).Nodup) (subscriberID : String) :
    (offerAll i entries f).2.count subscriberID =
      if subscriberID ∈ hearers f.busID entries then (if i.fails subscriberID then f.count subscriberID + 1 else 0)
      else f.count subscriberID := by
  fun_induction offerAll i entries f with
  | case1 => rfl
  | case2 entry entries f hear ih =>
    obtain ⟨new, distinct⟩ := List.nodup_cons.mp distinct
    rw [ih distinct, hearers_cons_hears hear, count_wrote]
    by_cases same : subscriberID = entry.subscriberID
    · subst same
      simp [not_mem_hearers new f.busID]
    · simp [same]
  | case3 entry entries f deaf ih => rw [ih (List.nodup_cons.mp distinct).2, hearers_cons_deaf deaf]

def exhausts (f : FanOut) (i : Incoming) (entry : BusSubscriptionEntry) : Bool :=
  hears f.busID entry && i.fails entry.subscriberID &&
    decide (maxConsecutiveErrors ≤ f.count entry.subscriberID + 1)

theorem offerAll_dead (distinct : (entries.map (·.subscriberID)).Nodup) :
    (offerAll i entries f).2.deadSubscriptions =
      f.deadSubscriptions ++ (entries.filter (f.exhausts i)).map (·.subscriberID) := by
  fun_induction offerAll i entries f with
  | case1 => exact (List.append_nil _).symm
  | case2 entry entries f hear ih =>
    obtain ⟨new, distinct⟩ := List.nodup_cons.mp distinct
    have later : entries.filter ((f.wrote i entry).exhausts i) = entries.filter (f.exhausts i) := by
      apply List.filter_congr
      intro e member
      have other : e.subscriberID ≠ entry.subscriberID := fun same => new (List.mem_map.mpr ⟨e, member, same⟩)
      simp [exhausts, count_wrote, other]
    rw [ih distinct, later]
    simp only [wrote, List.filter_cons, exhausts, hear, Bool.true_and, Bool.and_eq_true, decide_eq_true_eq]
    split <;> simp
  | case3 entry entries f deaf ih =>
    rw [ih (List.nodup_cons.mp distinct).2]
    simp [exhausts, deaf]

theorem writeOutcomes_offerAll (distinct : (entries.map (·.subscriberID)).Nodup) (subscriberID : String) :
    writeOutcomes (offerAll i entries f).1 subscriberID =
      if subscriberID ∈ hearers f.busID entries then [i.fails subscriberID] else [] := by
  fun_induction offerAll i entries f with
  | case1 => rfl
  | case2 entry entries f hear ih =>
    obtain ⟨new, distinct⟩ := List.nodup_cons.mp distinct
    rw [hearers_cons_hears hear]
    by_cases same : entry.subscriberID = subscriberID
    · subst same
      have mine : (f.offered i entry).subscriberID = entry.subscriberID := rfl
      rw [writeOutcomes_cons_same mine, ih distinct, wrote_busID, if_neg (not_mem_hearers new _),
        if_pos List.mem_cons_self]
      rfl
    · rw [writeOutcomes_cons_other (o := f.offered i entry) same, ih distinct, wrote_busID]
      simp [Ne.symm same]
  | case3 entry entries f deaf ih => rw [ih (List.nodup_cons.mp distinct).2, hearers_cons_deaf deaf]

/-! ### The copies -/

theorem le_after (p : HeldPacket) (next : Nat) : next ≤ p.after next := by
  unfold HeldPacket.after
  induction p.header with
  | nil => exact le_rfl
  | cons cell cells ih => exact ih.trans (le_max_right _ _)

def Apart (a b : Offer) : Prop :=
  a.copied = true → b.copied = true → List.Disjoint a.outgoing.header b.outgoing.header

def Within (low high : Nat) (o : Offer) : Prop :=
  o.copied = true → ∀ cell ∈ o.outgoing.header, low ≤ cell ∧ cell < high

theorem Within.apart {middle : Nat} {a b : Offer} (first : Within low middle a) (second : Within middle high b) :
    Apart a b := by
  intro copy copy' cell mine yours
  have before := (first copy cell mine).2
  have after := (second copy' cell yours).1
  omega

theorem Within.mono {low' high' : Nat} {o : Offer} (within : Within low high o) (less : low' ≤ low)
    (more : high ≤ high') : Within low' high' o := fun copy cell member =>
  ⟨less.trans (within copy cell member).1, (within copy cell member).2.trans_le more⟩

theorem within_offered (f : FanOut) (i : Incoming) (entry : BusSubscriptionEntry) :
    Within f.next (f.wrote i entry).next (f.offered i entry) := by
  intro copy cell member
  simp only [offered] at copy
  simp only [offered, copy, if_true, HeldPacket.clone, List.mem_range'_1] at member
  simp only [wrote, copy, if_true]
  exact member

theorem next_le_wrote (f : FanOut) (i : Incoming) (entry : BusSubscriptionEntry) : f.next ≤ (f.wrote i entry).next := by
  simp only [wrote]
  split
  · exact Nat.le_add_right _ _
  · exact le_rfl

theorem offerAll_apart (i : Incoming) (entries : List BusSubscriptionEntry) (f : FanOut) :
    f.next ≤ (offerAll i entries f).2.next ∧
      (∀ o ∈ (offerAll i entries f).1, Within f.next (offerAll i entries f).2.next o) ∧
      (offerAll i entries f).1.Pairwise Apart := by
  fun_induction offerAll i entries f with
  | case1 => exact ⟨le_rfl, fun _ member => absurd member List.not_mem_nil, .nil⟩
  | case2 entry entries f hear ih =>
    obtain ⟨more, within, apart⟩ := ih
    refine ⟨(next_le_wrote f i entry).trans more, ?_, List.pairwise_cons.mpr ⟨?_, apart⟩⟩
    · intro o member
      rcases List.mem_cons.mp member with rfl | later
      · exact (within_offered f i entry).mono le_rfl more
      · exact (within o later).mono (next_le_wrote f i entry) le_rfl
    · intro o later
      exact (within_offered f i entry).apart (within o later)
  | case3 _ _ _ _ ih => exact ih

/-! ### The removals -/

theorem evictAll_kept (dead : List String) (f : FanOut) :
    (dead.foldl evict f).busID = f.busID ∧ (dead.foldl evict f).next = f.next ∧
      (dead.foldl evict f).evictionsTotal = f.evictionsTotal + dead.length := by
  induction dead generalizing f with
  | nil => exact ⟨rfl, rfl, rfl⟩
  | cons subscriberID dead ih =>
    obtain ⟨bus, next, evictions⟩ := ih (f.evict subscriberID)
    refine ⟨bus, next, ?_⟩
    rw [List.foldl_cons, evictions, List.length_cons]
    simp only [evict, removeSubscription]
    omega

theorem evictAll_subscriptions (dead : List String) (f : FanOut) :
    (dead.foldl evict f).subscriptions = f.subscriptions.filter fun e => e.subscriberID ∉ dead := by
  induction dead generalizing f with
  | nil => simp
  | cons subscriberID dead ih =>
    rw [List.foldl_cons, ih]
    simp only [evict, removeSubscription, List.filter_filter, List.mem_cons, not_or, Bool.decide_and]
    exact List.filter_congr fun e _ => Bool.and_comm _ _

theorem evictAll_count {dead : List String} (alive : subscriberID ∉ dead) (f : FanOut) :
    (dead.foldl evict f).count subscriberID = f.count subscriberID := by
  induction dead generalizing f with
  | nil => rfl
  | cons first dead ih =>
    obtain ⟨other, alive⟩ : subscriberID ≠ first ∧ subscriberID ∉ dead := by simpa using alive
    rw [List.foldl_cons, ih alive]
    simp [evict, removeSubscription, count, other]

theorem evictAll_stopped (dead : List String) (f : FanOut) (distinct : dead.Nodup) :
    (dead.foldl evict f).stopped =
      f.stopped ++ dead.flatMap fun subscriberID => f.subscriptions.filter fun e => e.subscriberID = subscriberID := by
  induction dead generalizing f with
  | nil => simp
  | cons subscriberID dead ih =>
    obtain ⟨new, distinct⟩ := List.nodup_cons.mp distinct
    rw [List.foldl_cons, ih _ distinct, List.flatMap_cons, ← List.append_assoc]
    congr 1
    apply List.flatMap_congr
    intro later member
    have other : later ≠ subscriberID := fun same => new (same ▸ member)
    simp only [evict, removeSubscription, List.filter_filter]
    apply List.filter_congr
    intro e _
    by_cases same : e.subscriberID = later
    · simp [same, other]
    · simp [same]

/-! ### One packet -/

theorem filter_same_subscriber (distinct : (entries.map (·.subscriberID)).Nodup) (member : entry ∈ entries) :
    entries.filter (fun e => e.subscriberID = entry.subscriberID) = [entry] := by
  induction entries with
  | nil => cases member
  | cons first entries ih =>
    obtain ⟨new, distinct⟩ := List.nodup_cons.mp distinct
    rcases List.mem_cons.mp member with rfl | later
    · have others : entries.filter (fun e => e.subscriberID = entry.subscriberID) = [] := by
        rw [List.filter_eq_nil_iff]
        intro e listed same
        exact new (List.mem_map.mpr ⟨e, listed, of_decide_eq_true same⟩)
      simp [others]
    · have other : first.subscriberID ≠ entry.subscriberID := fun same =>
        new (List.mem_map.mpr ⟨entry, later, same.symm⟩)
      simp [other, ih distinct later]

theorem mem_filter_subscriber (distinct : (entries.map (·.subscriberID)).Nodup) (member : entry ∈ entries)
    (p : BusSubscriptionEntry → Bool) :
    entry.subscriberID ∈ (entries.filter p).map (·.subscriberID) ↔ p entry = true := by
  constructor
  · intro listed
    obtain ⟨e, found, same⟩ := List.mem_map.mp listed
    obtain ⟨here, passes⟩ := List.mem_filter.mp found
    rwa [List.inj_on_of_nodup_map distinct here member same] at passes
  · intro passes
    exact List.mem_map_of_mem (List.mem_filter.mpr ⟨member, passes⟩)

section Packet

variable (distinct : (f.subscriptions.map (·.subscriberID)).Nodup)

include distinct

theorem deliver_dead : (offerAll i f.subscriptions (f.begun i)).2.deadSubscriptions =
    (f.subscriptions.filter (f.exhausts i)).map (·.subscriberID) :=
  offerAll_dead distinct

theorem deliver_subscriptions :
    (f.deliverWithSource i).subscriptions = f.subscriptions.filter fun e => !f.exhausts i e := by
  obtain ⟨_, same, _⟩ := offerAll_kept i f.subscriptions (f.begun i)
  rw [deliverWithSource, evictAll_subscriptions, deliver_dead distinct, same]
  apply List.filter_congr
  intro e member
  simp only [mem_filter_subscriber distinct member]
  simp

theorem deliver_stopped :
    (f.deliverWithSource i).stopped = f.stopped ++ f.subscriptions.filter (f.exhausts i) := by
  obtain ⟨_, same, _, stopped⟩ := offerAll_kept i f.subscriptions (f.begun i)
  have once : ((f.subscriptions.filter (f.exhausts i)).map (·.subscriberID)).Nodup :=
    distinct.sublist (List.filter_sublist.map _)
  rw [deliverWithSource, deliver_dead distinct, evictAll_stopped _ _ once, stopped, same, List.flatMap_map]
  congr 1
  have alone : ∀ e ∈ f.subscriptions.filter (f.exhausts i),
      (f.begun i).subscriptions.filter (fun e' => e'.subscriberID = e.subscriberID) = [e] := fun e member =>
    filter_same_subscriber distinct (List.mem_filter.mp member).1
  rw [List.flatMap_congr alone, List.flatMap_singleton']

theorem deliver_evictions : (f.deliverWithSource i).evictionsTotal =
    f.evictionsTotal + (f.subscriptions.filter (f.exhausts i)).length := by
  obtain ⟨_, _, evictions, _⟩ := offerAll_kept i f.subscriptions (f.begun i)
  rw [deliverWithSource, (evictAll_kept _ _).2.2, deliver_dead distinct, evictions, List.length_map]
  rfl

theorem deliver_count {subscriberID : String}
    (alive : subscriberID ∉ (f.subscriptions.filter (f.exhausts i)).map (·.subscriberID)) :
    (f.deliverWithSource i).count subscriberID =
      if subscriberID ∈ hearers f.busID f.subscriptions then
        (if i.fails subscriberID then f.count subscriberID + 1 else 0)
      else f.count subscriberID := by
  rw [deliverWithSource, evictAll_count (by rwa [deliver_dead distinct]), offerAll_count distinct]
  rfl

theorem writeOutcomes_offers (subscriberID : String) : writeOutcomes (f.offers i) subscriberID =
    if subscriberID ∈ hearers f.busID f.subscriptions then [i.fails subscriberID] else [] :=
  writeOutcomes_offerAll distinct subscriberID

end Packet

/-! ### A whole run -/

structure Tallied (start : FanOut) (h : FanOutHistory) (f : FanOut) : Prop where
  busID : f.busID = start.busID
  subscribed : f.subscriptions.Sublist (start.subscriptions ++ FanOutHistory.joined h)
  tally : ∀ e ∈ f.subscriptions,
    f.count e.subscriberID = streak (writeOutcomes (FanOutHistory.offers h) e.subscriberID) ∧
    f.count e.subscriberID < maxConsecutiveErrors
  unknown : ∀ subscriberID ∉ (start.subscriptions ++ FanOutHistory.joined h).map (·.subscriberID),
    f.count subscriberID = 0 ∧ writeOutcomes (FanOutHistory.offers h) subscriberID = []

variable {start t u : FanOut} {h : FanOutHistory}

theorem offers_snoc (h : FanOutHistory) (x : Step FanOut FanOutEvent) :
    FanOutHistory.offers (h ++ [x]) = FanOutHistory.offers h ++ FanOutHistory.offersOf x := by
  simp [FanOutHistory.offers]

theorem joined_snoc (h : FanOutHistory) (x : Step FanOut FanOutEvent) :
    FanOutHistory.joined (h ++ [x]) = FanOutHistory.joined h ++ FanOutHistory.joinedBy x := by
  simp [FanOutHistory.joined]

theorem distinct_sooner {subscriptions : List BusSubscriptionEntry} {rest : FanOutHistory}
    (distinct : ((subscriptions ++ FanOutHistory.joined (h ++ rest)).map (·.subscriberID)).Nodup) :
    ((subscriptions ++ FanOutHistory.joined h).map (·.subscriberID)).Nodup := by
  rw [FanOutHistory.joined, List.flatMap_append, ← List.append_assoc, List.map_append] at distinct
  exact distinct.of_append_left

namespace Tallied

theorem attach (busID : String) (generation maxSubscriptions : Nat) (subscriptions : List BusSubscriptionEntry)
    (evictionsTotal next : Nat) :
    Tallied (attach busID generation maxSubscriptions subscriptions evictionsTotal next) []
      (attach busID generation maxSubscriptions subscriptions evictionsTotal next) where
  busID := rfl
  subscribed := by simp [FanOutHistory.joined]
  tally := fun _ _ => ⟨rfl, Nat.succ_pos 4⟩
  unknown := fun _ _ => ⟨rfl, rfl⟩

section

variable (tallied : Tallied start h t)

include tallied

theorem distinct (distinct : ((start.subscriptions ++ FanOutHistory.joined h).map (·.subscriberID)).Nodup) :
    (t.subscriptions.map (·.subscriberID)).Nodup :=
  distinct.sublist (tallied.subscribed.map _)

theorem writeOutcomes_packet (distinct : ((start.subscriptions ++ FanOutHistory.joined h).map (·.subscriberID)).Nodup)
    (i : Incoming) (u : FanOut) (subscriberID : String) :
    writeOutcomes (FanOutHistory.offers (h ++ [⟨t, .packet i, u⟩])) subscriberID =
      writeOutcomes (FanOutHistory.offers h) subscriberID ++
        if subscriberID ∈ hearers start.busID t.subscriptions then [i.fails subscriberID] else [] := by
  rw [offers_snoc, writeOutcomes_append, ← tallied.busID]
  congr 1
  exact writeOutcomes_offers (tallied.distinct distinct) subscriberID

theorem exhausts_iff (distinct : ((start.subscriptions ++ FanOutHistory.joined h).map (·.subscriberID)).Nodup)
    (i : Incoming) (u : FanOut) (member : entry ∈ t.subscriptions) :
    t.exhausts i entry = true ↔ hears start.busID entry = true ∧
      streak (writeOutcomes (FanOutHistory.offers (h ++ [⟨t, .packet i, u⟩])) entry.subscriberID) = 5 := by
  obtain ⟨count, few⟩ := tallied.tally entry member
  have heard : entry.subscriberID ∈ hearers start.busID t.subscriptions ↔ hears start.busID entry = true :=
    mem_filter_subscriber (tallied.distinct distinct) member _
  rw [tallied.writeOutcomes_packet distinct, exhausts, tallied.busID]
  by_cases hear : hears start.busID entry = true
  · rw [if_pos (heard.mpr hear)]
    cases i.fails entry.subscriberID with
    | false => simp
    | true =>
      rw [streak_failed, ← count, maxConsecutiveErrors]
      simp only [hear, Bool.and_self, Bool.true_and, true_and]
      rw [decide_eq_true_iff]
      exact ⟨fun reached => Nat.le_antisymm few reached, fun five => five.ge⟩
  · simp [hear]

theorem packet (distinct : ((start.subscriptions ++ FanOutHistory.joined h).map (·.subscriberID)).Nodup) (i : Incoming) :
    Tallied start (h ++ [⟨t, .packet i, t.deliverWithSource i⟩]) (t.deliverWithSource i) := by
  have once := tallied.distinct distinct
  have joined : FanOutHistory.joined (h ++ [⟨t, .packet i, t.deliverWithSource i⟩]) = FanOutHistory.joined h := by
    rw [joined_snoc]
    exact List.append_nil _
  have kept := deliver_subscriptions once (i := i)
  refine ⟨?_, ?_, fun e member => ?_, fun subscriberID unknown => ?_⟩
  · rw [deliverWithSource, (evictAll_kept _ _).1, (offerAll_kept _ _ _).1]
    exact tallied.busID
  · rw [joined, kept]
    exact List.filter_sublist.trans tallied.subscribed
  · rw [kept] at member
    obtain ⟨there, alive⟩ := List.mem_filter.mp member
    obtain ⟨count, few⟩ := tallied.tally e there
    have heard : e.subscriberID ∈ hearers start.busID t.subscriptions ↔ hears start.busID e = true :=
      mem_filter_subscriber once there _
    have living := (mem_filter_subscriber once there (t.exhausts i)).not.mpr (by simpa using alive)
    rw [tallied.writeOutcomes_packet distinct, deliver_count once living, tallied.busID]
    simp only [exhausts, tallied.busID] at alive
    by_cases hear : hears start.busID e = true
    · rw [if_pos (heard.mpr hear), if_pos (heard.mpr hear)]
      cases failed : i.fails e.subscriberID
      · simp [maxConsecutiveErrors]
      · simp [hear, failed] at alive
        simpa [count] using alive
    · rw [if_neg (heard.not.mpr hear), if_neg (heard.not.mpr hear), List.append_nil]
      exact ⟨count, few⟩
  · rw [joined] at unknown
    obtain ⟨count, none⟩ := tallied.unknown subscriberID unknown
    have absent : subscriberID ∉ t.subscriptions.map (·.subscriberID) := fun there =>
      unknown ((tallied.subscribed.map _).subset there)
    have unmarked : subscriberID ∉ (t.subscriptions.filter (t.exhausts i)).map (·.subscriberID) := fun there =>
      absent ((List.filter_sublist.map _).subset there)
    have unheard := not_mem_hearers absent
    rw [tallied.writeOutcomes_packet distinct, deliver_count once unmarked, if_neg (unheard _), if_neg (unheard _),
      none]
    exact ⟨count, rfl⟩

theorem join (entry : BusSubscriptionEntry) (u : FanOut)
    (distinct : ((start.subscriptions ++ FanOutHistory.joined (h ++ [⟨t, .join entry, u⟩])).map (·.subscriberID)).Nodup) :
    Tallied start (h ++ [⟨t, .join entry, u⟩]) (t.addBusSubscription entry) := by
  have joined : start.subscriptions ++ FanOutHistory.joined (h ++ [⟨t, .join entry, u⟩]) =
      start.subscriptions ++ FanOutHistory.joined h ++ [entry] := by
    rw [joined_snoc, List.append_assoc]
    rfl
  have offers : FanOutHistory.offers (h ++ [⟨t, .join entry, u⟩]) = FanOutHistory.offers h := by
    rw [offers_snoc]
    exact List.append_nil _
  rw [joined, List.map_append, List.nodup_append] at distinct
  have new : entry.subscriberID ∉ (start.subscriptions ++ FanOutHistory.joined h).map (·.subscriberID) := fun old =>
    distinct.2.2 _ old _ (List.mem_singleton.mpr rfl) rfl
  have known : ∀ subscriberID ∉ (start.subscriptions ++ FanOutHistory.joined (h ++ [⟨t, .join entry, u⟩])).map
      (·.subscriberID), t.count subscriberID = 0 ∧ writeOutcomes (FanOutHistory.offers h) subscriberID = [] := by
    intro subscriberID unknown
    rw [joined, List.map_append, List.mem_append, not_or] at unknown
    exact tallied.unknown subscriberID unknown.1
  unfold addBusSubscription
  split
  · refine ⟨tallied.busID, ?_, by rw [offers]; exact tallied.tally, by rw [offers]; exact known⟩
    rw [joined]
    exact tallied.subscribed.trans (List.sublist_append_left _ _)
  · refine ⟨tallied.busID, ?_, ?_, by rw [offers]; exact known⟩
    · rw [joined]
      exact tallied.subscribed.append (List.Sublist.refl _)
    · rw [offers]
      intro e member
      rcases List.mem_append.mp member with old | added
      · exact tallied.tally e old
      · rw [List.mem_singleton.mp added]
        obtain ⟨count, none⟩ := tallied.unknown _ new
        exact ⟨count.trans (by rw [none]; rfl), count.trans_lt (Nat.succ_pos 4)⟩

theorem leave (subscriberID : String) (u : FanOut) :
    Tallied start (h ++ [⟨t, .leave subscriberID, u⟩]) (t.removeSubscription subscriberID) := by
  have joined : FanOutHistory.joined (h ++ [⟨t, .leave subscriberID, u⟩]) = FanOutHistory.joined h := by
    rw [joined_snoc]
    exact List.append_nil _
  have offers : FanOutHistory.offers (h ++ [⟨t, .leave subscriberID, u⟩]) = FanOutHistory.offers h := by
    rw [offers_snoc]
    exact List.append_nil _
  refine ⟨tallied.busID, ?_, ?_, ?_⟩
  · rw [joined]
    exact List.filter_sublist.trans tallied.subscribed
  · rw [offers]
    exact fun e member => tallied.tally e (List.mem_filter.mp member).1
  · rw [joined, offers]
    exact tallied.unknown

end

theorem run {busID : String} {generation maxSubscriptions : Nat} {subscriptions : List BusSubscriptionEntry}
    {evictionsTotal next : Nat}
    (delivers : Delivers (FanOut.attach busID generation maxSubscriptions subscriptions evictionsTotal next) h t)
    (distinct : ((subscriptions ++ FanOutHistory.joined h).map (·.subscriberID)).Nodup) :
    Tallied (FanOut.attach busID generation maxSubscriptions subscriptions evictionsTotal next) h t := by
  induction delivers with
  | nil => exact attach ..
  | @snoc h t u event _ moved ih =>
    have tallied := ih (distinct_sooner distinct)
    cases event with
    | packet i =>
      cases moved
      exact tallied.packet (distinct_sooner distinct) i
    | join entry =>
      cases moved
      exact tallied.join entry _ distinct
    | leave subscriberID =>
      cases moved
      exact tallied.leave subscriberID _

end Tallied

/-! The copies of a whole run. -/

variable {event : FanOutEvent}

theorem next_le_step (moved : Machine.Moves step t event u) : t.next ≤ u.next := by
  cases event with
  | packet i =>
    cases moved
    rw [deliverWithSource, (evictAll_kept _ _).2.1]
    exact (le_after i.packet t.next).trans (offerAll_apart i t.subscriptions (t.begun i)).1
  | join entry =>
    cases moved
    unfold addBusSubscription
    split <;> exact le_rfl
  | leave subscriberID =>
    cases moved
    exact le_rfl

theorem offersOf_within (moved : Machine.Moves step t event u) :
    (∀ o ∈ FanOutHistory.offersOf ⟨t, event, u⟩, Within t.next u.next o) ∧
      (FanOutHistory.offersOf ⟨t, event, u⟩).Pairwise Apart := by
  cases event with
  | packet i =>
    cases moved
    obtain ⟨_, within, apart⟩ := offerAll_apart i t.subscriptions (t.begun i)
    refine ⟨fun o member => ?_, apart⟩
    rw [deliverWithSource, (evictAll_kept _ _).2.1]
    exact (within o member).mono (le_after i.packet t.next) le_rfl
  | join entry | leave subscriberID => exact ⟨fun _ member => absurd member List.not_mem_nil, .nil⟩

theorem copies_apart (delivers : Delivers start h t) : (FanOutHistory.offers h).Pairwise Apart ∧
    ∀ o ∈ FanOutHistory.offers h, Within 0 t.next o := by
  induction delivers with
  | nil => exact ⟨.nil, fun _ member => absurd member List.not_mem_nil⟩
  | snoc _ moved ih =>
    obtain ⟨within, apart⟩ := offersOf_within moved
    rw [offers_snoc]
    refine ⟨List.pairwise_append.mpr ⟨ih.1, apart, fun a old b new => ?_⟩, fun o member => ?_⟩
    · exact (ih.2 a old).apart (within b new)
    · rcases List.mem_append.mp member with old | new
      · exact (ih.2 o old).mono le_rfl (next_le_step moved)
      · exact (within o new).mono (Nat.zero_le _) le_rfl

def paired : FanOut := attach "voice" 1 0 [⟨"a", "mix", 1⟩, ⟨"b", "voice", 2⟩] 0 0

def failing : List FanOutEvent :=
  List.replicate 6 (.packet ⟨⟨.zero, [7]⟩, 0, false, 9, fun _ => true, fun subscriberID => subscriberID == "a"⟩)

end FanOut

end Relay
