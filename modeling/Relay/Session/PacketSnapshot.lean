import Relay.Session.PacketLog

/-! What a reader of the packet log returns: entries of distinct records, in their order, from
the window that its load of the write count opens. -/
namespace Relay.PacketLog

variable {log : List PacketLogEntry} {w w' : World} {ring ring' : Ring} {marked published p k low total : Nat}
  {e : Event} {r r' : Reading} {entries : List PacketLogEntry} {entry : PacketLogEntry}

theorem eq_or_lap {q : Nat} (fits : p < 2 ^ 64) (fits' : q < 2 ^ 64)
    (same : (2 * q + 2) % 2 ^ 64 = (2 * p + 2) % 2 ^ 64) : q = p ∨ q = p + 2 ^ 63 ∨ p = q + 2 ^ 63 := by
  omega

theorem lap_moves (p : Nat) : (p + 2 ^ 63) % 1000 ≠ p % 1000 := by omega

theorem generation_unique {q : Nat} (fits : p < 2 ^ 64) (fits' : q < 2 ^ 64) (here : q % 1000 = p % 1000)
    (same : (2 * q + 2) % 2 ^ 64 = (2 * p + 2) % 2 ^ 64) : q = p := by
  rcases eq_or_lap fits fits' same with equal | rfl | rfl
  · exact equal
  · exact absurd here (lap_moves p)
  · exact absurd here.symm (lap_moves q)

namespace Sound

section

variable (sound : Sound log w ring marked published)

include sound

theorem generation_iff (few : log.length < 2 ^ 64) (below : p < published) :
    (w.slot (.ofNat p)).generation = publishedGeneration (.ofNat p) ↔ (ring (slotOf p)).version = 2 * p + 2 := by
  obtain ⟨_, _, ordered, bound⟩ := sound.counts
  have fits : p < 2 ^ 64 := by omega
  have placed := sound.placed (slotOf p)
  have here : (slotOf p).val = p % 1000 := rfl
  rw [(sound.slot fits).1, publishedGeneration_ofNat, UInt64.ofNat_eq_ofNat_iff]
  constructor
  · intro same
    generalize ring (slotOf p) = g at placed same
    cases placed with
    | unused ahead =>
      rw [here] at ahead
      have slot := Nat.mod_le p 1000
      omega
    | settled there done =>
      have equal := generation_unique fits (by omega) there same
      rw [equal]
    | writing =>
      dsimp only at same
      omega
  · intro same
    rw [same]

theorem entry_of_version (same : (ring (slotOf p)).version = 2 * p + 2) : log[p]? = some (ring (slotOf p)).record := by
  have placed := sound.placed (slotOf p)
  generalize ring (slotOf p) = g at placed same
  cases placed with
  | unused => cases same
  | @settled q _ _ _ _ there =>
    dsimp only at same
    obtain rfl : q = p := by omega
    exact there
  | writing =>
    dsimp only at same
    omega

theorem version_of_level (level : log.length ≤ published) (below : p < log.length) (recent : log.length ≤ p + 1000) :
    (ring (slotOf p)).version = 2 * p + 2 := by
  obtain ⟨_, _, ordered, bound⟩ := sound.counts
  have placed := sound.placed (slotOf p)
  have here : (slotOf p).val = p % 1000 := rfl
  generalize ring (slotOf p) = g at placed
  cases placed with
  | unused => omega
  | settled =>
    dsimp only
    omega
  | writing => omega

theorem reread (readers : List Reading) : Sound log { w with readers := readers } ring marked published :=
  ⟨sound.mirrors, sound.progress, sound.placed⟩

end

end Sound

/-! ### One call of `last` -/

/-- Entries of increasing positions from `low` to below `p`; of all these positions, as long as
nothing is recorded beyond `total`. -/
def Upto (log : List PacketLogEntry) (low total p : Nat) (entries : List PacketLogEntry) : Prop :=
  (∃ positions : List Nat, positions.Pairwise (· < ·) ∧ (∀ q ∈ positions, low ≤ q ∧ q < p) ∧
    List.Forall₂ (fun q entry => log[q]? = some entry) positions entries) ∧
    (total = log.length → entries = (log.drop low).take (p - low))

namespace Upto

theorem skip (upto : Upto log low total p entries) (more : total ≠ log.length) :
    Upto log low total (p + 1) entries := by
  obtain ⟨⟨positions, increasing, bounds, found⟩, _⟩ := upto
  refine ⟨⟨positions, increasing, ?_, found⟩, fun level => absurd level more⟩
  intro q member
  have bound := bounds q member
  omega

theorem take (upto : Upto log low total p entries) (above : low ≤ p) (there : log[p]? = some entry) :
    Upto log low total (p + 1) (entries ++ [entry]) := by
  obtain ⟨⟨positions, increasing, bounds, found⟩, exactly⟩ := upto
  refine ⟨⟨positions ++ [p], ?_, ?_, List.rel_append found (.cons there .nil)⟩, fun level => ?_⟩
  · rw [List.pairwise_append]
    refine ⟨increasing, List.pairwise_singleton _ _, ?_⟩
    intro q member p' here
    rw [List.mem_singleton.mp here]
    exact (bounds q member).2
  · intro q member
    rcases List.mem_append.mp member with old | new
    · have bound := bounds q old
      omega
    · rw [List.mem_singleton.mp new]
      exact ⟨above, Nat.lt_succ_self p⟩
  · have place : low + (p - low) = p := by omega
    rw [exactly level, Nat.sub_add_comm above, List.take_add_one, List.getElem?_drop, place, there]
    rfl

theorem grow (upto : Upto log low total p entries) (recorded : total ≤ log.length) (more : List PacketLogEntry) :
    Upto (log ++ more) low total p entries := by
  obtain ⟨⟨positions, increasing, bounds, found⟩, exactly⟩ := upto
  refine ⟨⟨positions, increasing, bounds, found.imp ?_⟩, fun level => ?_⟩
  · intro q entry there
    rw [List.getElem?_append_left (List.getElem?_eq_some_iff.mp there).1]
    exact there
  · rw [List.length_append] at level
    obtain rfl : more = [] := List.length_eq_zero_iff.mp (by omega)
    rw [List.append_nil]
    exact exactly (by omega)

end Upto

def Reads (log : List PacketLogEntry) (low total : Nat) (ring : Ring) : Reading → Prop
  | .checking writeCount position entries =>
    ∃ p, writeCount = .ofNat total ∧ position = .ofNat p ∧ low ≤ p ∧ p < total ∧ Upto log low total p entries
  | .loading writeCount position entries entry todo =>
    ∃ p, writeCount = .ofNat total ∧ position = .ofNat p ∧ low ≤ p ∧ p < total ∧ Upto log low total p entries ∧
      Seqlock.Consistent PacketLogEntry.copy ⟨2 * p + 2, entry, todo⟩ (ring (slotOf p))
  | .returned entries => Upto log low total total entries

theorem next_ofNat (fits : total < 2 ^ 64) (below : p < total) (entries : List PacketLogEntry) :
    Reading.next (.ofNat total) (.ofNat p) entries =
      if p + 1 < total then .checking (.ofNat total) (.ofNat (p + 1)) entries else .returned entries := by
  have more : UInt64.ofNat (p + 1) < UInt64.ofNat total ↔ p + 1 < total := by
    rw [UInt64.lt_iff_toNat_lt, UInt64.toNat_ofNat', UInt64.toNat_ofNat']
    omega
  have succ : UInt64.ofNat p + 1 = UInt64.ofNat (p + 1) := (UInt64.ofNat_add p 1).symm
  simp only [Reading.next, succ, more]

namespace Reads

theorem move (reads : Reads log low total ring r) (moved : ∀ s, Seqlock.Move (ring s) (ring' s))
    (recorded : total ≤ log.length) (more : List PacketLogEntry) : Reads (log ++ more) low total ring' r := by
  cases r with
  | checking =>
    obtain ⟨p, count, position, above, below, upto⟩ := reads
    exact ⟨p, count, position, above, below, upto.grow recorded more⟩
  | loading =>
    obtain ⟨p, count, position, above, below, upto, consistent⟩ := reads
    exact ⟨p, count, position, above, below, upto.grow recorded more, consistent.move (moved _)⟩
  | returned => exact Upto.grow reads recorded more

theorem next (fits : total < 2 ^ 64) (above : low ≤ p) (below : p < total) (upto : Upto log low total (p + 1) entries) :
    Reads log low total ring (.next (.ofNat total) (.ofNat p) entries) := by
  rw [next_ofNat fits below]
  split
  · rename_i more
    exact ⟨p + 1, rfl, rfl, Nat.le_succ_of_le above, more, upto⟩
  · obtain rfl : total = p + 1 := by omega
    exact upto

theorem read (sound : Sound log w ring marked published) (few : log.length < 2 ^ 64) (old : total ≤ published)
    (recent : total ≤ low + 1000) (reads : Reads log low total ring r) (taken : w.read r = some r') :
    Reads log low total ring r' := by
  obtain ⟨_, _, ordered, bound⟩ := sound.counts
  have fits : total < 2 ^ 64 := by omega
  have skip {p : Nat} {entries : List PacketLogEntry} (above : low ≤ p) (below : p < total)
      (upto : Upto log low total p entries)
      (other : (w.slot (.ofNat p)).generation ≠ publishedGeneration (.ofNat p)) :
      Reads log low total ring (.next (.ofNat total) (.ofNat p) entries) := by
    refine next fits above below (upto.skip fun level => other ?_)
    rw [sound.generation_iff few (by omega)]
    exact sound.version_of_level (level ▸ old) (by omega) (by omega)
  cases r with
  | checking =>
    obtain ⟨p, rfl, rfl, above, below, upto⟩ := reads
    simp only [World.read] at taken
    split at taken
    · rename_i other
      cases taken
      exact skip above below upto other
    · rename_i same
      cases taken
      have version := (sound.generation_iff few (by omega)).mp (not_not.mp same)
      refine ⟨p, rfl, rfl, above, below, upto, ?_⟩
      rw [← version]
      exact .start transfer_packetLogFields (by omega) _
  | loading _ _ _ _ todo =>
    obtain ⟨p, rfl, rfl, above, below, upto, consistent⟩ := reads
    cases todo with
    | cons field todo =>
      cases taken
      refine ⟨p, rfl, rfl, above, below, upto, ?_⟩
      rw [PacketLogSlot.load_eq_copy, (sound.slot (by omega)).2]
      exact consistent.load
    | nil =>
      simp only [World.read] at taken
      split at taken
      · rename_i same
        cases taken
        have version := (sound.generation_iff few (by omega)).mp same
        refine next fits above below (upto.take above ?_)
        rw [consistent.record_eq version]
        exact sound.entry_of_version version
      · rename_i other
        cases taken
        exact skip above below upto other
  | returned => cases taken

end Reads

def window (limit : Int64) (total : Nat) : Nat := min (min limit.toInt.toNat packetLogWindowSize) total

variable {limit : Int64}

theorem World.last_eq (count : w.writeCount = .ofNat total) (fits : total < 2 ^ 64) (positive : 1 ≤ limit) :
    w.last limit =
      if window limit total = 0 then .returned []
      else .checking (.ofNat total) (.ofNat (total - window limit total)) [] := by
  have word : limit.toUInt64.toNat = limit.toInt.toNat :=
    Int64.toNat_toUInt64_of_le (Int64.le_trans (show (0 : Int64) ≤ 1 by decide) positive)
  have small : (min (UInt64.ofNat total) (.ofNat packetLogWindowSize)).toNat = min total packetLogWindowSize := by
    rw [UInt64.toNat_min, UInt64.toNat_ofNat', Nat.mod_eq_of_lt fits]
    rfl
  have capped : (if limit.toUInt64 > min (UInt64.ofNat total) (.ofNat packetLogWindowSize)
      then min (UInt64.ofNat total) (.ofNat packetLogWindowSize) else limit.toUInt64) =
        .ofNat (window limit total) := by
    have inside : window limit total ≤ total := min_le_right _ _
    rw [← UInt64.toNat_inj, UInt64.toNat_ofNat', Nat.mod_eq_of_lt (lt_of_le_of_lt inside fits), window]
    split
    · rename_i more
      rw [gt_iff_lt, UInt64.lt_iff_toNat_lt, small, word] at more
      rw [small]
      omega
    · rename_i less
      rw [gt_iff_lt, UInt64.lt_iff_toNat_lt, small, word] at less
      rw [word]
      omega
  have inside : window limit total ≤ total := min_le_right _ _
  have none : UInt64.ofNat (window limit total) = 0 ↔ window limit total = 0 := by
    rw [show (0 : UInt64) = UInt64.ofNat 0 from rfl, UInt64.ofNat_eq_ofNat_iff]
    omega
  unfold World.last
  rw [count]
  dsimp only
  rw [capped, UInt64.ofNat_sub inside]
  simp only [none]

theorem Reads.start (count : w.writeCount = .ofNat total) (fits : total < 2 ^ 64) (positive : 1 ≤ limit) :
    Reads log (total - window limit total) total ring (w.last limit) := by
  have empty : Upto log (total - window limit total) total (total - window limit total) [] := by
    refine ⟨⟨[], .nil, fun _ none => absurd none List.not_mem_nil, .nil⟩, fun _ => ?_⟩
    rw [Nat.sub_self, List.take_zero]
  rw [World.last_eq count fits positive]
  split
  · rename_i none
    rw [none] at empty ⊢
    exact empty
  · have inside : window limit total ≤ total := min_le_right _ _
    exact ⟨_, rfl, rfl, le_rfl, by omega, empty⟩

/-! ### A call returns -/

/-- At most this many operations are left: eleven for a position. -/
def Reading.remaining : Reading → Nat
  | .checking writeCount position _ => 11 * (writeCount.toNat - position.toNat)
  | .loading writeCount position _ _ todo => 11 * (writeCount.toNat - position.toNat - 1) + todo.length + 1
  | .returned _ => 0

theorem next_remaining (fits : total < 2 ^ 64) (below : p < total) (entries : List PacketLogEntry) :
    (Reading.next (.ofNat total) (.ofNat p) entries).remaining ≤ 11 * (total - p - 1) := by
  rw [next_ofNat fits below]
  split
  · simp only [Reading.remaining, UInt64.toNat_ofNat']
    omega
  · exact Nat.zero_le _

theorem Reads.progress (fits : total < 2 ^ 64) (reads : Reads log low total ring r) (w : World)
    (unfinished : ∀ entries, r ≠ .returned entries) : ∃ r', w.read r = some r' ∧ r'.remaining < r.remaining := by
  cases r with
  | checking writeCount position entries =>
    obtain ⟨p, rfl, rfl, _, below, _⟩ := reads
    have less := next_remaining fits below entries
    have left : (Reading.checking (.ofNat total) (.ofNat p) entries).remaining = 11 * (total - p) := by
      simp only [Reading.remaining, UInt64.toNat_ofNat']
      omega
    rw [left]
    simp only [World.read]
    split
    · exact ⟨_, rfl, by omega⟩
    · refine ⟨_, rfl, ?_⟩
      simp only [Reading.remaining, UInt64.toNat_ofNat', packetLogFields, List.length_cons, List.length_nil]
      omega
  | loading writeCount position entries entry todo =>
    obtain ⟨p, rfl, rfl, _, below, _⟩ := reads
    cases todo with
    | cons field todo => exact ⟨_, rfl, Nat.lt_succ_self _⟩
    | nil =>
      have left : (Reading.loading (.ofNat total) (.ofNat p) entries entry []).remaining = 11 * (total - p - 1) + 1 := by
        simp only [Reading.remaining, UInt64.toNat_ofNat', List.length_nil]
        omega
      rw [left]
      simp only [World.read]
      split
      · exact ⟨_, rfl, Nat.lt_succ_of_le (next_remaining fits below _)⟩
      · exact ⟨_, rfl, Nat.lt_succ_of_le (next_remaining fits below _)⟩
  | returned entries => exact absurd rfl (unfinished entries)

theorem finishes (sound : Sound log w ring marked published) (few : log.length < 2 ^ 64) (old : total ≤ published)
    (recent : total ≤ low + 1000) (there : w.readers[k]? = some r) (reads : Reads log low total ring r) :
    ∃ (n : Nat) (entries : List PacketLogEntry),
      Machine.allows World.step w (List.replicate n (.read k)) = true ∧
        (Machine.final World.step w (List.replicate n (.read k))).readers[k]? = some (.returned entries) := by
  have fits : total < 2 ^ 64 := by
    obtain ⟨_, _, ordered, bound⟩ := sound.counts
    omega
  induction left : r.remaining using Nat.strong_induction_on generalizing w r with
  | _ left ih =>
    by_cases finished : ∃ entries, r = .returned entries
    · obtain ⟨entries, rfl⟩ := finished
      exact ⟨0, entries, rfl, there⟩
    · obtain ⟨r', read, less⟩ := reads.progress fits w (not_exists.mp finished)
      have taken : w.step (.read k) = some { w with readers := w.readers.set k r' } := by
        simp only [World.step, there, Option.bind_some, read, Option.map_some]
      have placed : (w.readers.set k r')[k]? = some r' :=
        List.getElem?_set_self (List.getElem?_eq_some_iff.mp there).1
      obtain ⟨n, entries, allowed, returned⟩ :=
        ih _ (left ▸ less) (sound.reread (w.readers.set k r')) placed (reads.read sound few old recent read) rfl
      refine ⟨n + 1, entries, ?_, ?_⟩
      · rw [List.replicate_succ, Machine.allows, taken]
        exact allowed
      · rw [List.replicate_succ, Machine.final, taken]
        exact returned

/-! ### Whole runs -/

theorem World.write_readers (taken : w.write = some w') : w'.readers = w.readers := by
  unfold World.write at taken
  split at taken <;> cases taken <;> rfl

theorem World.step_readers (taken : w.step e = some w') (other : e ≠ .read k) (there : w.readers[k]? = some r) :
    w'.readers[k]? = some r := by
  cases e with
  | record entry =>
    simp only [World.step] at taken
    split at taken <;> cases taken
    exact there
  | write =>
    rw [World.write_readers taken]
    exact there
  | last limit =>
    cases taken
    exact Objects.getElem?_snoc_of_some there
  | read j =>
    obtain ⟨_, _, rfl⟩ := Option.map_eq_some_iff.mp taken
    have apart : j ≠ k := fun same => other (congrArg Event.read same)
    exact (List.getElem?_set_ne apart).trans there

theorem Sound.step (sound : Sound log w ring marked published)
    (few : (log ++ (recordCall ⟨w, e, w'⟩).toList).length < 2 ^ 64) (taken : w.step e = some w') :
    ∃ ring' marked' published', (∀ s, Seqlock.Move (ring s) (ring' s)) ∧ published ≤ published' ∧
      Sound (log ++ (recordCall ⟨w, e, w'⟩).toList) w' ring' marked' published' := by
  cases e with
  | record entry =>
    obtain ⟨idle, rfl⟩ := Option.guarded taken
    exact ⟨ring, _, _, fun _ => .stay, le_rfl, sound.record idle entry⟩
  | write =>
    simp only [recordCall, Option.toList_none, List.append_nil] at few ⊢
    exact sound.write few taken
  | last limit =>
    cases taken
    simp only [recordCall, Option.toList_none, List.append_nil]
    exact ⟨ring, _, _, fun _ => .stay, le_rfl, sound.reread _⟩
  | read k =>
    obtain ⟨_, _, rfl⟩ := Option.map_eq_some_iff.mp taken
    simp only [recordCall, Option.toList_none, List.append_nil]
    exact ⟨ring, _, _, fun _ => .stay, le_rfl, sound.reread _⟩

def Follows (k low total : Nat) (log : List PacketLogEntry) (w : World) : Prop :=
  log.length < 2 ^ 64 → ∃ ring marked published, Sound log w ring marked published ∧ total ≤ published ∧
    ∃ r, w.readers[k]? = some r ∧ Reads log low total ring r

theorem Follows.step (recent : total ≤ low + 1000) (follows : Follows k low total log w) (taken : w.step e = some w') :
    Follows k low total (log ++ (recordCall ⟨w, e, w'⟩).toList) w' := by
  intro few
  have fewer : log.length < 2 ^ 64 := lt_of_le_of_lt (by simp) few
  obtain ⟨ring, marked, published, sound, old, r, there, reads⟩ := follows fewer
  by_cases own : e = .read k
  · subst own
    obtain ⟨r', read, rfl⟩ := Option.map_eq_some_iff.mp taken
    rw [there, Option.bind_some] at read
    simp only [recordCall, Option.toList_none, List.append_nil]
    exact ⟨ring, marked, published, sound.reread _, old, r',
      List.getElem?_set_self (List.getElem?_eq_some_iff.mp there).1, reads.read sound fewer old recent read⟩
  · obtain ⟨ring', marked', published', moved, grown, sound'⟩ := sound.step few taken
    obtain ⟨_, _, ordered, bound⟩ := sound.counts
    exact ⟨ring', marked', published', sound', old.trans grown, r, World.step_readers taken own there,
      reads.move moved (by omega) _⟩

theorem sound_of_run {h : List (Step World Event)} (run : Exec (Machine.Moves World.step) World.new h w)
    (few : (recorded h).length < 2 ^ 64) : ∃ ring marked published, Sound (recorded h) w ring marked published := by
  refine run.collected (g := []) (I := fun log w => log.length < 2 ^ 64 → ∃ ring marked published,
    Sound log w ring marked published) ?_ (fun _ => ⟨_, _, _, .new⟩) few
  intro log w e w' kept taken few
  obtain ⟨ring, marked, published, sound⟩ := kept (lt_of_le_of_lt (by simp) few)
  obtain ⟨ring', marked', published', _, _, sound'⟩ := sound.step few taken
  exact ⟨ring', marked', published', sound'⟩

/-- The calls of `record` that have returned when a run has reached a state. -/
def returnedRecords (h : List (Step World Event)) (w : World) : Nat := (recorded h).length - w.inProgress

theorem Sound.calls (sound : Sound log w ring marked published) (few : log.length < 2 ^ 64) (positive : 1 ≤ limit) :
    Follows w.readers.length (log.length - w.inProgress - window limit (log.length - w.inProgress))
      (log.length - w.inProgress) log { w with readers := w.readers ++ [w.last limit] } := by
  intro _
  obtain ⟨count, counted, _, _⟩ := sound.counts
  exact ⟨ring, marked, published, sound.reread _, counted, w.last limit, List.getElem?_concat_length,
    .start count (by omega) positive⟩

/-- Every entry that a call of `last` returns was passed to a call of `record`, and the entries
are those of increasing positions in the window of the call. With no record running they are
all the entries of the window. A call returns by its own operations. -/
theorem last_reads_window {h : List (Step World Event)} (run : Exec (Machine.Moves World.step) World.new h w)
    (few : (recorded h).length < 2 ^ 64) {before after : List (Step World Event)} {x : Step World Event}
    (split : h = before ++ x :: after) (called : x.event = .last limit) (positive : 1 ≤ limit) :
    (∀ entries, w.readers[x.before.readers.length]? = some (.returned entries) →
      (∃ positions : List Nat, positions.Pairwise (· < ·) ∧
        (∀ p ∈ positions, returnedRecords before x.before - min limit.toInt.toNat packetLogWindowSize ≤ p ∧
          p < returnedRecords before x.before) ∧
        List.Forall₂ (fun p entry => (recorded h)[p]? = some entry) positions entries) ∧
      (x.before.writer = .idle → (∀ y ∈ after, ∀ entry, y.event ≠ .record entry) →
        entries = (recorded before).drop ((recorded before).length -
          min (min limit.toInt.toNat packetLogWindowSize) (recorded before).length))) ∧
      ∃ (n : Nat) (entries : List PacketLogEntry),
        Machine.allows World.step w (List.replicate n (.read x.before.readers.length)) = true ∧
          (Machine.final World.step w (List.replicate n (.read x.before.readers.length))).readers[
            x.before.readers.length]? = some (.returned entries) := by
  subst split
  obtain ⟨first, taken, rest⟩ := run.split_step
  have opened : x.after = { x.before with readers := x.before.readers ++ [x.before.last limit] } := by
    unfold Machine.Moves at taken
    rw [called] at taken
    exact (Option.some.inj taken).symm
  have nothing : recordCall x = none := by
    unfold recordCall
    rw [called]
  have whole : recorded (before ++ x :: after) = recorded before ++ recorded after := by
    unfold recorded
    rw [List.filterMap_append, List.filterMap_cons_none nothing]
  have fewer : (recorded before).length < 2 ^ 64 := lt_of_le_of_lt (by simp [whole]) few
  obtain ⟨ring, marked, published, sound⟩ := sound_of_run first fewer
  have wide : ∀ total, total ≤ total - window limit total + 1000 := by
    intro total
    unfold window packetLogWindowSize
    omega
  have followed := rest.collected (I := Follows _ _ _) (fun follows => follows.step (wide _))
    (opened ▸ sound.calls fewer positive)
  obtain ⟨_, _, _, sound', old, r, there, reads⟩ := followed (whole ▸ few)
  refine ⟨fun entries returned => ?_, finishes sound' (whole ▸ few) old (wide _) there reads⟩
  obtain rfl := Option.some.inj (there.symm.trans returned)
  obtain ⟨⟨positions, increasing, bounds, found⟩, exactly⟩ := reads
  refine ⟨⟨positions, increasing, ?_, whole ▸ found⟩, fun idle calm => ?_⟩
  · intro p member
    have bound := bounds p member
    unfold window at bound
    unfold returnedRecords
    omega
  · have none : List.filterMap recordCall after = [] := by
      rw [List.filterMap_eq_nil_iff]
      intro y member
      unfold recordCall
      split
      · rename_i entry event
        exact absurd event (calm y member entry)
      · rfl
    have settled : x.before.inProgress = 0 := if_pos idle
    rw [settled, Nat.sub_zero, none, List.append_nil] at exactly
    rw [exactly rfl]
    apply List.take_of_length_le
    rw [List.length_drop]

def entryOf (n : Nat) : PacketLogEntry := ⟨.ofNat n, .ofNat (960 * n), 111, 7, 80, false, 0, .ofNat n, .ofNat (n + 5)⟩

def recordOf (n : Nat) : List Event := .record (entryOf n) :: List.replicate 12 .write

def recording : List Event := recordOf 1 ++ recordOf 2 ++ (recordOf 3).take 6

def reading : List Event :=
  List.replicate 9 (Event.read 0) ++ List.replicate 7 Event.write ++ List.replicate 13 (Event.read 0)

def historyOf (events : List Event) : List (Step World Event) := Machine.trail World.step World.new events

def after (events : List Event) : World := Machine.final World.step World.new events

theorem recording_run :
    Machine.allows World.step World.new (recording ++ .last 7 :: reading) = true ∧
      (recorded (historyOf (recording ++ .last 7 :: reading))).length < 2 ^ 64 ∧
      (after (recording ++ .last 7 :: reading)).readers[(after recording).readers.length]? =
        some (.returned [entryOf 1, entryOf 2]) := by
  decide +kernel

theorem last_reads_window_recording :
    ∃ positions : List Nat, positions.Pairwise (· < ·) ∧
      (∀ p ∈ positions,
        returnedRecords (historyOf recording) (after recording) - min (7 : Int64).toInt.toNat packetLogWindowSize ≤ p ∧
          p < returnedRecords (historyOf recording) (after recording)) ∧
      List.Forall₂ (fun p entry => (recorded (historyOf (recording ++ .last 7 :: reading)))[p]? = some entry)
        positions [entryOf 1, entryOf 2] :=
  ((last_reads_window (Machine.exec_of_allows recording_run.1) recording_run.2.1 (Machine.trail_split recording_run.1)
    rfl (by decide)).1 _ recording_run.2.2).1

/-! ### The write count wraps -/

theorem record_whole (idle : w.writer = .idle) (entry : PacketLogEntry) :
    ∃ h w', Exec (Machine.Moves World.step) w h w' ∧ recorded h = [entry] ∧ w'.writer = .idle ∧
      w'.writeCount = w.writeCount + 1 := by
  obtain ⟨entries, writeCount, writer, readers⟩ := w
  cases idle
  have allowed : Machine.allows World.step ⟨entries, writeCount, .idle, readers⟩
      (.record entry :: List.replicate 12 .write) = true := rfl
  exact ⟨_, _, Machine.exec_of_allows allowed, rfl, rfl, rfl⟩

theorem record_all (calls : List PacketLogEntry) :
    ∃ h w, Exec (Machine.Moves World.step) World.new h w ∧ recorded h = calls ∧ w.writer = .idle ∧
      w.writeCount = .ofNat calls.length := by
  induction calls using List.reverseRecOn with
  | nil => exact ⟨[], World.new, .nil, rfl, rfl, rfl⟩
  | append_singleton calls entry ih =>
    obtain ⟨h, w, run, made, idle, count⟩ := ih
    obtain ⟨h', w', run', called, idle', count'⟩ := record_whole idle entry
    refine ⟨_, w', run.append run', ?_, idle', ?_⟩
    · unfold recorded at made called ⊢
      rw [List.filterMap_append, made, called]
    · rw [count', count, List.length_append, UInt64.ofNat_add]
      rfl

/-- After 2^64 records, with none of them running, a call returns nothing. -/
theorem last_after_wrap :
    ∃ (before : List (Step World Event)) (x : Step World Event),
      Exec (Machine.Moves World.step) World.new (before ++ [x]) x.after ∧ x.event = .last 1 ∧
        (recorded before).length = 2 ^ 64 ∧ x.before.writer = .idle ∧
        x.after.readers[x.before.readers.length]? = some (.returned []) ∧
        (recorded before).drop ((recorded before).length -
          min (min (1 : Int64).toInt.toNat packetLogWindowSize) (recorded before).length) ≠ [] := by
  obtain ⟨h, w, run, made, idle, count⟩ := record_all (List.replicate (2 ^ 64) .zero)
  have total : (recorded h).length = 2 ^ 64 := by
    rw [made, List.length_replicate]
  rw [List.length_replicate] at count
  have zero : w.writeCount = 0 := count.trans (by decide)
  have empty : w.last 1 = .returned [] := by
    unfold World.last
    rw [zero]
    decide
  refine ⟨h, ⟨w, .last 1, { w with readers := w.readers ++ [w.last 1] }⟩, .snoc run rfl, rfl, total, idle, ?_, ?_⟩
  · rw [empty]
    exact List.getElem?_concat_length
  · rw [total]
    apply List.ne_nil_of_length_pos
    rw [List.length_drop, total]
    decide

end Relay.PacketLog
