import Relay.Access.Records
import Relay.Lib.Index
import Mathlib.Tactic.Linarith
import Mathlib.Tactic.Ring

/-! The limiter of public requests: a fixed window for each client, in a table of bounded size.
The table is full of windows that have not elapsed before a client is turned away, so no client
can make another one's window disappear. -/
namespace Relay

namespace Admission

structure Entry where
  windowStart : Time
  count : Int
deriving DecidableEq

def Entry.spent (limit : Int) (e : Entry) : Entry := if limit ≤ e.count then e else { e with count := e.count + 1 }

theorem Entry.spent_windowStart (limit : Int) (e : Entry) : (e.spent limit).windowStart = e.windowStart := by
  unfold spent
  split <;> rfl

def defaultMaxIdentities : Int := 4096

structure IPLimiter where
  entries : Table String Entry
  limit : Int
  window : Duration
  maxEntries : Int

namespace IPLimiter

def new (limit : Int) (window : Duration) (maxEntries : Int) : IPLimiter where
  entries := ∅
  limit := limit
  window := if window ≤ 0 then minute else window
  maxEntries := if maxEntries ≤ 0 then defaultMaxIdentities else maxEntries

def elapsed (l : IPLimiter) (now : Time) (e : Entry) : Bool := decide (l.window ≤ now - e.windowStart)

def prune (l : IPLimiter) (now : Time) : IPLimiter :=
  { l with entries := l.entries.eraseWhere fun _ e => l.elapsed now e }

def host (splitHostPort : String → Option String) (remoteAddress : String) : String :=
  let host := (splitHostPort remoteAddress).getD remoteAddress
  if host = "" then "unknown" else host

def cleared (l : IPLimiter) (now : Time) : IPLimiter :=
  if l.maxEntries ≤ l.entries.size then l.prune now else l

def start (l : IPLimiter) (host : String) (now : Time) : (Bool × Duration) × IPLimiter :=
  let l := l.cleared now
  if l.maxEntries ≤ l.entries.size then ((false, l.window), l)
  else ((true, 0), { l with entries := l.entries.insert host ⟨now, 1⟩ })

def spend (l : IPLimiter) (host : String) (now : Time) (current : Entry) : (Bool × Duration) × IPLimiter :=
  if l.limit ≤ current.count then
    let remaining := l.window - (now - current.windowStart)
    ((false, if remaining < second then second else remaining), l)
  else ((true, 0), { l with entries := l.entries.insert host { current with count := current.count + 1 } })

def allowHost (l : IPLimiter) (host : String) (now : Time) : (Bool × Duration) × IPLimiter :=
  match l.entries.lookup host with
  | none => l.start host now
  | some current =>
    if l.elapsed now current then { l with entries := l.entries.erase host }.start host now
    else l.spend host now current

def allow (splitHostPort : String → Option String) (l : IPLimiter) (remoteAddress : String) (now : Time) :
    (Bool × Duration) × IPLimiter :=
  if l.limit ≤ 0 then ((true, 0), l) else l.allowHost (host splitHostPort remoteAddress) now

end IPLimiter

structure Call where
  remoteAddress : String
  now : Time

structure Decision where
  before : IPLimiter
  host : String
  now : Time
  allowed : Bool
  retryAfter : Duration
  after : IPLimiter

def Decision.verdict (d : Decision) : Time × Bool × Duration := (d.now, d.allowed, d.retryAfter)

def Decision.Opens (d : Decision) : Prop := d.allowed = true ∧ d.after.entries.lookup d.host = some ⟨d.now, 1⟩

def verdicts (h : String) (ds : List Decision) : List (Time × Bool × Duration) :=
  (ds.filter fun d => d.host == h).map Decision.verdict

namespace IPLimiter

variable (splitHostPort : String → Option String)

def decision (l : IPLimiter) (c : Call) : Decision :=
  ⟨l, host splitHostPort c.remoteAddress, c.now, (l.allow splitHostPort c.remoteAddress c.now).1.1,
    (l.allow splitHostPort c.remoteAddress c.now).1.2, (l.allow splitHostPort c.remoteAddress c.now).2⟩

def decisions (l : IPLimiter) : List Call → List Decision
  | [] => []
  | c :: calls => l.decision splitHostPort c :: decisions (l.decision splitHostPort c).after calls

def callsOf (h : String) (calls : List Call) : List Call :=
  calls.filter fun c => host splitHostPort c.remoteAddress == h

end IPLimiter

namespace IPLimiter

variable {l : IPLimiter} {h k : String} {now : Time} {e : Entry}

/-! ### One call -/

theorem elapsed_iff : l.elapsed now e = true ↔ e.windowStart + l.window ≤ now := by
  have order : ∀ w n s : Int, w ≤ n - s ↔ s + w ≤ n := by omega
  rw [elapsed, decide_eq_true_iff]
  exact order _ _ _

theorem cleared_lookup : (l.cleared now).entries.lookup k = some e → l.entries.lookup k = some e := by
  unfold cleared
  split
  · intro found
    exact (Table.lookup_eraseWhere.mp found).1
  · exact id

theorem cleared_keeps (found : l.entries.lookup k = some e) (lasts : l.elapsed now e = false) :
    (l.cleared now).entries.lookup k = some e := by
  unfold cleared
  split
  · exact Table.lookup_eraseWhere.mpr ⟨found, lasts⟩
  · exact found

theorem cleared_frame (l : IPLimiter) (now : Time) : (l.cleared now).limit = l.limit ∧
    (l.cleared now).window = l.window ∧ (l.cleared now).maxEntries = l.maxEntries := by
  unfold cleared
  split <;> exact ⟨rfl, rfl, rfl⟩

theorem start_cases (l : IPLimiter) (h : String) (now : Time) :
    ((l.start h now).1 = (false, l.window) ∧ (l.start h now).2 = l.cleared now) ∨
      ((l.cleared now).entries.size < l.maxEntries ∧ (l.start h now).1 = (true, 0) ∧
        (l.start h now).2 = { l.cleared now with entries := (l.cleared now).entries.insert h ⟨now, 1⟩ }) := by
  obtain ⟨_, window, most⟩ := cleared_frame l now
  unfold start
  dsimp only
  split
  · rw [window]
    exact .inl ⟨rfl, rfl⟩
  · rename_i room
    rw [most] at room
    exact .inr ⟨not_le.mp room, rfl, rfl⟩

/-- What a call of a host does to the table: it keeps the windows of the others that have not
elapsed and adds none to them, and it starts or continues the window of the host. -/
structure Answered (l : IPLimiter) (h : String) (now : Time) (allowed : Bool) (l' : IPLimiter) : Prop where
  frame : l'.limit = l.limit ∧ l'.window = l.window ∧ l'.maxEntries = l.maxEntries
  keeps : ∀ k e, k ≠ h → l.entries.lookup k = some e → l.elapsed now e = false → l'.entries.lookup k = some e
  adds : ∀ k e, k ≠ h → l'.entries.lookup k = some e → l.entries.lookup k = some e
  room : (l.entries.size : Int) ≤ l.maxEntries → (l'.entries.size : Int) ≤ l.maxEntries
  idle : (∀ e, l.entries.lookup h = some e → l.elapsed now e = true) →
    (allowed = false ∧ l'.entries.lookup h = none) ∨ (allowed = true ∧ l'.entries.lookup h = some ⟨now, 1⟩)
  within : ∀ e, l.entries.lookup h = some e → l.elapsed now e = false →
    (l.limit ≤ e.count ∧ allowed = false ∧ l' = l) ∨
    (e.count < l.limit ∧ allowed = true ∧ l'.entries.lookup h = some { e with count := e.count + 1 })

theorem start_answered {entries : Table String Entry} (gone : entries.lookup h = none)
    (others : ∀ k, k ≠ h → entries.lookup k = l.entries.lookup k)
    (idle : ∀ e, l.entries.lookup h = some e → l.elapsed now e = true) :
    Answered l h now ({ l with entries := entries }.start h now).1.1 ({ l with entries := entries }.start h now).2 := by
  let base : IPLimiter := { l with entries := entries }
  have frame := cleared_frame base now
  have absent : (base.cleared now).entries.lookup h = none := by
    by_contra present
    obtain ⟨e, found⟩ := Option.ne_none_iff_exists'.mp present
    have there : entries.lookup h = some e := cleared_lookup found
    rw [gone] at there
    cases there
  have old : ∀ k e, k ≠ h → (base.cleared now).entries.lookup k = some e → l.entries.lookup k = some e := by
    intro k e other found
    rw [← others k other]
    exact cleared_lookup found
  have kept : ∀ k e, k ≠ h → l.entries.lookup k = some e → l.elapsed now e = false →
      (base.cleared now).entries.lookup k = some e := by
    intro k e other found lasts
    rw [← others k other] at found
    exact cleared_keeps (l := base) found lasts
  have small : (base.cleared now).entries.size ≤ l.entries.size := by
    apply Table.size_le_of_mem
    intro k member
    obtain ⟨e, found⟩ := Table.mem_iff_lookup.mp member
    have other : k ≠ h := by
      rintro rfl
      rw [absent] at found
      cases found
    exact Table.mem_iff_lookup.mpr ⟨e, old k e other found⟩
  have nowhere : ∀ e, l.entries.lookup h = some e → l.elapsed now e = false → False := by
    intro e found lasts
    rw [idle e found] at lasts
    cases lasts
  rcases start_cases base h now with ⟨verdict, after⟩ | ⟨room, verdict, after⟩
  · rw [verdict, after]
    exact ⟨frame, kept, old, fun few => (Int.ofNat_le.mpr small).trans few, fun _ => .inl ⟨rfl, absent⟩,
      fun e found lasts => (nowhere e found lasts).elim⟩
  · rw [verdict, after]
    refine ⟨frame, ?_, ?_, ?_, fun _ => .inr ⟨rfl, AList.lookup_insert _⟩,
      fun e found lasts => (nowhere e found lasts).elim⟩
    · intro k e other found lasts
      exact (AList.lookup_insert_ne other).trans (kept k e other found lasts)
    · intro k e other found
      exact old k e other ((AList.lookup_insert_ne other).symm.trans found)
    · intro _
      have one := Table.size_insert_le (base.cleared now).entries h ⟨now, 1⟩
      have room : ((base.cleared now).entries.size : Int) < l.maxEntries := room
      exact (Int.ofNat_le.mpr one).trans (by push_cast; omega)

theorem spend_answered (found : l.entries.lookup h = some e) (lasts : l.elapsed now e = false) :
    Answered l h now (l.spend h now e).1.1 (l.spend h now e).2 := by
  have only : ∀ e', l.entries.lookup h = some e' → e' = e := by
    intro e' there
    rw [found] at there
    exact (Option.some.inj there).symm
  have lasting : ∀ {p : Prop}, (∀ e', l.entries.lookup h = some e' → l.elapsed now e' = true) → p := by
    intro p elapses
    have ended := elapses e found
    rw [lasts] at ended
    cases ended
  unfold spend
  split
  · rename_i full
    refine ⟨⟨rfl, rfl, rfl⟩, fun k e _ there _ => there, fun k e _ there => there, id, lasting, ?_⟩
    intro e' there _
    rw [only e' there]
    exact .inl ⟨full, rfl, rfl⟩
  · rename_i free
    refine ⟨⟨rfl, rfl, rfl⟩, ?_, ?_, ?_, lasting, ?_⟩
    · intro k e' other there _
      exact (AList.lookup_insert_ne other).trans there
    · intro k e' other there
      exact (AList.lookup_insert_ne other).symm.trans there
    · intro few
      refine (Int.ofNat_le.mpr (Table.size_le_of_mem fun k member => ?_)).trans few
      rcases (AList.mem_insert _).mp member with rfl | old
      · exact Table.mem_iff_lookup.mpr ⟨e, found⟩
      · exact old
    · intro e' there _
      rw [only e' there]
      exact .inr ⟨not_le.mp free, rfl, AList.lookup_insert _⟩

theorem allowHost_answered (l : IPLimiter) (h : String) (now : Time) :
    Answered l h now (l.allowHost h now).1.1 (l.allowHost h now).2 := by
  unfold allowHost
  split
  · rename_i absent
    exact start_answered absent (fun _ _ => rfl) fun e found => by rw [absent] at found; cases found
  · rename_i current found
    split
    · rename_i elapses
      refine start_answered (AList.lookup_erase _ _) (fun k other => AList.lookup_erase_ne other) fun e there => ?_
      rw [found] at there
      cases there
      exact elapses
    · rename_i lasts
      exact spend_answered found (Bool.eq_false_iff.mpr lasts)

theorem decision_answered (splitHostPort : String → Option String) (positive : 0 < l.limit) (c : Call) :
    Answered l (host splitHostPort c.remoteAddress) c.now (l.decision splitHostPort c).allowed
      (l.decision splitHostPort c).after := by
  simp only [decision, allow, if_neg (not_le.mpr positive)]
  exact allowHost_answered l _ _

/-! ### Counting -/

section Counting

variable {splitHostPort : String → Option String} {calls : List Call}

def used (h : String) (bound : Time) (decisions : List Decision) : Int :=
  decisions.countP fun d => d.allowed && d.host == h && decide (d.now < bound)

def share (h : String) (bound : Time) (d : Decision) : Int :=
  if d.allowed = true ∧ d.host = h ∧ d.now < bound then 1 else 0

theorem used_cons (h : String) (bound : Time) (d : Decision) (ds : List Decision) :
    used h bound (d :: ds) = share h bound d + used h bound ds := by
  simp only [used, share, List.countP_cons, Bool.and_eq_true, beq_iff_eq, decide_eq_true_eq, and_assoc]
  split
  · push_cast
    ring
  · simp

variable {bound : Time}

theorem used_late (late : ∀ c ∈ calls, bound ≤ c.now) (l : IPLimiter) :
    used h bound (l.decisions splitHostPort calls) = 0 := by
  induction calls generalizing l with
  | nil => rfl
  | cons c calls ih =>
    rw [decisions, used_cons, ih fun c' later => late c' (List.mem_cons_of_mem _ later)]
    have out : ¬(l.decision splitHostPort c).now < bound := not_lt.mpr (late c List.mem_cons_self)
    rw [share, if_neg fun counted => out counted.2.2]
    rfl

/-- In so many windows a host is allowed as many calls as they have together: from an instant
at which it has no window, and from within one. -/
structure Bounded (splitHostPort : String → Option String) (h : String) (calls : List Call) (l : IPLimiter) : Prop where
  idle : ∀ (since bound : Time) (windows : Nat), (∀ c ∈ calls, since ≤ c.now) →
    (∀ e, l.entries.lookup h = some e → e.windowStart + l.window ≤ since) → bound ≤ since + windows * l.window →
    used h bound (l.decisions splitHostPort calls) ≤ windows * l.limit
  within : ∀ (e : Entry) (bound : Time) (windows : Nat), l.entries.lookup h = some e → e.count ≤ l.limit →
    bound ≤ e.windowStart + (windows + 1) * l.window →
    e.count + used h bound (l.decisions splitHostPort calls) ≤ (windows + 1) * l.limit

theorem share_le (h : String) (bound : Time) (d : Decision) : share h bound d ≤ 1 := by
  unfold share
  split <;> decide

variable {d : Decision}

theorem share_refused (refused : d.allowed = false) : share h bound d = 0 := by
  simp [share, refused]

theorem share_other (other : d.host ≠ h) : share h bound d = 0 := by
  simp [share, other]

theorem Bounded.nil (positive : 0 < l.limit) : Bounded splitHostPort h [] l where
  idle _ _ windows _ _ _ := mul_nonneg (Int.natCast_nonneg windows) positive.le
  within e bound windows _ few _ := by
    have more : (0 : Int) ≤ windows * l.limit := mul_nonneg (Int.natCast_nonneg windows) positive.le
    have sum : e.count + 0 ≤ windows * l.limit + l.limit := by linarith
    rw [add_mul, one_mul]
    exact sum

section Cons

variable {c : Call} (positive : 0 < l.limit)
  (tail : Bounded splitHostPort h calls (l.decision splitHostPort c).after)

include positive tail

variable {windows : Nat} {bound : Time}

theorem Bounded.idle_cons (ordered : ∀ c' ∈ calls, c.now ≤ c'.now) {since : Time}
    (after : ∀ c' ∈ c :: calls, since ≤ c'.now)
    (none_ : ∀ e, l.entries.lookup h = some e → e.windowStart + l.window ≤ since)
    (bounded : bound ≤ since + windows * l.window) :
    used h bound (l.decisions splitHostPort (c :: calls)) ≤ windows * l.limit := by
  have answered := decision_answered splitHostPort positive c
  obtain ⟨limit, window, _⟩ := answered.frame
  obtain ⟨sooner, later⟩ := List.forall_mem_cons.mp after
  by_cases late : bound ≤ c.now
  · rw [used_late (List.forall_mem_cons.mpr ⟨late, fun c' member => late.trans (ordered c' member)⟩)]
    exact mul_nonneg (Int.natCast_nonneg windows) positive.le
  rw [decisions, used_cons]
  by_cases same : host splitHostPort c.remoteAddress = h
  · rw [same] at answered
    rcases answered.idle fun e found => elapsed_iff.mpr ((none_ e found).trans sooner) with
      ⟨refused, gone⟩ | ⟨allowed, started⟩
    · rw [share_refused refused, zero_add, ← limit]
      refine tail.idle since bound windows later ?_ (by rwa [window])
      intro e found
      rw [gone] at found
      cases found
    · have fits : c.now < since + windows * l.window := (not_le.mp late).trans_le bounded
      obtain ⟨more, rfl⟩ : ∃ more, windows = more + 1 := by
        cases windows with
        | zero => exact absurd fits (not_lt.mpr (by simpa using sooner))
        | succ more => exact ⟨more, rfl⟩
      push_cast at bounded ⊢
      have within := tail.within ⟨c.now, 1⟩ bound more started (by rw [limit]; exact positive)
        (by rw [window]; exact bounded.trans (Int.add_le_add_right sooner _))
      rw [limit] at within
      exact (Int.add_le_add_right (share_le h bound _) _).trans within
  · rw [share_other same, zero_add, ← limit]
    refine tail.idle since bound windows later ?_ (by rwa [window])
    intro e found
    rw [window]
    exact none_ e (answered.adds h e (Ne.symm same) found)

theorem Bounded.within_cons (found : l.entries.lookup h = some e) (few : e.count ≤ l.limit)
    (bounded : bound ≤ e.windowStart + (windows + 1) * l.window) (lasts : l.elapsed c.now e = false) :
    e.count + used h bound (l.decisions splitHostPort (c :: calls)) ≤ (windows + 1) * l.limit := by
  have answered := decision_answered splitHostPort positive c
  obtain ⟨limit, window, _⟩ := answered.frame
  rw [decisions, used_cons]
  by_cases same : host splitHostPort c.remoteAddress = h
  · rw [same] at answered
    rcases answered.within e found lasts with ⟨_, refused, unchanged⟩ | ⟨free, allowed, counted⟩
    · rw [share_refused refused, zero_add, ← limit]
      exact tail.within e bound windows (by rw [unchanged]; exact found) (by rwa [limit]) (by rwa [window])
    · have within := tail.within _ bound windows counted (by rw [limit]; exact free) (by rwa [window])
      rw [limit] at within
      have one := share_le h bound (l.decision splitHostPort c)
      have sum : ∀ a s u b : Int, s ≤ 1 → a + 1 + u ≤ b → a + (s + u) ≤ b := by omega
      exact sum _ _ _ _ one within
  · rw [share_other same, zero_add, ← limit]
    exact tail.within e bound windows (answered.keeps h e (Ne.symm same) found lasts) (by rwa [limit]) (by rwa [window])

theorem Bounded.cons (ordered : ∀ c' ∈ calls, c.now ≤ c'.now) : Bounded splitHostPort h (c :: calls) l := by
  refine ⟨fun _ _ _ => tail.idle_cons positive ordered, fun e bound windows found few bounded => ?_⟩
  by_cases elapses : e.windowStart + l.window ≤ c.now
  · -- The window has elapsed: what follows fits into the windows after it.
    have rest : bound ≤ c.now + windows * l.window := by
      have order : ∀ b s w k n : Int, b ≤ s + (k + 1) * w → s + w ≤ n → b ≤ n + k * w := by
        intro b s w k n
        rw [add_mul, one_mul]
        omega
      exact order _ _ _ _ _ bounded elapses
    have first : ∀ c' ∈ c :: calls, c.now ≤ c'.now := List.forall_mem_cons.mpr ⟨le_rfl, ordered⟩
    have idle : ∀ e', l.entries.lookup h = some e' → e'.windowStart + l.window ≤ c.now := by
      intro e' there
      rw [found] at there
      cases there
      exact elapses
    rw [add_mul, one_mul, add_comm]
    exact Int.add_le_add (tail.idle_cons positive ordered first idle rest) few
  · exact tail.within_cons positive found few bounded (Bool.eq_false_iff.mpr (elapsed_iff.not.mpr elapses))

end Cons

theorem bounded (splitHostPort : String → Option String) (h : String)
    (ordered : calls.Pairwise fun c c' => c.now ≤ c'.now) (l : IPLimiter) (positive : 0 < l.limit) :
    Bounded splitHostPort h calls l := by
  induction calls generalizing l with
  | nil => exact .nil positive
  | cons c calls ih =>
    obtain ⟨first, ordered⟩ := List.pairwise_cons.mp ordered
    have limit := (decision_answered splitHostPort positive c).frame.1
    exact .cons positive (ih ordered _ (by rw [limit]; exact positive)) first

end Counting

/-! ### Whole runs -/

structure Sound (l : IPLimiter) : Prop where
  limit : 0 < l.limit
  window : 0 < l.window
  room : (l.entries.size : Int) ≤ l.maxEntries
  counted : ∀ h e, l.entries.lookup h = some e → 1 ≤ e.count ∧ e.count ≤ l.limit

variable {limit : Int}

theorem Sound.new (positive : 0 < limit) (window : Duration) (maxEntries : Int) :
    (new limit window maxEntries).Sound := by
  refine ⟨positive, ?_, ?_, nofun⟩
  · simp only [IPLimiter.new]
    split
    · decide
    · exact not_le.mp ‹_›
  · simp only [IPLimiter.new]
    split
    · decide
    · exact (not_le.mp ‹_›).le

variable {splitHostPort : String → Option String} {c : Call} {calls : List Call}

theorem Sound.decision (sound : l.Sound) (splitHostPort : String → Option String) (c : Call) :
    (l.decision splitHostPort c).after.Sound := by
  have answered := decision_answered splitHostPort sound.limit c
  obtain ⟨limit, window, most⟩ := answered.frame
  refine ⟨by rw [limit]; exact sound.limit, by rw [window]; exact sound.window,
    by rw [most]; exact answered.room sound.room, fun k e found => ?_⟩
  rw [limit]
  by_cases same : k = host splitHostPort c.remoteAddress
  · subst same
    by_cases live : ∃ e, l.entries.lookup (host splitHostPort c.remoteAddress) = some e ∧ l.elapsed c.now e = false
    · obtain ⟨old, there, lasts⟩ := live
      obtain ⟨some_, few⟩ := sound.counted _ old there
      rcases answered.within old there lasts with ⟨_, _, unchanged⟩ | ⟨free, _, counted⟩
      · rw [unchanged] at found
        exact sound.counted _ e found
      · rw [counted] at found
        cases found
        exact ⟨some_.trans (Int.le_add_of_nonneg_right (by decide)), free⟩
    · have idle : ∀ e, l.entries.lookup (host splitHostPort c.remoteAddress) = some e → l.elapsed c.now e = true := by
        intro e there
        by_contra lasts
        exact live ⟨e, there, Bool.eq_false_iff.mpr lasts⟩
      rcases answered.idle idle with ⟨_, gone⟩ | ⟨_, started⟩
      · rw [gone] at found
        cases found
      · rw [started] at found
        cases found
        exact ⟨le_rfl, sound.limit⟩
  · exact sound.counted k e (answered.adds k e same found)

def final (splitHostPort : String → Option String) (l : IPLimiter) (calls : List Call) : IPLimiter :=
  calls.foldl (fun l c => (l.decision splitHostPort c).after) l

theorem Sound.final (sound : l.Sound) (splitHostPort : String → Option String) (calls : List Call) :
    (l.final splitHostPort calls).Sound ∧ (l.final splitHostPort calls).limit = l.limit ∧
      (l.final splitHostPort calls).window = l.window ∧ (l.final splitHostPort calls).maxEntries = l.maxEntries := by
  induction calls generalizing l with
  | nil => exact ⟨sound, rfl, rfl, rfl⟩
  | cons c calls ih =>
    obtain ⟨limit, window, most⟩ := (decision_answered splitHostPort sound.limit c).frame
    obtain ⟨after, limit', window', most'⟩ := ih (sound.decision splitHostPort c)
    exact ⟨after, limit'.trans limit, window'.trans window, most'.trans most⟩

variable {after before : List Decision} {x : Decision}

theorem decisions_split (split : l.decisions splitHostPort calls = before ++ x :: after) :
    ∃ first c second, calls = first ++ c :: second ∧
      x = (l.final splitHostPort first).decision splitHostPort c ∧
      after = x.after.decisions splitHostPort second := by
  induction calls generalizing l before with
  | nil => simp [decisions] at split
  | cons c calls ih =>
    cases before with
    | nil =>
      obtain ⟨rfl, rest⟩ := List.cons.inj split
      exact ⟨[], c, calls, rfl, rfl, rest.symm⟩
    | cons d before =>
      obtain ⟨_, rest⟩ := List.cons.inj split
      obtain ⟨first, c', second, rfl, same, later⟩ := ih rest
      exact ⟨c :: first, c', second, rfl, same, later⟩

theorem decisions_mem (member : x ∈ l.decisions splitHostPort calls) :
    ∃ first c, x = (l.final splitHostPort first).decision splitHostPort c := by
  obtain ⟨before, after, split⟩ := List.append_of_mem member
  obtain ⟨first, c, _, _, same, _⟩ := decisions_split split
  exact ⟨first, c, same⟩

def usedWithin (h : String) (low high : Time) (ds : List Decision) : Int :=
  ds.countP fun d => d.allowed && d.host == h && decide (low ≤ d.now) && decide (d.now ≤ high)

theorem usedWithin_le_used (h : String) (low high : Time) (ds : List Decision) :
    usedWithin h low high ds ≤ used h (high + 1) ds := by
  unfold usedWithin used
  apply Int.ofNat_le.mpr
  apply List.countP_mono_left
  intro d _ counted
  simp only [Bool.and_eq_true, decide_eq_true_eq] at counted ⊢
  exact ⟨counted.1.1, Int.lt_add_one_of_le counted.2⟩

theorem usedWithin_le (sound : l.Sound) (ordered : calls.Pairwise fun c c' => c.now ≤ c'.now) (h : String)
    (low : Time) :
    usedWithin h low (low + l.window) (l.decisions splitHostPort calls) ≤ 2 * l.limit := by
  induction calls generalizing l with
  | nil => exact (mul_nonneg (by decide) sound.limit.le)
  | cons c calls ih =>
    obtain ⟨first, later⟩ := List.pairwise_cons.mp ordered
    by_cases before : c.now < low
    · obtain ⟨limit, window, _⟩ := (decision_answered splitHostPort sound.limit c).frame
      have rest := ih (sound.decision splitHostPort c) later
      rw [limit, window] at rest
      have out : usedWithin h low (low + l.window) (l.decisions splitHostPort (c :: calls)) =
          usedWithin h low (low + l.window) ((l.decision splitHostPort c).after.decisions splitHostPort calls) := by
        rw [decisions, usedWithin, List.countP_cons_of_neg]
        · rfl
        · simp [show (l.decision splitHostPort c).now = c.now from rfl, before]
      rw [out]
      exact rest
    · refine (usedWithin_le_used h low _ _).trans ?_
      have all := bounded splitHostPort h ordered l sound.limit
      have reached : low ≤ c.now := not_lt.mp before
      by_cases live : ∃ e, l.entries.lookup h = some e ∧ c.now < e.windowStart + l.window
      · obtain ⟨e, found, lasts⟩ := live
        obtain ⟨some_, few⟩ := sound.counted h e found
        have reach : ∀ a n s w : Int, a ≤ n → n < s + w → a + w + 1 ≤ s + (1 + 1) * w := by
          intro a n s w
          rw [add_mul, one_mul]
          omega
        have two := all.within e (low + l.window + 1) 1 found few (reach _ _ _ _ reached lasts)
        have drop : ∀ a u b : Int, 1 ≤ a → a + u ≤ b → u ≤ b := by omega
        exact drop _ _ _ some_ two
      · have reach : ∀ a n w : Int, a ≤ n → 0 < w → a + w + 1 ≤ n + 2 * w := by omega
        have from_first : ∀ c' ∈ c :: calls, c.now ≤ c'.now := List.forall_mem_cons.mpr ⟨le_rfl, first⟩
        refine all.idle c.now (low + l.window + 1) 2 from_first ?_ (reach _ _ _ reached sound.window)
        intro e found
        by_contra lasts
        exact live ⟨e, found, not_le.mp lasts⟩

/-! ### A host by itself -/

theorem allow_positive (positive : 0 < l.limit) (c : Call) :
    l.allow splitHostPort c.remoteAddress c.now = l.allowHost (host splitHostPort c.remoteAddress) c.now :=
  if_neg (not_le.mpr positive)

theorem allowHost_lasting (found : l.entries.lookup h = some e) (lasts : l.elapsed now e = false) :
    l.allowHost h now = l.spend h now e := by
  simp [allowHost, found, lasts]

variable {m : IPLimiter}

theorem spend_verdict (limit : m.limit = l.limit) (window : m.window = l.window) :
    (m.spend h now e).1 = (l.spend h now e).1 := by
  unfold spend
  rw [limit, window]
  split <;> rfl

theorem spend_lookup (found : l.entries.lookup h = some e) :
    (l.spend h now e).2.entries.lookup h = some (Entry.spent l.limit e) := by
  unfold spend Entry.spent
  split
  · exact found
  · exact AList.lookup_insert _

section Heard

variable (l : IPLimiter) (c : Call) (calls : List Call)

theorem callsOf_self : callsOf splitHostPort (host splitHostPort c.remoteAddress) (c :: calls) =
    c :: callsOf splitHostPort (host splitHostPort c.remoteAddress) calls := by
  simp [callsOf]

theorem verdicts_self : verdicts (host splitHostPort c.remoteAddress) (l.decisions splitHostPort (c :: calls)) =
    (l.decision splitHostPort c).verdict :: verdicts (host splitHostPort c.remoteAddress)
      ((l.decision splitHostPort c).after.decisions splitHostPort calls) := by
  simp [verdicts, decisions, decision]

variable {c}

theorem callsOf_other (other : host splitHostPort c.remoteAddress ≠ h) :
    callsOf splitHostPort h (c :: calls) = callsOf splitHostPort h calls := by
  simp [callsOf, other]

theorem verdicts_other (other : host splitHostPort c.remoteAddress ≠ h) :
    verdicts h (l.decisions splitHostPort (c :: calls)) =
      verdicts h ((l.decision splitHostPort c).after.decisions splitHostPort calls) := by
  simp [verdicts, decisions, decision, other]

end Heard

theorem verdicts_alone (splitHostPort : String → Option String) (positive : 0 < l.limit) (limit : m.limit = l.limit)
    (window : m.window = l.window) (there : l.entries.lookup h = some e) (here : m.entries.lookup h = some e)
    (soon : ∀ c ∈ calls, c.now < e.windowStart + l.window) :
    verdicts h (l.decisions splitHostPort calls) =
      verdicts h (m.decisions splitHostPort (callsOf splitHostPort h calls)) := by
  induction calls generalizing l m e with
  | nil => rfl
  | cons c calls ih =>
    have lasts : l.elapsed c.now e = false :=
      Bool.eq_false_iff.mpr (elapsed_iff.not.mpr (not_le.mpr (soon c List.mem_cons_self)))
    have later : ∀ c' ∈ calls, c'.now < e.windowStart + l.window :=
      fun c' member => soon c' (List.mem_cons_of_mem _ member)
    have answered := decision_answered splitHostPort positive c
    obtain ⟨limit', window', _⟩ := answered.frame
    by_cases same : host splitHostPort c.remoteAddress = h
    · subst same
      have mine : l.allow splitHostPort c.remoteAddress c.now = l.spend (host splitHostPort c.remoteAddress) c.now e :=
        (allow_positive positive c).trans (allowHost_lasting there lasts)
      have limited : 0 < m.limit := by rwa [limit]
      have theirs :
          m.allow splitHostPort c.remoteAddress c.now = m.spend (host splitHostPort c.remoteAddress) c.now e :=
        (allow_positive limited c).trans (allowHost_lasting here (by rw [elapsed, window]; exact lasts))
      have told : (m.decision splitHostPort c).verdict = (l.decision splitHostPort c).verdict := by
        simp only [Decision.verdict, decision, mine, theirs, spend_verdict limit window]
      have frame := (decision_answered splitHostPort limited c).frame
      have rest := ih (l := (l.decision splitHostPort c).after) (m := (m.decision splitHostPort c).after)
        (e := e.spent l.limit) (by rw [limit']; exact positive)
        (frame.1.trans (limit.trans limit'.symm)) (frame.2.1.trans (window.trans window'.symm))
        (by rw [decision, mine]; exact spend_lookup there) (by rw [decision, theirs, ← limit]; exact spend_lookup here)
        (by rw [window', Entry.spent_windowStart]; exact later)
      rw [callsOf_self, verdicts_self, verdicts_self, told, rest]
    · have kept := answered.keeps h e (Ne.symm same) there lasts
      rw [callsOf_other calls same, verdicts_other l calls same]
      exact ih (by rw [limit']; exact positive) (limit.trans limit'.symm) (window.trans window'.symm) kept here
        (by rw [window']; exact later)

theorem start_at_once (allowed : (l.start h now).1.1 = true) : (l.start h now).1.2 = 0 := by
  rcases start_cases l h now with ⟨verdict, _⟩ | ⟨_, verdict, _⟩
  · rw [verdict] at allowed
    cases allowed
  · rw [verdict]

theorem spend_at_once (allowed : (l.spend h now e).1.1 = true) : (l.spend h now e).1.2 = 0 := by
  unfold spend at allowed ⊢
  split at allowed
  · cases allowed
  · rename_i free
    rw [if_neg free]

theorem allowHost_at_once (allowed : (l.allowHost h now).1.1 = true) : (l.allowHost h now).1.2 = 0 := by
  unfold allowHost at allowed ⊢
  cases found : l.entries.lookup h with
  | none =>
    simp only [found] at allowed ⊢
    exact start_at_once allowed
  | some current =>
    simp only [found] at allowed ⊢
    cases elapses : l.elapsed now current with
    | true =>
      simp only [elapses, if_true] at allowed ⊢
      exact start_at_once allowed
    | false =>
      simp only [elapses, Bool.false_eq_true, if_false] at allowed ⊢
      exact spend_at_once allowed

theorem allowed_at_once (positive : 0 < l.limit) (allowed : (l.decision splitHostPort c).allowed = true) :
    (l.decision splitHostPort c).retryAfter = 0 := by
  simp only [decision, allow_positive positive] at allowed ⊢
  exact allowHost_at_once allowed

theorem new_opens (splitHostPort : String → Option String) (positive : 0 < limit) (window : Duration) (maxEntries : Int)
    (c : Call) : ((new limit window maxEntries).decision splitHostPort c).Opens := by
  let l := new limit window maxEntries
  have most : ¬l.maxEntries ≤ l.entries.size := by
    simp only [l, new]
    split
    · decide
    · assumption
  have room : l.cleared c.now = l := if_neg most
  have started : l.allow splitHostPort c.remoteAddress c.now = l.start (host splitHostPort c.remoteAddress) c.now :=
    allow_positive positive c
  simp only [Decision.Opens, decision]
  rw [started, start, room, if_neg most]
  exact ⟨rfl, AList.lookup_insert _⟩

theorem window_alone (positive : 0 < limit) (window : Duration) (maxEntries : Int) (sameLimit : l.limit = limit)
    (sameWindow : l.window = (new limit window maxEntries).window) (opens : (l.decision splitHostPort c).Opens)
    (soon : ∀ c' ∈ calls, c'.now < c.now + l.window) :
    verdicts (host splitHostPort c.remoteAddress) (l.decisions splitHostPort (c :: calls)) =
      verdicts (host splitHostPort c.remoteAddress) ((new limit window maxEntries).decisions splitHostPort
        (callsOf splitHostPort (host splitHostPort c.remoteAddress) (c :: calls))) := by
  have fresh := new_opens splitHostPort positive window maxEntries c
  have limited : 0 < l.limit := by rwa [sameLimit]
  have fresh_limited : 0 < (new limit window maxEntries).limit := positive
  have here := (decision_answered splitHostPort limited c).frame
  have there := (decision_answered splitHostPort fresh_limited c).frame
  have told :
      ((new limit window maxEntries).decision splitHostPort c).verdict = (l.decision splitHostPort c).verdict := by
    simp only [Decision.verdict, opens.1, fresh.1, allowed_at_once limited opens.1,
      allowed_at_once fresh_limited fresh.1]
    rfl
  have rest := verdicts_alone splitHostPort (by rw [here.1]; exact limited)
    (there.1.trans (sameLimit.symm.trans here.1.symm))
    (there.2.1.trans (sameWindow.symm.trans here.2.1.symm)) opens.2 fresh.2 (by rw [here.2.1]; exact soon)
  rw [callsOf_self, verdicts_self, verdicts_self, told]
  exact congrArg _ rest

theorem window_used (sound : l.Sound) (ordered : calls.Pairwise fun c c' => c.now ≤ c'.now)
    (split : l.decisions splitHostPort calls = before ++ x :: after) (opens : x.Opens) :
    used x.host (x.now + l.window) (x :: after) ≤ l.limit := by
  obtain ⟨first, c, second, rfl, same, rfl⟩ := decisions_split split
  obtain ⟨now, limit, window, _⟩ := sound.final splitHostPort first
  obtain ⟨limit', window', _⟩ := (decision_answered splitHostPort now.limit c).frame
  rw [← same] at limit' window'
  have later := (List.pairwise_cons.mp (List.pairwise_append.mp ordered).2.1).2
  have all := bounded splitHostPort x.host later x.after (by rw [limit']; exact now.limit)
  have within := all.within _ (x.now + l.window) 0 opens.2 (by rw [limit']; exact now.limit)
    (by rw [window', window]; simp)
  rw [limit', limit] at within
  rw [used_cons]
  have one := share_le x.host (x.now + l.window) x
  have sum : ∀ s u b : Int, s ≤ 1 → 1 + u ≤ (0 + 1) * b → s + u ≤ b := by omega
  exact sum _ _ _ one within

/-- Over every sequence of calls in the order of time the table stays within its size, a host is
allowed the limit in each of its windows and twice the limit in any interval of their length,
and the calls of others leave a window that has not elapsed as it is: in it the host is told
what it would be told by itself. -/
theorem admission_limited (splitHostPort : String → Option String) {limit : Int} (positive : 0 < limit)
    (window : Duration) (maxEntries : Int) {calls : List Call} (ordered : calls.Pairwise fun c c' => c.now ≤ c'.now) :
    let l := new limit window maxEntries
    let ds := l.decisions splitHostPort calls
    (∀ d ∈ ds, (d.after.entries.size : Int) ≤ l.maxEntries) ∧
    (∀ before x after, ds = before ++ x :: after → x.Opens → used x.host (x.now + l.window) (x :: after) ≤ limit) ∧
    (∀ h low, usedWithin h low (low + l.window) ds ≤ 2 * limit) ∧
    (∀ d ∈ ds, ∀ k e, k ≠ d.host → d.before.entries.lookup k = some e → d.now < e.windowStart + l.window →
      d.after.entries.lookup k = some e) ∧
    ∀ first c during last, calls = first ++ c :: (during ++ last) →
      ((l.final splitHostPort first).decision splitHostPort c).Opens → (∀ c' ∈ during, c'.now < c.now + l.window) →
      let h := host splitHostPort c.remoteAddress
      verdicts h ((l.final splitHostPort first).decisions splitHostPort (c :: during)) =
        verdicts h (l.decisions splitHostPort (callsOf splitHostPort h (c :: during))) := by
  intro l ds
  have sound : l.Sound := .new positive window maxEntries
  refine ⟨?_, ?_, ?_, ?_, ?_⟩
  · intro d member
    obtain ⟨first, c, rfl⟩ := decisions_mem member
    obtain ⟨now, _, _, most⟩ := sound.final splitHostPort first
    have room := (now.decision splitHostPort c).room
    rw [(decision_answered splitHostPort now.limit c).frame.2.2, most] at room
    exact room
  · intro before x after split opens
    exact window_used sound ordered split opens
  · intro h low
    exact usedWithin_le sound ordered h low
  · intro d member k e other found lasts
    obtain ⟨first, c, rfl⟩ := decisions_mem member
    obtain ⟨now, _, same, _⟩ := sound.final splitHostPort first
    refine (decision_answered splitHostPort now.limit c).keeps k e other found ?_
    apply Bool.eq_false_iff.mpr
    apply elapsed_iff.not.mpr
    rw [same]
    exact not_le.mpr lasts
  · intro first c during last _ opens soon
    obtain ⟨_, limit, same, _⟩ := sound.final splitHostPort first
    exact window_alone positive window maxEntries limit same opens (by rw [same]; exact soon)

def crowd : List Call :=
  [⟨"a", 0⟩, ⟨"b", second⟩, ⟨"c", 2 * second⟩, ⟨"a", 3 * second⟩, ⟨"a", 4 * second⟩, ⟨"c", minute⟩, ⟨"a", minute⟩]

theorem admission_limited_crowd :
    (((new 2 minute 2).decisions some crowd).map Decision.verdict =
      [(0, true, 0), (second, true, 0), (2 * second, false, minute), (3 * second, true, 0),
        (4 * second, false, 56 * second), (minute, true, 0), (minute, false, minute)]) ∧
    ∀ h low, usedWithin h low (low + minute) ((new 2 minute 2).decisions some crowd) ≤ 2 * 2 :=
  ⟨by decide +kernel, (admission_limited some (by decide) minute 2 (by decide +kernel)).2.2.1⟩

end IPLimiter

end Admission

end Relay
