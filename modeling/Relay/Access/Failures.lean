import Relay.Access.System

/-! What a failure of the requests of a media process says: that the store or the fence
refused the transaction, that the Session is absent, or that a snapshot is invalid. -/
namespace Relay

namespace Err

/-- Refusals of the store and of the fence. They say nothing about a record. -/
def Operational (e : Err) : Prop :=
  e = .encoding ∨ e = .capacity ∨ e = .readOnly ∨ e = .closed ∨ e = .contextDone ∨ e = .writerFenced

/-- The two errors by which a caller learns that a Session is absent. -/
def Missing (e : Err) : Prop := e = .noRows ∨ e = .notExist

variable {e : Err}

theorem Operational.not_missing (operational : e.Operational) : ¬ e.Missing := by
  rcases operational with rfl | rfl | rfl | rfl | rfl | rfl <;> simp [Missing]

theorem Operational.ne_invalid (operational : e.Operational) : e ≠ .invalidRelayState := by
  rcases operational with rfl | rfl | rfl | rfl | rfl | rfl <;> simp

end Err

namespace Tx

variable {P : Primitives} {tx tx' : Tx} {e : Err}

theorem write_error (failed : write tx = (.error e, tx')) : e.Operational := by
  simp only [write, Txn.bind_error, Txn.get_run, Txn.require_error] at failed
  rcases failed with failed | ⟨_, _, _, _, rfl, _⟩
  · cases failed
  · simp [Err.Operational]

theorem pruneExpired_error (failed : pruneExpired tx = (.error e, tx')) : e.Operational := by
  simp only [pruneExpired, Txn.bind_error, Txn.modify_run] at failed
  rcases failed with failed | ⟨_, _, _, failed⟩
  · exact write_error failed
  · cases failed

theorem put_error {v : Stored} {f : Tx → Tx}
    (failed : (do bounded P v; write; Txn.modify f : TxM Unit) tx = (.error e, tx')) :
    e.Operational := by
  simp only [Txn.bind_error, Txn.modify_run] at failed
  rcases failed with failed | ⟨_, _, _, failed | ⟨_, _, _, failed⟩⟩
  · rcases bounded_error failed with rfl | rfl <;> simp [Err.Operational]
  · exact write_error failed
  · cases failed

end Tx

theorem Store.run_failed {α : Type} {mode : Mode} {env : Env} {st : Store} {fn : TxM α} {e : Err}
    (failed : (st.run mode env fn).reply = .error e) :
    e.Operational ∨ ∃ tx, fn (st.start mode env) = (.error e, tx) := by
  unfold run at failed
  split at failed
  · cases failed
    simp [Err.Operational]
  · split at failed
    · rename_i e' tx out
      cases failed
      exact .inr ⟨tx, out⟩
    · split at failed
      · cases failed
        simp [Err.Operational]
      · cases mode <;> cases failed

def Request.Visits (id : String) : Request → Prop
  | .metadata k => k = id
  | .acquire k _ _ => k = id
  | .apply k _ => k = id
  | _ => False

namespace Service

variable {P : Primitives} {s : Service} {env : Env} {st : Store} {tx tx' : Tx} {id : String} {e : Err}
variable {α : Type} {snapshot : RelayState} {r : SessionRecord} {now : Time} {d : Records}

theorem Active.prologue (active : s.Active d now id r) : s.Active (s.prologue now d) now id r :=
  ⟨Records.pruneExpired_sessions.mpr ⟨active.found, active.live⟩, active.live, active.incarnation⟩

theorem Active.of_prologue (active : s.Active (s.prologue now d) now id r) : s.Active d now id r :=
  ⟨(Records.pruneExpired_sessions.mp active.found).1, active.live, active.incarnation⟩

theorem checkWriter_error (failed : s.checkWriter tx = (.error e, tx')) : e.Operational := by
  simp only [checkWriter, Txn.bind_error, Tx.ns_run, Txn.require_error] at failed
  rcases failed with failed | ⟨_, _, _, _, rfl, _⟩
  · cases failed
  · simp [Err.Operational]

theorem guarded_error {fn : TxM α} (failed : s.guarded P fn tx = (.error e, tx')) :
    e.Operational ∨
      (s.Passes tx.data.ns ∧ fn (tx.setData (s.prologue tx.now tx.data)) = (.error e, tx')) := by
  simp only [guarded, Txn.bind_error, Tx.ns_run, Tx.clock_run] at failed
  rcases failed with failed | ⟨_, _, checked, failed | ⟨_, _, read, failed | ⟨_, _, clock, failed |
    ⟨_, _, leased, failed | ⟨_, _, pruned, failed⟩⟩⟩⟩⟩
  · exact .inl (checkWriter_error failed)
  · cases failed
  · cases failed
  · exact .inl (Tx.put_error failed)
  · exact .inl (Tx.pruneExpired_error failed)
  · obtain ⟨passes, rfl⟩ := checkWriter_ok checked
    cases read
    cases clock
    obtain ⟨_, _, rfl⟩ := Tx.putNamespace_ok.mp leased
    obtain ⟨_, rfl⟩ := Tx.pruneExpired_ok.mp pruned
    exact .inr ⟨passes, failed⟩

theorem update_failed {fn : TxM α} (failed : (s.update P env st fn).reply = .error e) :
    e.Operational ∨ (s.Passes st.data.ns ∧ ∃ tx, tx.data = s.prologue env.now st.data ∧
      tx.now = env.now ∧ ∃ tx', fn tx = (.error e, tx')) := by
  rcases Store.run_failed failed with operational | ⟨tx', failed⟩
  · exact .inl operational
  · rcases guarded_error failed with operational | ⟨passes, failed⟩
    · exact .inl operational
    · exact .inr ⟨passes, _, rfl, rfl, tx', failed⟩

theorem metadataBody_error (failed : s.metadataBody id tx = (.error e, tx')) :
    e.Operational ∨ (s.Passes tx.data.ns ∧ ∀ r, ¬ s.Active tx.data tx.now id r) := by
  simp only [metadataBody, Txn.bind_error, Txn.pure_run] at failed
  rcases failed with failed | ⟨_, _, checked, failed | ⟨_, _, _, failed⟩⟩
  · exact .inl (checkWriter_error failed)
  · obtain ⟨passes, rfl⟩ := checkWriter_ok checked
    exact .inr ⟨passes, (active_error failed).2.2⟩
  · cases failed

theorem acquireBody_error {epoch : String} {expected : Nat}
    (failed : s.acquireBody P id epoch expected tx = (.error e, tx')) :
    e.Operational ∨ ∀ r, ¬ s.Active tx.data tx.now id r := by
  rcases Txn.bind_error.mp failed with failed | ⟨r, _, active, failed⟩
  · exact .inr (active_error failed).2.2
  · left
    split at failed
    · cases failed
    · simp only [Txn.bind_error, Txn.require_error, Tx.clock_run, Txn.pure_run] at failed
      rcases failed with ⟨_, rfl, _⟩ | ⟨_, _, _, failed | ⟨_, _, _, failed | ⟨_, _, _, failed⟩⟩⟩
      · simp [Err.Operational]
      · cases failed
      · exact Tx.put_error failed
      · cases failed

theorem applyBody_error (failed : s.applyBody P id snapshot tx = (.error e, tx')) :
    e.Operational ∨ (e.Missing ∧ ∀ r, ¬ s.Active tx.data tx.now id r) ∨ (e = .invalidRelayState ∧
      ∃ r, s.Active tx.data tx.now id r ∧ ∃ bus ∈ snapshot.buses, bus.busID ∉ r.requiredBuses) := by
  rcases Txn.bind_error.mp failed with missed | ⟨r, _, found, behind⟩
  · obtain ⟨e', inner, rfl⟩ := Txn.mapError_error missed
    obtain ⟨rfl, _, inactive⟩ := active_error inner
    exact .inr (.inl ⟨.inr rfl, inactive⟩)
  · obtain ⟨active, rfl⟩ := active_ok (Txn.mapError_ok.mp found)
    rcases Txn.bind_error.mp behind with refused | ⟨_, _, fenced, body⟩
    · obtain ⟨_, rfl, _⟩ := Txn.require_error.mp refused
      simp [Err.Operational]
    · obtain ⟨_, rfl⟩ := Txn.require_ok.mp fenced
      split at body
      · cases body
      · simp only [Txn.bind_error, Txn.require_error, Tx.clock_run, Txn.pure_run] at body
        rcases body with ⟨undeclared, rfl, _⟩ | ⟨_, _, _, failed | ⟨_, _, _, failed | ⟨_, _, _, failed⟩⟩⟩
        · push Not at undeclared
          exact .inr (.inr ⟨rfl, r, active, undeclared⟩)
        · cases failed
        · exact .inl (Tx.put_error failed)
        · cases failed

theorem apply_failed (failed : (s.applyRelayStateContext P id snapshot env st).reply = .error e) :
    e.Operational ∨
      (e.Missing ∧ s.Passes st.data.ns ∧ ∀ r, ¬ s.Active st.data env.now id r) ∨
      (e = .invalidRelayState ∧ (snapshot.sessionID ≠ id ∨ ¬ snapshot.WellFormed ∨
        ∃ r, s.Active st.data env.now id r ∧ ∃ bus ∈ snapshot.buses, bus.busID ∉ r.requiredBuses)) := by
  unfold applyRelayStateContext at failed
  split at failed
  · rename_i other
    cases failed
    exact .inr (.inr ⟨rfl, .inl other⟩)
  · split at failed
    · rename_i invalid
      cases failed
      have malformed : ¬ snapshot.WellFormed := by
        intro formed
        rw [validateRelaySnapshot_iff.mpr formed] at invalid
        cases invalid
      exact .inr (.inr ⟨validateRelaySnapshot_error invalid, .inr (.inl malformed)⟩)
    · rcases update_failed failed with operational | ⟨passes, tx, data, now, tx', failed⟩
      · exact .inl operational
      · rcases applyBody_error failed with operational | ⟨missing, inactive⟩ | ⟨rfl, r, active, undeclared⟩
        · exact .inl operational
        · rw [data, now] at inactive
          exact .inr (.inl ⟨missing, passes, fun r active => inactive r active.prologue⟩)
        · rw [data, now] at active
          obtain ⟨bus, listed, undeclared⟩ := undeclared
          have reported : bus ∈ snapshot.buses := (List.mem_insertionSort _).mp listed
          exact .inr (.inr ⟨rfl, .inr (.inr ⟨r, active.of_prologue, bus, reported, undeclared⟩)⟩)

theorem answer_missing {request : Request} (visits : request.Visits id)
    (failed : (s.answer P env st request).reply = .error e) (missing : e.Missing) :
    s.Passes st.data.ns ∧ ∀ r, ¬ s.Active st.data env.now id r := by
  cases request with
  | metadata k =>
    cases visits
    rcases Store.run_failed (Ran.map_error failed) with operational | ⟨_, failed⟩
    · exact absurd missing operational.not_missing
    · rcases metadataBody_error failed with operational | inactive
      · exact absurd missing operational.not_missing
      · exact inactive
  | acquire k epoch expected =>
    cases visits
    have failed := Ran.map_error failed
    unfold acquireRelayWriter at failed
    split at failed
    · cases failed
      simp [Err.Missing] at missing
    · rcases update_failed failed with operational | ⟨passes, tx, data, now, tx', failed⟩
      · exact absurd missing operational.not_missing
      · rcases acquireBody_error failed with operational | inactive
        · exact absurd missing operational.not_missing
        · rw [data, now] at inactive
          exact ⟨passes, fun r active => inactive r active.prologue⟩
  | apply k snapshot =>
    cases visits
    rcases apply_failed (Ran.map_error failed) with operational | ⟨_, inactive⟩ | ⟨rfl, _⟩
    · exact absurd missing operational.not_missing
    · exact inactive
    · simp [Err.Missing] at missing
  | _ => exact visits.elim

end Service

end Relay
