import Relay.Server.MediaWriter

/-! A managed access service is asked over HTTP: its internal handler turns the outcome of a
request into a status and a document, and the client of the media process turns them back. -/
namespace Relay

inductive Document where
  | problem (code : String)
  | authority (v : AuthorityMetadata)
  | writerTerm (v : Nat)
  | relayState (sessionID : String) (stateRevision : Nat) (relayEpoch : String) (relayRevision : Nat) (changed : Bool)

structure Response where
  status : Nat
  document : Document

def writeProblem (status : Nat) (code : String) : Response := ⟨status, .problem code⟩

namespace InternalHandler

def getAuthorityState : Except Err Answer → Response
  | .error .noRows => writeProblem 404 "session_not_found"
  | .ok (.authority v) => ⟨200, .authority v⟩
  | _ => writeProblem 503 "session_authority_unavailable"

def acquireRelayWriter : Except Err Answer → Response
  | .error .noRows => writeProblem 404 "session_not_found"
  | .error .writerFenced => writeProblem 409 "relay_writer_fenced"
  | .ok (.term v) => ⟨200, .writerTerm v⟩
  | _ => writeProblem 503 "session_authority_unavailable"

def replaceRelayState : Except Err Answer → Response
  | .error .notExist => writeProblem 404 "session_not_found"
  | .error .writerFenced => writeProblem 409 "relay_writer_fenced"
  | .error .invalidRelayState => writeProblem 400 "invalid_relay_state"
  | .ok (.state (v, changed)) => ⟨200, .relayState v.sessionID v.stateRevision v.relayEpoch v.relayRevision changed⟩
  | _ => writeProblem 503 "session_authority_unavailable"

/-- The refusal of a body that is too long. -/
def refuse (sent : Nat) : Inquiry → Option Response
  | .metadata _ => none
  | .acquire _ _ _ => if 1024 < sent then some (writeProblem 400 "invalid_relay_writer") else none
  | .apply _ _ => if 256 * 1024 < sent then some (writeProblem 400 "invalid_relay_state") else none

def respond : Inquiry → Except Err Answer → Response
  | .metadata _ => getAuthorityState
  | .acquire _ _ _ => acquireRelayWriter
  | .apply _ _ => replaceRelayState

/-- `authenticate`, and the handler of a request with a body of so many bytes. -/
def serve (P : Primitives) (s : Service) (secret provided : Bytes) (sent : Nat) (q : Inquiry) (env : Env) (st : Store) :
    Response × Store :=
  if secret.length < 32 ∨ provided.length ≠ secret.length ∨ provided ≠ secret then
    (writeProblem 401 "internal_authentication_failed", st)
  else
    match refuse sent q with
    | some refusal => (refusal, st)
    | none => (respond q (s.answer P env st q.request).reply, (s.answer P env st q.request).store)

end InternalHandler

namespace Callback

def maxResponseBodyBytes : Nat := 4096

/-- `size` is the length of the encoded document. -/
def exchange (size : Document → Nat) (response : Response) : Except Failure Document :=
  if maxResponseBodyBytes < size response.document then .error .unavailable
  else if response.status = 404 then .error .notFound
  else if response.status = 409 then .error .fenced
  else if response.status ≠ 200 then .error .unavailable
  else .ok response.document

/-- What `Metadata`, `AcquireRelayWriter` and `PushAccessState` accept; the last drops the document. -/
def accept : Inquiry → Document → Except Failure Answer
  | .metadata id, .authority v => if v.sessionID ≠ id then .error .unavailable else .ok (.authority v)
  | .acquire _ _ _, .writerTerm v => if v = 0 then .error .unavailable else .ok (.term v)
  | .apply _ _, _ => .ok .done
  | _, _ => .error .unavailable

def receive (size : Document → Nat) (q : Inquiry) (response : Response) : Except Failure Answer :=
  exchange size response >>= accept q

end Callback

namespace Inquiry

/-- What the media process keeps of an answer: `pushControlState` looks at the error alone. -/
def kept : Inquiry → Answer → Answer
  | .apply _ _, _ => .done
  | _, a => a

/-- A fence that stops a read is reported like any other failure of it. -/
def failure : Inquiry → Err → Failure
  | .metadata _, .writerFenced => .unavailable
  | _, e => .of e

end Inquiry

variable {P : Primitives} {s : Service} {env : Env} {st : Store} {q : Inquiry}

/-- An absent Session has one error for each request, which is the one that its handler knows. -/
theorem Service.inquiry_failed {e : Err} (failed : (s.answer P env st q.request).reply = .error e) :
    match q with
    | .apply _ _ => e ≠ .noRows
    | _ => e ≠ .notExist := by
  have operational : e.Operational → e ≠ .noRows ∧ e ≠ .notExist := fun o =>
    ⟨fun same => o.not_missing (.inl same), fun same => o.not_missing (.inr same)⟩
  cases q with
  | metadata id =>
    rcases Store.run_failed (Ran.map_error failed) with o | ⟨_, failed⟩
    · exact (operational o).2
    · simp only [metadataBody, Txn.bind_error, Txn.pure_run] at failed
      rcases failed with failed | ⟨_, _, _, failed | ⟨_, _, _, failed⟩⟩
      · exact (operational (checkWriter_error failed)).2
      · simp [(active_error failed).1]
      · cases failed
  | acquire id epoch expected =>
    have failed := Ran.map_error failed
    unfold acquireRelayWriter at failed
    split at failed
    · cases failed
      simp
    · rcases update_failed failed with o | ⟨_, tx, _, _, _, failed⟩
      · exact (operational o).2
      · rcases Txn.bind_error.mp failed with missed | ⟨r, _, found, _⟩
        · simp [(active_error missed).1]
        · rcases acquireBody_error failed with o | inactive
          · exact (operational o).2
          · exact absurd (active_ok found).1 (inactive r)
  | apply id snapshot =>
    have failed := Ran.map_error failed
    unfold applyRelayStateContext at failed
    split at failed
    · cases failed
      simp
    · split at failed
      · rename_i invalid
        cases failed
        simp [validateRelaySnapshot_error invalid]
      · rcases update_failed failed with o | ⟨_, tx, _, _, _, failed⟩
        · exact (operational o).1
        · rcases Txn.bind_error.mp failed with missed | ⟨r, _, found, _⟩
          · obtain ⟨e', inner, rfl⟩ := Txn.mapError_error missed
            simp [(active_error inner).1, absent]
          · rcases applyBody_error failed with o | ⟨_, inactive⟩ | ⟨rfl, _⟩
            · exact (operational o).1
            · exact absurd (active_ok (Txn.mapError_ok.mp found)).1 (inactive r)
            · simp

/-- What a client accepts of an answer: its own Session, and a term that is one. -/
theorem Service.inquiry_succeeded {a : Answer} (keyed : st.data.Keyed)
    (ok : (s.answer P env st q.request).reply = .ok a) :
    match q with
    | .metadata id => ∃ v, a = .authority v ∧ v.sessionID = id
    | .acquire _ _ _ => ∃ v, a = .term v ∧ v ≠ 0
    | .apply _ _ => ∃ v, a = .state v := by
  obtain ⟨-, succeeded⟩ := answer_succeeded ok
  generalize (s.answer P env st q.request).signed = signed, (s.answer P env st q.request).drawn = drawn,
    (s.answer P env st q.request).store.data = d at succeeded
  cases q with
  | metadata id =>
    rcases succeeded with ⟨⟨⟩ | ⟨⟩ | active⟩ | ⟨⟨⟩⟩
    exact ⟨_, rfl, keyed.sessions active.found⟩
  | acquire id epoch expected =>
    rcases succeeded with ⟨⟨⟩⟩ | performed
    cases performed with
    | held _ _ placed => exact ⟨_, rfl, placed⟩
    | place _ _ _ => exact ⟨_, rfl, Nat.succ_ne_zero _⟩
  | apply id snapshot =>
    rcases succeeded with ⟨⟨⟩⟩ | performed
    cases performed <;> exact ⟨_, rfl⟩

end Relay
