import ObjectStorage.Proofs.Exchange
import ObjectStorage.Proofs.Upload.Move
import ObjectStorage.Proofs.Upload.Perform
import Mathlib.Data.List.Induction

/-! Histories: what becomes of an upload, and of the store that it is sent to, under any operations
of a caller who goes on after faults. What each step keeps, every history keeps. -/

namespace ObjectStorage

variable {σ : Type}

/-- An operation in a history: the status that it found and what it ended with. -/
structure Event where
  operation : Operation
  found : UploadStatus
  outcome : Except Fault (Option String)

/-- The data of a write that found its upload in progress, however it ended. -/
def Event.taken : Event → ByteArray
  | ⟨.write _ data, .inProgress, _⟩ => data
  | _ => .empty

/-- The data of a write that came to its end. -/
def Event.accepted : Event → ByteArray
  | ⟨.write _ data, _, .ok _⟩ => data
  | _ => .empty

theorem Event.taken_of_shut {found : UploadStatus} (operation : Operation)
    (outcome : Except Fault (Option String)) (shut : found ≠ .inProgress) :
    Event.taken ⟨operation, found, outcome⟩ = .empty := by
  cases operation with
  | write offset data => cases found <;> first | rfl | exact absurd rfl shut
  | _ => rfl

/-- A session after some events. -/
structure History (σ : Type) where
  session : Session σ
  events : List Event := []

namespace History

def upload (h : History σ) : Upload := h.session.upload

def store (h : History σ) : σ := h.session.journal.store

def step (gateway : Gateway σ) (h : History σ) (operation : Operation) : History σ :=
  match operation.perform gateway h.session with
  | (outcome, session) => ⟨session, h.events ++ [⟨operation, h.upload.status, outcome⟩]⟩

/-- The history of an upload, at first as given, with a store in a state. -/
def run (gateway : Gateway σ) (u : Upload) (store : σ) (operations : List Operation) : History σ :=
  operations.foldl (step gateway) ⟨⟨u, ⟨store, #[]⟩⟩, []⟩

variable {gateway : Gateway σ} {u : Upload} {store : σ} {operations : List Operation}

theorem run_snoc (gateway : Gateway σ) (u : Upload) (store : σ) (operations : List Operation)
    (operation : Operation) : run gateway u store (operations ++ [operation]) =
      (run gateway u store operations).step gateway operation := by
  simp [run]

/-- A property of uploads, stores and past events that every step keeps holds of all histories. -/
theorem run_keeps {P : Upload → σ → List Event → Prop} (first : P u store [])
    (next : ∀ {u s events operation result v t}, P u s events →
      Upload.Step gateway operation (u, s) result (v, t) →
        P v t (events ++ [⟨operation, u.status, result⟩]))
    (operations : List Operation) :
    P (run gateway u store operations).upload (run gateway u store operations).store
      (run gateway u store operations).events := by
  induction operations using List.reverseRecOn with
  | nil => exact first
  | append_singleton operations operation ih =>
    rw [run_snoc]
    exact next ih (Upload.perform_step gateway operation (run gateway u store operations).session)

end History

namespace Upload

variable {gateway : Gateway σ} {operation : Operation} {u v : Upload} {s t : σ}
  {result : Except Fault (Option String)}

/-- An upload is fed the data that an operation takes. -/
theorem feed_eq_fed (u : Upload) (operation : Operation) (result : Except Fault (Option String)) :
    u.feed operation = u.fed (Event.taken ⟨operation, u.status, result⟩) := by
  by_cases isOpen : u.status = .inProgress
  · cases operation with
    | write offset data => simp only [feed, isOpen, ↓reduceIte, Event.taken]
    | _ => exact u.fed_empty.symm
  · rw [Event.taken_of_shut operation result isOpen, fed_empty]
    cases operation with
    | write offset data => simp only [feed, isOpen, ↓reduceIte]
    | _ => rfl

/-- An upload is credited with the data that an operation has had accepted. -/
theorem credit_eq_credited (u : Upload) (operation : Operation) (found : UploadStatus)
    (result : Except Fault (Option String)) :
    u.credit operation result = u.credited (Event.accepted ⟨operation, found, result⟩) := by
  cases operation with
  | write offset data => cases result <;> rfl
  | _ => rfl

/-- What the taking of data and every move keep, a step keeps. -/
theorem Step.keeps {P : Upload → σ → Prop} (step : Step gateway operation (u, s) result (v, t))
    (fed : ∀ {u s data}, P u s → P (u.fed data) s)
    (credited : ∀ {u s data}, P u s → P (u.credited data) s)
    (moved : ∀ {u s v t}, P u s → Move gateway (u, s) (v, t) → P v t) (before : P u s) : P v t := by
  obtain ⟨w, moves, rfl⟩ := step.moves
  rw [feed_eq_fed u operation result] at moves
  have finish : P w t := Moves.keeps moved moves (fed before)
  rw [credit_eq_credited w operation u.status result]
  exact credited finish

end Upload

end ObjectStorage
