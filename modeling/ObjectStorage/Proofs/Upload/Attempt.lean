import ObjectStorage.Proofs.Upload.Feeding
import ObjectStorage.Proofs.Upload.Perform

/-! Attempts to send data: the data is written in pieces, and the upload is completed behind the
last one, unless something fails before. The relation `Attempt` has a case for each way in which
this can end. Of the pieces, only what they make up together matters (`Attempt.alike`). -/

namespace ObjectStorage.Upload

open ObjectStorage.Action

variable {σ : Type}

/-- The data of the reads of a source, up to its end. -/
def Source.pieces : Source → List ByteArray
  | .ok data :: rest => if data.isEmpty then [] else data :: Source.pieces rest
  | _ => []

/-- Whether a source ends with a fault. -/
def Source.ending : Source → Except Fault Unit
  | [] => .ok ()
  | .error e :: _ => .error e
  | .ok data :: rest => if data.isEmpty then .ok () else Source.ending rest

/-- All that is read from a source. -/
def Source.data (source : Source) : ByteArray := joined source.pieces

/-- Writes chunks at the offsets that they come with, one after another. -/
def writeAll (gateway : Gateway σ) : List (Int × ByteArray) → Action (Session σ) Unit
  | [] => pure ()
  | (offset, data) :: rest => do
    write gateway offset data
    writeAll gateway rest

/-- Starts an upload, writes chunks to it and completes it, up to the first fault. -/
def transfer (gateway : Gateway σ) (chunks : List (Int × ByteArray)) :
    Action (Session σ) String := do
  start gateway
  writeAll gateway chunks
  complete gateway

/-- Pieces of data are written one after another, and then the upload is completed, unless a write
or the source of the pieces has failed. -/
inductive Attempt (gateway : Gateway σ) (pieces : List ByteArray) (ending : Except Fault Unit) :
    Upload × σ → Except Fault String → Upload × σ → Prop where
  | unwritten (fed : Fed gateway pieces a (.error e) b) :
      Attempt gateway pieces ending a (.error e) b
  | cutOff (fed : Fed gateway pieces a (.ok ()) b) (ended : ending = .error e) :
      Attempt gateway pieces ending a (.error e) b
  | finished (fed : Fed gateway pieces a (.ok ()) b) (ended : ending = .ok ())
      (last : Step gateway .complete b (result.map some) c) :
      Attempt gateway pieces ending a result c

variable {gateway : Gateway σ} {u v w : Upload} {s t r : σ} {a b c : Upload × σ}
  {data : ByteArray} {pieces others : List ByteArray} {ending : Except Fault Unit} {offset : Int}

/-- The offset of a write tells nothing to the upload. -/
theorem Step.at_offset {result : Except Fault (Option String)}
    (step : Step gateway (.write offset data) a result b) (other : Int) :
    Step gateway (.write other data) a result b := by
  cases step with
  | writeShut shut => exact .writeShut shut
  | written isOpen parts => exact .written isOpen parts
  | writeFailed isOpen parts full answer => exact .writeFailed isOpen parts full answer

theorem Step.write_leads {result : Except Fault Unit}
    (step : Step gateway (.write offset data) a (result.map fun _ => none) b) :
    (write gateway offset data).Leads a result b :=
  Leads.of_map (fun _ _ _ => rfl) step.leads

theorem Step.complete_leads {result : Except Fault String}
    (step : Step gateway .complete a (result.map some) b) :
    (complete gateway).Leads a result b :=
  Leads.of_map (fun _ _ => Option.some.inj) step.leads

/-- A completion that comes to its end tells a key. -/
theorem Step.exists_of_complete {result : Except Fault (Option String)}
    (step : Step gateway .complete a result b) :
    ∃ ended : Except Fault String, result = ended.map some := by
  cases result with
  | error e => exact ⟨.error e, rfl⟩
  | ok value =>
    cases step
    exact ⟨.ok _, rfl⟩

theorem exists_fed (gateway : Gateway σ) (pieces : List ByteArray) (a : Upload × σ) :
    ∃ result b, Fed gateway pieces a result b := by
  induction pieces generalizing a with
  | nil => exact ⟨.ok (), a, .done⟩
  | cons data pieces ih =>
    obtain ⟨e | value, b, step⟩ := exists_step gateway (.write 0 data) a.1 a.2
    · exact ⟨.error e, b, .stopped step⟩
    · obtain ⟨result, c, rest⟩ := ih b
      have nothing : value = none := by
        cases step
        rfl
      subst nothing
      exact ⟨result, c, .more step rest⟩

theorem exists_attempt (gateway : Gateway σ) (pieces : List ByteArray)
    (ending : Except Fault Unit) (a : Upload × σ) :
    ∃ result b, Attempt gateway pieces ending a result b := by
  obtain ⟨e | _, b, fed⟩ := exists_fed gateway pieces a
  · exact ⟨.error e, b, .unwritten fed⟩
  · cases ended : ending with
    | error e => exact ⟨.error e, b, .cutOff fed rfl⟩
    | ok =>
      obtain ⟨result, c, last⟩ := exists_step gateway .complete b.1 b.2
      obtain ⟨ended, rfl⟩ := last.exists_of_complete
      exact ⟨ended, c, .finished fed rfl last⟩

theorem Fed.writeAll_leads {chunks : List (Int × ByteArray)} {result : Except Fault Unit}
    (fed : Fed gateway (chunks.map (·.2)) a result b) :
    (writeAll gateway chunks).Leads a result b := by
  induction chunks generalizing a with
  | nil =>
    cases fed with
    | done => exact leads_pure ()
  | cons chunk chunks ih =>
    cases fed with
    | more written rest =>
      have first : (write gateway chunk.1 chunk.2).Leads a (.ok ()) _ :=
        (written.at_offset chunk.1).write_leads
      exact first.bind (ih rest)
    | stopped failed => exact (failed.at_offset chunk.1).write_leads.bind_error

/-- The reads of a source are written until a write fails or the source ends. -/
theorem Fed.copy_leads {source : Source} {result : Except Fault Unit}
    (fed : Fed gateway source.pieces a result b) (offset : Int) :
    (copy gateway source offset).Leads a (result.bind fun _ => source.ending) b := by
  induction source generalizing a offset with
  | nil =>
    cases fed with
    | done => exact leads_pure ()
  | cons read source ih =>
    cases read with
    | error e =>
      cases fed with
      | done => exact leads_fail e
    | ok data =>
      unfold copy
      simp only [Source.pieces, Source.ending] at fed ⊢
      split at fed
      · rename_i empty
        cases fed with
        | done =>
          simp only [empty, ↓reduceIte]
          exact leads_pure ()
      · rename_i nonempty
        simp only [nonempty, Bool.false_eq_true, ↓reduceIte]
        cases fed with
        | more written rest =>
          have first : (write gateway offset data).Leads a (.ok ()) _ :=
            (written.at_offset offset).write_leads
          exact first.bind (ih rest (offset + data.size))
        | stopped failed => exact (failed.at_offset offset).write_leads.bind_error

theorem Attempt.leads {x : Action (Session σ) Unit} {result : Except Fault String}
    (runs : ∀ {fedResult b}, Fed gateway pieces a fedResult b →
      x.Leads a (fedResult.bind fun _ => ending) b)
    (attempt : Attempt gateway pieces ending a result b) :
    (x >>= fun _ => complete gateway).Leads a result b := by
  cases attempt with
  | unwritten fed => exact (runs fed).bind_error
  | cutOff fed ended =>
    subst ended
    exact (runs fed).bind_error
  | finished fed ended last =>
    subst ended
    exact (runs fed).bind last.complete_leads

/-- Data that is written in other pieces, to an upload of another expected size, ends alike, and
equally if no write failed. -/
theorem Fed.alike {size? : Option Int} {first second : Except Fault Unit}
    (fed : Fed gateway pieces (u, s) first (v, t))
    (fed' : Fed gateway others (u.expecting size?, s) second (w, r))
    (isOpen : u.status = .inProgress) (few : u.queue.size < partSize)
    (same : joined pieces = joined others) :
    first = second ∧ t = r ∧ v.outline = w.outline ∧
      (first = .ok () → w = v.expecting size?) := by
  obtain ⟨v', step, alike, equal⟩ := fed.single isOpen few
  obtain ⟨w', step', alike', equal'⟩ := fed'.single isOpen few
  rw [← same] at step'
  obtain ⟨sameResult, sameFace⟩ := (step.expecting size?).unique step'
  have results : first = second := by
    cases first <;> cases second <;> cases sameResult <;> rfl
  subst results
  obtain ⟨rfl, rfl⟩ := Prod.mk.inj sameFace
  refine ⟨rfl, rfl, alike.symm.trans alike', fun done => ?_⟩
  rw [← equal' done, equal done]

/-- What an attempt comes to, an attempt to send the same data in other pieces comes to as well. -/
theorem Attempt.carried {result : Except Fault String}
    (attempt : Attempt gateway pieces ending (u, s) result (v, t)) (size? : Option Int)
    (isOpen : u.status = .inProgress) (few : u.queue.size < partSize)
    (same : joined pieces = joined others) :
    ∃ w, Attempt gateway others ending (u.expecting size?, s) result (w, t) ∧
      v.outline = w.outline ∧ ∀ key, result = .ok key → v.acceptedBytes = w.acceptedBytes := by
  obtain ⟨fedResult, ⟨w, r⟩, fed'⟩ := exists_fed gateway others (u.expecting size?, s)
  cases attempt with
  | unwritten fed =>
    obtain ⟨rfl, rfl, alike, _⟩ := fed.alike fed' isOpen few same
    exact ⟨w, .unwritten fed', alike, nofun⟩
  | cutOff fed ended =>
    obtain ⟨rfl, rfl, alike, _⟩ := fed.alike fed' isOpen few same
    exact ⟨w, .cutOff fed' ended, alike, nofun⟩
  | finished fed ended last =>
    obtain ⟨rfl, rfl, _, equal⟩ := fed.alike fed' isOpen few same
    cases equal rfl
    exact ⟨v.expecting size?, .finished fed' ended (last.expecting size?), rfl, fun _ _ => rfl⟩

end ObjectStorage.Upload
