import ObjectStorage.Proofs.Upload.Protocol

/-! The life of an upload: which changes an operation may bring about, by the status that it finds.
Every operation of every history is lawful (`History.operations_lawful`), whatever the store
answers. -/

namespace ObjectStorage

variable {σ : Type}

/-- The changes of a status. -/
inductive Passage : UploadStatus → UploadStatus → Prop where
  | opened : Passage .notStarted .inProgress
  | completed : Passage .inProgress .completed
  | failed (active : status = .notStarted ∨ status = .inProgress) : Passage status .failed
  | aborted (live : status ≠ .completed ∧ status ≠ .aborted) : Passage status .aborted

/-- An operation has a meaning for an upload of a status. -/
def Operation.Fits (status : UploadStatus) : Operation → Prop
  | .start => status = .notStarted
  | .write .. | .complete => status = .inProgress
  | .abort | .release | .drop => True

/-- A request to create an upload, to take a part or to put the object together was refused. -/
def Exchange.Fails (x : Exchange) : Prop :=
  x.IsRefused ∧ x.request.kind ∈ [.createUpload, .uploadPart, .completeUpload]

namespace Upload

/-- What an operation may make of an upload, by the exchanges that it had. -/
structure Lawful (operation : Operation) (u : Upload) (result : Except Fault (Option String))
    (v : Upload) (exchanges : List Exchange) : Prop where
  misfit : ¬ operation.Fits u.status →
    (∃ text, result = .error (.storage (.invalidState text))) ∧ v = u ∧ exchanges = []
  ended : u.status = .completed ∨ u.status = .aborted → v = u ∧ exchanges = []
  failed : u.status = .failed → v = u ∨ operation = .abort ∧ v.status = .aborted
  passage : v.status = u.status ∨ Passage u.status v.status
  fails : u.status ≠ .failed ∧ v.status = .failed ↔ ∃ x ∈ exchanges, x.Fails
  accepted : u.acceptedBytes ≤ v.acceptedBytes
  parts : v.parts = u.parts ∨ u.status = .inProgress ∧ u.parts <+: v.parts ∨
    u.status ≠ .aborted ∧ v.status = .aborted ∧ v.parts = []
  /-- An upload is named by the store that creates it, and loses its name when it is aborted. -/
  name : v.uploadId = u.uploadId ∨ created exchanges = [v.uploadId] ∨
    u.status ≠ .aborted ∧ v.status = .aborted ∧ v.uploadId = .null

/-- Parts were sent and acknowledged, and nothing else has changed. -/
structure Forwarded (u v : Upload) (exchanges : List Exchange) : Prop where
  status_eq : v.status = u.status
  acceptedBytes_eq : v.acceptedBytes = u.acceptedBytes
  uploadId_eq : v.uploadId = u.uploadId
  parts : u.parts <+: v.parts
  kind : ∀ x ∈ exchanges, x.request.kind = .uploadPart
  smooth : ∀ x ∈ exchanges, ∃ value, x.reply = .ok value

variable {gateway : Gateway σ} {operation : Operation} {u v w : Upload} {s t : σ}
  {trace after exchanges more : List Exchange} {result : Except Fault (Option String)}

theorem not_fails_of_ok {request : Request} {value : Value} :
    ¬ Exchange.Fails ⟨request, .ok value⟩ :=
  fun fails => not_refused_of_ok fails.1

theorem Forwarded.refl (u : Upload) : Forwarded u u [] :=
  ⟨rfl, rfl, rfl, List.prefix_refl _, by simp, by simp⟩

theorem Forwarded.trans (first : Forwarded u v exchanges) (second : Forwarded v w more) :
    Forwarded u w (exchanges ++ more) where
  status_eq := second.status_eq.trans first.status_eq
  acceptedBytes_eq := second.acceptedBytes_eq.trans first.acceptedBytes_eq
  uploadId_eq := second.uploadId_eq.trans first.uploadId_eq
  parts := first.parts.trans second.parts
  kind := List.forall_mem_append.mpr ⟨first.kind, second.kind⟩
  smooth := List.forall_mem_append.mpr ⟨first.smooth, second.smooth⟩

theorem forwarded_sent (u : Upload) (size : Nat) (tag : Value) :
    Forwarded u (u.sent size tag) [⟨u.partRequest size, .ok tag⟩] where
  status_eq := rfl
  acceptedBytes_eq := rfl
  uploadId_eq := rfl
  parts := List.prefix_append _ _
  kind := List.forall_mem_singleton.mpr rfl
  smooth := List.forall_mem_singleton.mpr ⟨tag, rfl⟩

theorem FullParts.forwarded {count : Nat} {a b : Upload × σ × List Exchange}
    (parts : FullParts gateway.recorded count a b) :
    ∃ exchanges, b.2.2 = a.2.2 ++ exchanges ∧ Forwarded a.1 b.1 exchanges := by
  induction parts with
  | none => exact ⟨[], (List.append_nil _).symm, .refl _⟩
  | more full answer rest ih =>
    obtain ⟨more, kept, forwarded⟩ := ih
    refine ⟨_, ?_, (forwarded_sent _ _ _).trans forwarded⟩
    rw [kept, (recorded_answer.mp answer).2, List.append_assoc]

theorem Drained.forwarded (drained : Drained gateway.recorded (u, s, trace) (v, t, after)) :
    ∃ exchanges, after = trace ++ exchanges ∧ Forwarded u v exchanges := by
  cases drained with
  | nothing empty => exact ⟨[], (List.append_nil _).symm, .refl u⟩
  | rest left answer => exact ⟨_, (recorded_answer.mp answer).2, forwarded_sent u _ _⟩

namespace Forwarded

theorem not_fails (forwarded : Forwarded u v exchanges) : ¬ ∃ x ∈ exchanges, x.Fails := by
  rintro ⟨x, member, ⟨e, refused, _⟩, _⟩
  obtain ⟨value, answered⟩ := forwarded.smooth x member
  cases answered.symm.trans refused

theorem of_fed {data : ByteArray} (forwarded : Forwarded (u.fed data) v exchanges) :
    Forwarded u v exchanges :=
  ⟨forwarded.status_eq, forwarded.acceptedBytes_eq, forwarded.uploadId_eq, forwarded.parts,
    forwarded.kind, forwarded.smooth⟩

/-- An upload in progress has sent parts, and then a request that did not come through. -/
theorem lawful_failed {request : Request} {e : Fault} (forwarded : Forwarded u v exchanges)
    (operation : Operation) (isOpen : u.status = .inProgress) (fits : operation.Fits u.status)
    (kind : request.kind = .uploadPart ∨ request.kind = .completeUpload) :
    Lawful operation u (.error e) (v.failedBy e) (exchanges ++ [⟨request, .error e⟩]) := by
  have stillOpen := forwarded.status_eq.trans isOpen
  have count := Nat.le_of_eq forwarded.acceptedBytes_eq.symm
  by_cases refusal : e.isGateway = true
  · have refused : Exchange.Fails ⟨request, .error e⟩ := by
      refine ⟨⟨e, rfl, refusal⟩, ?_⟩
      rcases kind with part | completion <;> simp [*]
    rw [failedBy_of_refusal refusal]
    exact {
      misfit := fun misfit => absurd fits misfit
      ended := by simp [isOpen]
      failed := by simp [isOpen]
      passage := .inr (.failed (.inr isOpen))
      fails := ⟨fun _ => ⟨_, by simp, refused⟩, fun _ => ⟨by simp [isOpen], rfl⟩⟩
      accepted := count
      parts := .inr (.inl ⟨isOpen, forwarded.parts⟩)
      name := .inl forwarded.uploadId_eq }
  · have unfailed : ¬ ∃ x ∈ exchanges ++ [⟨request, .error e⟩], x.Fails := by
      rintro ⟨x, member, fails⟩
      rcases List.mem_append.mp member with earlier | last
      · exact forwarded.not_fails ⟨x, earlier, fails⟩
      · cases List.mem_singleton.mp last
        exact not_refused_of_other (by simpa using refusal) fails.1
    rw [failedBy_of_other refusal]
    exact {
      misfit := fun misfit => absurd fits misfit
      ended := by simp [isOpen]
      failed := by simp [isOpen]
      passage := .inl forwarded.status_eq
      fails := iff_of_false (by simp [stillOpen]) unfailed
      accepted := count
      parts := .inr (.inl ⟨isOpen, forwarded.parts⟩)
      name := .inl forwarded.uploadId_eq }

end Forwarded

/-- An operation that changes nothing. -/
theorem Lawful.idle
    (guarded : operation.Fits u.status ∨ ∃ text, result = .error (.storage (.invalidState text))) :
    Lawful operation u result u [] where
  misfit misfit := ⟨guarded.resolve_left misfit, rfl, rfl⟩
  ended _ := ⟨rfl, rfl⟩
  failed _ := .inl rfl
  passage := .inl rfl
  fails := iff_of_false (fun changed => changed.1 changed.2) (by simp)
  accepted := Nat.le_refl _
  parts := .inl rfl
  name := .inl rfl

/-- An upload that is given up, with one request or none. -/
theorem lawful_cleared (fits : operation.Fits u.status) (live : u.IsLive)
    (aborting : u.status = .failed → operation = .abort)
    (withdrawing : ∀ x ∈ exchanges, x.request.kind = .abortUpload) :
    Lawful operation u result u.cleared exchanges where
  misfit misfit := absurd fits misfit
  ended done := absurd done (not_or.mpr live)
  failed failed := .inr ⟨aborting failed, rfl⟩
  passage := .inr (.aborted live)
  fails := by
    refine iff_of_false (by simp [cleared]) ?_
    rintro ⟨x, member, _, kind⟩
    simp [withdrawing x member] at kind
  accepted := Nat.le_refl _
  parts := .inr (.inr ⟨live.2, rfl, rfl⟩)
  name := .inr (.inr ⟨live.2, rfl, rfl⟩)

theorem Withdrawal.lawful {ended : Except Fault Unit}
    (withdrawal : Withdrawal gateway.recorded (u, s, trace) ended (v, t, after))
    (fits : operation.Fits u.status) (aborting : u.status = .failed → operation = .abort) :
    ∃ exchanges, after = trace ++ exchanges ∧ Lawful operation u result v exchanges := by
  have taken : ∀ reply, ∀ x ∈ [(⟨u.abortRequest, reply⟩ : Exchange)],
      x.request.kind = .abortUpload :=
    fun reply => List.forall_mem_singleton.mpr rfl
  cases withdrawal with
  | idle done => exact ⟨[], (List.append_nil _).symm, .idle (.inl fits)⟩
  | unnamed live void =>
    exact ⟨[], (List.append_nil _).symm, lawful_cleared fits live aborting (by simp)⟩
  | taken live named answer =>
    exact ⟨_, (recorded_answer.mp answer).2, lawful_cleared fits live aborting (taken _)⟩
  | refused live named answer refusal =>
    exact ⟨_, (recorded_answer.mp answer).2, lawful_cleared fits live aborting (taken _)⟩
  | @broken u s e t live named answer other =>
    have kept : Lawful operation u result u [⟨u.abortRequest, .error e⟩] := {
      misfit := fun misfit => absurd fits misfit
      ended := fun done => absurd done (not_or.mpr live)
      failed := fun _ => .inl rfl
      passage := .inl rfl
      fails := by
        refine iff_of_false (fun changed => changed.1 changed.2) ?_
        rintro ⟨x, member, _, kind⟩
        simp [taken _ x member] at kind
      accepted := Nat.le_refl _
      parts := .inl rfl
      name := .inl rfl }
    exact ⟨_, (recorded_answer.mp answer).2, kept⟩

theorem lawful_opened {id : Value} (ready : u.status = .notStarted) :
    Lawful .start u result (u.opened id) [⟨u.createRequest, .ok id⟩] where
  misfit misfit := absurd ready misfit
  ended := by simp [ready]
  failed := by simp [ready]
  passage := .inr (by rw [ready]; exact .opened)
  fails := iff_of_false (by simp [opened]) (by simpa using not_fails_of_ok)
  accepted := Nat.le_refl _
  parts := .inl rfl
  name := .inr (.inl rfl)

theorem lawful_uncreated {e : Fault} (ready : u.status = .notStarted) :
    Lawful .start u (.error e) (u.failedBy e) [⟨u.createRequest, .error e⟩] := by
  by_cases refusal : e.isGateway = true
  · have refused : Exchange.Fails ⟨u.createRequest, .error e⟩ :=
      ⟨⟨e, rfl, refusal⟩, by simp [createRequest, Request.kind]⟩
    rw [failedBy_of_refusal refusal]
    exact {
      misfit := fun misfit => absurd ready misfit
      ended := by simp [ready]
      failed := by simp [ready]
      passage := .inr (.failed (.inl ready))
      fails := ⟨fun _ => ⟨_, by simp, refused⟩, fun _ => ⟨by simp [ready], rfl⟩⟩
      accepted := Nat.le_refl _
      parts := .inl rfl
      name := .inl rfl }
  · have accepted : ¬ Exchange.Fails ⟨u.createRequest, .error e⟩ :=
      fun fails => not_refused_of_other (by simpa using refusal) fails.1
    rw [failedBy_of_other refusal]
    exact {
      misfit := fun misfit => absurd ready misfit
      ended := by simp [ready]
      failed := by simp [ready]
      passage := .inl rfl
      fails := iff_of_false (fun changed => changed.1 changed.2) (by simpa using accepted)
      accepted := Nat.le_refl _
      parts := .inl rfl
      name := .inl rfl }

theorem Forwarded.lawful_written {data : ByteArray} {offset : Int}
    (forwarded : Forwarded (u.fed data) v exchanges) (isOpen : u.status = .inProgress) :
    Lawful (.write offset data) u result (v.credited data) exchanges where
  misfit misfit := absurd isOpen misfit
  ended := by simp [isOpen]
  failed := by simp [isOpen]
  passage := .inl forwarded.status_eq
  fails := by
    have stillOpen : v.status = .inProgress := forwarded.status_eq.trans isOpen
    exact iff_of_false (by simp [credited, stillOpen]) forwarded.not_fails
  accepted := by
    have same : v.acceptedBytes = u.acceptedBytes := forwarded.acceptedBytes_eq
    simp [credited, same]
  parts := .inr (.inl ⟨isOpen, forwarded.parts⟩)
  name := .inl forwarded.uploadId_eq

theorem Forwarded.lawful_completed {request : Request} {value : Value}
    (forwarded : Forwarded u v exchanges) (isOpen : u.status = .inProgress) :
    Lawful .complete u result v.assembled (exchanges ++ [⟨request, .ok value⟩]) where
  misfit misfit := absurd isOpen misfit
  ended := by simp [isOpen]
  failed := by simp [isOpen]
  passage := .inr (by rw [isOpen]; exact .completed)
  fails := by
    refine iff_of_false (by simp [assembled]) ?_
    rintro ⟨x, member, fails⟩
    rcases List.mem_append.mp member with earlier | last
    · exact forwarded.not_fails ⟨x, earlier, fails⟩
    · cases List.mem_singleton.mp last
      exact not_fails_of_ok fails
  accepted := Nat.le_of_eq forwarded.acceptedBytes_eq.symm
  parts := .inr (.inl ⟨isOpen, forwarded.parts⟩)
  name := .inl forwarded.uploadId_eq

/-- Whatever the store answers, a step is lawful. -/
theorem Step.lawful (step : Step gateway.recorded operation (u, s, trace) result (v, t, after)) :
    ∃ exchanges, after = trace ++ exchanges ∧ Lawful operation u result v exchanges := by
  have quiet : trace = trace ++ [] := (List.append_nil _).symm
  cases step with
  | startLate late => exact ⟨[], quiet, .idle (.inr ⟨_, rfl⟩)⟩
  | started ready answer => exact ⟨_, (recorded_answer.mp answer).2, lawful_opened ready⟩
  | startFailed ready answer => exact ⟨_, (recorded_answer.mp answer).2, lawful_uncreated ready⟩
  | writeShut shut => exact ⟨[], quiet, .idle (.inr ⟨_, rfl⟩)⟩
  | written isOpen parts =>
    obtain ⟨exchanges, kept, forwarded⟩ := parts.forwarded
    exact ⟨exchanges, kept, forwarded.lawful_written isOpen⟩
  | @writeFailed _ _ v _ _ e offset data _ isOpen parts full answer =>
    obtain ⟨exchanges, kept, forwarded⟩ := parts.forwarded
    refine ⟨exchanges ++ [⟨v.partRequest partSize, .error e⟩], ?_,
      forwarded.of_fed.lawful_failed (.write offset data) isOpen isOpen (.inl rfl)⟩
    rw [(recorded_answer.mp answer).2, ← List.append_assoc]
    exact congrArg (· ++ _) kept
  | completeShut shut => exact ⟨[], quiet, .idle (.inr ⟨_, rfl⟩)⟩
  | lastPartFailed isOpen left answer =>
    refine ⟨_, (recorded_answer.mp answer).2, ?_⟩
    exact (Forwarded.refl u).lawful_failed .complete isOpen isOpen (.inl rfl)
  | noData isOpen empty bare withdrawal => exact withdrawal.lawful isOpen (by simp [isOpen])
  | noDataBroken isOpen empty bare withdrawal => exact withdrawal.lawful isOpen (by simp [isOpen])
  | @completed _ _ v _ _ value isOpen drained nonempty answer =>
    obtain ⟨exchanges, kept, forwarded⟩ := drained.forwarded
    refine ⟨exchanges ++ [⟨v.completionRequest, .ok value⟩], ?_,
      forwarded.lawful_completed isOpen⟩
    rw [(recorded_answer.mp answer).2, kept, List.append_assoc]
  | @completeFailed _ _ v _ _ e isOpen drained nonempty answer =>
    obtain ⟨exchanges, kept, forwarded⟩ := drained.forwarded
    refine ⟨exchanges ++ [⟨v.completionRequest, .error e⟩], ?_,
      forwarded.lawful_failed .complete isOpen isOpen (.inr rfl)⟩
    rw [(recorded_answer.mp answer).2, kept, List.append_assoc]
  | aborted withdrawal => exact withdrawal.lawful trivial fun _ => rfl
  | abortBroken withdrawal => exact withdrawal.lawful trivial fun _ => rfl
  | releaseShut shut => exact ⟨[], quiet, .idle (.inl trivial)⟩
  | released isOpen withdrawal => exact withdrawal.lawful trivial (by simp [isOpen])
  | releaseBroken isOpen withdrawal => exact withdrawal.lawful trivial (by simp [isOpen])
  | dropShut shut => exact ⟨[], quiet, .idle (.inl trivial)⟩
  | dropped isOpen withdrawal => exact withdrawal.lawful trivial (by simp [isOpen])

end Upload

namespace History

variable {gateway : Gateway σ}

theorem recorded_snoc (gateway : Gateway σ) (bucket key : String) (expectedSize? : Option Int)
    (store : σ) (operations : List Operation) (operation : Operation) :
    recorded gateway bucket key expectedSize? store (operations ++ [operation]) =
      (recorded gateway bucket key expectedSize? store operations).step gateway.recorded
        operation :=
  run_snoc gateway.recorded _ _ operations operation

theorem acceptedBytes_le (gateway : Gateway σ) (bucket key : String) (expectedSize? : Option Int)
    (store : σ) (operations more : List Operation) :
    (recorded gateway bucket key expectedSize? store operations).upload.acceptedBytes ≤
      (recorded gateway bucket key expectedSize? store
        (operations ++ more)).upload.acceptedBytes := by
  induction more using List.reverseRecOn with
  | nil => simp
  | append_singleton more operation ih =>
    obtain ⟨_, _, lawful⟩ := (Upload.perform_step gateway.recorded operation
      (recorded gateway bucket key expectedSize? store (operations ++ more)).session).lawful
    rw [← List.append_assoc, recorded_snoc]
    exact Nat.le_trans ih lawful.accepted

/-- Whatever the store answers, every operation of a history does to its upload only what is lawful
for the status that it finds. The count of accepted bytes never falls, and at most one request of
the whole history gives the upload a name. -/
theorem operations_lawful (gateway : Gateway σ) (bucket key : String) (expectedSize? : Option Int)
    (store : σ) (operations : List Operation) :
    (∀ operation, ∃ result exchanges,
      (recorded gateway bucket key expectedSize? store (operations ++ [operation])).events =
          (recorded gateway bucket key expectedSize? store operations).events ++
            [⟨operation, (recorded gateway bucket key expectedSize? store operations).upload.status,
              result⟩] ∧
        (recorded gateway bucket key expectedSize? store (operations ++ [operation])).trace =
          (recorded gateway bucket key expectedSize? store operations).trace ++ exchanges ∧
        Upload.Lawful operation (recorded gateway bucket key expectedSize? store operations).upload
          result
          (recorded gateway bucket key expectedSize? store (operations ++ [operation])).upload
          exchanges) ∧
      (∀ more, (recorded gateway bucket key expectedSize? store operations).upload.acceptedBytes ≤
        (recorded gateway bucket key expectedSize? store
          (operations ++ more)).upload.acceptedBytes) ∧
      (created (recorded gateway bucket key expectedSize? store operations).trace).length ≤ 1 := by
  refine ⟨fun operation => ?_, acceptedBytes_le gateway bucket key expectedSize? store operations,
    (conducted gateway bucket key expectedSize? store operations).obedient.created_length_le⟩
  have step := Upload.perform_step gateway.recorded operation
    (recorded gateway bucket key expectedSize? store operations).session
  obtain ⟨exchanges, kept, lawful⟩ := step.lawful
  rw [recorded_snoc]
  exact ⟨_, exchanges, rfl, kept, lawful⟩

end History

end ObjectStorage
