import ObjectStorage.Proofs.Session
import ObjectStorage.Proofs.Upload.Step

/-! The steps of an upload are what its operations do: each operation takes a step
(`perform_step`), and no other one (`Step.unique`). -/

namespace ObjectStorage.Upload

open ObjectStorage.Action ObjectStorage.Session

variable {σ α : Type} {gateway : Gateway σ} {u v : Upload} {s t r : σ} {e : Fault}
  {a b c : Upload × σ} {value tag : Value} {count size : Nat}

theorem failing_leads {x : Action (Session σ) α} {value : α} (first : x.Leads a (.ok value) b) :
    (failing x).Leads a (.ok value) b :=
  first.recover

theorem failing_leads_error {x : Action (Session σ) α} (first : x.Leads a (.error e) (u, t)) :
    (failing x).Leads a (.error e) (u.failedBy e, t) := by
  apply first.recover_error
  by_cases refusal : e.isGateway = true
  · simp only [refusal, ↓reduceIte, failedBy]
    exact (leads_update _).bind (leads_fail e)
  · simp only [refusal, failedBy]
    exact leads_fail e

theorem start_leads (ready : u.status = .notStarted)
    (answer : gateway.answer u.createRequest s = (.ok value, t)) :
    (start gateway).Leads (u, s) (.ok ()) (u.opened value, t) := by
  refine (leads_get _).bind ?_
  simp only [ready, ne_eq, not_true_eq_false, ↓reduceIte]
  refine (leads_get _).bind ((leads_get _).bind ?_)
  refine (failing_leads (leads_ask answer)).bind ((leads_update _).bind ?_)
  refine (leads_get _).bind ?_
  split
  · exact leads_note _ _
  · exact leads_pure ()

theorem start_leads_error (ready : u.status = .notStarted)
    (answer : gateway.answer u.createRequest s = (.error e, t)) :
    (start gateway).Leads (u, s) (.error e) (u.failedBy e, t) := by
  refine (leads_get _).bind ?_
  simp only [ready, ne_eq, not_true_eq_false, ↓reduceIte]
  refine (leads_get _).bind ((leads_get _).bind ?_)
  exact (failing_leads_error (leads_ask answer)).bind_error

theorem start_leads_late (late : u.status ≠ .notStarted) :
    (start gateway).Leads (u, s) (.error (.storage .alreadyStarted)) (u, s) := by
  refine (leads_get _).bind ?_
  simp only [late, ne_eq, not_false_eq_true, ↓reduceIte]
  exact (leads_fail _).bind_error

theorem sendPart_leads {size : Nat} (enough : size ≤ u.queue.size)
    (answer : gateway.answer (u.partRequest size) s = (.ok tag, t)) :
    (sendPart gateway size).Leads (u, s) (.ok ()) (u.sent size tag, t) := by
  refine (leads_get _).bind ((leads_get _).bind ?_)
  refine (leads_ofQueue (ByteQueue.peek_of_le enough)).bind ((leads_get _).bind ?_)
  refine (leads_ask answer).bind ((leads_get _).bind ?_)
  refine (leads_ofQueue (ByteQueue.discard_of_le enough)).bind ((leads_update _).bind ?_)
  exact (leads_get _).bind (leads_note _ _)

theorem sendPart_leads_error {size : Nat} (enough : size ≤ u.queue.size)
    (answer : gateway.answer (u.partRequest size) s = (.error e, t)) :
    (sendPart gateway size).Leads (u, s) (.error e) (u, t) := by
  refine (leads_get _).bind ((leads_get _).bind ?_)
  refine (leads_ofQueue (ByteQueue.peek_of_le enough)).bind ((leads_get _).bind ?_)
  exact (leads_ask answer).bind_error

theorem FullParts.leads (parts : FullParts gateway count a b) :
    (sendFullParts gateway count).Leads a (.ok ()) b := by
  induction parts with
  | none => exact leads_pure ()
  | more full answer rest ih => exact (sendPart_leads full answer).bind ih

/-- No part follows one that was refused. -/
theorem FullParts.leads_error {planned : Nat} (parts : FullParts gateway count a (v, t))
    (fewer : count < planned) (full : partSize ≤ v.queue.size)
    (answer : gateway.answer (v.partRequest partSize) t = (.error e, r)) :
    (sendFullParts gateway planned).Leads a (.error e) (v, r) := by
  generalize last : (v, t) = b at parts
  induction parts generalizing planned with
  | none =>
    subst last
    obtain ⟨rest, rfl⟩ := Nat.exists_eq_add_one_of_ne_zero (Nat.ne_of_gt fewer)
    exact (sendPart_leads_error full answer).bind_error
  | @more s t' tag count b u head first rest ih =>
    have some : planned ≠ 0 := Nat.ne_of_gt (Nat.zero_lt_of_lt fewer)
    obtain ⟨planned, rfl⟩ := Nat.exists_eq_add_one_of_ne_zero some
    exact (sendPart_leads head first).bind (ih (Nat.lt_of_succ_lt_succ fewer) last)

theorem requireInProgress_leads (isOpen : u.status = .inProgress) :
    (requireInProgress : Action (Session σ) Unit).Leads (u, s) (.ok ()) (u, s) := by
  refine (leads_get _).bind ?_
  simp only [isOpen, ne_eq, not_true_eq_false, ↓reduceIte]
  exact leads_pure ()

theorem requireInProgress_leads_error (shut : u.status ≠ .inProgress) :
    (requireInProgress : Action (Session σ) Unit).Leads (u, s)
      (.error (.storage .notInProgress)) (u, s) := by
  refine (leads_get _).bind ?_
  simp only [shut, ne_eq, not_false_eq_true, ↓reduceIte]
  exact leads_fail _

theorem withdraw_leads (answer : gateway.answer u.abortRequest s = (.ok value, t)) :
    (withdraw gateway u).Leads (v, s) (.ok ()) (v, t) :=
  ((leads_ask answer).bind (leads_note _ _)).recover

theorem withdraw_leads_refused (answer : gateway.answer u.abortRequest s = (.error e, t))
    (refusal : e.isGateway = true) : (withdraw gateway u).Leads (v, s) (.ok ()) (v, t) := by
  apply (leads_ask answer).bind_error.recover_error
  simp only [refusal, ↓reduceIte]
  exact leads_note _ _

theorem withdraw_leads_error (answer : gateway.answer u.abortRequest s = (.error e, t))
    (other : e.isGateway = false) : (withdraw gateway u).Leads (v, s) (.error e) (v, t) := by
  apply (leads_ask answer).bind_error.recover_error
  simp only [other, Bool.false_eq_true, ↓reduceIte]
  exact leads_fail e

private theorem abort_leads_of_live {result : Except Fault Unit} (live : u.IsLive)
    (leads : (do
      if !u.uploadId.isVoid then withdraw gateway u
      update cleared).Leads (u, s) result b) : (abort gateway).Leads (u, s) result b := by
  refine (leads_get _).bind ?_
  simp only [id, live.1, live.2, ne_eq, not_false_eq_true, and_self, ↓reduceIte]
  exact leads

theorem Withdrawal.leads {result : Except Fault Unit} (withdrawal : Withdrawal gateway a result b) :
    (abort gateway).Leads a result b := by
  cases withdrawal with
  | @idle u s done =>
    refine (leads_get _).bind ?_
    have ended : ¬ (u.status ≠ .completed ∧ u.status ≠ .aborted) := done
    simp only [id, ended, ↓reduceIte]
    exact leads_pure ()
  | unnamed live void =>
    apply abort_leads_of_live live
    simp only [void, Bool.not_true, Bool.false_eq_true, ↓reduceIte]
    exact leads_update _
  | taken live named answer =>
    apply abort_leads_of_live live
    simp only [named, Bool.not_false, ↓reduceIte]
    exact (withdraw_leads answer).bind (leads_update _)
  | refused live named answer refusal =>
    apply abort_leads_of_live live
    simp only [named, Bool.not_false, ↓reduceIte]
    exact (withdraw_leads_refused answer refusal).bind (leads_update _)
  | broken live named answer other =>
    apply abort_leads_of_live live
    simp only [named, Bool.not_false, ↓reduceIte]
    exact (withdraw_leads_error answer other).bind_error

private theorem sendRest_leads_of_left {result : Except Fault Unit} (left : u.queue.size ≠ 0)
    (leads : (failing (sendPart gateway u.queue.size)).Leads (u, s) result b) :
    (sendRest gateway).Leads (u, s) result b := by
  refine (leads_get _).bind ?_
  simp only [left, ne_eq, not_false_eq_true, ↓reduceIte]
  exact leads

theorem Drained.leads (drained : Drained gateway a b) :
    (sendRest gateway).Leads a (.ok ()) b := by
  cases drained with
  | nothing empty =>
    refine (leads_get _).bind ?_
    simp only [empty, ne_eq, not_true_eq_false, ↓reduceIte]
    exact leads_pure ()
  | rest left answer =>
    exact sendRest_leads_of_left left (failing_leads (sendPart_leads (Nat.le_refl _) answer))

theorem sendRest_leads_error (left : u.queue.size ≠ 0)
    (answer : gateway.answer (u.partRequest u.queue.size) s = (.error e, t)) :
    (sendRest gateway).Leads (u, s) (.error e) (u.failedBy e, t) :=
  sendRest_leads_of_left left (failing_leads_error (sendPart_leads_error (Nat.le_refl _) answer))

theorem assemble_leads (nonempty : u.parts ≠ [])
    (answer : gateway.answer u.completionRequest s = (.ok value, t)) :
    (assemble gateway).Leads (u, s) (.ok u.key) (u.assembled, t) := by
  refine (leads_get _).bind ?_
  simp only [id, List.isEmpty_iff, nonempty, ↓reduceIte]
  refine (failing_leads (leads_ask answer)).bind ((leads_update _).bind ?_)
  exact (leads_note _ _).bind (leads_pure u.key)

theorem assemble_leads_error (nonempty : u.parts ≠ [])
    (answer : gateway.answer u.completionRequest s = (.error e, t)) :
    (assemble gateway).Leads (u, s) (.error e) (u.failedBy e, t) := by
  refine (leads_get _).bind ?_
  simp only [id, List.isEmpty_iff, nonempty, ↓reduceIte]
  exact (failing_leads_error (leads_ask answer)).bind_error

theorem assemble_leads_bare (bare : u.parts = []) (left : (abort gateway).Leads (u, s) (.ok ()) b) :
    (assemble gateway).Leads (u, s) (.error (.storage .noDataUploaded)) b := by
  refine (leads_get _).bind ?_
  simp only [id, List.isEmpty_iff, bare, ↓reduceIte]
  exact left.bind (leads_fail _).bind_error

theorem assemble_leads_bare_error (bare : u.parts = [])
    (left : (abort gateway).Leads (u, s) (.error e) b) :
    (assemble gateway).Leads (u, s) (.error e) b := by
  refine (leads_get _).bind ?_
  simp only [id, List.isEmpty_iff, bare, ↓reduceIte]
  exact left.bind_error

private theorem write_leads_of_sent {result : Except Fault Unit} {offset : Int} {data : ByteArray}
    (isOpen : u.status = .inProgress)
    (leads : (do
      failing (sendFullParts gateway ((u.fed data).queue.size / partSize))
      update fun u => u.credited data).Leads (u.fed data, s) result b) :
    (write gateway offset data).Leads (u, s) result b := by
  refine (requireInProgress_leads isOpen).bind ((leads_get _).bind ?_)
  refine (leads_note _ _).bind ((leads_update _).bind ?_)
  exact (leads_get _).bind leads

private theorem complete_leads_of_drained {result : Except Fault String}
    (isOpen : u.status = .inProgress) (drained : Drained gateway (u, s) a)
    (leads : (assemble gateway).Leads a result b) : (complete gateway).Leads (u, s) result b :=
  (requireInProgress_leads isOpen).bind (drained.leads.bind leads)

theorem release_leads_of_abort {result : Except Fault Unit}
    (isOpen : u.status = .inProgress) (leads : (abort gateway).Leads (u, s) result b) :
    (release gateway).Leads (u, s) result b := by
  refine (leads_get _).bind ?_
  simp only [isOpen, ↓reduceIte]
  exact leads

theorem release_leads_shut (shut : u.status ≠ .inProgress) :
    (release gateway).Leads (u, s) (.ok ()) (u, s) := by
  refine (leads_get _).bind ?_
  simp only [shut, ↓reduceIte]
  exact leads_pure ()

theorem drop_leads_of_release {result : Except Fault Unit}
    (leads : (release gateway).Leads a result b) : (drop gateway).Leads a (.ok ()) b := by
  cases result with
  | error e => exact leads.recover_error (leads_pure ())
  | ok => exact leads.recover

/-- An operation that can take a step does take it. -/
theorem Step.leads {operation : Operation} {result : Except Fault (Option String)}
    (step : Step gateway operation a result b) : (operation.perform gateway).Leads a result b := by
  cases step with
  | startLate late => exact (start_leads_late late).bind_error
  | started ready answer => exact (start_leads ready answer).bind (leads_pure none)
  | startFailed ready answer => exact (start_leads_error ready answer).bind_error
  | writeShut shut => exact (requireInProgress_leads_error shut).bind_error.bind_error
  | written isOpen parts =>
    have sent := failing_leads parts.leads
    exact (write_leads_of_sent isOpen (sent.bind (leads_update _))).bind (leads_pure none)
  | @writeFailed count s v t r e offset data u isOpen parts full answer =>
    have fewer : count < (u.fed data).queue.size / partSize := by
      have size : (u.fed data).queue.size = count * partSize + v.queue.size := parts.size_eq
      rw [Nat.lt_iff_add_one_le, Nat.le_div_iff_mul_le partSize_pos, Nat.succ_mul]
      omega
    have run := failing_leads_error (parts.leads_error fewer full answer)
    exact (write_leads_of_sent isOpen run.bind_error).bind_error
  | completeShut shut => exact (requireInProgress_leads_error shut).bind_error.bind_error
  | lastPartFailed isOpen left answer =>
    have rest := sendRest_leads_error left answer
    exact ((requireInProgress_leads isOpen).bind rest.bind_error).bind_error
  | noData isOpen empty bare withdrawal =>
    have run := assemble_leads_bare bare withdrawal.leads
    exact (complete_leads_of_drained isOpen (.nothing empty) run).bind_error
  | noDataBroken isOpen empty bare withdrawal =>
    have run := assemble_leads_bare_error bare withdrawal.leads
    exact (complete_leads_of_drained isOpen (.nothing empty) run).bind_error
  | completed isOpen drained nonempty answer =>
    have run := assemble_leads nonempty answer
    exact (complete_leads_of_drained isOpen drained run).bind (leads_pure _)
  | completeFailed isOpen drained nonempty answer =>
    have run := assemble_leads_error nonempty answer
    exact (complete_leads_of_drained isOpen drained run).bind_error
  | aborted withdrawal => exact withdrawal.leads.bind (leads_pure none)
  | abortBroken withdrawal => exact withdrawal.leads.bind_error
  | releaseShut shut => exact (release_leads_shut shut).bind (leads_pure none)
  | released isOpen withdrawal =>
    exact (release_leads_of_abort isOpen withdrawal.leads).bind (leads_pure none)
  | releaseBroken isOpen withdrawal =>
    exact (release_leads_of_abort isOpen withdrawal.leads).bind_error
  | dropShut shut => exact (drop_leads_of_release (release_leads_shut shut)).bind (leads_pure none)
  | dropped isOpen withdrawal =>
    have run := release_leads_of_abort isOpen withdrawal.leads
    exact (drop_leads_of_release run).bind (leads_pure none)

private theorem exists_parts (gateway : Gateway σ) (count : Nat) (u : Upload) (s : σ)
    (enough : count * partSize ≤ u.queue.size) :
    (∃ b, FullParts gateway count (u, s) b) ∨
      ∃ sent v t e r, FullParts gateway sent (u, s) (v, t) ∧ partSize ≤ v.queue.size ∧
        gateway.answer (v.partRequest partSize) t = (.error e, r) := by
  induction count generalizing u s with
  | zero => exact .inl ⟨(u, s), .none⟩
  | succ count ih =>
    rw [Nat.succ_mul] at enough
    have full : partSize ≤ u.queue.size := by omega
    rcases answer : gateway.answer (u.partRequest partSize) s with ⟨e | tag, t⟩
    · exact .inr ⟨0, u, s, e, t, .none, full, answer⟩
    · have left : count * partSize ≤ (u.sent partSize tag).queue.size := by
        rw [sent_size]
        omega
      rcases ih _ t left with ⟨b, rest⟩ | ⟨sent, v, t', e, r, rest, next, refused⟩
      · exact .inl ⟨b, .more full answer rest⟩
      · exact .inr ⟨sent + 1, v, t', e, r, .more full answer rest, next, refused⟩

theorem exists_withdrawal (gateway : Gateway σ) (u : Upload) (s : σ) :
    ∃ result b, Withdrawal gateway (u, s) result b := by
  by_cases live : u.IsLive
  · cases named : u.uploadId.isVoid with
    | true => exact ⟨_, _, .unnamed live named⟩
    | false =>
      rcases answer : gateway.answer u.abortRequest s with ⟨e | value, t⟩
      · cases refusal : e.isGateway with
        | true => exact ⟨_, _, .refused live named answer refusal⟩
        | false => exact ⟨_, _, .broken live named answer refusal⟩
      · exact ⟨_, _, .taken live named answer⟩
  · exact ⟨_, _, .idle live⟩

private theorem exists_write (gateway : Gateway σ) (offset : Int) (data : ByteArray) (u : Upload)
    (s : σ) : ∃ result b, Step gateway (.write offset data) (u, s) result b := by
  by_cases isOpen : u.status = .inProgress
  · have enough := Nat.div_mul_le_self (u.fed data).queue.size partSize
    rcases exists_parts gateway _ (u.fed data) s enough with
      ⟨⟨v, t⟩, parts⟩ | ⟨_, v, t, e, r, parts, full, answer⟩
    · exact ⟨_, _, .written isOpen parts⟩
    · exact ⟨_, _, .writeFailed isOpen parts full answer⟩
  · exact ⟨_, _, .writeShut isOpen⟩

private theorem exists_assembly (gateway : Gateway σ) {u v : Upload} {s t : σ}
    (isOpen : u.status = .inProgress) (drained : Drained gateway (u, s) (v, t)) :
    ∃ result b, Step gateway .complete (u, s) result b := by
  by_cases bare : v.parts = []
  · obtain ⟨empty, same⟩ := drained.nothing_of_bare bare
    cases same
    obtain ⟨e | _, b, withdrawal⟩ := exists_withdrawal gateway u s
    · exact ⟨_, _, .noDataBroken isOpen empty bare withdrawal⟩
    · exact ⟨_, _, .noData isOpen empty bare withdrawal⟩
  · rcases answer : gateway.answer v.completionRequest t with ⟨e | value, r⟩
    · exact ⟨_, _, .completeFailed isOpen drained bare answer⟩
    · exact ⟨_, _, .completed isOpen drained bare answer⟩

private theorem exists_complete (gateway : Gateway σ) (u : Upload) (s : σ) :
    ∃ result b, Step gateway .complete (u, s) result b := by
  by_cases isOpen : u.status = .inProgress
  · by_cases empty : u.queue.size = 0
    · exact exists_assembly gateway isOpen (.nothing empty)
    · rcases answer : gateway.answer (u.partRequest u.queue.size) s with ⟨e | tag, t⟩
      · exact ⟨_, _, .lastPartFailed isOpen empty answer⟩
      · exact exists_assembly gateway isOpen (.rest empty answer)
  · exact ⟨_, _, .completeShut isOpen⟩

/-- Whatever an operation finds, there is a step that it can take. -/
theorem exists_step (gateway : Gateway σ) (operation : Operation) (u : Upload) (s : σ) :
    ∃ result b, Step gateway operation (u, s) result b := by
  obtain ⟨ended, b, withdrawal⟩ := exists_withdrawal gateway u s
  cases operation with
  | start =>
    by_cases ready : u.status = .notStarted
    · rcases answer : gateway.answer u.createRequest s with ⟨e | value, t⟩
      · exact ⟨_, _, .startFailed ready answer⟩
      · exact ⟨_, _, .started ready answer⟩
    · exact ⟨_, _, .startLate ready⟩
  | write offset data => exact exists_write gateway offset data u s
  | complete => exact exists_complete gateway u s
  | abort =>
    cases ended with
    | error e => exact ⟨_, _, .abortBroken withdrawal⟩
    | ok => exact ⟨_, _, .aborted withdrawal⟩
  | release =>
    by_cases isOpen : u.status = .inProgress
    · cases ended with
      | error e => exact ⟨_, _, .releaseBroken isOpen withdrawal⟩
      | ok => exact ⟨_, _, .released isOpen withdrawal⟩
    · exact ⟨_, _, .releaseShut isOpen⟩
  | drop =>
    by_cases isOpen : u.status = .inProgress
    · exact ⟨_, _, .dropped isOpen withdrawal⟩
    · exact ⟨_, _, .dropShut isOpen⟩

/-- What an operation does to a session is one of its steps. -/
theorem perform_step (gateway : Gateway σ) (operation : Operation) (session : Session σ) :
    Step gateway operation session.face (operation.perform gateway session).1
      (operation.perform gateway session).2.face := by
  obtain ⟨result, b, step⟩ :=
    exists_step gateway operation session.upload session.journal.store
  obtain ⟨ended, reached⟩ := step.leads session rfl
  rw [ended, reached]
  exact step

/-- An operation can take no other step than the one that it does take. -/
theorem Step.unique {operation : Operation} {first second : Except Fault (Option String)}
    (left : Step gateway operation a first b) (right : Step gateway operation a second c) :
    first = second ∧ b = c := by
  obtain ⟨ended, reached⟩ := left.leads ⟨a.1, ⟨a.2, #[]⟩⟩ rfl
  obtain ⟨ended', reached'⟩ := right.leads ⟨a.1, ⟨a.2, #[]⟩⟩ rfl
  exact ⟨ended.symm.trans ended', reached.symm.trans reached'⟩

end ObjectStorage.Upload
