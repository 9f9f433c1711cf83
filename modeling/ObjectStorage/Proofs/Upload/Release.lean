import ObjectStorage.Memory.Store
import ObjectStorage.Proofs.Upload.Standing

/-! The release of uploads. Over a store that names what it creates and does not break when an
upload is taken back, a released upload has come to one of three ends, and stays there. -/

namespace ObjectStorage

variable {σ : Type}

/-- A store that gives every upload a name, and that either takes an upload back or answers with a
gateway error. -/
structure Dependable (gateway : Gateway σ) : Prop where
  names : ∀ {request s id t}, request.kind = .createUpload →
    gateway.answer request s = (.ok id, t) → id.isVoid = false
  yields : ∀ {request s e t}, request.kind = .abortUpload →
    gateway.answer request s = (.error e, t) → e.isGateway = true

/-- Each exchange of a trace was with this store. -/
def Answered (gateway : Gateway σ) (trace : List Exchange) : Prop :=
  ∀ x ∈ trace, ∃ s t, gateway.answer x.request s = (x.reply, t)

/-- The operations that let go of an upload. -/
def Operation.IsRelease (operation : Operation) : Prop := operation = .release ∨ operation = .drop

variable {gateway : Gateway σ} {operation : Operation} {trace : List Exchange}

theorem Answered.snoc {request : Request} {reply : Except Fault Value} {s t : σ}
    (answered : Answered gateway trace) (answer : gateway.answer request s = (reply, t)) :
    Answered gateway (trace ++ [⟨request, reply⟩]) := by
  exact forall_mem_snoc answered ⟨s, t, answer⟩

theorem History.answered (gateway : Gateway σ) (bucket key : String) (expectedSize? : Option Int)
    (store : σ) (operations : List Operation) :
    Answered gateway (recorded gateway bucket key expectedSize? store operations).trace := by
  apply recorded_keeps (P := fun _ trace => Answered gateway trace)
  · simp [Answered]
  · intro u trace data answered
    exact answered
  · intro u trace data answered
    exact answered
  · intro u s trace v t after answered move
    rcases move.exchange with rfl | ⟨request, reply, _, answer, rfl⟩
    · exact answered
    · exact answered.snoc answer

namespace Dependable

theorem named (dependable : Dependable gateway) (answered : Answered gateway trace) :
    ∀ id ∈ created trace, id.isVoid = false := by
  intro id member
  obtain ⟨x, present, made⟩ := List.mem_filterMap.mp member
  obtain ⟨creation, replied⟩ := Exchange.of_created? made
  obtain ⟨s, t, answer⟩ := answered x present
  rw [replied] at answer
  exact dependable.names creation answer

/-- Every withdrawal is final, so an unfinished trace has none. -/
theorem withdrawals_eq_nil (dependable : Dependable gateway) (answered : Answered gateway trace)
    (unfinished : Unfinished trace) : withdrawals trace = [] := by
  apply List.filter_eq_nil_iff.mpr
  intro request member withdrawal
  obtain ⟨x, present, rfl⟩ := List.mem_map.mp member
  have kind : x.request.kind = .abortUpload := by simpa using withdrawal
  apply unfinished x present
  refine .inr ⟨kind, ?_⟩
  obtain ⟨s, t, answer⟩ := answered x present
  rcases replied : x.reply with e | value
  · rw [replied] at answer
    exact .inr ⟨e, replied, dependable.yields kind answer⟩
  · exact .inl ⟨value, rfl⟩

end Dependable

theorem Memory.uploadName_ne_empty (n : Nat) : (uploadName n).isEmpty = false := by
  rw [uploadName]
  simp [toString]

theorem Memory.dependable : Dependable Memory.gateway where
  names := by
    intro request m id next creation answer
    cases request <;> simp [Request.kind] at creation
    simp only [gateway, gatewayReply] at answer
    cases answer
    exact uploadName_ne_empty _
  yields := by
    intro request m e next withdrawal answer
    cases request <;> simp [Request.kind] at withdrawal
    simp [gateway, gatewayReply] at answer

namespace Upload

/-- How an upload that was created can end. -/
inductive Ending where
  | completed
  | withdrawn
  | failed

/-- An upload and its exchanges have come to an end of a kind. -/
def Ending.Holds (u : Upload) (trace : List Exchange) : Ending → Prop
  | completed => u.status = .completed ∧ withdrawals trace = [] ∧
      ∃ x ∈ trace, x.request.kind = .completeUpload ∧ ∃ value, x.reply = .ok value
  | withdrawn => u.status = .aborted ∧
      ∃ id bucket key, created trace = [id] ∧ withdrawals trace = [.abortUpload bucket key id]
  | failed => u.status = .failed ∧ withdrawals trace = []

/-- An upload is let go of: what was created has come to one end, and what was not created was not
taken back. -/
structure Settled (u : Upload) (trace : List Exchange) : Prop where
  closed : u.status ≠ .inProgress
  ended : created trace ≠ [] → ∃! ending : Ending, ending.Holds u trace
  unmade : created trace = [] → withdrawals trace = []

variable {u : Upload} {a b : Upload × σ}

theorem Withdrawal.closes {result : Except Fault Unit} (dependable : Dependable gateway)
    (withdrawal : Withdrawal gateway a result b) (isOpen : a.1.status = .inProgress) :
    b.1.status = .aborted := by
  cases withdrawal with
  | idle done => exact absurd (isLive_of_open isOpen) done
  | unnamed live void => rfl
  | taken live named answer => rfl
  | refused live named answer refusal => rfl
  | broken live named answer other =>
    have refusal := dependable.yields rfl answer
    simp [refusal] at other

theorem Step.closes {result : Except Fault (Option String)} (dependable : Dependable gateway)
    (releasing : operation.IsRelease) (step : Step gateway operation a result b) :
    b.1.status ≠ .inProgress := by
  rcases releasing with rfl | rfl
  · cases step with
    | releaseShut shut => exact shut
    | released isOpen withdrawal => simp [withdrawal.closes dependable isOpen]
    | releaseBroken isOpen withdrawal => simp [withdrawal.closes dependable isOpen]
  · cases step with
    | dropShut shut => exact shut
    | dropped isOpen withdrawal => simp [withdrawal.closes dependable isOpen]

/-- An upload has one ending at most: its status tells which. -/
theorem Ending.eq_of_holds {first second : Ending} (left : first.Holds u trace)
    (right : second.Holds u trace) : first = second := by
  cases first <;> cases second <;> first | rfl | exact absurd (left.1.symm.trans right.1) (by simp)

theorem Ending.Holds.settled {ending : Ending} (holds : ending.Holds u trace)
    (closed : u.status ≠ .inProgress) (unmade : created trace = [] → withdrawals trace = []) :
    Settled u trace where
  closed := closed
  ended := fun _ => ⟨ending, holds, fun _ other => Ending.eq_of_holds other holds⟩
  unmade := unmade

/-- An upload that is not in progress any more is settled. -/
theorem Standing.settled (standing : Standing u trace) (dependable : Dependable gateway)
    (answered : Answered gateway trace) (closed : u.status ≠ .inProgress) : Settled u trace := by
  have kept : ∀ {before rest}, before ++ rest = trace → Unfinished before →
      withdrawals before = [] := by
    intro before rest whole unfinished
    subst whole
    apply dependable.withdrawals_eq_nil _ unfinished
    intro x member
    exact answered x (List.mem_append_left rest member)
  cases standing with
  | waiting _ _ _ unmade _ calm =>
    have untaken := kept (List.append_nil trace) calm.unfinished
    exact ⟨closed, fun made => absurd unmade made, fun _ => untaken⟩
  | taking isOpen => exact absurd isOpen closed
  | unmade _ _ unmade unfinished =>
    have untaken := kept (List.append_nil trace) unfinished
    exact ⟨closed, fun made => absurd unmade made, fun _ => untaken⟩
  | refused failed _ _ unfinished =>
    have untaken := kept (List.append_nil trace) unfinished
    have holds : Ending.failed.Holds u trace := ⟨failed, untaken⟩
    exact holds.settled closed fun _ => untaken
  | @completed before u x value done unfinished assembly replied =>
    have untaken : withdrawals (before ++ [x]) = [] := by
      rw [withdrawals_append, kept rfl unfinished]
      simp [withdrawals, assembly]
    have last : x ∈ before ++ [x] := List.mem_append_right before (List.mem_singleton.mpr rfl)
    have holds : Ending.completed.Holds u (before ++ [x]) :=
      ⟨done, untaken, x, last, assembly, value, replied⟩
    exact holds.settled closed fun _ => untaken
  | @withdrawn before u x bucket key id done unfinished made withdrawal =>
    have remade : created (before ++ [x]) = [id] := by
      rw [created_append, made, created_of_kind (by simp [withdrawal, Request.kind])]
      rfl
    have taken : withdrawals (before ++ [x]) = [.abortUpload bucket key id] := by
      rw [withdrawals_append, kept rfl unfinished]
      simp [withdrawals, withdrawal, Request.kind]
    have holds : Ending.withdrawn.Holds u (before ++ [x]) := ⟨done, id, bucket, key, remade, taken⟩
    exact holds.settled closed fun unmade => by simp [remade] at unmade
  | forgotten done unfinished void =>
    have untaken := kept (List.append_nil trace) unfinished
    have unmade : created trace = [] := by
      apply List.eq_nil_iff_forall_not_mem.mpr
      intro id member
      have named := dependable.named answered id member
      simp [void id member] at named
    exact ⟨closed, fun made => absurd unmade made, fun _ => untaken⟩

end Upload

/-- A release of an upload that is not in progress does nothing at all. -/
theorem Operation.release_idle (releasing : operation.IsRelease) (session : Session σ)
    (closed : session.upload.status ≠ .inProgress) :
    operation.perform gateway session = (.ok none, session) := by
  have idle : Upload.release gateway session = (.ok (), session) := by
    simp [Upload.release, Session.get, Action.bind_apply, closed, Action.pure_apply]
  rcases releasing with rfl | rfl
  · simp [perform, Action.bind_apply, idle, Action.pure_apply]
  · simp [perform, Action.bind_apply, Upload.drop, Action.recover, idle, Action.pure_apply]

namespace History

/-- The history of an upload, which goes on with more operations. -/
theorem recorded_append (gateway : Gateway σ) (bucket key : String) (expectedSize? : Option Int)
    (store : σ) (operations more : List Operation) :
    recorded gateway bucket key expectedSize? store (operations ++ more) =
      more.foldl (step gateway.recorded)
        (recorded gateway bucket key expectedSize? store operations) :=
  List.foldl_append

theorem release_idle {h : History σ} (closed : h.upload.status ≠ .inProgress)
    (more : List Operation) (releasing : ∀ operation ∈ more, operation.IsRelease) :
    (more.foldl (step gateway) h).session = h.session := by
  induction more generalizing h with
  | nil => rfl
  | cons operation more ih =>
    have idle : operation.perform gateway h.session = (.ok none, h.session) :=
      Operation.release_idle (releasing operation List.mem_cons_self) h.session closed
    have unchanged : (h.step gateway operation).session = h.session := by
      simp [step, idle]
    have stillClosed : (h.step gateway operation).upload.status ≠ .inProgress := by
      rw [upload, unchanged]
      exact closed
    rw [List.foldl_cons, ih stillClosed fun other member =>
      releasing other (List.mem_cons_of_mem operation member)]
    exact unchanged

/-- After a release an upload is settled, and letting go of it again sends no request and changes
nothing. -/
theorem released (dependable : Dependable gateway) (bucket key : String)
    (expectedSize? : Option Int) (store : σ) (operations : List Operation) {last : Operation}
    (releasing : last.IsRelease) :
    Upload.Settled
        (recorded gateway bucket key expectedSize? store (operations ++ [last])).upload
        (recorded gateway bucket key expectedSize? store (operations ++ [last])).trace ∧
      ∀ more : List Operation, (∀ operation ∈ more, operation.IsRelease) →
        (recorded gateway bucket key expectedSize? store (operations ++ [last] ++ more)).session =
          (recorded gateway bucket key expectedSize? store (operations ++ [last])).session := by
  have closed :
      (recorded gateway bucket key expectedSize? store (operations ++ [last])).upload.status ≠
        .inProgress := by
    rw [recorded_append]
    have step := Upload.perform_step gateway.recorded last
      (recorded gateway bucket key expectedSize? store operations).session
    exact step.unrecorded.closes dependable releasing
  constructor
  · have standing := standing gateway bucket key expectedSize? store (operations ++ [last])
    have answered := answered gateway bucket key expectedSize? store (operations ++ [last])
    exact standing.settled dependable answered closed
  · intro more idle
    rw [recorded_append]
    exact release_idle closed more idle

/-- The store in memory: an upload that is dropped while it takes data is settled. -/
theorem released_unfinished :
    created (recorded Memory.gateway "media" "clip.mp4" (some 3) {}
        ([.start, .write 0 ⟨#[1, 2, 3]⟩] ++ [.drop])).trace ≠ [] ∧
      Upload.Settled
        (recorded Memory.gateway "media" "clip.mp4" (some 3) {}
          ([.start, .write 0 ⟨#[1, 2, 3]⟩] ++ [.drop])).upload
        (recorded Memory.gateway "media" "clip.mp4" (some 3) {}
          ([.start, .write 0 ⟨#[1, 2, 3]⟩] ++ [.drop])).trace := by
  constructor
  · decide +kernel
  · exact (released Memory.dependable "media" "clip.mp4" (some 3) {}
      [.start, .write 0 ⟨#[1, 2, 3]⟩] (.inr rfl)).1

end History

end ObjectStorage
