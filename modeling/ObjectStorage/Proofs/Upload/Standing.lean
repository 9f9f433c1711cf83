import ObjectStorage.Proofs.Upload.Recording

/-! Where an upload stands by its exchanges with the store: what its status, its name and its parts
have to do with the requests that were sent and the answers that came. Every history keeps this
(`History.standing`). -/

namespace ObjectStorage

variable {σ : Type}

namespace Upload

inductive Standing : Upload → List Exchange → Prop where
  /-- Nothing has been created yet. -/
  | waiting (ready : u.status = .notStarted) (unnamed : u.uploadId = .null) (bare : u.parts = [])
      (unmade : created trace = []) (unsent : acknowledged trace = []) (calm : Calm trace) :
      Standing u trace
  /-- Parts are taken under the name that was given, and all that were acknowledged are known. -/
  | taking (isOpen : u.status = .inProgress) (made : created trace = [u.uploadId])
      (sent : acknowledgedParts trace = u.parts) (numbered : Numbered u.parts)
      (calm : Calm trace) : Standing u trace
  /-- The store refused to create the upload. -/
  | unmade (failed : u.status = .failed) (unnamed : u.uploadId = .null)
      (unmade : created trace = []) (unfinished : Unfinished trace) : Standing u trace
  /-- The store refused a request about the upload. -/
  | refused (failed : u.status = .failed) (made : created trace = [u.uploadId])
      (begun : ∀ x ∈ trace, x.IsRefused → x.request.kind ≠ .createUpload)
      (unfinished : Unfinished trace) : Standing u trace
  /-- The last request put the object together. -/
  | completed {x : Exchange} {value : Value} (done : u.status = .completed)
      (unfinished : Unfinished trace) (assembly : x.request.kind = .completeUpload)
      (answered : x.reply = .ok value) : Standing u (trace ++ [x])
  /-- The last request took the upload back. -/
  | withdrawn {x : Exchange} {bucket key : String} {id : Value} (done : u.status = .aborted)
      (unfinished : Unfinished trace) (made : created trace = [id])
      (withdrawal : x.request = .abortUpload bucket key id) : Standing u (trace ++ [x])
  /-- The upload was given up without a request: it had no name, or a void one. -/
  | forgotten (done : u.status = .aborted) (unfinished : Unfinished trace)
      (void : ∀ id ∈ created trace, id.isVoid = true) : Standing u trace

/-- A fault that is no gateway error leaves an upload where it stands. -/
theorem Standing.keep {u : Upload} {trace : List Exchange} {request : Request} {e : Fault}
    (standing : Standing u trace) (live : u.IsLive) (other : e.isGateway = false) :
    Standing u (trace ++ [⟨request, .error e⟩]) := by
  have accepted : ¬ Exchange.IsRefused ⟨request, .error e⟩ := not_refused_of_other other
  have more : ¬ Exchange.IsFinal ⟨request, .error e⟩ := not_final_of_other other
  cases standing with
  | waiting ready unnamed bare unmade unsent calm =>
    have stillCalm := calm.snoc accepted more
    exact .waiting ready unnamed bare (by simp [unmade])
      (by simp [unsent, acknowledged_error]) stillCalm
  | taking isOpen made sent numbered calm =>
    have kept : acknowledgedParts (trace ++ [⟨request, .error e⟩]) = u.parts := by
      simpa [acknowledgedParts, acknowledged_error] using sent
    exact .taking isOpen (by simp [made]) kept numbered (calm.snoc accepted more)
  | unmade failed unnamed unmade unfinished =>
    exact .unmade failed unnamed (by simp [unmade]) (unfinished.snoc more)
  | refused failed made begun unfinished =>
    have stillBegun := forall_mem_snoc begun fun refusal => absurd refusal accepted
    exact .refused failed (by simp [made]) stillBegun (unfinished.snoc more)
  | completed done => exact absurd done live.1
  | withdrawn done => exact absurd done live.2
  | forgotten done => exact absurd done live.2

variable {gateway : Gateway σ} {u v : Upload} {s t : σ} {trace after : List Exchange}

theorem Standing.of_ready (standing : Standing u trace) (ready : u.status = .notStarted) :
    u.uploadId = .null ∧ u.parts = [] ∧ created trace = [] ∧ acknowledged trace = [] ∧
      Calm trace := by
  cases standing with
  | waiting _ unnamed bare unmade unsent calm => exact ⟨unnamed, bare, unmade, unsent, calm⟩
  | taking isOpen => simp [ready] at isOpen
  | unmade failed => simp [ready] at failed
  | refused failed => simp [ready] at failed
  | completed done => simp [ready] at done
  | withdrawn done => simp [ready] at done
  | forgotten done => simp [ready] at done

theorem Standing.of_open (standing : Standing u trace) (isOpen : u.status = .inProgress) :
    created trace = [u.uploadId] ∧ acknowledgedParts trace = u.parts ∧ Numbered u.parts ∧
      Calm trace := by
  cases standing with
  | taking _ made sent numbered calm => exact ⟨made, sent, numbered, calm⟩
  | waiting ready => simp [isOpen] at ready
  | unmade failed => simp [isOpen] at failed
  | refused failed => simp [isOpen] at failed
  | completed done => simp [isOpen] at done
  | withdrawn done => simp [isOpen] at done
  | forgotten done => simp [isOpen] at done

/-- Of a live upload nothing final has happened, and a name that it has was given to it. -/
theorem Standing.of_live (standing : Standing u trace) (live : u.IsLive) :
    Unfinished trace ∧
      (u.uploadId = .null ∧ created trace = [] ∨ created trace = [u.uploadId]) := by
  cases standing with
  | waiting _ unnamed _ unmade _ calm => exact ⟨calm.unfinished, .inl ⟨unnamed, unmade⟩⟩
  | taking _ made _ _ calm => exact ⟨calm.unfinished, .inr made⟩
  | unmade _ unnamed unmade unfinished => exact ⟨unfinished, .inl ⟨unnamed, unmade⟩⟩
  | refused _ made _ unfinished => exact ⟨unfinished, .inr made⟩
  | completed done => exact absurd done live.1
  | withdrawn done => exact absurd done live.2
  | forgotten done => exact absurd done live.2

theorem Standing.made_of_named (standing : Standing u trace) (live : u.IsLive)
    (named : u.uploadId.isVoid = false) : created trace = [u.uploadId] := by
  rcases (standing.of_live live).2 with ⟨unnamed, _⟩ | made
  · simp [unnamed, Value.isVoid] at named
  · exact made

theorem Standing.opened {value : Value} (standing : Standing u trace)
    (ready : u.status = .notStarted) :
    Standing (u.opened value) (trace ++ [⟨u.createRequest, .ok value⟩]) := by
  obtain ⟨_, bare, unmade, unsent, calm⟩ := standing.of_ready ready
  have made : created (trace ++ [⟨u.createRequest, .ok value⟩]) = [value] := by
    rw [created_append, unmade]
    rfl
  have sent : acknowledgedParts (trace ++ [⟨u.createRequest, .ok value⟩]) = u.parts := by
    rw [acknowledgedParts, acknowledged_append, unsent, bare]
    rfl
  have numbered : Numbered u.parts := by
    rw [bare]
    exact numbered_nil
  have more : ¬ Exchange.IsFinal ⟨u.createRequest, .ok value⟩ := by
    apply not_final_of_kind <;> simp [createRequest, Request.kind]
  exact .taking rfl made sent numbered (calm.snoc not_refused_of_ok more)

theorem Standing.sent {size : Nat} {tag : Value} (standing : Standing u trace)
    (isOpen : u.status = .inProgress) :
    Standing (u.sent size tag) (trace ++ [⟨u.partRequest size, .ok tag⟩]) := by
  obtain ⟨made, sent, numbered, calm⟩ := standing.of_open isOpen
  have same : created (trace ++ [⟨u.partRequest size, .ok tag⟩]) = [u.uploadId] := by
    rw [created_append, made]
    rfl
  have known : acknowledgedParts (trace ++ [⟨u.partRequest size, .ok tag⟩]) =
      (u.sent size tag).parts := by
    rw [acknowledgedParts, acknowledged_append, List.map_append]
    exact congrArg (· ++ _) sent
  have more : ¬ Exchange.IsFinal ⟨u.partRequest size, .ok tag⟩ := by
    apply not_final_of_kind <;> simp [partRequest, Request.kind]
  exact .taking isOpen same known (numbered.snoc tag) (calm.snoc not_refused_of_ok more)

/-- A refused request fails the upload; any other fault leaves it where it stands. -/
theorem Standing.failed {request : Request} {e : Fault} (standing : Standing u trace)
    (due : Due u request) : Standing (u.failedBy e) (trace ++ [⟨request, .error e⟩]) := by
  have live := due.live
  unfold failedBy
  split
  · have more : ¬ Exchange.IsFinal ⟨request, .error e⟩ := by
      apply not_final_of_error
      cases due <;> simp [createRequest, partRequest, completionRequest, Request.kind]
    have unfinished := (standing.of_live live).1.snoc more
    have refused : u.status = .inProgress → request.kind ≠ .createUpload →
        Standing { u with status := .failed } (trace ++ [⟨request, .error e⟩]) := by
      intro isOpen begun
      obtain ⟨made, _, _, calm⟩ := standing.of_open isOpen
      have before : ∀ x ∈ trace, x.IsRefused → x.request.kind ≠ .createUpload :=
        fun x member refusal => absurd refusal (calm x member).1
      exact .refused rfl (by simp [made]) (forall_mem_snoc before fun _ => begun) unfinished
    cases due with
    | create ready =>
      obtain ⟨unnamed, _, unmade, _⟩ := standing.of_ready ready
      exact .unmade rfl unnamed (by simp [unmade]) unfinished
    | part isOpen => exact refused isOpen (by simp [partRequest, Request.kind])
    | completion isOpen => exact refused isOpen (by simp [completionRequest, Request.kind])
  · rename_i other
    exact standing.keep live (by simpa using other)

theorem Standing.after_withdrawal {result : Except Fault Unit} (standing : Standing u trace)
    (withdrawal : Withdrawal gateway.recorded (u, (s, trace)) result (v, (t, after))) :
    Standing v after := by
  cases withdrawal with
  | idle done => exact standing
  | unnamed live void =>
    obtain ⟨unfinished, names⟩ := standing.of_live live
    refine .forgotten rfl unfinished ?_
    intro id member
    rcases names with ⟨_, unmade⟩ | made
    · simp [unmade] at member
    · rw [made] at member
      cases List.mem_singleton.mp member
      exact void
  | taken live named answer =>
    obtain ⟨_, rfl⟩ := recorded_answer.mp answer
    exact .withdrawn rfl (standing.of_live live).1 (standing.made_of_named live named) rfl
  | refused live named answer refusal =>
    obtain ⟨_, rfl⟩ := recorded_answer.mp answer
    exact .withdrawn rfl (standing.of_live live).1 (standing.made_of_named live named) rfl
  | broken live named answer other =>
    obtain ⟨_, rfl⟩ := recorded_answer.mp answer
    exact standing.keep live other

theorem Standing.after_move (standing : Standing u trace)
    (move : Move gateway.recorded (u, (s, trace)) (v, (t, after))) : Standing v after := by
  cases move with
  | opened ready answer =>
    obtain ⟨_, rfl⟩ := recorded_answer.mp answer
    exact standing.opened ready
  | sent isOpen positive enough answer =>
    obtain ⟨_, rfl⟩ := recorded_answer.mp answer
    exact standing.sent isOpen
  | assembled isOpen empty nonempty answer =>
    obtain ⟨_, rfl⟩ := recorded_answer.mp answer
    exact .completed rfl (standing.of_live (isLive_of_open isOpen)).1 rfl rfl
  | failed due answer =>
    obtain ⟨_, rfl⟩ := recorded_answer.mp answer
    exact standing.failed due
  | withdrawn withdrawal => exact standing.after_withdrawal withdrawal

/-- A standing is about the status, the name and the parts only. -/
theorem Standing.congr (standing : Standing u trace) (status : v.status = u.status)
    (name : v.uploadId = u.uploadId) (parts : v.parts = u.parts) : Standing v trace := by
  cases standing with
  | waiting ready unnamed bare unmade unsent calm =>
    exact .waiting (status.trans ready) (name.trans unnamed) (parts.trans bare) unmade unsent calm
  | taking isOpen made sent numbered calm =>
    exact .taking (status.trans isOpen) (name ▸ made) (parts ▸ sent) (parts ▸ numbered) calm
  | unmade failed unnamed unmade unfinished =>
    exact .unmade (status.trans failed) (name.trans unnamed) unmade unfinished
  | refused failed made begun unfinished =>
    exact .refused (status.trans failed) (name ▸ made) begun unfinished
  | completed done unfinished assembly answered =>
    exact .completed (status.trans done) unfinished assembly answered
  | withdrawn done unfinished made withdrawal =>
    exact .withdrawn (status.trans done) unfinished made withdrawal
  | forgotten done unfinished void => exact .forgotten (status.trans done) unfinished void

theorem standing_blank (bucket key : String) (expectedSize? : Option Int) :
    Standing (blank bucket key expectedSize?) [] :=
  .waiting rfl rfl rfl rfl rfl (by simp [Calm])

theorem Standing.after_step {operation : Operation} {result : Except Fault (Option String)}
    (standing : Standing u trace)
    (step : Step gateway.recorded operation (u, s, trace) result (v, t, after)) :
    Standing v after := by
  refine step.keeps (P := fun u kept => Standing u kept.2) ?_ ?_ ?_ standing
  · intro u kept data standing
    exact standing.congr rfl rfl rfl
  · intro u kept data standing
    exact standing.congr rfl rfl rfl
  · intro u kept v reached standing move
    exact standing.after_move move

end Upload

theorem History.standing (gateway : Gateway σ) (bucket key : String) (expectedSize? : Option Int)
    (store : σ) (operations : List Operation) :
    Upload.Standing (recorded gateway bucket key expectedSize? store operations).upload
      (recorded gateway bucket key expectedSize? store operations).trace := by
  refine run_keeps (P := fun u (kept : σ × List Exchange) _ => Upload.Standing u kept.2) ?_ ?_
    operations
  · exact Upload.standing_blank bucket key expectedSize?
  · intro u kept events operation result v reached standing step
    exact standing.after_step step

end ObjectStorage
