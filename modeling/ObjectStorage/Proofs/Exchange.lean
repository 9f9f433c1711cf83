import ObjectStorage.Request

/-! Views of the exchanges with a store: what was created, what was acknowledged, what was refused,
and what brought an upload to its end. -/

namespace ObjectStorage

variable {σ : Type}

/-- The name of the upload that a request is about. -/
def Request.uploadId? : Request → Option Value
  | .uploadPart _ _ id _ _ | .completeUpload _ _ id _ | .abortUpload _ _ id => some id
  | _ => none

/-- A part that the store has acknowledged, with its data. -/
structure SentPart where
  part : Part
  data : ByteArray

namespace Exchange

/-- The name that an upload was given. -/
def created? : Exchange → Option Value
  | ⟨.createUpload .., .ok id⟩ => some id
  | _ => none

def acknowledged? : Exchange → Option SentPart
  | ⟨.uploadPart _ _ _ number data, .ok tag⟩ => some ⟨⟨number, tag⟩, data⟩
  | _ => none

theorem of_created? {x : Exchange} {id : Value} (made : x.created? = some id) :
    x.request.kind = .createUpload ∧ x.reply = .ok id := by
  unfold created? at made
  split at made
  · cases made
    exact ⟨rfl, rfl⟩
  · cases made

/-- The answer was a gateway error. -/
def IsRefused (x : Exchange) : Prop := ∃ e : Fault, x.reply = .error e ∧ e.isGateway = true

/-- The upload was put together, or was taken back, even if the store refused that. -/
def IsFinal (x : Exchange) : Prop :=
  (x.request.kind = .completeUpload ∧ ∃ value, x.reply = .ok value) ∨
    x.request.kind = .abortUpload ∧ ((∃ value, x.reply = .ok value) ∨ x.IsRefused)

end Exchange

/-- The names that uploads were given. -/
def created (trace : List Exchange) : List Value := trace.filterMap Exchange.created?

/-- The parts that were acknowledged, in order. -/
def acknowledged (trace : List Exchange) : List SentPart := trace.filterMap Exchange.acknowledged?

/-- The acknowledged parts without their data. -/
def acknowledgedParts (trace : List Exchange) : List Part := (acknowledged trace).map (·.part)

/-- The data of the acknowledged parts. -/
def acknowledgedData (trace : List Exchange) : List ByteArray := (acknowledged trace).map (·.data)

/-- The requests to take an upload back. -/
def withdrawals (trace : List Exchange) : List Request :=
  (trace.map (·.request)).filter (·.kind = .abortUpload)

/-- No exchange of a trace was refused, and none was final. -/
def Calm (trace : List Exchange) : Prop := ∀ x ∈ trace, ¬ x.IsRefused ∧ ¬ x.IsFinal

/-- No exchange of a trace was final. -/
def Unfinished (trace : List Exchange) : Prop := ∀ x ∈ trace, ¬ x.IsFinal

/-- Every request was answered with a value. -/
def Smooth (trace : List Exchange) : Prop := ∀ x ∈ trace, ∃ value, x.reply = .ok value

/-- The parts have the numbers from one on. -/
def Numbered (parts : List Part) : Prop :=
  ∀ (i : Nat) (within : i < parts.length), parts[i].number = (i : Int) + 1

theorem numbered_nil : Numbered [] := by
  intro i within
  simp at within

theorem Numbered.snoc {parts : List Part} (numbered : Numbered parts) (tag : Value) :
    Numbered (parts ++ [⟨(parts.length : Int) + 1, tag⟩]) := by
  intro i within
  by_cases old : i < parts.length
  · rw [List.getElem_append_left old]
    exact numbered i old
  · have last : i = parts.length := by
      rw [List.length_append] at within
      simp at within
      omega
    subst last
    simp

theorem forall_mem_snoc {P : Exchange → Prop} {trace : List Exchange} {x : Exchange}
    (old : ∀ y ∈ trace, P y) (new : P x) : ∀ y ∈ trace ++ [x], P y := by
  intro y member
  rcases List.mem_append.mp member with earlier | last
  · exact old y earlier
  · cases List.mem_singleton.mp last
    exact new

theorem Calm.unfinished {trace : List Exchange} (calm : Calm trace) : Unfinished trace :=
  fun x member => (calm x member).2

theorem Calm.snoc {trace : List Exchange} {x : Exchange} (calm : Calm trace)
    (accepted : ¬ x.IsRefused) (more : ¬ x.IsFinal) : Calm (trace ++ [x]) :=
  forall_mem_snoc calm ⟨accepted, more⟩

theorem Unfinished.snoc {trace : List Exchange} {x : Exchange} (unfinished : Unfinished trace)
    (more : ¬ x.IsFinal) : Unfinished (trace ++ [x]) :=
  forall_mem_snoc unfinished more

theorem not_refused_of_ok {request : Request} {value : Value} :
    ¬ Exchange.IsRefused ⟨request, .ok value⟩ := by
  intro refused
  obtain ⟨e, failed, _⟩ := refused
  cases failed

theorem not_refused_of_other {request : Request} {e : Fault} (other : e.isGateway = false) :
    ¬ Exchange.IsRefused ⟨request, .error e⟩ := by
  intro refused
  obtain ⟨_, same, refusal⟩ := refused
  cases same
  simp [other] at refusal

theorem not_final_of_kind {x : Exchange} (incomplete : x.request.kind ≠ .completeUpload)
    (kept : x.request.kind ≠ .abortUpload) : ¬ x.IsFinal := by
  intro final
  rcases final with ⟨assembly, _⟩ | ⟨withdrawal, _⟩
  · exact incomplete assembly
  · exact kept withdrawal

theorem not_final_of_error {request : Request} {e : Fault} (kept : request.kind ≠ .abortUpload) :
    ¬ Exchange.IsFinal ⟨request, .error e⟩ := by
  intro final
  rcases final with ⟨_, value, answered⟩ | ⟨withdrawal, _⟩
  · cases answered
  · exact kept withdrawal

theorem not_final_of_other {request : Request} {e : Fault} (other : e.isGateway = false) :
    ¬ Exchange.IsFinal ⟨request, .error e⟩ := by
  intro final
  rcases final with ⟨_, value, answered⟩ | ⟨_, ⟨value, answered⟩ | refused⟩
  · cases answered
  · cases answered
  · exact not_refused_of_other other refused

@[simp] theorem created_append (trace rest : List Exchange) :
    created (trace ++ rest) = created trace ++ created rest :=
  List.filterMap_append

@[simp] theorem acknowledged_append (trace rest : List Exchange) :
    acknowledged (trace ++ rest) = acknowledged trace ++ acknowledged rest :=
  List.filterMap_append

@[simp] theorem acknowledgedData_append (trace rest : List Exchange) :
    acknowledgedData (trace ++ rest) = acknowledgedData trace ++ acknowledgedData rest := by
  simp [acknowledgedData]

theorem length_acknowledgedParts (trace : List Exchange) :
    (acknowledgedParts trace).length = (acknowledgedData trace).length := by
  rw [acknowledgedParts, acknowledgedData, List.length_map, List.length_map]

@[simp] theorem withdrawals_append (trace rest : List Exchange) :
    withdrawals (trace ++ rest) = withdrawals trace ++ withdrawals rest := by
  simp [withdrawals]

@[simp] theorem created_error (request : Request) (e : Fault) :
    created [⟨request, .error e⟩] = [] := by
  cases request <;> rfl

theorem created_of_kind {x : Exchange} (other : x.request.kind ≠ .createUpload) :
    created [x] = [] := by
  cases made : x.created? with
  | none => simp [created, made]
  | some id => exact absurd (Exchange.of_created? made).1 other

theorem withdrawals_of_kind {x : Exchange} (other : x.request.kind ≠ .abortUpload) :
    withdrawals [x] = [] := by
  simp [withdrawals, other]

theorem acknowledged_error (request : Request) (e : Fault) :
    acknowledged [⟨request, .error e⟩] = [] := by
  cases request <;> rfl

/-- A recorded gateway answers as the gateway does, and keeps the exchange. -/
theorem recorded_answer {gateway : Gateway σ} {request : Request} {reply : Except Fault Value}
    {s t : σ} {trace after : List Exchange} :
    gateway.recorded.answer request (s, trace) = (reply, (t, after)) ↔
      gateway.answer request s = (reply, t) ∧ after = trace ++ [⟨request, reply⟩] := by
  rcases answer : gateway.answer request s with ⟨given, next⟩
  simp only [Service.recorded, answer, Prod.mk.injEq]
  constructor
  · intro same
    obtain ⟨rfl, rfl, rfl⟩ := same
    exact ⟨⟨rfl, rfl⟩, rfl⟩
  · intro same
    obtain ⟨⟨rfl, rfl⟩, rfl⟩ := same
    exact ⟨rfl, rfl, rfl⟩

end ObjectStorage
