import ObjectStorage.Proofs.PartStore

/-! Stores that hold whole objects besides the parts of uploads, and that tell of every failure with
a gateway error. -/

namespace ObjectStorage

variable {σ : Type}

/-- The requests about an object as a whole. A URL is signed for reading only. -/
inductive WholeRequest : Request → Prop where
  | put : WholeRequest (.putObject bucket key data contentType)
  | head : WholeRequest (.headObject bucket key)
  | delete : WholeRequest (.deleteObject bucket key)
  | url : WholeRequest (.signUrl bucket key "GET" expirySeconds)

/-- What a request about a whole object and its answer make of what a store holds. -/
inductive ObjectEffect (before after : Holdings) : Request → Except Fault Value → Prop where
  | fault (unchanged : after = before) : ObjectEffect before after request (.error e)
  | stored (issued : after.issued = before.issued) (part : after.part = before.part)
      (here : after.object? bucket key = some data)
      (elsewhere : ∀ place other, other ≠ key →
        after.object? place other = before.object? place other) :
      ObjectEffect before after (.putObject bucket key data contentType) (.ok value)
  | deleted (issued : after.issued = before.issued) (part : after.part = before.part)
      (here : after.object? bucket key = none)
      (elsewhere : ∀ place other, other ≠ key →
        after.object? place other = before.object? place other) :
      ObjectEffect before after (.deleteObject bucket key) (.ok value)
  | found (present : (before.object? bucket key).isSome = true) (unchanged : after = before) :
      ObjectEffect before after (.headObject bucket key) (.ok value)
  | signed (unchanged : after = before) :
      ObjectEffect before after (.signUrl bucket key method expirySeconds) (.ok value)

/-- The requests that a store has to serve, by what it holds. -/
inductive Holdings.Serves (h : Holdings) : Request → Prop where
  | creation : Serves h (.createUpload bucket key contentType)
  | service (named : request.uploadId? = some name) (issued : h.issued name) : Serves h request
  | whole (whole : WholeRequest request) : Serves h request

variable {request : Request} {reply : Except Fault Value}

/-- A store of objects, which can be put there as a whole or in parts. -/
structure ObjectStore (σ : Type) extends PartStore σ where
  whole : ∀ {request reply s t}, WholeRequest request → gateway.answer request s = (reply, t) →
    ObjectEffect (holdings s) (holdings t) request reply
  refuses : ∀ {request e s t}, (holdings s).Serves request →
    gateway.answer request s = (.error e, t) → e.isGateway = true

/-- A gateway with refusals to come: each request meets the next one, or none. -/
def Service.withRefusals (gateway : Gateway σ) : Gateway (σ × List (Option String)) where
  answer request s :=
    match s.2 with
    | some text :: rest => (.error (.storage (.gateway text)), s.1, rest)
    | planned =>
      match gateway.answer request s.1 with
      | (reply, t) => (reply, t, planned.tail)

theorem withRefusals_answer {gateway : Gateway σ} {s t : σ × List (Option String)}
    (answer : gateway.withRefusals.answer request s = (reply, t)) :
    gateway.answer request s.1 = (reply, t.1) ∨
      ∃ text, reply = .error (.storage (.gateway text)) ∧ t.1 = s.1 := by
  simp only [Service.withRefusals] at answer
  split at answer
  · cases answer
    exact .inr ⟨_, rfl, rfl⟩
  · cases answer
    exact .inl rfl

namespace ObjectStore

/-- The store with refusals to come. -/
def withRefusals (store : ObjectStore σ) : ObjectStore (σ × List (Option String)) where
  gateway := store.gateway.withRefusals
  holdings s := store.holdings s.1
  creation := by
    intro bucket key contentType reply s t answer
    rcases withRefusals_answer answer with given | ⟨text, rfl, unchanged⟩
    · exact store.creation given
    · exact .fault (congrArg store.holdings unchanged)
  service := by
    intro request name reply s t named issued answer
    rcases withRefusals_answer answer with given | ⟨text, rfl, unchanged⟩
    · exact store.service named issued given
    · exact .fault (congrArg store.holdings unchanged)
  whole := by
    intro request reply s t whole answer
    rcases withRefusals_answer answer with given | ⟨text, rfl, unchanged⟩
    · exact store.whole whole given
    · exact .fault (congrArg store.holdings unchanged)
  refuses := by
    intro request e s t serves answer
    rcases withRefusals_answer answer with given | ⟨text, refused, _⟩
    · exact store.refuses serves given
    · cases refused
      rfl

/-- The store with its exchanges kept. -/
def recorded (store : ObjectStore σ) : ObjectStore (σ × List Exchange) where
  gateway := store.gateway.recorded
  holdings s := store.holdings s.1
  creation answer := store.creation (recorded_answer.mp answer).1
  service named issued answer := store.service named issued (recorded_answer.mp answer).1
  whole whole answer := store.whole whole (recorded_answer.mp answer).1
  refuses serves answer := store.refuses serves (recorded_answer.mp answer).1

end ObjectStore

namespace Memory

theorem object?_erase (m : Memory) (key : String) : (m.erase key).object? key = none := by
  simp only [object?, erase, List.lookup_eq_none_iff, List.mem_filter]
  rintro entry ⟨_, other⟩
  simpa using fun same => (bne_iff_ne.mp other) same.symm

theorem object?_erase_of_ne (m : Memory) {key other : String} (different : other ≠ key) :
    (m.erase key).object? other = m.object? other := by
  have missed : (other == key) = false := by simpa using different
  rw [← object?_store_of_ne m .empty different]
  simp [object?, store, List.lookup_cons, missed]

/-- The store in memory holds objects. -/
def objectStore : ObjectStore Memory where
  toPartStore := partStore
  whole := by
    intro request reply m next whole answer
    cases whole with
    | put =>
      cases answer
      exact .stored rfl rfl (object?_store m _ _) fun _ _ => object?_store_of_ne m _
    | @head bucket key =>
      simp only [partStore, gateway, gatewayReply] at answer
      cases found : m.object? key with
      | some data =>
        rw [found] at answer
        cases answer
        exact .found (Option.isSome_iff_exists.mpr ⟨data, found⟩) rfl
      | none =>
        rw [found] at answer
        cases answer
        exact .fault rfl
    | delete =>
      cases answer
      exact .deleted rfl rfl (object?_erase m _) fun _ _ => object?_erase_of_ne m
    | url =>
      cases answer
      exact .signed rfl
  refuses := by
    intro request e m next serves answer
    cases serves with
    | creation => cases answer
    | service named issued =>
      obtain ⟨n, earlier, rfl⟩ := issued
      cases request with
      | completeUpload bucket key name parts =>
        cases named
        simp only [partStore, gateway, gatewayReply, completionReply_text] at answer
        cases answer
      | uploadPart =>
        cases named
        cases answer
      | abortUpload => cases answer
      | _ => cases named
    | whole whole =>
      cases whole with
      | @head bucket key =>
        simp only [partStore, gateway, gatewayReply] at answer
        cases found : m.object? key with
        | some data =>
          rw [found] at answer
          cases answer
        | none =>
          rw [found] at answer
          cases answer
          rfl
      | _ => cases answer

end Memory

end ObjectStorage
