import ObjectStorage.Proofs.ContentType
import ObjectStorage.Proofs.Storage.Ledger
import ObjectStorage.Proofs.Upload.Lifecycle

/-! Two ways to store data under a key: as a whole file, or as an upload that is written in pieces.
At a store that does not fail they come to the same (`Storage.whole_or_parts`), whatever the prefix
of the settings. -/

namespace ObjectStorage

variable {σ : Type}

/-- The content type that a request declares. -/
def Request.contentType? : Request → Option String
  | .createUpload _ _ contentType | .putObject _ _ _ contentType => some contentType
  | _ => none

/-- The content types that were declared to a store. -/
def declaredTypes (trace : List Exchange) : List String :=
  trace.filterMap (·.request.contentType?)

/-- A store never fails on a request that brings data to it. -/
def ObjectStore.Unfailing (store : ObjectStore σ) : Prop :=
  ∀ {request e s t}, (store.holdings s).Serves request →
    request.kind ∈ [.createUpload, .uploadPart, .completeUpload, .putObject] →
      store.gateway.answer request s ≠ (.error e, t)

/-- The calls that store chunks as an upload, each written at the offset that it comes with. -/
def Call.streaming (key : String) (expectedSize? : Option Int) (chunks : List (Int × ByteArray)) :
    List Call :=
  [.newUpload key expectedSize?, .upload 0 .start] ++
    chunks.map (fun chunk => .upload 0 (.write chunk.1 chunk.2)) ++ [.upload 0 .complete]

namespace Usage

/-- All calls have ended well, the last one with the full key of a key. There is the content now, of
the type that was declared, and no other object has changed. -/
structure Stored (store : ObjectStore σ) (settings : Settings) (before : Holdings) (key : String)
    (content : ByteArray) (usage : Usage (σ × List Exchange)) : Prop where
  done : ∀ made ∈ usage.answers, ∃ value, made.2 = .ok value
  told : ∃ call, usage.answers.getLast? = some (call, .ok (.text (settings.fullKey key)))
  here : (store.holdings usage.store.1).object? settings.bucket (settings.fullKey key) =
    some content
  elsewhere : ∀ place other, other ≠ settings.fullKey key →
    (store.holdings usage.store.1).object? place other = before.object? place other
  declared : declaredTypes usage.trace = [ContentType.detect key]

/-- The only upload to a key takes data, and all calls have ended well so far. -/
structure Underway (store : ObjectStore σ) (settings : Settings) (before : Holdings) (key : String)
    (data : ByteArray) (usage : Usage (σ × List Exchange)) (u : Upload) : Prop where
  sole : usage.uploads = [(u, store.recorded.gateway)]
  isOpen : u.status = .inProgress
  inBucket : u.bucket = settings.bucket
  atKey : u.key = settings.fullKey key
  faithful : u.Faithful (store.recorded.holdings usage.store) data
  objects : (store.recorded.holdings usage.store).object? = before.object?
  done : ∀ made ∈ usage.answers, ∃ value, made.2 = .ok value
  declared : declaredTypes usage.trace = [ContentType.detect key]

/-- A storage that has made an upload and done nothing with it. -/
def offered (store : ObjectStore σ) (settings : Settings) (key : String)
    (expectedSize? : Option Int) (s : σ) : Usage (σ × List Exchange) where
  uploads :=
    [(.blank settings.bucket (settings.fullKey key) expectedSize?, store.recorded.gateway)]
  journal := ⟨(s, []), #[]⟩
  answers := [(.newUpload key expectedSize?, .ok .null)]

end Usage

variable {store : ObjectStore σ} {settings : Settings} {files : FileReader} {gateway : Gateway σ}
  {before : Holdings} {key : String} {data content : ByteArray} {u v : Upload} {s t : σ}
  {trace after : List Exchange} {result : Except Fault (Option String)}

@[simp] theorem declaredTypes_append (trace rest : List Exchange) :
    declaredTypes (trace ++ rest) = declaredTypes trace ++ declaredTypes rest :=
  List.filterMap_append

theorem declaredTypes_of_parts (parts : ∀ x ∈ trace, x.request.kind = .uploadPart) :
    declaredTypes trace = [] := by
  apply List.filterMap_eq_nil_iff.mpr
  rintro ⟨request, reply⟩ member
  have kind := parts _ member
  cases request <;> first | rfl | cases kind

theorem ObjectStore.Unfailing.recorded (unfailing : store.Unfailing) : store.recorded.Unfailing :=
  fun serves kind answer => unfailing serves kind (recorded_answer.mp answer).1

namespace Upload

theorem Step.starts (unfailing : store.Unfailing)
    (step : Step store.recorded.gateway .start (u, s, trace) result (v, t, after))
    (ready : u.status = .notStarted) :
    result = .ok none ∧ v.status = .inProgress ∧
      declaredTypes after = declaredTypes trace ++ [ContentType.detect u.key] := by
  cases step with
  | startLate late => exact absurd ready late
  | started _ answer =>
    refine ⟨rfl, rfl, ?_⟩
    rw [(recorded_answer.mp answer).2, declaredTypes_append]
    rfl
  | startFailed _ answer =>
    exact absurd answer (unfailing.recorded .creation (by simp [createRequest, Request.kind]))

theorem Step.writes (unfailing : store.Unfailing) {offset : Int} {more : ByteArray}
    (step : Step store.recorded.gateway (.write offset more) (u, s, trace) result (v, t, after))
    (isOpen : u.status = .inProgress)
    (faithful : u.Faithful (store.recorded.holdings (s, trace)) data) :
    result = .ok none ∧ v.status = .inProgress ∧ declaredTypes after = declaredTypes trace := by
  cases step with
  | writeShut shut => exact absurd isOpen shut
  | written _ parts =>
    obtain ⟨exchanges, kept, forwarded⟩ := parts.forwarded
    have sent : after = trace ++ exchanges := kept
    refine ⟨rfl, forwarded.status_eq.trans isOpen, ?_⟩
    rw [sent, declaredTypes_append, declaredTypes_of_parts forwarded.kind, List.append_nil]
  | writeFailed _ parts full answer =>
    have filled := (parts.moves isOpen).faithful (faithful.fed isOpen)
    have stillOpen := parts.status_eq.trans isOpen
    have serves := filled.serves (.due (.part stillOpen partSize_pos full))
    exact absurd answer (unfailing.recorded serves (by simp [partRequest, Request.kind]))

/-- A store cannot have been faithful for any data without parts and with nothing to come. -/
theorem Faithful.empty_of_bare {h : Holdings} (faithful : u.Faithful h data)
    (isOpen : u.status = .inProgress) (bare : u.parts = []) (empty : u.queue.size = 0) :
    data = .empty := by
  have content := faithful.content isOpen
  have nothing : u.queue.bytes = .empty := ByteArray.size_eq_zero_iff.mp empty
  rw [keptData, bare, nothing] at content
  exact content.symm

theorem Step.completes (unfailing : store.Unfailing)
    (step : Step store.recorded.gateway .complete (u, s, trace) result (v, t, after))
    (isOpen : u.status = .inProgress)
    (faithful : u.Faithful (store.recorded.holdings (s, trace)) data) (nonempty : data ≠ .empty) :
    (∃ name, result = .ok (some name)) ∧ declaredTypes after = declaredTypes trace := by
  cases step with
  | completeShut shut => exact absurd isOpen shut
  | lastPartFailed _ left answer =>
    have serves := faithful.serves
      (.due (.part isOpen (Nat.pos_of_ne_zero left) (Nat.le_refl _)))
    exact absurd answer (unfailing.recorded serves (by simp [partRequest, Request.kind]))
  | noData _ empty bare => exact absurd (faithful.empty_of_bare isOpen bare empty) nonempty
  | noDataBroken _ empty bare => exact absurd (faithful.empty_of_bare isOpen bare empty) nonempty
  | completed _ drained _ answer =>
    obtain ⟨exchanges, kept, forwarded⟩ := drained.forwarded
    refine ⟨⟨_, rfl⟩, ?_⟩
    rw [(recorded_answer.mp answer).2, kept, declaredTypes_append, declaredTypes_append,
      declaredTypes_of_parts forwarded.kind, List.append_nil]
    exact List.append_nil _
  | completeFailed _ drained present answer =>
    have drawn := (drained.moves isOpen).faithful faithful
    have stillOpen := drained.status_eq.trans isOpen
    have serves := drawn.serves (.due (.completion stillOpen drained.empty present))
    exact absurd answer (unfailing.recorded serves (by simp [completionRequest, Request.kind]))

end Upload

namespace Usage

variable {usage next : Usage (σ × List Exchange)} {operation : Operation}

/-- The only upload of a storage performs an operation. -/
theorem step_sole (storage : Storage σ) (files : FileReader) {usage : Usage σ}
    (sole : usage.uploads = [(u, gateway)]) (operation : Operation) :
    ∃ result v, Upload.Step gateway operation (u, usage.store) result
        (v, (step storage files usage (.upload 0 operation)).store) ∧
      (step storage files usage (.upload 0 operation)).uploads = [(v, gateway)] ∧
      (step storage files usage (.upload 0 operation)).answers =
        usage.answers ++ [(.upload 0 operation, result.map told)] := by
  have performed := Upload.perform_step gateway operation ⟨u, usage.journal⟩
  simp only [step, answer, work, sole, List.getElem?_cons_zero, List.set_cons_zero]
  exact ⟨_, _, performed, rfl, rfl⟩

theorem done_snoc {usage next : Usage σ} {call : Call} {value : Value}
    (done : ∀ made ∈ usage.answers, ∃ value, made.2 = .ok value)
    (answers : next.answers = usage.answers ++ [(call, .ok value)]) :
    ∀ made ∈ next.answers, ∃ value, made.2 = .ok value := by
  rw [answers]
  exact List.forall_mem_append.mpr ⟨done, List.forall_mem_singleton.mpr ⟨value, rfl⟩⟩

/-- An operation that tells no key and leaves the upload in progress keeps it under way. -/
theorem Underway.of_step
    (step : Upload.Step store.recorded.gateway operation (u, usage.store) (.ok none)
      (v, next.store))
    (inBucket : u.bucket = settings.bucket) (atKey : u.key = settings.fullKey key)
    (faithful : u.Faithful (store.recorded.holdings usage.store) data)
    (objects : (store.recorded.holdings usage.store).object? = before.object?)
    (sole : next.uploads = [(v, store.recorded.gateway)]) (isOpen : v.status = .inProgress)
    (done : ∀ made ∈ next.answers, ∃ value, made.2 = .ok value)
    (declared : declaredTypes next.trace = [ContentType.detect key]) :
    Underway store settings before key (data ++ Event.taken ⟨operation, u.status, .ok none⟩) next
      v where
  sole := sole
  isOpen := isOpen
  inBucket := step.place_eq.1.trans inBucket
  atKey := step.place_eq.2.trans atKey
  faithful := step.faithful faithful
  objects := (step.objects_eq faithful nofun).trans objects
  done := done
  declared := declared

theorem underway_started (unfailing : store.Unfailing) (settings : Settings)
    (files : FileReader) (key : String) (expectedSize? : Option Int) (s : σ) :
    ∃ u, Underway store settings (store.holdings s) key .empty
      (step (.ofGateway settings store.gateway.recorded) files
        (offered store settings key expectedSize? s) (.upload 0 .start)) u := by
  have blank : (offered store settings key expectedSize? s).uploads =
      [(.blank settings.bucket (settings.fullKey key) expectedSize?, store.recorded.gateway)] := rfl
  obtain ⟨result, u, step, sole, answers⟩ := step_sole
    (.ofGateway settings store.gateway.recorded) files blank .start
  obtain ⟨rfl, isOpen, declared⟩ := step.starts unfailing rfl
  have done := done_snoc (by simp [offered]) answers
  refine ⟨u, Underway.of_step step rfl rfl (Upload.faithful_blank _ _ _ _) rfl sole isOpen done
    (declared.trans ?_)⟩
  exact congrArg (fun type => [type]) (settings.detect_fullKey key)

theorem Underway.write (underway : Underway store settings before key data usage u)
    (unfailing : store.Unfailing) (files : FileReader) (offset : Int) (more : ByteArray) :
    ∃ v, Underway store settings before key (data ++ more)
      (step (.ofGateway settings store.gateway.recorded) files usage
        (.upload 0 (.write offset more))) v := by
  obtain ⟨result, v, step, sole, answers⟩ := step_sole
    (.ofGateway settings store.gateway.recorded) files underway.sole (.write offset more)
  obtain ⟨rfl, isOpen, declared⟩ := step.writes unfailing underway.isOpen underway.faithful
  have taken : Event.taken ⟨.write offset more, u.status, .ok none⟩ = more := by
    rw [underway.isOpen]
    rfl
  have next := Underway.of_step step underway.inBucket underway.atKey underway.faithful
    underway.objects sole isOpen (done_snoc underway.done answers)
    (declared.trans underway.declared)
  rw [taken] at next
  exact ⟨v, next⟩

theorem Underway.writeAll (underway : Underway store settings before key data usage u)
    (unfailing : store.Unfailing) (files : FileReader) (chunks : List (Int × ByteArray)) :
    ∃ v, Underway store settings before key (data ++ joined (chunks.map (·.2)))
      ((chunks.map fun chunk => Call.upload 0 (.write chunk.1 chunk.2)).foldl
        (step (.ofGateway settings store.gateway.recorded) files) usage) v := by
  induction chunks generalizing data usage u with
  | nil => exact ⟨u, by simpa using underway⟩
  | cons chunk chunks ih =>
    obtain ⟨v, written⟩ := underway.write unfailing files chunk.1 chunk.2
    obtain ⟨w, all⟩ := ih written
    rw [ByteArray.append_assoc, ← joined_cons] at all
    exact ⟨w, all⟩

theorem Underway.complete (underway : Underway store settings before key data usage u)
    (unfailing : store.Unfailing) (files : FileReader) (nonempty : data ≠ .empty) :
    Stored store settings before key data
      (step (.ofGateway settings store.gateway.recorded) files usage (.upload 0 .complete)) := by
  obtain ⟨result, v, step, sole, answers⟩ := step_sole
    (.ofGateway settings store.gateway.recorded) files underway.sole .complete
  obtain ⟨⟨name, rfl⟩, declared⟩ :=
    step.completes unfailing underway.isOpen underway.faithful nonempty
  obtain ⟨rfl, here, elsewhere⟩ := step.object_eq underway.faithful
  rw [underway.inBucket, underway.atKey] at here
  rw [underway.atKey] at elsewhere
  exact {
    done := done_snoc underway.done answers
    told := by
      refine ⟨.upload 0 .complete, ?_⟩
      rw [answers, List.getLast?_concat, underway.atKey]
      rfl
    here := here
    elsewhere := fun place other different =>
      (elsewhere place other different).trans (congrFun (congrFun underway.objects place) other)
    declared := declared.trans underway.declared }

theorem stored_whole (unfailing : store.Unfailing) (enabled : settings.isEnabled = true)
    {path : String} (read : files path = .ok content) (key : String) (s : σ) :
    Stored store settings (store.holdings s) key content
      (recorded settings store.gateway files s [.putFile path key]) := by
  rcases answered : store.recorded.gateway.answer (.putObject settings.bucket
    (settings.fullKey key) content (ContentType.detect key)) (s, []) with ⟨e | value, t⟩
  · exact absurd answered (unfailing.recorded (.whole .put) (by simp [Request.kind]))
  · have gives : Action.Gives (do
          let full ← (Storage.ofGateway settings store.recorded.gateway).putFile files path key
          pure (.text full))
        (recorded settings store.gateway files s []).store
        (.ok (Value.text (settings.fullKey key))) t :=
      (Storage.putFile_gives enabled read answered).instead (Action.gives_pure _ t)
    obtain ⟨ended, reached⟩ := outside_face gives
    have stored : (recorded settings store.gateway files s [.putFile path key]).store = t :=
      congrArg Prod.snd reached
    have answers : (recorded settings store.gateway files s [.putFile path key]).answers =
        [(.putFile path key, .ok (.text (settings.fullKey key)))] :=
      congrArg (fun reply => [(Call.putFile path key, reply)]) ended
    cases store.recorded.whole .put answered with
    | stored issued part here elsewhere =>
      rw [← stored] at here elsewhere
      exact {
        done := by
          rw [answers]
          exact List.forall_mem_singleton.mpr ⟨_, rfl⟩
        told := ⟨.putFile path key, by rw [answers]; rfl⟩
        here := here
        elsewhere := elsewhere
        declared := by
          rw [trace, stored, (recorded_answer.mp answered).2]
          rfl }

theorem stored_streaming (unfailing : store.Unfailing) (enabled : settings.isEnabled = true)
    (files : FileReader) (key : String) (expectedSize? : Option Int)
    {chunks : List (Int × ByteArray)} (nonempty : joined (chunks.map (·.2)) ≠ .empty) (s : σ) :
    Stored store settings (store.holdings s) key (joined (chunks.map (·.2)))
      (recorded settings store.gateway files s (Call.streaming key expectedSize? chunks)) := by
  have made : step (.ofGateway settings store.gateway.recorded) files
      { journal := ⟨(s, []), #[]⟩ } (.newUpload key expectedSize?) =
        offered store settings key expectedSize? s := by
    simp only [step, answer, Storage.newUpload, Storage.requireGateway_enabled enabled, pure_bind]
    rfl
  rw [recorded, run, Call.streaming, List.foldl_append, List.foldl_append, List.foldl_cons,
    List.foldl_cons, List.foldl_nil, List.foldl_cons, List.foldl_nil, made]
  obtain ⟨u, started⟩ := underway_started unfailing settings files key expectedSize? s
  obtain ⟨v, written⟩ := started.writeAll unfailing files chunks
  rw [ByteArray.empty_append] at written
  exact written.complete unfailing files nonempty

end Usage

/-- At a store that does not fail, an enabled storage comes to the same whether it is given content
as a whole file or as an upload in any chunks: both tell the full key, leave the content there, and
declare the type that is told from the key. -/
theorem Storage.whole_or_parts (unfailing : store.Unfailing) (enabled : settings.isEnabled = true)
    (files : FileReader) (path : String) (read : files path = .ok content)
    (nonempty : content ≠ .empty)
    {chunks : List (Int × ByteArray)} (whole : joined (chunks.map (·.2)) = content)
    (key : String) (expectedSize? : Option Int) (s : σ) :
    Usage.Stored store settings (store.holdings s) key content
        (Usage.recorded settings store.gateway files s [.putFile path key]) ∧
      Usage.Stored store settings (store.holdings s) key content
        (Usage.recorded settings store.gateway files s
          (Call.streaming key expectedSize? chunks)) ∧
      ∀ before name, ContentType.detect (before ++ "/" ++ name) = ContentType.detect name := by
  refine ⟨Usage.stored_whole unfailing enabled read key s, ?_, ContentType.detect_prefixed⟩
  subst whole
  exact Usage.stored_streaming unfailing enabled files key expectedSize? nonempty s

theorem Memory.unfailing : objectStore.Unfailing := by
  intro request e m t serves kind answer
  cases serves with
  | creation => cases answer
  | service named issued =>
    obtain ⟨n, earlier, rfl⟩ := issued
    cases request with
    | uploadPart =>
      cases named
      cases answer
    | completeUpload =>
      cases named
      simp only [objectStore, partStore, gateway, gatewayReply, completionReply_text] at answer
      cases answer
    | abortUpload => simp [Request.kind] at kind
    | _ => cases named
  | whole whole =>
    cases whole with
    | put => cases answer
    | _ => simp [Request.kind] at kind

/-- Three bytes in two chunks, with an empty one between them. -/
def Call.chunks : List (Int × ByteArray) := [(0, ⟨#[1]⟩), (1, .empty), (1, ⟨#[2, 3]⟩)]

theorem Storage.whole_or_parts_chunks :
    Usage.Stored Memory.objectStore .prefixed (Memory.holdings {}) "clip.mp4" ⟨#[1, 2, 3]⟩
        (Usage.recorded .prefixed Memory.gateway (fun _ => .ok ⟨#[1, 2, 3]⟩) {}
          [.putFile "clip" "clip.mp4"]) ∧
      Usage.Stored Memory.objectStore .prefixed (Memory.holdings {}) "clip.mp4" ⟨#[1, 2, 3]⟩
        (Usage.recorded .prefixed Memory.gateway (fun _ => .ok ⟨#[1, 2, 3]⟩) {}
          (Call.streaming "clip.mp4" (some 3) Call.chunks)) := by
  have enabled : Settings.prefixed.isEnabled = true := by decide
  have whole : joined (Call.chunks.map (·.2)) = ⟨#[1, 2, 3]⟩ := by decide +kernel
  obtain ⟨put, streamed, _⟩ := whole_or_parts Memory.unfailing enabled
    (fun _ => .ok ⟨#[1, 2, 3]⟩) "clip" rfl (by decide) whole "clip.mp4" (some 3) {}
  exact ⟨put, streamed⟩

end ObjectStorage
