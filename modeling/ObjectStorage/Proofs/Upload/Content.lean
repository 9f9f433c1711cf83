import ObjectStorage.Proofs.PartStore
import ObjectStorage.Proofs.Upload.History

/-! The content of uploads in a store that keeps parts. What the store keeps of an upload, and what
still waits, is the data that was taken (`Faithful`). The moves of the upload keep this, for itself
(`Move.faithful`) and for every other upload (`Move.faithful_other`). -/

namespace ObjectStorage.Upload

variable {σ : Type}

/-- An upload may still send requests under its name. -/
def IsEngaged (u : Upload) : Prop :=
  u.status = .inProgress ∨ u.uploadId.isVoid = false ∧ u.IsLive

/-- The data that a store keeps of an upload. -/
def keptData (h : Holdings) (u : Upload) : List ByteArray :=
  u.parts.map fun p => h.part u.uploadId p.number

/-- A store keeps what was taken from the caller of an upload, but for what still waits. -/
structure Faithful (h : Holdings) (u : Upload) (data : ByteArray) : Prop where
  issued : u.IsEngaged → h.issued u.uploadId
  blank : u.status = .notStarted → u.parts = [] ∧ u.queue.bytes = .empty ∧ data = .empty
  numbered : u.status = .inProgress → Numbered u.parts
  content : u.status = .inProgress → joined (u.keptData h) ++ u.queue.bytes = data

/-- Two uploads send no requests under the same name. -/
def Apart (u v : Upload) : Prop := u.IsEngaged → v.IsEngaged → u.uploadId ≠ v.uploadId

variable {store : PartStore σ} {u v other : Upload} {s t : σ} {data : ByteArray} {h h' : Holdings}
  {request : Request} {reply : Except Fault Value} {name : Value}

theorem Apart.symm (apart : Apart u v) : Apart v u :=
  fun engaged alsoEngaged same => apart alsoEngaged engaged same.symm

theorem not_engaged_blank (bucket key : String) (expectedSize? : Option Int) :
    ¬ (blank bucket key expectedSize?).IsEngaged := by
  intro engaged
  rcases engaged with isOpen | ⟨named, _⟩
  · cases isOpen
  · cases named

theorem faithful_blank (h : Holdings) (bucket key : String) (expectedSize? : Option Int) :
    Faithful h (blank bucket key expectedSize?) .empty where
  issued engaged := absurd engaged (not_engaged_blank bucket key expectedSize?)
  blank _ := ⟨rfl, rfl, rfl⟩
  numbered isOpen := by cases isOpen
  content isOpen := by cases isOpen

/-- An upload that has come to its end needs nothing of a store. -/
theorem Faithful.of_ended (ended : ¬ u.IsLive) : Faithful h u data where
  issued engaged := by
    rcases engaged with isOpen | ⟨_, live⟩
    · exact absurd (isLive_of_open isOpen) ended
    · exact absurd live ended
  blank ready := absurd ⟨by simp [ready], by simp [ready]⟩ ended
  numbered isOpen := absurd (isLive_of_open isOpen) ended
  content isOpen := absurd (isLive_of_open isOpen) ended

/-- A store that keeps the names, and the parts of an upload in progress, stays faithful to it. -/
theorem Faithful.frame (faithful : Faithful h u data)
    (issued : ∀ name, h.issued name → h'.issued name)
    (part : u.status = .inProgress → h'.part u.uploadId = h.part u.uploadId) :
    Faithful h' u data where
  issued engaged := issued u.uploadId (faithful.issued engaged)
  blank := faithful.blank
  numbered := faithful.numbered
  content isOpen := by
    have same : u.keptData h' = u.keptData h := by rw [keptData, part isOpen, keptData]
    rw [same]
    exact faithful.content isOpen

theorem Sendable.named (sendable : Sendable u request) :
    request.uploadId? = none ∧ request = u.createRequest ∨
      request.uploadId? = some u.uploadId ∧ u.IsEngaged := by
  cases sendable with
  | due due =>
    cases due with
    | create ready => exact .inl ⟨rfl, rfl⟩
    | part isOpen => exact .inr ⟨rfl, .inl isOpen⟩
    | completion isOpen => exact .inr ⟨rfl, .inl isOpen⟩
  | withdrawal live named => exact .inr ⟨rfl, .inr ⟨named, live⟩⟩

/-- Whatever an upload sends has its effect: the store knows the name. -/
theorem Faithful.effect (faithful : Faithful (store.holdings s) u data)
    (sendable : Sendable u request) (answer : store.gateway.answer request s = (reply, t)) :
    Effect (store.holdings s) (store.holdings t) request reply := by
  rcases sendable.named with ⟨_, rfl⟩ | ⟨named, engaged⟩
  · exact store.creation answer
  · exact store.service named (faithful.issued engaged) answer

/-- A fault engages no upload, and takes no name from it. -/
theorem engaged_of_failedBy {e : Fault} (live : u.IsLive) (engaged : (u.failedBy e).IsEngaged) :
    u.IsEngaged ∧ (u.failedBy e).uploadId = u.uploadId := by
  by_cases refusal : e.isGateway = true
  · rw [failedBy_of_refusal refusal] at engaged ⊢
    rcases engaged with isOpen | ⟨named, _⟩
    · cases isOpen
    · exact ⟨.inr ⟨named, live⟩, rfl⟩
  · rw [failedBy_of_other refusal] at engaged ⊢
    exact ⟨engaged, rfl⟩

theorem Faithful.failedBy {e : Fault} (faithful : Faithful h u data) (live : u.IsLive) :
    Faithful h (u.failedBy e) data := by
  have issued : (u.failedBy e).IsEngaged → h.issued (u.failedBy e).uploadId := by
    intro engaged
    obtain ⟨before, same⟩ := engaged_of_failedBy live engaged
    rw [same]
    exact faithful.issued before
  by_cases refusal : e.isGateway = true
  · have failed : (u.failedBy e).status = .failed := by rw [failedBy_of_refusal refusal]
    exact ⟨issued, by simp [failed], by simp [failed], by simp [failed]⟩
  · rw [failedBy_of_other refusal]
    exact faithful

theorem Faithful.opened {contentType : String} {value : Value} {bucket key : String}
    (faithful : Faithful h u data) (ready : u.status = .notStarted)
    (effect : Effect h h' (.createUpload bucket key contentType) (.ok value)) :
    Faithful h' (u.opened value) data := by
  obtain ⟨bare, empty, rfl⟩ := faithful.blank ready
  cases effect with
  | created fresh issued part object =>
    have known : h'.issued (u.opened value).uploadId := (issued value).mpr (.inl rfl)
    refine ⟨fun _ => known, fun ready => (by cases ready), fun _ => ?_, fun _ => ?_⟩
    · simpa [Upload.opened, bare] using numbered_nil
    · simp [Upload.opened, keptData, bare, empty]

theorem Faithful.sent {size : Nat} {tag : Value} (faithful : Faithful h u data)
    (isOpen : u.status = .inProgress) (enough : size ≤ u.queue.size)
    (effect : Effect h h' (u.partRequest size) (.ok tag)) :
    Faithful h' (u.sent size tag) data := by
  have numbered := faithful.numbered isOpen
  cases effect with
  | kept issued here elsewhere object =>
    have earlier : ∀ p ∈ u.parts, h'.part u.uploadId p.number = h.part u.uploadId p.number := by
      intro p member
      obtain ⟨i, within, rfl⟩ := List.mem_iff_getElem.mp member
      apply elsewhere
      right
      rw [numbered i within]
      omega
    have kept : (u.sent size tag).keptData h' =
        u.keptData h ++ [u.queue.bytes.extract 0 size] := by
      rw [keptData, Upload.sent, List.map_append, List.map_congr_left earlier]
      simp [keptData, here]
    refine ⟨fun _ => ?_, fun ready => ?_, fun _ => numbered.snoc tag, fun _ => ?_⟩
    · rw [issued]
      exact faithful.issued (.inl isOpen)
    · exact absurd (isOpen.symm.trans ready) (by simp)
    · rw [kept, joined_snoc, ByteArray.append_assoc, ← faithful.content isOpen]
      exact congrArg (joined (u.keptData h) ++ ·) (extract_append_rest enough)

theorem Move.faithful (move : Move store.gateway (u, s) (v, t))
    (faithful : Faithful (store.holdings s) u data) : Faithful (store.holdings t) v data := by
  cases move with
  | opened ready answer =>
    exact faithful.opened ready (faithful.effect (.due (.create ready)) answer)
  | sent isOpen positive enough answer =>
    exact faithful.sent isOpen enough
      (faithful.effect (.due (.part isOpen positive enough)) answer)
  | assembled isOpen empty nonempty answer => exact .of_ended fun live => live.1 rfl
  | failed due answer =>
    have unchanged := (faithful.effect (.due due) answer).unchanged
    rw [unchanged]
    exact faithful.failedBy due.live
  | withdrawn withdrawal =>
    cases withdrawal with
    | idle done => exact faithful
    | unnamed live void => exact .of_ended fun live => live.2 rfl
    | taken live named answer => exact .of_ended fun live => live.2 rfl
    | refused live named answer refusal => exact .of_ended fun live => live.2 rfl
    | broken live named answer fault =>
      have unchanged := (faithful.effect (.withdrawal live named) answer).unchanged
      rw [unchanged]
      exact faithful

/-- An upload that may send requests after a move could do so before, under the same name, or was
given a fresh one. -/
theorem Move.engaged (move : Move store.gateway (u, s) (v, t))
    (faithful : Faithful (store.holdings s) u data) (engaged : v.IsEngaged) :
    u.IsEngaged ∧ v.uploadId = u.uploadId ∨ ¬ (store.holdings s).issued v.uploadId := by
  have ended : ¬ v.IsLive → u.IsEngaged ∧ v.uploadId = u.uploadId ∨
      ¬ (store.holdings s).issued v.uploadId := by
    intro ended
    rcases engaged with isOpen | ⟨_, live⟩
    · exact absurd (isLive_of_open isOpen) ended
    · exact absurd live ended
  cases move with
  | opened ready answer =>
    have effect := faithful.effect (.due (.create ready)) answer
    cases effect with
    | created fresh => exact .inr fresh
  | sent isOpen => exact .inl ⟨.inl isOpen, rfl⟩
  | assembled => exact ended fun live => live.1 rfl
  | failed due answer => exact .inl (engaged_of_failedBy due.live engaged)
  | withdrawn withdrawal =>
    cases withdrawal with
    | idle done => exact .inl ⟨engaged, rfl⟩
    | unnamed => exact ended fun live => live.2 rfl
    | taken => exact ended fun live => live.2 rfl
    | refused => exact ended fun live => live.2 rfl
    | broken => exact .inl ⟨engaged, rfl⟩

/-- The moves of an upload leave the content of every other upload as it is. -/
theorem Move.faithful_other {held : ByteArray} (move : Move store.gateway (u, s) (v, t))
    (faithful : Faithful (store.holdings s) u data)
    (others : Faithful (store.holdings s) other held) (apart : Apart u other) :
    Faithful (store.holdings t) other held ∧ Apart v other := by
  constructor
  · rcases move.request with rfl | ⟨request, reply, sendable, answer⟩
    · exact others
    · have effect := faithful.effect sendable answer
      refine others.frame (fun name issued => effect.issued_of_issued issued) fun isOpen => ?_
      apply effect.part_of_ne
      rcases sendable.named with ⟨unnamed, _⟩ | ⟨named, engaged⟩
      · simp [unnamed]
      · rw [named]
        exact fun same => apart engaged (.inl isOpen) (Option.some.inj same)
  · intro engaged alsoEngaged
    rcases move.engaged faithful engaged with ⟨before, same⟩ | fresh
    · rw [same]
      exact apart before alsoEngaged
    · intro same
      rw [same] at fresh
      exact fresh (others.issued alsoEngaged)

/-- Data that is taken waits. -/
theorem Faithful.fed {more : ByteArray} (faithful : Faithful h u data)
    (isOpen : u.status = .inProgress) : Faithful h (u.fed more) (data ++ more) where
  issued := faithful.issued
  blank ready := absurd (isOpen.symm.trans ready) (by simp)
  numbered := faithful.numbered
  content _ := by
    rw [← faithful.content isOpen, ByteArray.append_assoc]
    rfl

theorem Faithful.feed {operation : Operation} {result : Except Fault (Option String)}
    (faithful : Faithful h u data) :
    Faithful h (u.feed operation) (data ++ Event.taken ⟨operation, u.status, result⟩) := by
  rw [feed_eq_fed u operation result]
  by_cases isOpen : u.status = .inProgress
  · exact faithful.fed isOpen
  · rw [Event.taken_of_shut operation result isOpen, fed_empty, ByteArray.append_empty]
    exact faithful

theorem Apart.feed {operation : Operation} (apart : Apart u other) :
    Apart (u.feed operation) other := by
  unfold Upload.feed
  split
  · split <;> exact apart
  · exact apart

theorem Faithful.credit {operation : Operation} {result : Except Fault (Option String)}
    (faithful : Faithful h u data) : Faithful h (u.credit operation result) data := by
  unfold Upload.credit
  split
  · exact ⟨faithful.issued, faithful.blank, faithful.numbered, faithful.content⟩
  · exact faithful

theorem Apart.credit {operation : Operation} {result : Except Fault (Option String)}
    (apart : Apart u other) : Apart (u.credit operation result) other := by
  unfold Upload.credit
  split <;> exact apart

/-- Sending what is left puts no object together. -/
theorem Drained.object_eq (drained : Drained store.gateway (u, s) (v, t))
    (isOpen : u.status = .inProgress) (faithful : Faithful (store.holdings s) u data) :
    (store.holdings t).object? = (store.holdings s).object? := by
  cases drained with
  | nothing empty => rfl
  | rest left answer =>
    have due := Due.part isOpen (Nat.pos_of_ne_zero left) (Nat.le_refl _)
    have effect := faithful.effect (.due due) answer
    cases effect with
    | kept _ _ _ object => exact object

/-- A completion tells the key of the upload and leaves what was taken there, and nothing
elsewhere. -/
theorem Step.object_eq {name : String} (faithful : Faithful (store.holdings s) u data)
    (step : Step store.gateway .complete (u, s) (.ok (some name)) (v, t)) :
    name = u.key ∧ (store.holdings t).object? u.bucket u.key = some data ∧
      ∀ place other, other ≠ u.key →
        (store.holdings t).object? place other = (store.holdings s).object? place other := by
  cases step with
  | completed isOpen drained nonempty answer =>
    have kept := Moves.keeps (P := fun u s => Faithful (store.holdings s) u data)
      (fun faithful move => move.faithful faithful) (drained.moves isOpen) faithful
    have stillOpen := drained.status_eq.trans isOpen
    have effect := kept.effect (.due (.completion stillOpen drained.empty nonempty)) answer
    cases effect with
    | assembled issued part here elsewhere =>
      have content := kept.content stillOpen
      rw [ByteArray.size_eq_zero_iff.mp drained.empty, ByteArray.append_empty] at content
      rw [drained.place_eq.1, drained.place_eq.2] at here
      refine ⟨drained.place_eq.2, here.trans (congrArg some content), ?_⟩
      intro place other different
      rw [elsewhere place other (drained.place_eq.2 ▸ different), drained.object_eq isOpen faithful]

end ObjectStorage.Upload
