import ObjectStorage.Proofs.Upload.Standing

/-! The protocol of an upload. Each request of a history is one that the exchanges before it permit,
whatever the store answers and whatever the caller does. -/

namespace ObjectStorage

variable {σ : Type}

/-- The exchanges so far leave room for a request. -/
structure Timely (before : List Exchange) (request : Request) : Prop where
  begun : ∀ x ∈ before, x.IsRefused → x.request.kind ≠ .createUpload
  /-- After a refusal an upload can only be taken back. -/
  closing : ∀ x ∈ before, x.IsRefused → request.kind = .abortUpload
  unfinished : ∀ x ∈ before, ¬ x.IsFinal

/-- What a request must be, by the exchanges before it. -/
structure Permitted (bucket key : String) (before : List Exchange) (request : Request) : Prop
    extends Timely before request where
  inBucket : request.bucket = bucket
  atKey : request.key = key
  /-- Nothing is created twice. -/
  opening : request.kind = .createUpload → created before = []
  /-- Every other request is about the one upload that was created. -/
  named : request.kind ≠ .createUpload → ∃ id, created before = [id] ∧ request.uploadId? = some id
  part : ∀ {bucket key id number data}, request = .uploadPart bucket key id number data →
    0 < data.size ∧ number = (acknowledged before).length + 1
  /-- An object is put together from all the parts that were acknowledged. -/
  assembly : ∀ {bucket key id parts}, request = .completeUpload bucket key id parts →
    parts = acknowledgedParts before ∧ parts ≠ [] ∧ Numbered parts

/-- Each request of a trace is permitted by what came before it. -/
def Obedient (bucket key : String) (trace : List Exchange) : Prop :=
  ∀ before x after, trace = before ++ x :: after → Permitted bucket key before x.request

theorem obedient_nil (bucket key : String) : Obedient bucket key [] := by
  intro before x after split
  simp at split

theorem obedient_snoc {bucket key : String} {trace : List Exchange} {x : Exchange} :
    Obedient bucket key (trace ++ [x]) ↔
      Obedient bucket key trace ∧ Permitted bucket key trace x.request := by
  constructor
  · intro obedient
    refine ⟨?_, obedient trace x [] rfl⟩
    intro before y after split
    exact obedient before y (after ++ [x]) (by simp [split])
  · intro both before y after split
    obtain ⟨obedient, permitted⟩ := both
    rcases List.eq_nil_or_concat after with rfl | ⟨more, last, rfl⟩
    · obtain ⟨rfl, same⟩ := List.append_inj' split rfl
      cases same
      exact permitted
    · have shifted : trace ++ [x] = (before ++ y :: more) ++ [last] := by simpa using split
      exact obedient before y more (List.append_inj' shifted rfl).1

/-- Under the protocol an upload is created once at most. -/
theorem Obedient.created_length_le {bucket key : String} {trace : List Exchange}
    (obedient : Obedient bucket key trace) : (created trace).length ≤ 1 := by
  induction trace using List.reverseRecOn with
  | nil => simp [created]
  | append_singleton trace x ih =>
    obtain ⟨earlier, permitted⟩ := obedient_snoc.mp obedient
    rw [created_append]
    cases made : x.created? with
    | none => simpa [created, made] using ih earlier
    | some id =>
      rw [permitted.opening (Exchange.of_created? made).1]
      simp [created, made]

theorem Calm.timely {trace : List Exchange} (calm : Calm trace) (request : Request) :
    Timely trace request where
  begun := fun x member refused => absurd refused (calm x member).1
  closing := fun x member refused => absurd refused (calm x member).1
  unfinished := calm.unfinished

namespace Upload

variable {gateway : Gateway σ} {u v : Upload} {s t : σ} {trace after : List Exchange}
  {request : Request}

theorem Standing.permits_due (standing : Standing u trace) (due : Due u request) :
    Permitted u.bucket u.key trace request := by
  cases due with
  | create ready =>
    obtain ⟨_, _, unmade, _, calm⟩ := standing.of_ready ready
    exact {
      inBucket := rfl
      atKey := rfl
      opening := fun _ => unmade
      named := fun other => absurd rfl other
      part := by rintro _ _ _ _ _ ⟨⟩
      assembly := by rintro _ _ _ _ ⟨⟩
      toTimely := calm.timely _ }
  | @part size _ isOpen positive enough =>
    obtain ⟨made, sent, _, calm⟩ := standing.of_open isOpen
    have number : (acknowledged trace).length = u.parts.length := by
      rw [← sent, acknowledgedParts, List.length_map]
    have nonempty : 0 < (u.queue.bytes.extract 0 size).size := by
      rw [ByteArray.size_extract]
      change size ≤ u.queue.bytes.size at enough
      omega
    exact {
      inBucket := rfl
      atKey := rfl
      opening := by rintro ⟨⟩
      named := fun _ => ⟨u.uploadId, made, rfl⟩
      part := by
        rintro _ _ _ _ _ ⟨⟩
        exact ⟨nonempty, by rw [number]⟩
      assembly := by rintro _ _ _ _ ⟨⟩
      toTimely := calm.timely _ }
  | completion isOpen empty nonempty =>
    obtain ⟨made, sent, numbered, calm⟩ := standing.of_open isOpen
    exact {
      inBucket := rfl
      atKey := rfl
      opening := by rintro ⟨⟩
      named := fun _ => ⟨u.uploadId, made, rfl⟩
      part := by rintro _ _ _ _ _ ⟨⟩
      assembly := by
        rintro _ _ _ _ ⟨⟩
        exact ⟨sent.symm, nonempty, numbered⟩
      toTimely := calm.timely _ }

/-- Of an upload that has a name, no creation was refused. -/
theorem Standing.begun_of_named (standing : Standing u trace) (live : u.IsLive)
    (named : u.uploadId.isVoid = false) :
    ∀ x ∈ trace, x.IsRefused → x.request.kind ≠ .createUpload := by
  intro x member refused
  cases standing with
  | waiting _ _ _ _ _ calm => exact absurd refused (calm x member).1
  | taking _ _ _ _ calm => exact absurd refused (calm x member).1
  | unmade _ unnamed => simp [unnamed, Value.isVoid] at named
  | refused _ _ begun => exact begun x member refused
  | completed done => exact absurd done live.1
  | withdrawn done => exact absurd done live.2
  | forgotten done => exact absurd done live.2

theorem Standing.permits_withdrawal (standing : Standing u trace) (live : u.IsLive)
    (named : u.uploadId.isVoid = false) : Permitted u.bucket u.key trace u.abortRequest where
  inBucket := rfl
  atKey := rfl
  opening := by rintro ⟨⟩
  named := fun _ => ⟨u.uploadId, standing.made_of_named live named, rfl⟩
  part := by rintro _ _ _ _ _ ⟨⟩
  assembly := by rintro _ _ _ _ ⟨⟩
  begun := standing.begun_of_named live named
  closing := fun _ _ _ => rfl
  unfinished := (standing.of_live live).1

theorem Standing.permits (standing : Standing u trace) (sendable : Sendable u request) :
    Permitted u.bucket u.key trace request := by
  cases sendable with
  | due due => exact standing.permits_due due
  | withdrawal live named => exact standing.permits_withdrawal live named

/-- An upload that stands as its exchanges say, has its place, and has kept to the protocol. -/
structure Conducted (bucket key : String) (u : Upload) (trace : List Exchange) : Prop where
  standing : Standing u trace
  bucket_eq : u.bucket = bucket
  key_eq : u.key = key
  obedient : Obedient bucket key trace

theorem Conducted.after_move {bucket key : String} (conducted : Conducted bucket key u trace)
    (move : Move gateway.recorded (u, s, trace) (v, t, after)) : Conducted bucket key v after := by
  obtain ⟨standing, rfl, rfl, obedient⟩ := conducted
  obtain ⟨sameBucket, sameKey⟩ := move.place_eq
  refine ⟨standing.after_move move, sameBucket, sameKey, ?_⟩
  rcases move.exchange with rfl | ⟨request, reply, sendable, _, rfl⟩
  · exact obedient
  · exact obedient_snoc.mpr ⟨obedient, standing.permits sendable⟩

end Upload

theorem History.conducted (gateway : Gateway σ) (bucket key : String) (expectedSize? : Option Int)
    (store : σ) (operations : List Operation) :
    Upload.Conducted bucket key (recorded gateway bucket key expectedSize? store operations).upload
      (recorded gateway bucket key expectedSize? store operations).trace := by
  apply recorded_keeps
  · exact ⟨Upload.standing_blank bucket key expectedSize?, rfl, rfl, obedient_nil bucket key⟩
  · intro u trace data conducted
    obtain ⟨standing, inBucket, atKey, obedient⟩ := conducted
    exact ⟨standing.congr rfl rfl rfl, inBucket, atKey, obedient⟩
  · intro u trace data conducted
    obtain ⟨standing, inBucket, atKey, obedient⟩ := conducted
    exact ⟨standing.congr rfl rfl rfl, inBucket, atKey, obedient⟩
  · intro u s trace v t after conducted move
    exact conducted.after_move move

/-- Whatever a store answers and whatever is done with an upload, every request is permitted by the
exchanges before it, and at most one creation succeeds. -/
theorem History.requests_permitted (gateway : Gateway σ) (bucket key : String)
    (expectedSize? : Option Int) (store : σ) (operations : List Operation) :
    Obedient bucket key (recorded gateway bucket key expectedSize? store operations).trace ∧
      (created (recorded gateway bucket key expectedSize? store operations).trace).length ≤ 1 := by
  have obedient := (conducted gateway bucket key expectedSize? store operations).obedient
  exact ⟨obedient, obedient.created_length_le⟩

end ObjectStorage
