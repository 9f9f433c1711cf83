import ObjectStorage.Proofs.Upload.Content

/-! Many uploads that share one store, with their operations in any order. In a store that keeps
parts they do not disturb each other, and each object that is put together is what its upload was
given. -/

namespace ObjectStorage

/-- Uploads, the journal of the store that they share, and what has happened to which of them. -/
structure Fleet (ι σ : Type) where
  uploads : ι → Upload
  journal : Journal σ
  events : List (ι × Event) := []

namespace Fleet

variable {ι σ : Type} [DecidableEq ι]

def store (f : Fleet ι σ) : σ := f.journal.store

/-- One of the uploads performs an operation. -/
def call (gateway : Gateway σ) (i : ι) (operation : Operation) :
    Action (Fleet ι σ) (Option String) := fun f =>
  match operation.perform gateway ⟨f.uploads i, f.journal⟩ with
  | (outcome, session) =>
    (outcome, {
      uploads := Function.update f.uploads i session.upload
      journal := session.journal
      events := f.events ++ [(i, ⟨operation, (f.uploads i).status, outcome⟩)] })

/-- The fleet after calls, whatever each of them ended with. -/
def run (gateway : Gateway σ) (uploads : ι → Upload) (store : σ) (calls : List (ι × Operation)) :
    Fleet ι σ :=
  calls.foldl (fun f made => (call gateway made.1 made.2 f).2) ⟨uploads, ⟨store, #[]⟩, []⟩

/-- The data that an upload has taken from its caller. -/
def taken (f : Fleet ι σ) (i : ι) : ByteArray :=
  joined ((f.events.filter fun event => event.1 = i).map fun event => event.2.taken)

/-- A fleet of new uploads, each with its own place, after some calls. -/
def Reached (gateway : Gateway σ) (bucket key : ι → String) (f : Fleet ι σ) : Prop :=
  ∃ (expectedSize? : ι → Option Int) (store : σ) (calls : List (ι × Operation)),
    f = run gateway (fun i => Upload.blank (bucket i) (key i) (expectedSize? i)) store calls

/-- The store is faithful to each upload, and they stay apart. -/
structure Sound (parts : PartStore σ) (bucket key : ι → String) (f : Fleet ι σ) : Prop where
  place_eq : ∀ i, (f.uploads i).bucket = bucket i ∧ (f.uploads i).key = key i
  faithful : ∀ i, (f.uploads i).Faithful (parts.holdings f.store) (f.taken i)
  apart : ∀ i j, i ≠ j → (f.uploads i).Apart (f.uploads j)

variable {parts : PartStore σ} {bucket key : ι → String} {f : Fleet ι σ} {i : ι}
  {operation : Operation}

/-- A call is a step of the upload that is called. -/
theorem call_step (gateway : Gateway σ) (f : Fleet ι σ) (i : ι) (operation : Operation) :
    Upload.Step gateway operation (f.uploads i, f.store) (call gateway i operation f).1
      ((call gateway i operation f).2.uploads i, (call gateway i operation f).2.store) := by
  have step := Upload.perform_step gateway operation ⟨f.uploads i, f.journal⟩
  simp only [call, store, Function.update_self]
  exact step

theorem uploads_call_of_ne (gateway : Gateway σ) (f : Fleet ι σ) {i j : ι} (other : j ≠ i) :
    (call gateway i operation f).2.uploads j = f.uploads j := by
  simp [call, other]

theorem taken_call (gateway : Gateway σ) (f : Fleet ι σ) (i : ι) (operation : Operation) :
    (call gateway i operation f).2.taken i =
      f.taken i ++
        Event.taken ⟨operation, (f.uploads i).status, (call gateway i operation f).1⟩ := by
  simp [call, taken, List.filter_append, joined_snoc]

theorem taken_call_of_ne (gateway : Gateway σ) (f : Fleet ι σ) {i j : ι} (other : j ≠ i) :
    (call gateway i operation f).2.taken j = f.taken j := by
  simp [call, taken, List.filter_append, other.symm]

/-- An upload at work, while the others rest: the store is faithful to it and to them. -/
structure Working (parts : PartStore σ) (f : Fleet ι σ) (i : ι) (data : ByteArray) (u : Upload)
    (s : σ) : Prop where
  place_eq : u.bucket = (f.uploads i).bucket ∧ u.key = (f.uploads i).key
  faithful : u.Faithful (parts.holdings s) data
  others : ∀ j, j ≠ i →
    (f.uploads j).Faithful (parts.holdings s) (f.taken j) ∧ u.Apart (f.uploads j)

theorem Working.after_move {data : ByteArray} {u v : Upload} {s t : σ}
    (working : Working parts f i data u s) (move : Upload.Move parts.gateway (u, s) (v, t)) :
    Working parts f i data v t where
  place_eq := ⟨move.place_eq.1.trans working.place_eq.1, move.place_eq.2.trans working.place_eq.2⟩
  faithful := move.faithful working.faithful
  others j other := by
    obtain ⟨faithful, apart⟩ := working.others j other
    exact move.faithful_other working.faithful faithful apart

theorem Sound.call (sound : Sound parts bucket key f) (i : ι) (operation : Operation) :
    Sound parts bucket key (call parts.gateway i operation f).2 := by
  obtain ⟨w, moves, finish⟩ := (call_step parts.gateway f i operation).moves
  have start : Working parts f i ((Fleet.call parts.gateway i operation f).2.taken i)
      ((f.uploads i).feed operation) f.store := by
    refine ⟨Upload.feed_place_eq (f.uploads i) operation, ?_, ?_⟩
    · rw [taken_call]
      exact (sound.faithful i).feed
    · intro j other
      exact ⟨sound.faithful j, (sound.apart i j other.symm).feed⟩
  have working := Upload.Moves.keeps Working.after_move moves start
  obtain ⟨sameBucket, sameKey⟩ := working.place_eq
  have credited := Upload.credit_place_eq w operation (Fleet.call parts.gateway i operation f).1
  constructor
  · intro j
    by_cases same : j = i
    · subst same
      rw [finish, credited.1, credited.2, sameBucket, sameKey]
      exact sound.place_eq j
    · rw [uploads_call_of_ne _ _ same]
      exact sound.place_eq j
  · intro j
    by_cases same : j = i
    · subst same
      rw [finish]
      exact working.faithful.credit
    · rw [uploads_call_of_ne _ _ same, taken_call_of_ne _ _ same]
      exact (working.others j same).1
  · have own : ∀ j, j ≠ i → ((Fleet.call parts.gateway i operation f).2.uploads i).Apart
        (f.uploads j) := by
      intro j other
      rw [finish]
      exact (working.others j other).2.credit
    intro j k different
    by_cases first : j = i
    · subst first
      rw [uploads_call_of_ne _ _ different.symm]
      exact own k different.symm
    · rw [uploads_call_of_ne _ _ first]
      by_cases second : k = i
      · subst second
        exact (own j first).symm
      · rw [uploads_call_of_ne _ _ second]
        exact sound.apart j k different

theorem sound_of_reached (reached : Reached parts.gateway bucket key f) :
    Sound parts bucket key f := by
  obtain ⟨expectedSize?, store, calls, rfl⟩ := reached
  induction calls using List.reverseRecOn with
  | nil =>
    refine ⟨fun i => ⟨rfl, rfl⟩, fun i => Upload.faithful_blank _ _ _ _, ?_⟩
    intro i j _ engaged
    exact absurd engaged (Upload.not_engaged_blank _ _ _)
  | append_singleton calls made ih =>
    rw [run, List.foldl_append]
    exact ih.call made.1 made.2

/-- In whatever order the uploads of a fleet perform their operations, and whatever fails: a
completion that succeeds tells the key of its upload, and then the object there is all the data that
the upload has taken, and no other object has changed. -/
theorem completed_object (parts : PartStore σ)
    (reached : Reached parts.gateway bucket key f) (i : ι) {name : String}
    (completes : (call parts.gateway i .complete f).1 = .ok (some name)) :
    name = key i ∧
      (parts.holdings (call parts.gateway i .complete f).2.store).object? (bucket i) (key i) =
        some (f.taken i) ∧
      ∀ place other, other ≠ key i →
        (parts.holdings (call parts.gateway i .complete f).2.store).object? place other =
          (parts.holdings f.store).object? place other := by
  have sound := sound_of_reached reached
  obtain ⟨inBucket, atKey⟩ := sound.place_eq i
  have step := call_step parts.gateway f i .complete
  rw [completes] at step
  have result := step.object_eq (sound.faithful i)
  rw [inBucket, atKey] at result
  exact result

/-- Two uploads to the store in memory. One of them meets an outage when its part is sent and
another when it is completed, and takes more data in between. -/
def disturbed : Fleet Bool (Memory × List (Option Fault)) :=
  run Memory.partStore.withOutages.gateway
    (fun i => Upload.blank "media" (if i then "clip.mp4" else "notes.txt") (some (-1)))
    ({}, [none, none, some (.other "reset"), none, none, none, some (.other "reset")])
    [(true, .start), (false, .start), (true, .write 0 ⟨#[1, 2]⟩), (false, .write 0 ⟨#[9]⟩),
      (true, .complete), (true, .write 2 ⟨#[3]⟩), (false, .complete), (true, .complete)]

theorem completed_object_disturbed :
    (call Memory.partStore.withOutages.gateway true .complete disturbed).1 =
        .ok (some "clip.mp4") ∧
      (Memory.partStore.withOutages.holdings
        (call Memory.partStore.withOutages.gateway true .complete disturbed).2.store).object?
          "media" "clip.mp4" = some ⟨#[1, 2, 3]⟩ := by
  have reached : Reached Memory.partStore.withOutages.gateway (fun _ => "media")
      (fun i => if i then "clip.mp4" else "notes.txt") disturbed :=
    ⟨fun _ => some (-1), _, _, rfl⟩
  have completes : (call Memory.partStore.withOutages.gateway true .complete disturbed).1 =
      .ok (some "clip.mp4") := by rfl
  have result := (completed_object Memory.partStore.withOutages reached true completes).2.1
  have data : disturbed.taken true = ⟨#[1, 2, 3]⟩ := by decide +kernel
  rw [data] at result
  exact ⟨completes, result⟩

end Fleet

end ObjectStorage
