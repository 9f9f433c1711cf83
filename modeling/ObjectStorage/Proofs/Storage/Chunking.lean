import ObjectStorage.Memory.Store
import ObjectStorage.Proofs.OpenFile
import ObjectStorage.Proofs.Storage.Facade
import ObjectStorage.Proofs.Together
import ObjectStorage.Proofs.Upload.Attempt

/-! The chunks that data comes in. Two runs that send the same data in other chunks make the same
requests and end alike, whatever the gateway answers (`Storage.stream_together`): they are compared
part by part, since a part that fails may fall to different writes. -/

namespace ObjectStorage

open ObjectStorage.Action

variable {σ α : Type}

namespace Upload

/-- The same upload at the same store, but for the size that is expected. -/
def Twin (a b : Upload × σ) : Prop := ∃ size?, b = (a.1.expecting size?, a.2)

/-- The store has come to the same state, and knows the same of two uploads. -/
def Alike (a b : Upload × σ) : Prop := a.1.outline = b.1.outline ∧ a.2 = b.2

/-- Twins that nothing has been done with but that less than a part may wait. -/
def Fresh (a b : Upload × σ) : Prop :=
  Twin a b ∧ a.1.status = .notStarted ∧ a.1.queue.size < partSize

/-- Twins after a start; if it has succeeded, they take data, and less than a part waits. -/
def Begun (result : Except Fault Unit) (a b : Upload × σ) : Prop :=
  Twin a b ∧ (result = .ok () → a.1.status = .inProgress ∧ a.1.queue.size < partSize)

/-- Uploads that are alike in the end; if they were completed, they have taken as much. -/
def Ended (result : Except Fault String) (a b : Upload × σ) : Prop :=
  Alike a b ∧ ∀ key, result = .ok key → a.1.acceptedBytes = b.1.acceptedBytes

variable {gateway : Gateway σ} {u v w : Upload} {s t : σ} {a b : Upload × σ}
  {pieces others : List ByteArray} {ending : Except Fault Unit} {x y : Action (Session σ) α}

theorem Twin.alike (twin : Twin a b) : Alike a b := by
  obtain ⟨size?, rfl⟩ := twin
  exact ⟨rfl, rfl⟩

/-- Two actions are together if they lead to the same result from related faces on. -/
theorem together_of_leads {P : Upload × σ → Upload × σ → Prop}
    {Q : Except Fault α → Upload × σ → Upload × σ → Prop}
    (runs : ∀ a b, P a b → ∃ result c d, x.Leads a result c ∧ y.Leads b result d ∧ Q result c d) :
    Together (InvImage P Session.face) x y fun result => InvImage (Q result) Session.face := by
  intro s s' related
  obtain ⟨result, c, d, left, right, after⟩ := runs s.face s'.face related
  obtain ⟨ended, reached⟩ := left s rfl
  obtain ⟨ended', reached'⟩ := right s' rfl
  refine ⟨result, (x s).2, (y s').2, Prod.ext ended rfl, Prod.ext ended' rfl, ?_⟩
  change Q result (x s).2.face (y s').2.face
  rw [reached, reached']
  exact after

theorem Withdrawal.alike {result : Except Fault Unit}
    (withdrawal : Withdrawal gateway (u, s) result (v, t)) (same : u.outline = w.outline) :
    ∃ w', Withdrawal gateway (w, s) result (w', t) ∧ v.outline = w'.outline := by
  have status : u.status = w.status := congrArg (·.status) same
  have name : u.uploadId = w.uploadId := congrArg (·.uploadId) same
  have request : u.abortRequest = w.abortRequest := congrArg (·.abortRequest) same
  have cleared : u.cleared.outline = w.cleared.outline := congrArg (·.cleared.outline) same
  have live : u.IsLive ↔ w.IsLive := by rw [IsLive, IsLive, status]
  cases withdrawal with
  | idle done => exact ⟨w, .idle (mt live.mpr done), same⟩
  | unnamed isLive void => exact ⟨w.cleared, .unnamed (live.mp isLive) (name ▸ void), cleared⟩
  | taken isLive named answer =>
    exact ⟨w.cleared, .taken (live.mp isLive) (name ▸ named) (request ▸ answer), cleared⟩
  | refused isLive named answer refusal =>
    exact ⟨w.cleared, .refused (live.mp isLive) (name ▸ named) (request ▸ answer) refusal, cleared⟩
  | broken isLive named answer other =>
    exact ⟨w, .broken (live.mp isLive) (name ▸ named) (request ▸ answer) other, same⟩

theorem abort_together (gateway : Gateway σ) :
    Together (InvImage Alike Session.face) (abort gateway) (abort gateway)
      fun _ => InvImage Alike Session.face := by
  refine together_of_leads fun a b alike => ?_
  obtain ⟨u, s⟩ := a
  obtain ⟨w, _⟩ := b
  obtain ⟨same, rfl⟩ := alike
  obtain ⟨result, ⟨v, t⟩, withdrawal⟩ := exists_withdrawal gateway u s
  obtain ⟨w', carried, still⟩ := withdrawal.alike same
  exact ⟨result, _, _, withdrawal.leads, carried.leads, still, rfl⟩

theorem release_together (gateway : Gateway σ) :
    Together (InvImage Alike Session.face) (release gateway) (release gateway)
      fun _ => InvImage Alike Session.face := by
  refine together_of_leads fun a b alike => ?_
  obtain ⟨u, s⟩ := a
  obtain ⟨w, _⟩ := b
  obtain ⟨same, rfl⟩ := alike
  have status : u.status = w.status := congrArg (·.status) same
  by_cases isOpen : u.status = .inProgress
  · obtain ⟨result, ⟨v, t⟩, withdrawal⟩ := exists_withdrawal gateway u s
    obtain ⟨w', carried, still⟩ := withdrawal.alike same
    have left := release_leads_of_abort isOpen withdrawal.leads
    have right := release_leads_of_abort (status ▸ isOpen) carried.leads
    exact ⟨result, _, _, left, right, still, rfl⟩
  · have left : (release gateway).Leads (u, s) (.ok ()) (u, s) := release_leads_shut isOpen
    have right : (release gateway).Leads (w, s) (.ok ()) (w, s) :=
      release_leads_shut (status ▸ isOpen)
    exact ⟨.ok (), _, _, left, right, same, rfl⟩

theorem start_together (gateway : Gateway σ) :
    Together (InvImage Fresh Session.face) (start gateway) (start gateway)
      fun result => InvImage (Begun result) Session.face := by
  refine together_of_leads fun a b related => ?_
  obtain ⟨u, s⟩ := a
  obtain ⟨⟨size?, rfl⟩, ready, few⟩ := related
  rcases answer : gateway.answer u.createRequest s with ⟨e | value, t⟩
  · have left := start_leads_error ready answer
    have right := start_leads_error (u := u.expecting size?) ready answer
    rw [← failedBy_expecting] at right
    exact ⟨.error e, _, _, left, right, ⟨size?, rfl⟩, nofun⟩
  · have left := start_leads ready answer
    have right := start_leads (u := u.expecting size?) ready answer
    exact ⟨.ok (), _, _, left, right, ⟨size?, rfl⟩, fun _ => ⟨rfl, few⟩⟩

/-- Two ways to write the same data, and to end alike, stay together up to the completion. -/
theorem attempt_together {x y : Action (Session σ) Unit} (same : joined pieces = joined others)
    (left : ∀ {a fedResult b}, Fed gateway pieces a fedResult b →
      x.Leads a (fedResult.bind fun _ => ending) b)
    (right : ∀ {a fedResult b}, Fed gateway others a fedResult b →
      y.Leads a (fedResult.bind fun _ => ending) b) :
    Together (InvImage (Begun (.ok ())) Session.face) (x >>= fun _ => complete gateway)
      (y >>= fun _ => complete gateway) fun result => InvImage (Ended result) Session.face := by
  refine together_of_leads fun a b related => ?_
  obtain ⟨u, s⟩ := a
  obtain ⟨⟨size?, rfl⟩, feeding⟩ := related
  obtain ⟨isOpen, few⟩ := feeding rfl
  obtain ⟨result, ⟨v, t⟩, attempt⟩ := exists_attempt gateway pieces ending (u, s)
  -- One run decides how the attempt ends; the other one can only follow it.
  obtain ⟨w, carried, alike, counted⟩ := attempt.carried size? isOpen few same
  exact ⟨result, _, _, attempt.leads left, carried.leads right, ⟨alike, rfl⟩, counted⟩

/-- Chunks come to an end by themselves. -/
theorem Fed.writeAll_leads_bind {chunks : List (Int × ByteArray)} {result : Except Fault Unit}
    (fed : Fed gateway (chunks.map (·.2)) a result b) :
    (writeAll gateway chunks).Leads a (result.bind fun _ => .ok ()) b := by
  have ended : (result.bind fun _ => .ok ()) = result := by cases result <;> rfl
  rw [ended]
  exact fed.writeAll_leads

theorem transfer_together (gateway : Gateway σ) {chunks chunks' : List (Int × ByteArray)}
    (same : joined (chunks.map (·.2)) = joined (chunks'.map (·.2))) :
    Together (InvImage Fresh Session.face) (transfer gateway chunks) (transfer gateway chunks')
      fun result => InvImage (Ended result) Session.face := by
  refine (start_together gateway).bind (fun _ => ?_) ?_
  · exact attempt_together same Fed.writeAll_leads_bind Fed.writeAll_leads_bind
  · intro e s s' related
    exact ⟨related.1.alike, nofun⟩

/-- Sessions that are released alike leave their stores as their relation says. -/
theorem during_together {τ : Type} {first : Gateway σ} {second : Gateway τ}
    {Before Again : Session σ → Session τ → Prop} {Stores : Journal σ → Journal τ → Prop}
    {body : Action (Session σ) α} {body' : Action (Session τ) α}
    (begun : ∀ j k, Stores j k → Before ⟨u, j⟩ ⟨w, k⟩)
    (together : Together Before body body' fun _ => Again)
    (released : Together Again (release first) (release second) fun _ => Again)
    (ended : ∀ s t, Again s t → Stores s.journal t.journal) :
    Together Stores (during first u body) (during second w body') fun _ => Stores := by
  intro j k related
  obtain ⟨result, s, t, left, right, again⟩ :=
    (together.andThen released) ⟨u, j⟩ ⟨w, k⟩ (begun j k related)
  have drops : Together Again (drop first) (drop second) fun _ => Again :=
    released.recover id fun _ => together_pure ()
  obtain ⟨_, s', t', dropped, dropped', still⟩ := drops s t again
  refine ⟨result, s'.journal, t'.journal, ?_, ?_, ended s' t' still⟩
  · simp only [during, left, dropped]
  · simp only [during, right, dropped']

/-- Sources that give the same data and end alike are sent alike. -/
theorem send_together (gateway : Gateway σ) {first second : Source}
    (ready : u.status = .notStarted) (few : u.queue.size < partSize) (size? : Option Int)
    (sameData : first.data = second.data) (sameEnding : first.ending = second.ending) :
    Together (InvImage Eq Journal.store) (send gateway u first)
      (send gateway (u.expecting size?) second) fun _ => InvImage Eq Journal.store := by
  refine during_together ?_ ((start_together gateway).bind (fun _ => ?_) ?_)
    (release_together gateway) fun _ _ alike => alike.2
  · intro j j' same
    exact ⟨⟨size?, Prod.ext rfl same.symm⟩, ready, few⟩
  · have right : ∀ {a result b}, Fed gateway second.pieces a result b →
        (copy gateway second 0).Leads a (result.bind fun _ => first.ending) b := by
      intro a result b fed
      rw [sameEnding]
      exact fed.copy_leads 0
    have sent := attempt_together sameData (fun fed => fed.copy_leads 0) right
    exact (sent.mono And.left).onFault (abort_together gateway)
  · intro e s s' related
    exact related.1.alike

/-- Two runs that sent an upload have ended alike, and have come to the same state of the store. If
they were completed, as much was taken. -/
structure SameCourse (first second : Except Fault String × Session σ) : Prop where
  outcome : first.1 = second.1
  store : first.2.journal.store = second.2.journal.store
  status : first.2.upload.status = second.2.upload.status
  uploadId : first.2.upload.uploadId = second.2.upload.uploadId
  parts : first.2.upload.parts = second.2.upload.parts
  counted : ∀ key, first.1 = .ok key → first.2.upload.acceptedBytes = second.2.upload.acceptedBytes

theorem transfer_sameCourse (gateway : Gateway σ) (bucket key : String) (size? size?' : Option Int)
    (journal : Journal σ) {chunks chunks' : List (Int × ByteArray)}
    (same : joined (chunks.map (·.2)) = joined (chunks'.map (·.2))) :
    SameCourse (transfer gateway chunks ⟨blank bucket key size?, journal⟩)
      (transfer gateway chunks' ⟨blank bucket key size?', journal⟩) := by
  have fresh : Fresh (blank bucket key size?, journal.store)
      (blank bucket key size?', journal.store) :=
    ⟨⟨size?', rfl⟩, rfl, partSize_pos⟩
  obtain ⟨result, s, s', left, right, ⟨outline, store⟩, counted⟩ :=
    transfer_together gateway same ⟨blank bucket key size?, journal⟩
      ⟨blank bucket key size?', journal⟩ fresh
  rw [left, right]
  exact {
    outcome := rfl
    store := store
    status := congrArg (·.status) outline
    uploadId := congrArg (·.uploadId) outline
    parts := congrArg (·.parts) outline
    counted := counted }

end Upload

namespace Storage

theorem stream_together (settings : Settings) (gateway : Gateway σ) (key : String)
    (size? size?' : Option Int) {first second : Upload.Source}
    (sameData : first.data = second.data) (sameEnding : first.ending = second.ending) :
    Together (InvImage Eq Journal.store) ((ofGateway settings gateway).stream key first size?)
      ((ofGateway settings gateway).stream key second size?')
      fun _ => InvImage Eq Journal.store := by
  cases enabled : settings.isEnabled with
  | true =>
    rw [stream_enabled enabled, stream_enabled enabled]
    exact Upload.send_together (u := .blank settings.bucket (settings.fullKey key) size?) gateway
      rfl Upload.partSize_pos size?' sameData sameEnding
  | false =>
    rw [stream_disabled enabled, stream_disabled enabled]
    exact together_fail (.storage .storageDisabled)

/-- How a stream ends, the state that it leaves the store in, and what was asked of the store. -/
def streamed (settings : Settings) (gateway : Gateway σ) (key : String) (source : Upload.Source)
    (size? : Option Int) (store : σ) : Except Fault String × σ × List Exchange :=
  match (ofGateway settings gateway.recorded).stream key source size? ⟨(store, []), #[]⟩ with
  | (result, journal) => (result, journal.store)

theorem streamed_eq (settings : Settings) (gateway : Gateway σ) (key : String)
    (size? size?' : Option Int) (store : σ) {first second : Upload.Source}
    (sameData : first.data = second.data) (sameEnding : first.ending = second.ending) :
    streamed settings gateway key first size? store =
      streamed settings gateway key second size?' store := by
  obtain ⟨result, j, j', left, right, same⟩ :=
    stream_together settings gateway.recorded key size? size?' sameData sameEnding
      ⟨(store, []), #[]⟩ ⟨(store, []), #[]⟩ rfl
  simp only [streamed, left, right]
  exact congrArg (result, ·) same

/-- Runs that send the same data in other chunks make the same requests, which are answered the
same, and end alike, whatever the gateway. So it is with sources that give the same data and end
alike, and with a file that is read in pieces of other sizes, if none of its reads fails. -/
theorem requests_of_data (gateway : Gateway σ) (store : σ) :
    (∀ (bucket key : String) (size? size?' : Option Int) (chunks chunks' : List (Int × ByteArray)),
      joined (chunks.map (·.2)) = joined (chunks'.map (·.2)) →
        Upload.SameCourse
          (Upload.transfer gateway.recorded chunks
            ⟨Upload.blank bucket key size?, ⟨(store, []), #[]⟩⟩)
          (Upload.transfer gateway.recorded chunks'
            ⟨Upload.blank bucket key size?', ⟨(store, []), #[]⟩⟩)) ∧
      (∀ (settings : Settings) (key : String) (size? size?' : Option Int)
        (first second : Upload.Source), first.data = second.data →
          first.ending = second.ending →
            streamed settings gateway key first size? store =
              streamed settings gateway key second size?' store) ∧
      ∀ (settings : Settings) (key : String) (size? size?' : Option Int) (file : OpenFile)
        (n m : Int), 0 < n → 0 < m → (file.reads n).ending = .ok () →
          (file.reads m).ending = .ok () →
            streamed settings gateway key (file.reads n) size? store =
              streamed settings gateway key (file.reads m) size?' store := by
  refine ⟨?_, ?_, ?_⟩
  · intro bucket key size? size?' chunks chunks' same
    exact Upload.transfer_sameCourse gateway.recorded bucket key size? size?' _ same
  · intro settings key size? size?' first second sameData sameEnding
    exact streamed_eq settings gateway key size? size?' store sameData sameEnding
  · intro settings key size? size?' file n m positive positive' ended ended'
    have whole : (file.reads n).data = file.data := file.data_reads (by omega) ended
    have whole' : (file.reads m).data = file.data := file.data_reads (by omega) ended'
    exact streamed_eq settings gateway key size? size?' store (whole.trans whole'.symm)
      (ended.trans ended'.symm)

/-- Three bytes that are sent to the store in memory in two ways, and read in two ways. -/
theorem requests_of_three_bytes :
    joined ([(0, ⟨#[1, 2]⟩), (7, ⟨#[3]⟩)].map (·.2)) =
        joined ([(3, .empty), (-1, ⟨#[1, 2, 3]⟩)].map (·.2)) ∧
      Upload.SameCourse
        (Upload.transfer Memory.gateway.recorded [(0, ⟨#[1, 2]⟩), (7, ⟨#[3]⟩)]
          ⟨Upload.blank "media" "clip.mp4" none, ⟨({}, []), #[]⟩⟩)
        (Upload.transfer Memory.gateway.recorded [(3, .empty), (-1, ⟨#[1, 2, 3]⟩)]
          ⟨Upload.blank "media" "clip.mp4" (some 3), ⟨({}, []), #[]⟩⟩) ∧
      streamed (.ofBucket "media" "AK" "SK") Memory.gateway "clip.mp4"
          [.ok ⟨#[1, 2]⟩, .ok ⟨#[3]⟩, .error .noRoom] none {} =
        streamed (.ofBucket "media" "AK" "SK") Memory.gateway "clip.mp4"
          [.ok ⟨#[1, 2, 3]⟩, .error .noRoom] none {} ∧
      ((OpenFile.inMemory ⟨#[1, 2, 3]⟩).reads 1).ending = .ok () ∧
      ((OpenFile.inMemory ⟨#[1, 2, 3]⟩).reads 2).ending = .ok () ∧
      streamed (.ofBucket "media" "AK" "SK") Memory.gateway "clip.mp4"
          ((OpenFile.inMemory ⟨#[1, 2, 3]⟩).reads 1) none {} =
        streamed (.ofBucket "media" "AK" "SK") Memory.gateway "clip.mp4"
          ((OpenFile.inMemory ⟨#[1, 2, 3]⟩).reads 2) (some 3) {} := by
  have same : joined ([((0 : Int), ⟨#[1, 2]⟩), (7, ⟨#[3]⟩)].map (·.2)) =
      joined ([((3 : Int), .empty), (-1, ⟨#[1, 2, 3]⟩)].map (·.2)) := by decide
  have one : ((OpenFile.inMemory ⟨#[1, 2, 3]⟩).reads 1).ending = .ok () := rfl
  have two : ((OpenFile.inMemory ⟨#[1, 2, 3]⟩).reads 2).ending = .ok () := rfl
  obtain ⟨chunked, sources, sizes⟩ := requests_of_data Memory.gateway {}
  exact ⟨same, chunked "media" "clip.mp4" none (some 3) _ _ same,
    sources _ "clip.mp4" none none _ _ rfl rfl, one, two,
    sizes _ "clip.mp4" none (some 3) _ 1 2 (by decide) (by decide) one two⟩

/-- A read of more than can be asked for fails, so that the upload is taken back, while smaller reads
complete it. -/
theorem requests_of_oversized :
    (streamed (.ofBucket "media" "AK" "SK") Memory.gateway "clip.mp4"
        ((OpenFile.inMemory ⟨#[1, 2, 3]⟩).reads 1) none {}).2.2.map (·.request.kind) =
      [.createUpload, .uploadPart, .completeUpload] ∧
    (streamed (.ofBucket "media" "AK" "SK") Memory.gateway "clip.mp4"
        ((OpenFile.inMemory ⟨#[1, 2, 3]⟩).reads 9223372036854775808) none {}).2.2.map
          (·.request.kind) =
      [.createUpload, .abortUpload] := by
  constructor <;> decide +kernel

end Storage

end ObjectStorage
