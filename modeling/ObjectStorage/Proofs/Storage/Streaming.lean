import ObjectStorage.Proofs.Storage.Facade
import ObjectStorage.Proofs.Upload.Attempt
import ObjectStorage.Proofs.Upload.Conservation
import ObjectStorage.Proofs.Upload.Release

/-! Sources that are sent as one object. Either all that was read has been stored, or what was
created has been taken back, once and at last; and the fault that the caller sees is the one that
came first (`Upload.send_outcome`). -/

namespace ObjectStorage

open ObjectStorage.Action

variable {σ : Type}

/-- A withdrawal that succeeds is final. -/
theorem Smooth.withdrawals_eq_nil {trace : List Exchange} (smooth : Smooth trace)
    (unfinished : Unfinished trace) : withdrawals trace = [] := by
  apply List.filter_eq_nil_iff.mpr
  intro request member withdrawal
  obtain ⟨x, present, rfl⟩ := List.mem_map.mp member
  exact unfinished x present (.inr ⟨by simpa using withdrawal, .inl (smooth x present)⟩)

theorem Fault.isStorage_of_isGateway {e : Fault} (refusal : e.isGateway = true) :
    e.isStorage = true := by
  unfold isGateway at refusal
  split at refusal
  · rfl
  · cases refusal

namespace Upload

/-- Where a fault comes from that ends the sending of a source, by the exchanges before the upload
was taken back. -/
inductive Cause (source : Source) : Fault → List Exchange → Prop where
  /-- The source itself. -/
  | read (smooth : Smooth trace) (ended : source.ending = .error e) : Cause source e trace
  /-- The last request, and none before it. -/
  | request (smooth : Smooth before)
      (kind : request.kind = .uploadPart ∨ request.kind = .completeUpload) :
      Cause source e (before ++ [⟨request, .error e⟩])
  /-- There was nothing to send. -/
  | noData (smooth : Smooth trace) (ended : source.ending = .ok ()) (empty : source.data = .empty) :
      Cause source (.storage .noDataUploaded) trace

/-- What can come of sending a source to a place: how it ends, and which requests were made. -/
inductive Outcome (bucket key : String) (source : Source) :
    Except Fault String → List Exchange → Prop where
  /-- The object was put together from the parts that were acknowledged, which are all the data. -/
  | stored {id : Value} (ended : source.ending = .ok ()) (smooth : Smooth before)
      (made : created before = [id]) (numbered : Numbered (acknowledgedParts before))
      (whole : joined (acknowledgedData before) = source.data) (untaken : withdrawals before = []) :
      Outcome bucket key source (.ok key)
        (before ++ [⟨.completeUpload bucket key id (acknowledgedParts before), .ok value⟩])
  | uncreated : Outcome bucket key source (.error e)
      [⟨.createUpload bucket key (ContentType.detect key), .error e⟩]
  /-- What was created was taken back in the end, and not before. -/
  | withdrawn {id : Value} (cause : Cause source e before) (made : created before = [id])
      (untaken : withdrawals before = []) :
      Outcome bucket key source (.error e) (before ++ [⟨.abortUpload bucket key id, reply⟩])

/-- An upload takes data under its name, and nothing has gone wrong so far. -/
structure Running (bucket key : String) (id : Value) (u : Upload) (trace : List Exchange)
    (data : ByteArray) : Prop where
  isOpen : u.status = .inProgress
  named : u.abortRequest = .abortUpload bucket key id
  standing : Standing u trace
  smooth : Smooth trace
  conserved : Conserved u trace data

/-- An upload that a fault has stopped, and that can still be taken back. -/
structure Stranded (bucket key : String) (id : Value) (source : Source) (e : Fault) (u : Upload)
    (trace : List Exchange) : Prop where
  live : u.IsLive
  named : u.abortRequest = .abortUpload bucket key id
  made : created trace = [id]
  untaken : withdrawals trace = []
  cause : Cause source e trace
  /-- Either the fault is answered by an abort, or the release aborts. -/
  reachable : e.isStorage = true ∨ u.status = .inProgress

variable {gateway : Gateway σ} {bucket key : String} {id : Value} {u v : Upload}
  {trace : List Exchange} {data more : ByteArray} {source : Source} {e : Fault}
  {a b c : Upload × σ × List Exchange} {pieces : List ByteArray}

theorem failedBy_abortRequest (u : Upload) (e : Fault) :
    (u.failedBy e).abortRequest = u.abortRequest := by
  unfold failedBy
  split <;> rfl

namespace Running

theorem uploadId_eq (running : Running bucket key id u trace data) : u.uploadId = id :=
  (Request.abortUpload.inj running.named).2.2

theorem untaken (running : Running bucket key id u trace data) : withdrawals trace = [] := by
  obtain ⟨_, _, _, calm⟩ := running.standing.of_open running.isOpen
  exact running.smooth.withdrawals_eq_nil calm.unfinished

theorem made (running : Running bucket key id u trace data) : created trace = [id] := by
  rw [← running.uploadId_eq]
  exact (running.standing.of_open running.isOpen).1

theorem fed (running : Running bucket key id u trace data) (more : ByteArray) :
    Running bucket key id (u.fed more) trace (data ++ more) where
  isOpen := running.isOpen
  named := running.named
  standing := running.standing.congr rfl rfl rfl
  smooth := running.smooth
  conserved := running.conserved.fed more

theorem credited (running : Running bucket key id u trace data) (more : ByteArray) :
    Running bucket key id (u.credited more) trace data where
  isOpen := running.isOpen
  named := running.named
  standing := running.standing.congr rfl rfl rfl
  smooth := running.smooth
  conserved := running.conserved

theorem sent {size : Nat} {tag : Value} (running : Running bucket key id u trace data)
    (enough : size ≤ u.queue.size) :
    Running bucket key id (u.sent size tag) (trace ++ [⟨u.partRequest size, .ok tag⟩]) data where
  isOpen := running.isOpen
  named := running.named
  standing := running.standing.sent running.isOpen
  smooth := forall_mem_snoc running.smooth ⟨tag, rfl⟩
  conserved := running.conserved.sent enough

/-- A request that fails strands the upload. -/
theorem stranded {request : Request} (running : Running bucket key id u trace data)
    (kind : request.kind = .uploadPart ∨ request.kind = .completeUpload) :
    Stranded bucket key id source e (u.failedBy e) (trace ++ [⟨request, .error e⟩]) where
  live := by
    unfold failedBy
    split
    · exact ⟨by simp, by simp⟩
    · exact isLive_of_open running.isOpen
  named := (failedBy_abortRequest u e).trans running.named
  made := by simp [running.made]
  untaken := by
    rw [withdrawals_append, running.untaken, withdrawals_of_kind]
    · rfl
    · rcases kind with part | completion <;> simp [*]
  cause := .request running.smooth kind
  reachable := by
    by_cases refusal : e.isGateway = true
    · exact .inl (Fault.isStorage_of_isGateway refusal)
    · rw [failedBy_of_other refusal]
      exact .inr running.isOpen

end Running

theorem FullParts.running {count : Nat} (parts : FullParts gateway.recorded count a b)
    (running : Running bucket key id a.1 a.2.2 data) :
    Running bucket key id b.1 b.2.2 data := by
  induction parts with
  | none => exact running
  | @more s t tag count b u full answer rest ih =>
    apply ih
    obtain ⟨_, kept⟩ := recorded_answer.mp answer
    change Running bucket key id _ t.2 data
    rw [kept]
    exact running.sent full

theorem Step.running {offset : Int}
    (step : Step gateway.recorded (.write offset more) a (.ok none) b)
    (running : Running bucket key id a.1 a.2.2 data) :
    Running bucket key id b.1 b.2.2 (data ++ more) := by
  cases step with
  | written isOpen parts => exact (parts.running (running.fed more)).credited more

theorem Step.stranded {offset : Int}
    (step : Step gateway.recorded (.write offset more) a (.error e) b)
    (running : Running bucket key id a.1 a.2.2 data) :
    Stranded bucket key id source e b.1 b.2.2 := by
  cases step with
  | writeShut shut => exact absurd running.isOpen shut
  | writeFailed isOpen parts full answer =>
    obtain ⟨_, kept⟩ := recorded_answer.mp answer
    have before := parts.running (running.fed more)
    dsimp only
    rw [kept]
    exact before.stranded (.inl rfl)

theorem Fed.running (fed : Fed gateway.recorded pieces a (.ok ()) b)
    (running : Running bucket key id a.1 a.2.2 data) :
    Running bucket key id b.1 b.2.2 (data ++ joined pieces) := by
  generalize done : Except.ok () = result at fed
  induction fed generalizing data with
  | done => simpa using running
  | more written rest ih =>
    rw [joined_cons, ← ByteArray.append_assoc]
    exact ih (written.running running) done
  | stopped failed => cases done

theorem Fed.stranded (fed : Fed gateway.recorded pieces a (.error e) b)
    (running : Running bucket key id a.1 a.2.2 data) :
    Stranded bucket key id source e b.1 b.2.2 := by
  generalize failed : Except.error e = result at fed
  induction fed generalizing data with
  | done => cases failed
  | more written rest ih => exact ih (written.running running) failed
  | stopped step =>
    cases failed
    exact step.stranded running

/-- An upload that is given up without a fault has come to its end. -/
theorem Withdrawal.ended {gateway : Gateway σ} {a b : Upload × σ}
    (withdrawal : Withdrawal gateway a (.ok ()) b) : ¬ b.1.IsLive := by
  cases withdrawal with
  | idle done => exact done
  | unnamed live void => exact fun still => still.2 rfl
  | taken live named answer => exact fun still => still.2 rfl
  | refused live named answer refusal => exact fun still => still.2 rfl

theorem Withdrawal.yields {result : Except Fault Unit} (dependable : Dependable gateway)
    (withdrawal : Withdrawal gateway.recorded a result b) : result = .ok () := by
  cases withdrawal with
  | idle done => rfl
  | unnamed live void => rfl
  | taken live named answer => rfl
  | refused live named answer refusal => rfl
  | broken live named answer other =>
    have refusal := dependable.yields rfl (answer_of_recorded answer)
    simp [refusal] at other

/-- Taking a stranded upload back is the last request. -/
theorem Stranded.outcome {s : σ} (stranded : Stranded bucket key id source e u trace)
    (nonvoid : id.isVoid = false)
    (withdrawal : Withdrawal gateway.recorded (u, s, trace) (.ok ()) b) :
    Outcome bucket key source (.error e) b.2.2 := by
  have same : u.uploadId = id := (Request.abortUpload.inj stranded.named).2.2
  have taken : ∀ reply, Outcome bucket key source (.error e)
      (trace ++ [⟨u.abortRequest, reply⟩]) := by
    intro reply
    rw [stranded.named]
    exact .withdrawn stranded.cause stranded.made stranded.untaken
  cases withdrawal with
  | idle done => exact absurd stranded.live done
  | unnamed live void => simp [same, nonvoid] at void
  | taken live named answer =>
    dsimp only
    rw [(recorded_answer.mp answer).2]
    exact taken _
  | refused live named answer refusal =>
    dsimp only
    rw [(recorded_answer.mp answer).2]
    exact taken _

theorem Drained.running (drained : Drained gateway.recorded a b)
    (running : Running bucket key id a.1 a.2.2 data) :
    Running bucket key id b.1 b.2.2 data := by
  cases drained with
  | nothing empty => exact running
  | rest left answer =>
    obtain ⟨_, kept⟩ := recorded_answer.mp answer
    dsimp only
    rw [kept]
    exact running.sent (Nat.le_refl _)

/-- Either all is done, and nothing more will be sent, or the upload is stranded. -/
def Closing (bucket key : String) (id : Value) (source : Source) (result : Except Fault String)
    (u : Upload) (trace : List Exchange) : Prop :=
  ¬ u.IsLive ∧ Outcome bucket key source result trace ∨
    ∃ e, result = .error e ∧ Stranded bucket key id source e u trace

theorem Running.stored {s t : σ} {value : Value} {after : List Exchange}
    (running : Running bucket key id u trace data) (empty : u.queue.size = 0)
    (ended : source.ending = .ok ()) (whole : data = source.data)
    (answer : gateway.recorded.answer u.completionRequest (s, trace) = (.ok value, t, after)) :
    Outcome bucket key source (.ok u.key) after := by
  obtain ⟨_, rfl⟩ := recorded_answer.mp answer
  obtain ⟨_, sent, numbered, _⟩ := running.standing.of_open running.isOpen
  obtain ⟨rfl, rfl, rfl⟩ := Request.abortUpload.inj running.named
  have live : u.status ≠ .aborted := by simp [running.isOpen]
  have all := running.conserved live
  rw [ByteArray.size_eq_zero_iff.mp empty, ByteArray.append_empty] at all
  rw [completionRequest, ← sent]
  exact .stored ended running.smooth running.made (sent ▸ numbered) (all.trans whole)
    running.untaken

theorem Running.noData (running : Running bucket key id u trace data) (empty : u.queue.size = 0)
    (bare : u.parts = []) (ended : source.ending = .ok ()) (whole : data = source.data) :
    Stranded bucket key id source (.storage .noDataUploaded) u trace where
  live := isLive_of_open running.isOpen
  named := running.named
  made := running.made
  untaken := running.untaken
  cause := by
    obtain ⟨_, sent, _, _⟩ := running.standing.of_open running.isOpen
    have none : acknowledgedData trace = [] := by
      rw [← List.length_eq_zero_iff, ← length_acknowledgedParts, sent, bare]
      rfl
    have live : u.status ≠ .aborted := by simp [running.isOpen]
    have all := running.conserved live
    rw [none, ByteArray.size_eq_zero_iff.mp empty] at all
    exact .noData running.smooth ended (whole.symm.trans all.symm)
  reachable := .inl rfl

/-- A completion that finds all data taken closes the upload, or strands it. -/
theorem Step.closing {result : Except Fault String} (dependable : Dependable gateway)
    (nonvoid : id.isVoid = false) (running : Running bucket key id a.1 a.2.2 source.data)
    (ended : source.ending = .ok ())
    (step : Step gateway.recorded .complete a (result.map some) b) :
    Closing bucket key id source result b.1 b.2.2 := by
  have strands : ∀ {u s request e t after}, Running bucket key id u s.2 source.data →
      gateway.recorded.answer request s = (.error e, t, after) →
        request.kind = .uploadPart ∨ request.kind = .completeUpload →
          Closing bucket key id source (.error e) (u.failedBy e) after := by
    intro u s request e t after running answer kind
    obtain ⟨_, rfl⟩ := recorded_answer.mp answer
    exact .inr ⟨e, rfl, running.stranded kind⟩
  generalize same : result.map some = total at step
  cases step with
  | completeShut shut => exact absurd running.isOpen shut
  | lastPartFailed isOpen left answer =>
    cases result <;> cases same
    exact strands running answer (.inl rfl)
  | noData isOpen empty bare withdrawal =>
    cases result <;> cases same
    have stranded := running.noData empty bare ended rfl
    exact .inl ⟨withdrawal.ended, stranded.outcome nonvoid withdrawal⟩
  | noDataBroken isOpen empty bare withdrawal => cases withdrawal.yields dependable
  | completed isOpen drained nonempty answer =>
    cases result <;> cases same
    have stored := (drained.running running).stored drained.empty ended rfl answer
    exact .inl ⟨fun live => live.1 rfl, stored⟩
  | completeFailed isOpen drained nonempty answer =>
    cases result <;> cases same
    exact strands (drained.running running) answer (.inr rfl)

/-- An attempt to send a source closes the upload, or strands it. -/
theorem Attempt.closing {result : Except Fault String} (dependable : Dependable gateway)
    (nonvoid : id.isVoid = false) (running : Running bucket key id a.1 a.2.2 .empty)
    (attempt : Attempt gateway.recorded source.pieces source.ending a result b) :
    Closing bucket key id source result b.1 b.2.2 := by
  cases attempt with
  | unwritten fed => exact .inr ⟨_, rfl, fed.stranded running⟩
  | cutOff fed ended =>
    have still := fed.running running
    have stranded : Stranded bucket key id source _ b.1 b.2.2 := {
      live := isLive_of_open still.isOpen
      named := still.named
      made := still.made
      untaken := still.untaken
      cause := .read still.smooth ended
      reachable := .inr still.isOpen }
    exact .inr ⟨_, rfl, stranded⟩
  | finished fed ended last =>
    have still := fed.running running
    rw [ByteArray.empty_append] at still
    exact last.closing dependable nonvoid still ended

/-- What an attempt leaves open is cleaned up behind it, with the result kept. -/
theorem Closing.leads {x : Action (Session (σ × List Exchange)) String}
    {result : Except Fault String} (dependable : Dependable gateway) (nonvoid : id.isVoid = false)
    (closing : Closing bucket key id source result b.1 b.2.2) (run : x.Leads a result b) :
    ∃ c d, (x.onFault Fault.isStorage (abort gateway.recorded)).Leads a result c ∧
      (release gateway.recorded).Leads c (.ok ()) d ∧ d.1.status ≠ .inProgress ∧
      Outcome bucket key source result d.2.2 := by
  rcases closing with ⟨closed, outcome⟩ | ⟨e, rfl, stranded⟩
  · have shut : b.1.status ≠ .inProgress := fun isOpen => closed (isLive_of_open isOpen)
    have kept : (x.onFault Fault.isStorage (abort gateway.recorded)).Leads a result b := by
      cases result with
      | ok value => exact run.onFault
      | error e =>
        cases ofKind : e.isStorage with
        | true => exact run.onFault_error ofKind (Withdrawal.idle closed).leads
        | false => exact run.onFault_other ofKind
    exact ⟨b, b, kept, release_leads_shut shut, shut, outcome⟩
  · obtain ⟨ended, d, withdrawal⟩ := exists_withdrawal gateway.recorded b.1 b.2
    cases withdrawal.yields dependable
    have outcome := stranded.outcome nonvoid withdrawal
    have shut : d.1.status ≠ .inProgress := fun isOpen => withdrawal.ended (isLive_of_open isOpen)
    -- The handler aborts behind an error of the storage layer. Any other fault has left the upload
    -- in progress, and the release aborts it.
    cases ofKind : e.isStorage with
    | true =>
      have cleaned := run.onFault_error ofKind withdrawal.leads
      exact ⟨d, d, cleaned, release_leads_shut shut, shut, outcome⟩
    | false =>
      have isOpen := stranded.reachable.resolve_left (by simp [ofKind])
      have released := release_leads_of_abort isOpen withdrawal.leads
      exact ⟨b, d, run.onFault_other ofKind, released, shut, outcome⟩

/-- A release that leaves nothing open is all that happens behind the use of an upload. -/
theorem during_leads {gateway : Gateway σ} {body : Action (Session σ) String} {s : σ}
    {log : Array LogRecord} {result : Except Fault String} {c d : Upload × σ}
    (run : body.Leads (u, s) result c) (released : (release gateway).Leads c (.ok ()) d)
    (shut : d.1.status ≠ .inProgress) :
    (during gateway u body ⟨s, log⟩).1 = result ∧
      (during gateway u body ⟨s, log⟩).2.store = d.2 := by
  obtain ⟨ended, reached⟩ := run.andThen released ⟨u, ⟨s, log⟩⟩ rfl
  obtain ⟨_, left⟩ := drop_leads_of_release (release_leads_shut shut) _ reached
  unfold during
  exact ⟨ended, congrArg Prod.snd left⟩

/-- Over a dependable gateway, sending a source has one of its outcomes. -/
theorem send_outcome (dependable : Dependable gateway) (bucket key : String)
    (expectedSize? : Option Int) (source : Source) (store : σ) (log : Array LogRecord) :
    Outcome bucket key source
      ((blank bucket key expectedSize?).send gateway.recorded source ⟨(store, []), log⟩).1
      ((blank bucket key expectedSize?).send gateway.recorded source
        ⟨(store, []), log⟩).2.store.2 := by
  have created : (blank bucket key expectedSize?).createRequest =
      .createUpload bucket key (ContentType.detect key) := rfl
  rcases answer : gateway.recorded.answer (blank bucket key expectedSize?).createRequest
    (store, []) with ⟨e | id, t, trace⟩
  · obtain ⟨_, rfl⟩ := recorded_answer.mp answer
    have run := start_leads_error rfl answer
    have shut : ((blank bucket key expectedSize?).failedBy e).status ≠ .inProgress := by
      unfold failedBy
      split <;> simp [blank]
    obtain ⟨ended, reached⟩ := during_leads run.bind_error (release_leads_shut shut) shut
    unfold send
    rw [ended, reached]
    exact .uncreated
  · obtain ⟨given, kept⟩ := recorded_answer.mp answer
    rw [List.nil_append] at kept
    subst kept
    have nonvoid := dependable.names rfl given
    have running : Running bucket key id ((blank bucket key expectedSize?).opened id)
        [⟨.createUpload bucket key (ContentType.detect key), .ok id⟩] .empty := {
      isOpen := rfl
      named := rfl
      standing := (standing_blank bucket key expectedSize?).opened rfl
      smooth := List.forall_mem_singleton.mpr ⟨id, rfl⟩
      conserved := fun _ => rfl }
    obtain ⟨result, b, attempt⟩ := exists_attempt gateway.recorded source.pieces source.ending
      ((blank bucket key expectedSize?).opened id, t, _)
    have closing := attempt.closing dependable nonvoid running
    obtain ⟨c, d, kept, released, shut, outcome⟩ :=
      closing.leads dependable nonvoid (attempt.leads fun fed => fed.copy_leads 0)
    have run := (start_leads rfl answer).bind (f := fun _ => _) kept
    obtain ⟨ended, reached⟩ := during_leads run released shut
    unfold send
    rw [ended, reached]
    exact outcome

end Upload

namespace Storage

/-- Over a gateway that names what it creates and does not break when an upload is taken back, a
source that is sent to an enabled storage is stored as a whole, or leaves nothing behind, and the
caller sees the fault that came first. -/
theorem stream_outcome {gateway : Gateway σ} {settings : Settings}
    (dependable : Dependable gateway) (enabled : settings.isEnabled = true) (key : String)
    (source : Upload.Source) (expectedSize? : Option Int) (store : σ) (log : Array LogRecord) :
    Upload.Outcome settings.bucket (settings.fullKey key) source
      ((ofGateway settings gateway.recorded).stream key source expectedSize? ⟨(store, []), log⟩).1
      ((ofGateway settings gateway.recorded).stream key source expectedSize?
        ⟨(store, []), log⟩).2.store.2 := by
  rw [stream_enabled enabled]
  exact Upload.send_outcome dependable settings.bucket (settings.fullKey key) expectedSize? source
    store log

/-- A read that fails behind three bytes, which are sent to the store in memory. -/
theorem stream_outcome_of_failed_read :
    Dependable Memory.gateway ∧ (Settings.ofBucket "media" "AK" "SK").isEnabled = true ∧
      Upload.Outcome "media" "clip.mp4" [.ok ⟨#[1, 2, 3]⟩, .error (.other "disk")]
        ((ofGateway (.ofBucket "media" "AK" "SK") Memory.gateway.recorded).stream "clip.mp4"
          [.ok ⟨#[1, 2, 3]⟩, .error (.other "disk")] none ⟨({}, []), #[]⟩).1
        ((ofGateway (.ofBucket "media" "AK" "SK") Memory.gateway.recorded).stream "clip.mp4"
          [.ok ⟨#[1, 2, 3]⟩, .error (.other "disk")] none ⟨({}, []), #[]⟩).2.store.2 := by
  have enabled : (Settings.ofBucket "media" "AK" "SK").isEnabled = true := by decide
  exact ⟨Memory.dependable, enabled,
    stream_outcome Memory.dependable enabled "clip.mp4" _ none {} #[]⟩

end Storage

end ObjectStorage
