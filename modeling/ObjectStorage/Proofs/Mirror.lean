import ObjectStorage.Memory.Store
import ObjectStorage.Proofs.Client
import ObjectStorage.Proofs.Upload.Recording

/-! Clients that mirror gateways. A client mirrors a gateway if its responses hold what the gateway
answers, and if its failures say what the gateway's errors tell. The gateway over the client is then
as good as the gateway itself: for any requests (`Agree.answers_eq`), and for uploads, whose
histories cannot tell the one from the other (`History.run_agree`). -/

namespace ObjectStorage

variable {ρ σ τ : Type}

/-- What a failure of the service tells: its message, else its code, else what the client library
has to say itself. Words that are void do not count. -/
inductive Fault.Tells : Fault → String → Prop where
  | transport : Tells (.transport text) text
  | message (given : errorMember? response "Message" = some v) (spoken : v.isVoid = false) :
      Tells (.refused response operation) v.render
  | code (silent : ∀ v ∈ errorMember? response "Message", v.isVoid = true)
      (given : errorMember? response "Code" = some v) (spoken : v.isVoid = false) :
      Tells (.refused response operation) v.render
  | text (silent : ∀ v ∈ errorMember? response "Message", v.isVoid = true)
      (uncoded : ∀ v ∈ errorMember? response "Code", v.isVoid = true) :
      Tells (.refused response operation) (refusalText response operation)

/-- An answer of a client to a request, and the answer of a gateway that it stands for. A fault that
is no failure of the service stands for itself. -/
inductive Matching : Request → Except Fault Value → Except Fault Value → Prop where
  | created {id : Value} (named : response.member? "UploadId" = some id) :
      Matching (.createUpload bucket key contentType) (.ok response) (.ok id)
  | acknowledged (tagged : response.member? "ETag" = some tag) :
      Matching (.uploadPart bucket key name number data) (.ok response) (.ok tag)
  | assembled : Matching (.completeUpload bucket key name parts) (.ok response) (.ok .null)
  | withdrawn : Matching (.abortUpload bucket key name) (.ok response) (.ok .null)
  | stored : Matching (.putObject bucket key data contentType) (.ok response) (.ok .null)
  | described : Matching (.headObject bucket key) (.ok response) (.ok response)
  | deleted : Matching (.deleteObject bucket key) (.ok response) (.ok .null)
  | failed (told : e.Tells words) :
      Matching request (.error e)
        (.error (.storage (.gateway (Client.failureLabel request ++ ": " ++ words))))
  | broken (other : e.isService = false) : Matching request (.error e) (.error e)

/-- In the same states, a client answers every request but one for a URL as a gateway does, and both
reach the same state again. -/
def Mirror (client : Client σ) (gateway : Gateway τ) (Same : σ → τ → Prop) : Prop :=
  ∀ {request reply s s' t}, request.kind ≠ .signUrl → Same s t →
    client.answer (.request request) s = (reply, s') →
      ∃ reply' t', gateway.answer request t = (reply', t') ∧ Matching request reply reply' ∧
        Same s' t'

/-- The answers to requests, one after another, and the state in the end. -/
def Service.answers (service : Service ρ σ) : List ρ → σ → List (Except Fault Value) × σ
  | [], s => ([], s)
  | request :: rest, s =>
    match service.answer request s with
    | (reply, s) =>
      match service.answers rest s with
      | (replies, s) => (reply :: replies, s)

/-- A client that also keeps the calls that it gets, oldest first. -/
def Client.observed (client : Client σ) : Client (σ × List ClientCall) where
  answer call s :=
    match client.answer call s.1 with
    | (reply, t) => (reply, t, s.2 ++ [call])

/-- A service with failures to come: each request meets the next one, or none, and is told of it in
the service's way. -/
def Service.interrupted (service : Service ρ σ) (tell : ρ → Fault → Fault) :
    Service ρ (σ × List (Option Fault)) where
  answer request s :=
    match s.2 with
    | some e :: rest => (.error (tell request e), s.1, rest)
    | planned =>
      match service.answer request s.1 with
      | (reply, t) => (reply, t, planned.tail)

/-- A client with failures to come. -/
def Client.failing (client : Client σ) : Client (σ × List (Option Fault)) :=
  client.interrupted fun _ e => e

namespace Fault

variable {e : Fault} {words name : String} {response v : Value}

private theorem spoken_of_some (given : errorMember? response name = some v)
    (spoken : v.isVoid = false) :
    (errorMember? response name).filter (fun v => !v.isVoid) = some v := by
  simp [given, Option.filter, spoken]

private theorem spoken_of_none (silent : ∀ v ∈ errorMember? response name, v.isVoid = true) :
    (errorMember? response name).filter (fun v => !v.isVoid) = none := by
  apply Option.filter_eq_none_iff.mpr
  intro v member
  simp [silent v member]

theorem Tells.serviceMessage_eq (told : e.Tells words) :
    e.isService = true ∧ e.serviceMessage = words := by
  cases told with
  | transport => exact ⟨rfl, rfl⟩
  | message given spoken => simp [isService, serviceMessage, spoken_of_some given spoken]
  | code silent given spoken =>
    simp [isService, serviceMessage, spoken_of_none silent, spoken_of_some given spoken]
  | text silent uncoded =>
    simp [isService, serviceMessage, spoken_of_none silent, spoken_of_none uncoded]

/-- Every failure of the service tells something. -/
theorem exists_tells (service : e.isService = true) : ∃ words, e.Tells words := by
  cases e with
  | transport text => exact ⟨text, .transport⟩
  | refused response operation =>
    rcases message : (errorMember? response "Message").filter (fun v => !v.isVoid) with _ | v
    · have silent := Option.filter_eq_none_iff.mp message
      rcases code : (errorMember? response "Code").filter (fun v => !v.isVoid) with _ | v
      · have uncoded := Option.filter_eq_none_iff.mp code
        exact ⟨_, .text (by simpa using silent) (by simpa using uncoded)⟩
      · obtain ⟨given, spoken⟩ := Option.filter_eq_some_iff.mp code
        exact ⟨_, .code (by simpa using silent) given (by simpa using spoken)⟩
    · obtain ⟨given, spoken⟩ := Option.filter_eq_some_iff.mp message
      exact ⟨_, .message given (by simpa using spoken)⟩
  | _ => cases service

theorem tells_serviceMessage (service : e.isService = true) : e.Tells e.serviceMessage := by
  obtain ⟨words, told⟩ := exists_tells service
  rw [told.serviceMessage_eq.2]
  exact told

end Fault

namespace Client

/-- The gateway over a client makes of an answer what the client stands for. -/
theorem answer_of_matching {client : Client σ} {request : Request} {s s' : σ}
    {given wanted : Except Fault Value} (plain : request.kind ≠ .signUrl)
    (answer : client.answer (.request request) s = (given, s'))
    (matching : Matching request given wanted) :
    client.gateway.answer request s = (wanted, s') := by
  rw [gateway_answer client plain, answer]
  cases matching with
  | created named => simp [reply, requireMember_of_member named]
  | acknowledged tagged => simp [reply, requireMember_of_member tagged]
  | failed told =>
    obtain ⟨service, rfl⟩ := told.serviceMessage_eq
    simp only [gatewayFault, service, ↓reduceIte]
    rfl
  | broken other => simp [gatewayFault, other]
  | _ => rfl

end Client

/-- Gateways that agree answer any requests alike. -/
theorem Agree.answers_eq {first : Gateway σ} {second : Gateway τ} {Related : σ → τ → Prop}
    (agree : Agree first second Related) {requests : List Request} {s : σ} {t : τ}
    (plain : ∀ request ∈ requests, request.kind ≠ .signUrl) (related : Related s t) :
    (first.answers requests s).1 = (second.answers requests t).1 ∧
      Related (first.answers requests s).2 (second.answers requests t).2 := by
  induction requests generalizing s t with
  | nil => exact ⟨rfl, related⟩
  | cons request requests ih =>
    rcases answer : first.answer request s with ⟨reply, s'⟩
    obtain ⟨t', answered, onward⟩ := agree (plain request List.mem_cons_self) related answer
    obtain ⟨sameReplies, finish⟩ :=
      ih (fun other member => plain other (List.mem_cons_of_mem request member)) onward
    simp only [Service.answers, answer, answered]
    exact ⟨congrArg (reply :: ·) sameReplies, finish⟩

theorem recorded_requests (gateway : Gateway σ) (requests : List Request) (s : σ)
    (trace : List Exchange) :
    (gateway.recorded.answers requests (s, trace)).2.2.map (·.request) =
      trace.map (·.request) ++ requests := by
  induction requests generalizing s trace with
  | nil => simp [Service.answers]
  | cons request requests ih =>
    rcases answer : gateway.answer request s with ⟨reply, t⟩
    have kept : gateway.recorded.answer request (s, trace) =
        (reply, t, trace ++ [⟨request, reply⟩]) := recorded_answer.mpr ⟨answer, rfl⟩
    simp only [Service.answers, kept, ih]
    simp

namespace Mirror

variable {client : Client σ} {gateway : Gateway τ} {Same : σ → τ → Prop} {s : σ} {t : τ}

/-- The gateway over a client agrees with the gateway that the client mirrors, and asks the client
what the other one is asked. -/
theorem agree (mirror : Mirror client gateway Same) :
    Agree client.observed.gateway gateway.recorded fun a b =>
      Same a.1 b.1 ∧ a.2 = b.2.map fun x => .request x.request := by
  intro request reply a a' b plain related answer
  obtain ⟨same, calls⟩ := related
  rcases given : client.answer (.request request) a.1 with ⟨response, s'⟩
  obtain ⟨wanted, t', answered, matching, onward⟩ := mirror plain same given
  have observed : client.observed.answer (.request request) a =
      (response, s', a.2 ++ [.request request]) := by simp only [Client.observed, given]
  have own := Client.answer_of_matching plain observed matching
  rw [answer] at own
  obtain ⟨rfl, rfl⟩ := Prod.mk.inj own
  refine ⟨(t', b.2 ++ [⟨request, reply⟩]), recorded_answer.mpr ⟨answered, rfl⟩, onward, ?_⟩
  simp [calls]

/-- The gateway over a client that mirrors a gateway answers any requests but those for URLs as the
gateway does, and asks the client once for each. An upload does the same through both. -/
theorem gateway_eq (mirror : Mirror client gateway Same) (same : Same s t) :
    (∀ requests : List Request, (∀ request ∈ requests, request.kind ≠ .signUrl) →
      (client.observed.gateway.answers requests (s, [])).1 = (gateway.answers requests t).1 ∧
        (client.observed.gateway.answers requests (s, [])).2.2 = requests.map .request ∧
        Same (client.observed.gateway.answers requests (s, [])).2.1
          (gateway.answers requests t).2) ∧
      ∀ (u : Upload) (operations : List Operation),
        (History.run client.observed.gateway u (s, []) operations).upload =
            (History.run gateway.recorded u (t, []) operations).upload ∧
          (History.run client.observed.gateway u (s, []) operations).events =
            (History.run gateway.recorded u (t, []) operations).events ∧
          (History.run client.observed.gateway u (s, []) operations).store.2 =
            (History.run gateway.recorded u (t, []) operations).trace.map
              (.request ·.request) ∧
          Same (History.run client.observed.gateway u (s, []) operations).store.1
            (History.run gateway.recorded u (t, []) operations).store.1 := by
  have begin : Same s t ∧ ([] : List ClientCall) = ([] : List Exchange).map (.request ·.request) :=
    ⟨same, rfl⟩
  constructor
  · intro requests plain
    obtain ⟨sameReplies, finish, calls⟩ :=
      Agree.answers_eq mirror.agree (s := (s, [])) (t := (t, [])) plain begin
    obtain ⟨unrecorded, reached⟩ :=
      Agree.answers_eq (agree_recorded gateway) (s := (t, [])) plain rfl
    have asked := congrArg (List.map ClientCall.request) (recorded_requests gateway requests t [])
    rw [List.map_map] at asked
    exact ⟨sameReplies.trans unrecorded, calls.trans asked, reached ▸ finish⟩
  · intro u operations
    obtain ⟨sameUpload, sameEvents, finish, calls⟩ :=
      History.run_agree mirror.agree (s := (s, [])) (t := (t, [])) begin u operations
    exact ⟨sameUpload, sameEvents, calls, finish⟩

end Mirror

namespace Memory

/-- What the store in memory answers as a client stands for what it answers as a gateway. -/
theorem matching (m : Memory) {request : Request} (plain : request.kind ≠ .signUrl) :
    Matching request (m.clientReply request) (m.gatewayReply request) := by
  cases request with
  | createUpload bucket key contentType => exact .created rfl
  | uploadPart bucket key name number data =>
    simp only [clientReply, gatewayReply, keyed]
    cases name.keylessKind? with
    | none => exact .acknowledged rfl
    | some kind => exact .broken rfl
  | completeUpload bucket key name parts =>
    simp only [clientReply, gatewayReply, completionReply, keyed]
    split
    · exact .assembled
    · cases name.keylessKind? with
      | none => exact .assembled
      | some kind => exact .broken rfl
  | abortUpload bucket key name => exact .withdrawn
  | putObject bucket key data contentType => exact .stored
  | headObject bucket key =>
    simp only [clientReply, gatewayReply]
    cases m.object? key with
    | some data => exact .described
    | none =>
      have told : (Fault.refused notFound "HeadObject").Tells "Not Found" :=
        .message (v := .text "Not Found") rfl rfl
      exact .failed told
  | deleteObject bucket key => exact .deleted
  | signUrl bucket key method expiry => exact absurd rfl plain

/-- The store in memory as a client mirrors itself as a gateway. -/
theorem mirror : Mirror client gateway Eq := by
  intro request reply m m' _ plain same answer
  subst same
  have matching := m.matching plain
  simp only [client] at answer
  simp only [gateway]
  cases given : m.clientReply request with
  | ok response =>
    rw [given] at answer matching
    cases answer
    cases wanted : m.gatewayReply request with
    | ok value =>
      rw [wanted] at matching
      exact ⟨_, _, rfl, matching, rfl⟩
    | error e =>
      rw [wanted] at matching
      cases matching
  | error e =>
    rw [given] at answer matching
    cases answer
    cases wanted : m.gatewayReply request with
    | ok value =>
      rw [wanted] at matching
      cases matching
    | error e =>
      rw [wanted] at matching
      exact ⟨_, _, rfl, matching, rfl⟩

end Memory

/-- A request that meets no failure reaches the service. -/
theorem Service.interrupted_of_none {service : Service ρ σ} {tell : ρ → Fault → Fault}
    {planned : List (Option Fault)} (calm : planned.head?.join = none) (request : ρ) (s : σ) :
    (service.interrupted tell).answer request (s, planned) =
      ((service.answer request s).1, (service.answer request s).2, planned.tail) := by
  rcases planned with _ | ⟨_ | e, rest⟩
  · rfl
  · rfl
  · cases calm

/-- Failures of the service that are to come are told by the gateway as its own errors. -/
theorem Mirror.interrupted {client : Client σ} {gateway : Gateway τ} {Same : σ → τ → Prop}
    (mirror : Mirror client gateway Same) :
    Mirror client.failing (gateway.interrupted Client.gatewayFault)
      fun a b => Same a.1 b.1 ∧ a.2 = b.2 ∧ ∀ e, some e ∈ a.2 → e.isService = true := by
  intro request reply a a' b plain related answer
  obtain ⟨s, planned⟩ := a
  obtain ⟨t, _⟩ := b
  obtain ⟨same, rfl, service⟩ := related
  dsimp only at same service
  have ahead : ∀ e, some e ∈ planned.tail → e.isService = true :=
    fun e member => service e (List.mem_of_mem_tail member)
  cases next : planned.head?.join with
  | none =>
    rw [Client.failing, Service.interrupted_of_none next] at answer
    rw [Service.interrupted_of_none next]
    cases answer
    obtain ⟨wanted, t', answered, matching, onward⟩ := mirror plain same rfl
    rw [answered]
    exact ⟨wanted, (t', planned.tail), rfl, matching, onward, rfl, ahead⟩
  | some e =>
    obtain ⟨rest, rfl⟩ : ∃ rest, planned = some e :: rest := by
      rcases planned with _ | ⟨_ | e', rest⟩
      · cases next
      · cases next
      · cases next
        exact ⟨rest, rfl⟩
    cases answer
    have failure := service e List.mem_cons_self
    have told : (gateway.interrupted Client.gatewayFault).answer request (t, some e :: rest) =
        (.error (Client.gatewayFault request e), t, rest) := rfl
    rw [told, Client.gatewayFault, if_pos failure]
    exact ⟨_, (t, rest), rfl, .failed (Fault.tells_serviceMessage failure), same, rfl, ahead⟩

/-- At the store in memory: a creation, a part that is refused and a head that does not come
through; and an upload whose only part is refused. -/
theorem Mirror.gateway_eq_interrupted :
    (Memory.client.failing.observed.gateway.answers
        [.createUpload "media" "clip.mp4" "video/mp4",
          .uploadPart "media" "clip.mp4" (.text "upload-1") 1 ⟨#[1, 2, 3]⟩,
          .headObject "media" "clip.mp4"]
        (({}, [none, some (.refused Memory.notFound "UploadPart"), some (.transport "reset")]),
          [])).1 =
      [.ok (.text "upload-1"),
        .error (.storage (.gateway "Failed to upload part 1: Not Found")),
        .error (.storage (.gateway "S3 head failed: reset"))] ∧
      (History.run Memory.client.failing.observed.gateway (.blank "media" "clip.mp4" none)
          (({}, [none, some (.refused Memory.notFound "UploadPart"), some (.transport "reset")]),
            [])
          [.start, .write 0 ⟨#[1, 2, 3]⟩, .complete]).upload.status = .failed := by
  have mirrored := gateway_eq (s := (({} : Memory), [none,
      some (.refused Memory.notFound "UploadPart"), some (.transport "reset")]))
    Memory.mirror.interrupted ⟨rfl, rfl, by simp [Fault.isService]⟩
  constructor
  · have sameReplies := (mirrored.1 [.createUpload "media" "clip.mp4" "video/mp4",
      .uploadPart "media" "clip.mp4" (.text "upload-1") 1 ⟨#[1, 2, 3]⟩,
      .headObject "media" "clip.mp4"] (by simp [Request.kind])).1
    exact sameReplies.trans rfl
  · have sameUpload := (mirrored.2 (.blank "media" "clip.mp4" none)
      [.start, .write 0 ⟨#[1, 2, 3]⟩, .complete]).1
    exact (congrArg Upload.status sameUpload).trans rfl

end ObjectStorage
