import ObjectStorage.Proofs.Client
import ObjectStorage.Proofs.ObjectStore
import ObjectStorage.Proofs.Upload.Release

/-! Clients of stores that hold objects. Each request has its effect and a well-formed response, or
it fails as the client library reports it, and without effect. The gateway over such a client is a
store of objects (`ClientStore.objects`). -/

namespace ObjectStorage

variable {σ : Type}

/-- A call of a client and what it was answered with. -/
structure ClientExchange where
  call : ClientCall
  answer : Except Fault Value

/-- A client that also keeps every exchange, oldest first. -/
def Client.recorded (client : Client σ) : Client (σ × List ClientExchange) where
  answer call s :=
    match client.answer call s.1 with
    | (answer, t) => (answer, t, s.2 ++ [⟨call, answer⟩])

/-- What the gateway over a client makes of an answer. -/
def Client.heard (request : Request) : Except Fault Value → Except Fault Value
  | .ok response => reply request response
  | .error e => .error (gatewayFault request e)

/-- The exchange with the gateway that a call of the client was made for. The name of a signed
operation stays the client's. -/
def ClientExchange.seen? : ClientExchange → Option Exchange
  | ⟨.request request, answer⟩ => some ⟨request, Client.heard request answer⟩
  | _ => none

/-- Exchanges with a client as the gateway over it sees them. -/
def seen (calls : List ClientExchange) : List Exchange := calls.filterMap ClientExchange.seen?

/-- Parts are sent and put together only under names that were given. -/
def Holdings.Expects (h : Holdings) : Request → Prop
  | .uploadPart _ _ name _ _ | .completeUpload _ _ name _ => h.issued name
  | _ => True

/-- What a request and the answer of a client make of what a store holds. -/
inductive ClientEffect (before after : Holdings) : Request → Except Fault Value → Prop where
  | failed (reported : e.isService = true) (unchanged : after = before) :
      ClientEffect before after request (.error e)
  | created {id : Value} (named : response.member? "UploadId" = some id)
      (nonvoid : id.isVoid = false)
      (effect : Effect before after (.createUpload bucket key contentType) (.ok id)) :
      ClientEffect before after (.createUpload bucket key contentType) (.ok response)
  | acknowledged (tagged : response.member? "ETag" = some tag)
      (effect : Effect before after (.uploadPart bucket key name number data) (.ok tag)) :
      ClientEffect before after (.uploadPart bucket key name number data) (.ok response)
  | assembled (effect : Effect before after (.completeUpload bucket key name parts) (.ok .null)) :
      ClientEffect before after (.completeUpload bucket key name parts) (.ok response)
  | withdrawn (effect : Effect before after (.abortUpload bucket key name) (.ok .null)) :
      ClientEffect before after (.abortUpload bucket key name) (.ok response)
  | stored
      (effect : ObjectEffect before after (.putObject bucket key data contentType) (.ok .null)) :
      ClientEffect before after (.putObject bucket key data contentType) (.ok response)
  | found (effect : ObjectEffect before after (.headObject bucket key) (.ok response)) :
      ClientEffect before after (.headObject bucket key) (.ok response)
  | deleted (effect : ObjectEffect before after (.deleteObject bucket key) (.ok .null)) :
      ClientEffect before after (.deleteObject bucket key) (.ok response)
  /-- Any text can be a signed URL, even the empty one. -/
  | signed (unchanged : after = before) :
      ClientEffect before after (.signUrl bucket key operation expirySeconds) (.ok (.text link))

/-- A client of a store of objects. -/
structure ClientStore (σ : Type) where
  client : Client σ
  holdings : σ → Holdings
  serves : ∀ {request answer s t}, (holdings s).Expects request →
    client.answer (.request request) s = (answer, t) →
      ClientEffect (holdings s) (holdings t) request answer

variable {client : Client σ} {request : Request} {reply answer : Except Fault Value} {s t : σ}
  {calls after : List ClientExchange} {h h' : Holdings}

theorem seen_append (calls more : List ClientExchange) :
    seen (calls ++ more) = seen calls ++ seen more :=
  List.filterMap_append

namespace Client

/-- A recorded client answers as the client does, and keeps the exchange. -/
theorem recorded_answer {call : ClientCall} (given : client.answer call s = (answer, t))
    (calls : List ClientExchange) :
    client.recorded.answer call (s, calls) = (answer, t, calls ++ [⟨call, answer⟩]) := by
  simp only [recorded, given]

theorem gateway_heard (plain : request.kind ≠ .signUrl)
    (given : client.answer (.request request) s = (answer, t)) :
    client.gateway.answer request s = (heard request answer, t) := by
  rw [gateway_answer client plain, given]
  cases answer <;> rfl

/-- A URL is signed for reading. -/
theorem gateway_heard_url {bucket key : String} {expirySeconds : Int}
    (given : client.answer (.request (.signUrl bucket key "get_object" expirySeconds)) s =
      (answer, t)) :
    client.gateway.answer (.signUrl bucket key "GET" expirySeconds) s =
      (heard (.signUrl bucket key "GET" expirySeconds) answer, t) := by
  have operation : translate (.signUrl bucket key "GET" expirySeconds) =
      .ok (.signUrl bucket key "get_object" expirySeconds) := by
    have named : signedOperation? "GET" = some "get_object" := by decide +kernel
    simp only [translate, named]
  simp only [gateway, operation, given]
  cases answer <;> rfl

end Client

namespace ClientEffect

theorem effect_of_create {bucket key contentType : String}
    (effect : ClientEffect h h' (.createUpload bucket key contentType) answer) :
    Effect h h' (.createUpload bucket key contentType)
      (Client.heard (.createUpload bucket key contentType) answer) := by
  cases effect with
  | failed reported unchanged => exact .fault unchanged
  | created named nonvoid effect =>
    simp only [Client.heard, Client.reply, Client.requireMember_of_member named]
    exact effect

theorem effect_of_named {name : Value} (effect : ClientEffect h h' request answer)
    (named : request.uploadId? = some name) :
    Effect h h' request (Client.heard request answer) := by
  cases effect with
  | failed reported unchanged => exact .fault unchanged
  | acknowledged tagged effect =>
    simp only [Client.heard, Client.reply, Client.requireMember_of_member tagged]
    exact effect
  | assembled effect => exact effect
  | withdrawn effect => exact effect
  | _ => cases named

/-- Whatever the client has answered, the gateway fails with an error of its own. -/
theorem isGateway_of_heard {e : Fault} (effect : ClientEffect h h' request answer)
    (failed : Client.heard request answer = .error e) : e.isGateway = true := by
  cases effect with
  | failed reported unchanged =>
    cases failed
    exact Client.gatewayFault_isGateway reported request
  | created named =>
    simp [Client.heard, Client.reply, Client.requireMember_of_member named] at failed
  | acknowledged tagged =>
    simp [Client.heard, Client.reply, Client.requireMember_of_member tagged] at failed
  | signed unchanged =>
    simp only [Client.heard, Client.reply] at failed
    split at failed
    · cases failed
      rfl
    · cases failed
  | _ => cases failed

end ClientEffect

theorem Holdings.expects_of_named {name : Value} (h : Holdings)
    (named : request.uploadId? = some name) (issued : h.issued name) :
    request.kind ≠ .signUrl ∧ h.Expects request := by
  cases request with
  | uploadPart =>
    cases named
    exact ⟨by simp [Request.kind], issued⟩
  | completeUpload =>
    cases named
    exact ⟨by simp [Request.kind], issued⟩
  | abortUpload => exact ⟨by simp [Request.kind], trivial⟩
  | _ => cases named

namespace ClientStore

variable (shop : ClientStore σ)

/-- An answer of the gateway tells what the client has answered. -/
theorem exists_effect (given : shop.client.gateway.answer request s = (reply, t))
    (plain : request.kind ≠ .signUrl) (expected : (shop.holdings s).Expects request) :
    ∃ answer, ClientEffect (shop.holdings s) (shop.holdings t) request answer ∧
      reply = Client.heard request answer := by
  rcases answer : shop.client.answer (.request request) s with ⟨response, r⟩
  rw [Client.gateway_heard plain answer] at given
  cases given
  exact ⟨response, shop.serves expected answer, rfl⟩

theorem exists_effect_of_url {bucket key : String} {expirySeconds : Int}
    (given : shop.client.gateway.answer (.signUrl bucket key "GET" expirySeconds) s = (reply, t)) :
    ∃ answer, ClientEffect (shop.holdings s) (shop.holdings t)
        (.signUrl bucket key "get_object" expirySeconds) answer ∧
      reply = Client.heard (.signUrl bucket key "GET" expirySeconds) answer := by
  rcases answer : shop.client.answer
    (.request (.signUrl bucket key "get_object" expirySeconds)) s with ⟨response, r⟩
  rw [Client.gateway_heard_url answer] at given
  cases given
  exact ⟨response, shop.serves trivial answer, rfl⟩

/-- The gateway over the client, as a store of objects. -/
def objects : ObjectStore σ where
  gateway := shop.client.gateway
  holdings := shop.holdings
  creation := by
    intro bucket key contentType reply s t given
    obtain ⟨answer, effect, rfl⟩ := shop.exists_effect given (by simp [Request.kind]) trivial
    exact effect.effect_of_create
  service := by
    intro request name reply s t named issued given
    obtain ⟨plain, expected⟩ := (shop.holdings s).expects_of_named named issued
    obtain ⟨answer, effect, rfl⟩ := shop.exists_effect given plain expected
    exact effect.effect_of_named named
  whole := by
    intro request reply s t whole given
    cases whole with
    | put =>
      obtain ⟨answer, effect, rfl⟩ := shop.exists_effect given (by simp [Request.kind]) trivial
      cases effect with
      | failed reported unchanged => exact .fault unchanged
      | stored effect => exact effect
    | head =>
      obtain ⟨answer, effect, rfl⟩ := shop.exists_effect given (by simp [Request.kind]) trivial
      cases effect with
      | failed reported unchanged => exact .fault unchanged
      | found effect => exact effect
    | delete =>
      obtain ⟨answer, effect, rfl⟩ := shop.exists_effect given (by simp [Request.kind]) trivial
      cases effect with
      | failed reported unchanged => exact .fault unchanged
      | deleted effect => exact effect
    | url =>
      obtain ⟨answer, effect, rfl⟩ := shop.exists_effect_of_url given
      cases effect with
      | failed reported unchanged => exact .fault unchanged
      | signed unchanged =>
        simp only [Client.heard, Client.reply]
        split
        · exact .fault unchanged
        · exact .signed unchanged
  refuses := by
    intro request e s t serves given
    cases serves with
    | creation =>
      obtain ⟨answer, effect, failed⟩ := shop.exists_effect given (by simp [Request.kind]) trivial
      exact effect.isGateway_of_heard failed.symm
    | service named issued =>
      obtain ⟨plain, expected⟩ := (shop.holdings s).expects_of_named named issued
      obtain ⟨answer, effect, failed⟩ := shop.exists_effect given plain expected
      exact effect.isGateway_of_heard failed.symm
    | whole whole =>
      cases whole with
      | url =>
        obtain ⟨answer, effect, failed⟩ := shop.exists_effect_of_url given
        exact effect.isGateway_of_heard failed.symm
      | _ =>
        obtain ⟨answer, effect, failed⟩ := shop.exists_effect given (by simp [Request.kind]) trivial
        exact effect.isGateway_of_heard failed.symm

/-- The gateway over the client names what it creates, and does not break when an upload is taken
back. -/
theorem dependable : Dependable shop.client.gateway where
  names := by
    intro request s id t creation given
    cases request with
    | createUpload bucket key contentType =>
      obtain ⟨answer, effect, named⟩ := shop.exists_effect given (by simp [Request.kind]) trivial
      cases effect with
      | failed => cases named
      | created member nonvoid =>
        simp only [Client.heard, Client.reply, Client.requireMember_of_member member] at named
        cases named
        exact nonvoid
    | _ => cases creation
  yields := by
    intro request s e t withdrawal given
    cases request with
    | abortUpload bucket key name =>
      obtain ⟨answer, effect, failed⟩ := shop.exists_effect given (by simp [Request.kind]) trivial
      exact effect.isGateway_of_heard failed.symm
    | _ => cases withdrawal

/-- The client with its exchanges kept. -/
def recorded : ClientStore (σ × List ClientExchange) where
  client := shop.client.recorded
  holdings s := shop.holdings s.1
  serves := by
    rintro request answer ⟨s, calls⟩ a expected given
    rcases own : shop.client.answer (.request request) s with ⟨reply, t⟩
    rw [Client.recorded_answer own calls] at given
    cases given
    exact shop.serves expected own

end ClientStore

end ObjectStorage
