import ObjectStorage.Client
import ObjectStorage.Proofs.Exchange

/-! The gateway over a client, request by request: what it answers and how it fails. -/

namespace ObjectStorage.Client

variable {σ : Type}

/-- What can be expected of any client: it fails as the client library reports it, or it responds
with a dictionary. -/
structure Ordinary (client : Client σ) : Prop where
  reports : ∀ {call s e t}, client.answer call s = (.error e, t) → e.isService = true
  responds : ∀ {request s response t}, client.answer (.request request) s = (.ok response, t) →
    ∃ members, response = .dict members

/-- Every part that is acknowledged has a tag. -/
def Tagging (client : Client σ) : Prop :=
  ∀ {bucket key id number data s response t},
    client.answer (.request (.uploadPart bucket key id number data)) s = (.ok response, t) →
      (response.member? "ETag").isSome = true

/-- A client that names every upload and takes everything, with tags for parts or without. -/
def plain (tagged : Bool) : Client Unit where
  answer call _ :=
    match call with
    | .request (.createUpload ..) => (.ok (.dict [(.text "UploadId", .text "upload")]), ())
    | .request (.uploadPart ..) =>
      (.ok (.dict (if tagged then [(.text "ETag", .text "tag")] else [])), ())
    | _ => (.ok (.dict []), ())

theorem plain_ordinary (tagged : Bool) : (plain tagged).Ordinary where
  reports := by
    intro call s e t answer
    unfold plain at answer
    dsimp only at answer
    split at answer <;> cases answer
  responds := by
    intro request s response t answer
    unfold plain at answer
    dsimp only at answer
    split at answer <;> cases answer <;> exact ⟨_, rfl⟩

theorem plain_tagging : (plain true).Tagging := by
  intro bucket key id number data s response t answer
  cases answer
  rfl

theorem gateway_answer (client : Client σ) {request : Request} (plain : request.kind ≠ .signUrl)
    (s : σ) : client.gateway.answer request s =
      match client.answer (.request request) s with
      | (.ok response, t) => (reply request response, t)
      | (.error e, t) => (.error (gatewayFault request e), t) := by
  cases request <;> first | rfl | exact absurd rfl plain

theorem gatewayFault_isGateway {e : Fault} (service : e.isService = true) (request : Request) :
    (gatewayFault request e).isGateway = true := by
  simp [gatewayFault, service, Fault.isGateway]

theorem requireMember_of_member {name : String} {response value : Value}
    (found : response.member? name = some value) : requireMember name response = .ok value := by
  cases response with
  | dict members => simp [requireMember, found]
  | _ => cases found

/-- Over an ordinary client whose parts have tags, a request about an upload either succeeds or
fails with a gateway error. -/
theorem Ordinary.isGateway_of_error {client : Client σ} (ordinary : Ordinary client)
    (tagging : Tagging client) {request : Request} {id : Value} {s t : σ} {e : Fault}
    (named : request.uploadId? = some id)
    (answer : client.gateway.answer request s = (.error e, t)) : e.isGateway = true := by
  have plain : request.kind ≠ .signUrl := by
    intro signed
    cases request <;> simp [Request.kind, Request.uploadId?] at signed named
  rw [gateway_answer client plain] at answer
  rcases given : client.answer (.request request) s with ⟨fault | response, t'⟩
  · rw [given] at answer
    cases answer
    exact gatewayFault_isGateway (ordinary.reports given) request
  · rw [given] at answer
    have replied : reply request response = .error e := congrArg Prod.fst answer
    cases request with
    | uploadPart bucket key id number data =>
      obtain ⟨tag, found⟩ := Option.isSome_iff_exists.mp (tagging given)
      simp [reply, requireMember_of_member found] at replied
    | completeUpload => cases replied
    | abortUpload => cases replied
    | _ => cases named

end ObjectStorage.Client
