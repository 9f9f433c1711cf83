import ObjectStorage.Request
import ObjectStorage.Settings.Storage

/-! The client library of the service, and the gateway that speaks through it. The gateway turns
the failures of the service into gateway errors, and responses into the values that are asked for. -/

namespace ObjectStorage

/-- What a client is made with. -/
structure Connection where
  region : String
  endpoint? : Option String
  accessKeyId : String
  secretAccessKey : String
  usePathStyle : Bool
  deriving DecidableEq, Repr

def Settings.connection (s : Settings) : Connection where
  region := s.region
  endpoint? := if s.endpoint.isEmpty then none else some s.endpoint
  accessKeyId := s.accessKeyId
  secretAccessKey := s.secretAccessKey
  usePathStyle := s.usePathStyle

/-- What is asked of the client library. -/
inductive ClientCall where
  | openSession
  | connect (connection : Connection)
  | request (r : Request)

abbrev Client (σ : Type) := Service ClientCall σ

namespace Client

variable {σ : Type}

/-- The client operation whose URL is signed for an HTTP method. -/
def signedOperation? (method : String) : Option String :=
  [("GET", "get_object"), ("PUT", "put_object"), ("HEAD", "head_object"),
    ("DELETE", "delete_object")].lookup method.toUpper

/-- What a gateway error says first about a request. -/
def failureLabel : Request → String
  | .createUpload .. => "Failed to create multipart upload"
  | .uploadPart _ _ _ number _ => s!"Failed to upload part {number}"
  | .completeUpload .. => "Failed to complete multipart upload"
  | .abortUpload .. => "Failed to abort multipart upload"
  | .putObject .. => "S3 upload failed"
  | .headObject .. => "S3 head failed"
  | .deleteObject .. => "S3 delete failed"
  | .signUrl .. => "Failed to generate presigned URL"

/-- A failed request to the service becomes a gateway error; any other fault stays what it is. -/
def gatewayFault (r : Request) (e : Fault) : Fault :=
  if e.isService then .storage (.gateway s!"{failureLabel r}: {e.serviceMessage}") else e

/-- A member that a response must have. -/
def requireMember (name : String) (response : Value) : Except Fault Value :=
  match response with
  | .dict _ => match response.member? name with
    | some v => .ok v
    | none => .error (.missingMember name)
  | _ => .error (.notDictionary response)

/-- What a response answers to a request. -/
def reply (r : Request) (response : Value) : Except Fault Value :=
  match r with
  | .createUpload .. => requireMember "UploadId" response
  | .uploadPart .. => requireMember "ETag" response
  | .headObject .. => .ok response
  | .signUrl .. =>
    if response.isVoid then .error (.storage (.gateway (failureLabel r))) else .ok response
  | .completeUpload .. | .abortUpload .. | .putObject .. | .deleteObject .. => .ok .null

/-- The request that the client is sent: it signs for an operation where the gateway names a
method. -/
def translate (r : Request) : Except Fault Request :=
  match r with
  | .signUrl bucket key method expiry =>
    match signedOperation? method with
    | some operation => .ok (.signUrl bucket key operation expiry)
    | none => .error (.unsignable method)
  | r => .ok r

/-- The gateway over a client. -/
def gateway (client : Client σ) : Gateway σ where
  answer r store :=
    match translate r with
    | .error e => (.error e, store)
    | .ok request =>
      match client.answer (.request request) store with
      | (.ok response, store) => (reply r response, store)
      | (.error e, store) => (.error (gatewayFault r e), store)

/-- Sets the client library up, unless it is `ready`; tells whether this call did it. -/
def setUp (client : Client σ) (ready : Bool) : Action (Journal σ) Bool := do
  if ready then pure false
  else
    let _ ← Journal.ask client .openSession
    Journal.note .info .client "AWS SDK initialized"
    pure true

/-- Makes a gateway with a client of its own. -/
def connect (client : Client σ) (ready : Bool) (settings : Settings) :
    Action (Journal σ) (Gateway σ) := do
  if !ready then .fail .notInitialized
  else
    let _ ← Journal.ask client (.connect settings.connection)
    Journal.note .info .client s!"S3 client initialized for bucket: {settings.bucket}"
    pure client.gateway

end Client

end ObjectStorage
