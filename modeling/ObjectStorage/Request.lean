import ObjectStorage.Action
import ObjectStorage.Log

/-! Requests to an object store and the services that answer them. -/

namespace ObjectStorage

/-- A part that the store has acknowledged: its number and the tag it was given. -/
structure Part where
  number : Int
  tag : Value

/-- A request about one object. -/
inductive Request where
  | createUpload (bucket key contentType : String)
  | uploadPart (bucket key : String) (id : Value) (number : Int) (data : ByteArray)
  | completeUpload (bucket key : String) (id : Value) (parts : List Part)
  | abortUpload (bucket key : String) (id : Value)
  | putObject (bucket key : String) (data : ByteArray) (contentType : String)
  | headObject (bucket key : String)
  | deleteObject (bucket key : String)
  /-- A signed URL is asked for, for a method or an operation of this name. -/
  | signUrl (bucket key method : String) (expirySeconds : Int)

/-- What is asked for, without the arguments. -/
inductive RequestKind where
  | createUpload
  | uploadPart
  | completeUpload
  | abortUpload
  | putObject
  | headObject
  | deleteObject
  | signUrl
  deriving DecidableEq, Repr

namespace Request

def kind : Request → RequestKind
  | createUpload .. => .createUpload
  | uploadPart .. => .uploadPart
  | completeUpload .. => .completeUpload
  | abortUpload .. => .abortUpload
  | putObject .. => .putObject
  | headObject .. => .headObject
  | deleteObject .. => .deleteObject
  | signUrl .. => .signUrl

def bucket : Request → String
  | createUpload b .. | uploadPart b .. | completeUpload b .. | abortUpload b ..
  | putObject b .. | headObject b .. | deleteObject b .. | signUrl b .. => b

def key : Request → String
  | createUpload _ k _ | uploadPart _ k .. | completeUpload _ k .. | abortUpload _ k _
  | putObject _ k .. | headObject _ k | deleteObject _ k | signUrl _ k .. => k

/-- The number of the part that is sent. -/
def partNumber? : Request → Option Int
  | uploadPart _ _ _ n _ => some n
  | _ => none

end Request

/-- Something that answers requests of one form and remembers a state. An answer is a value, which
is void where there is nothing to say, or a fault. -/
structure Service (ρ σ : Type) where
  answer : ρ → σ → Except Fault Value × σ

/-- What the storage layer talks to. -/
abbrev Gateway (σ : Type) := Service Request σ

/-- A request and what it was answered with. -/
structure Exchange where
  request : Request
  reply : Except Fault Value

/-- A gateway that also keeps every exchange, oldest first. -/
def Service.recorded {σ : Type} (gateway : Gateway σ) : Gateway (σ × List Exchange) where
  answer request state :=
    match gateway.answer request state.1 with
    | (reply, next) => (reply, next, state.2 ++ [⟨request, reply⟩])

/-- The state of a service and what has been logged so far. -/
structure Journal (σ : Type) where
  store : σ
  log : Array LogRecord := #[]

namespace Journal

variable {ρ σ : Type}

/-- Sends a request; the service moves on even if it answers with a fault. -/
def ask (service : Service ρ σ) (request : ρ) : Action (Journal σ) Value := fun j =>
  match service.answer request j.store with
  | (reply, store) => (reply, { j with store })

/-- Logs a message. -/
def note (level : LogLevel) (logger : Logger) (message : String) : Action (Journal σ) Unit :=
  .change fun j => { j with log := j.log.push ⟨level, logger, message⟩ }

end Journal

end ObjectStorage
