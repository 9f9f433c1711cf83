import ObjectStorage.Value

/-! What can go wrong with a request to the object store or with a step of the storage layer. -/

namespace ObjectStorage

/-- The kinds of error of the storage layer. -/
inductive StorageErrorKind where
  | general
  | gateway
  | invalidState
  | insufficientBuffer
  | noDataUploaded
  | storageDisabled
  deriving DecidableEq, Repr

/-- An error of the storage layer. -/
inductive StorageError where
  | general (text : String)
  /-- A request to the object store failed. -/
  | gateway (text : String)
  /-- An upload was used in the wrong state. -/
  | invalidState (text : String)
  | insufficientBuffer (requested available : Int)
  | noDataUploaded
  | storageDisabled
  deriving DecidableEq, Repr

namespace StorageErrorKind

/-- The kinds that a handler may name to catch an error, the nearest first. -/
def lineage (k : StorageErrorKind) : List StorageErrorKind :=
  if k = general then [general] else [k, general]

end StorageErrorKind

namespace StorageError

def kind : StorageError → StorageErrorKind
  | general _ => .general
  | gateway _ => .gateway
  | invalidState _ => .invalidState
  | insufficientBuffer .. => .insufficientBuffer
  | noDataUploaded => .noDataUploaded
  | storageDisabled => .storageDisabled

/-- The text of an error that is made of some values: a single one speaks for itself. -/
def textOf : List Value → String
  | [] => ""
  | [v] => v.render
  | vs => "(" ++ Value.nestedItems vs ++ ")"

/-- The text of a shortage of these sizes. -/
def shortageText (requested available : String) : String :=
  s!"Requested {requested} bytes, but only {available} are buffered"

/-- The text of a shortage that is made of some values, or why it cannot be made of them. -/
def shortageOf : List Value → Except String String
  | [requested, available] => .ok (shortageText requested.render available.render)
  | [] => .error <| "InsufficientBuffer.__init__() missing 2 required positional arguments: " ++
      "'requested' and 'available'"
  | [_] =>
    .error "InsufficientBuffer.__init__() missing 1 required positional argument: 'available'"
  | vs =>
    .error <| "InsufficientBuffer.__init__() takes 3 positional arguments but " ++
      s!"{vs.length + 1} were given"

def message : StorageError → String
  | general text => text
  | gateway text => text
  | invalidState text => text
  | insufficientBuffer requested available =>
    shortageText (toString requested) (toString available)
  | noDataUploaded => "No data was uploaded"
  | storageDisabled => "S3 storage is not enabled"

/-- An upload that has left its first state is started again. -/
def alreadyStarted : StorageError := invalidState "Upload already started"

/-- Data is given to an upload that takes none. -/
def notInProgress : StorageError := invalidState "Upload not in progress"

end StorageError

/-- Whatever ends a step early. -/
inductive Fault where
  | storage (e : StorageError)
  /-- The client library failed without an answer of the service. -/
  | transport (text : String)
  /-- The service refused an operation, with this response. -/
  | refused (response : Value) (operation : String)
  /-- A response lacks a member. -/
  | missingMember (name : String)
  /-- A response is no dictionary. -/
  | notDictionary (response : Value)
  /-- No URL can be signed for this method. -/
  | unsignable (method : String)
  /-- The client library was used before it was set up. -/
  | notInitialized
  /-- A path holds the null character. -/
  | nullInPath
  /-- A path was given without a text. -/
  | noPath
  /-- The number of bytes to read at once was given without a text. -/
  | noReadSize
  /-- The number of bytes to read at once is beyond what a machine can address. -/
  | oversizedRead
  /-- No block of bytes is that large. -/
  | oversizedBlock
  /-- There is no room for so many bytes. -/
  | noRoom
  /-- Something is looked up under a value of a kind that is no key. -/
  | notKey (kind : String)
  | other (text : String)
  deriving Inhabited

namespace Fault

/-- An answer of the object store, or of what stands before it, that a request failed. -/
def isGateway : Fault → Bool
  | storage (.gateway _) => true
  | _ => false

/-- An error of the storage layer. -/
def isStorage : Fault → Bool
  | storage _ => true
  | _ => false

/-- A failed request to the service, as the client library reports it. -/
def isService : Fault → Bool
  | transport _ => true
  | refused .. => true
  | _ => false

/-- A member of the error that a response describes. -/
def errorMember? (response : Value) (name : String) : Option Value :=
  (response.member? "Error").bind (·.member? name)

/-- How often the operation was tried again, if the response tells that no more tries were left. -/
def retryNote (response : Value) : String :=
  match response.member? "ResponseMetadata" with
  | none => ""
  | some metadata =>
    match metadata.member? "MaxAttemptsReached", metadata.member? "RetryAttempts" with
    | some reached, some attempts =>
      if reached.isVoid then "" else s!" (reached max retries: {attempts.render})"
    | _, _ => ""

/-- The client library's own text for a refused operation. -/
def refusalText (response : Value) (operation : String) : String :=
  let shown (name : String) : String :=
    match errorMember? response name with
    | some v => v.render
    | none => "Unknown"
  let code := shown "Code"
  let words := shown "Message"
  s!"An error occurred ({code}) when calling the {operation} operation{retryNote response}: {words}"

/-- The name of the kind of a value that was taken for a dictionary. -/
def notDictionaryText : Value → String
  | .text _ => "string indices must be integers, not 'str'"
  | .list _ => "list indices must be integers or slices, not str"
  | .null => "'NoneType' object is not subscriptable"
  | .bool _ => "'bool' object is not subscriptable"
  | .int _ => "'int' object is not subscriptable"
  | .float _ => "'float' object is not subscriptable"
  | _ => "object is not subscriptable"

def message : Fault → String
  | storage e => e.message
  | transport text => text
  | refused response operation => refusalText response operation
  | missingMember name => Text.quoted name
  | notDictionary response => notDictionaryText response
  | unsignable method => s!"Cannot presign HTTP method {method}"
  | notInitialized =>
    "s3stream.cloud.s3.initialize() must be called before creating an S3Gateway"
  | nullInPath => "embedded null byte"
  | noPath => "expected str, bytes or os.PathLike object, not list"
  | noReadSize => "argument should be integer or None, not 'list'"
  | oversizedRead => "cannot fit 'int' into an index-sized integer"
  | oversizedBlock => "byte string is too large"
  | noRoom => ""
  | notKey kind => s!"unhashable type: '{kind}'"
  | other text => text

/-- The service's own words for a failed request: its message, else its code, else all the client
library has. Words that are void do not count. -/
def serviceMessage : Fault → String
  | refused response operation =>
    let words (name : String) : Option Value :=
      (errorMember? response name).filter fun v => !v.isVoid
    match (words "Message").or (words "Code") with
    | some v => v.render
    | none => refusalText response operation
  | f => f.message

end Fault

end ObjectStorage
