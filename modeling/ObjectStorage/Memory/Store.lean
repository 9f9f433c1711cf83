import ObjectStorage.Client

/-! An object store in memory: objects by key, and the parts of uploads that are not yet put
together. -/

namespace ObjectStorage

/-- A part that was kept for an upload. -/
structure KeptPart where
  uploadId : Value
  number : Int
  data : ByteArray

structure Memory where
  /-- How many uploads were created. -/
  created : Nat := 0
  kept : List KeptPart := []
  /-- The objects; no key occurs twice. -/
  objects : List (String × ByteArray) := []
  deriving Inhabited

namespace Memory

/-- The name of the `n`th upload. -/
def uploadName (n : Nat) : String := s!"upload-{n}"

/-- The tag of a part of this number. -/
def tag (number : Int) : String := "\"etag-" ++ toString number ++ "\""

def object? (m : Memory) (key : String) : Option ByteArray := m.objects.lookup key

def KeptPart.isAt (p : KeptPart) (id : Value) (number : Int) : Bool :=
  p.uploadId.sameKey id && p.number == number

/-- The data kept under an upload and a number; none if nothing was kept there. -/
def part (m : Memory) (id : Value) (number : Int) : ByteArray :=
  ((m.kept.find? fun p => KeptPart.isAt p id number).map (·.data)).getD .empty

/-- Keeps data under an upload and a number, in place of what was there. -/
def keep (m : Memory) (id : Value) (number : Int) (data : ByteArray) : Memory :=
  { m with kept := ⟨id, number, data⟩ :: m.kept.filter fun p => !KeptPart.isAt p id number }

/-- Removes the object at a key. -/
def erase (m : Memory) (key : String) : Memory :=
  { m with objects := m.objects.filter (·.1 != key) }

/-- Stores an object at a key, in place of what was there. -/
def store (m : Memory) (key : String) (data : ByteArray) : Memory :=
  { m with objects := (key, data) :: (m.erase key).objects }

/-- The kept data of parts, in the order of the list. -/
def assemble (m : Memory) (id : Value) (parts : List Part) : ByteArray :=
  parts.foldl (fun data p => data ++ m.part id p.number) .empty

/-- The store after a request that succeeds. -/
def next (m : Memory) : Request → Memory
  | .createUpload .. => { m with created := m.created + 1 }
  | .uploadPart _ _ id number data => m.keep id number data
  | .completeUpload _ key id parts => m.store key (m.assemble id parts)
  | .putObject _ key data _ => m.store key data
  | .deleteObject _ key => m.erase key
  | .abortUpload .. | .headObject .. | .signUrl .. => m

/-- What the store tells about an object. -/
def description (data : ByteArray) : Value :=
  .dict [(.text "ContentLength", .int data.size)]

/-- The address that the store makes up for a signed URL. -/
def signedUrl (bucket key parameter method : String) (expiry : Int) : String :=
  s!"https://signed.example.com/{bucket}/{key}?{parameter}={method}&expires={expiry}"

/-- An answer for which parts are looked up under the name of their upload, which must be a key. -/
def keyed (id answer : Value) : Except Fault Value :=
  match id.keylessKind? with
  | some kind => .error (.notKey kind)
  | none => .ok answer

/-- The answer to a request that puts an object together. -/
def completionReply (id : Value) (parts : List Part) : Except Fault Value :=
  if parts.isEmpty then .ok .null else keyed id .null

/-- What a gateway over the store answers. -/
def gatewayReply (m : Memory) : Request → Except Fault Value
  | .createUpload .. => .ok (.text (uploadName (m.created + 1)))
  | .uploadPart _ _ id number _ => keyed id (.text (tag number))
  | .completeUpload _ _ id parts => completionReply id parts
  | .headObject _ key =>
    match m.object? key with
    | some data => .ok (description data)
    | none => .error (.storage (.gateway "S3 head failed: Not Found"))
  | .signUrl bucket key method expiry => .ok (.text (signedUrl bucket key "method" method expiry))
  | .abortUpload .. | .putObject .. | .deleteObject .. => .ok .null

/-- The response for an object that is not there. -/
def notFound : Value :=
  .dict [(.text "Error",
    .dict [(.text "Code", .text "404"), (.text "Message", .text "Not Found")])]

/-- What a client of the store answers. -/
def clientReply (m : Memory) : Request → Except Fault Value
  | .createUpload .. =>
    .ok (.dict [(.text "UploadId", .text (uploadName (m.created + 1)))])
  | .uploadPart _ _ id number _ => keyed id (.dict [(.text "ETag", .text (tag number))])
  | .completeUpload _ _ id parts => completionReply id parts
  | .headObject _ key =>
    match m.object? key with
    | some data => .ok (description data)
    | none => .error (.refused notFound "HeadObject")
  | .signUrl bucket key operation expiry =>
    .ok (.text (signedUrl bucket key "op" operation expiry))
  | .abortUpload .. | .putObject .. | .deleteObject .. => .ok .null

/-- The store as a gateway; a request that fails changes nothing. -/
def gateway : Gateway Memory where
  answer r m :=
    match m.gatewayReply r with
    | .ok v => (.ok v, m.next r)
    | .error e => (.error e, m)

/-- The store as a client. -/
def client : Client Memory where
  answer call m :=
    match call with
    | .openSession | .connect _ => (.ok .null, m)
    | .request r =>
      match m.clientReply r with
      | .ok v => (.ok v, m.next r)
      | .error e => (.error e, m)

end Memory

end ObjectStorage
