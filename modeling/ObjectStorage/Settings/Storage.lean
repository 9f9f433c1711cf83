import ObjectStorage.Settings.Schema

/-! The settings of a storage: where objects are kept, with what credentials, and how they are
addressed. -/

namespace ObjectStorage

structure Settings where
  bucket : String
  region : String
  accessKeyId : String
  secretAccessKey : String
  /-- The address of a service other than the usual one; empty for the usual one. -/
  endpoint : String
  /-- What every key begins with, before a slash. -/
  pathPrefix : String
  /-- The bucket is named in the path of an address, not in its host. -/
  usePathStyle : Bool
  /-- Files are reached by plain URLs, not by signed ones. -/
  usePublicUrls : Bool
  /-- Files are reached by their keys alone; this comes before plain URLs. -/
  usePathOnly : Bool
  /-- How long a signed URL stays valid. -/
  expirySeconds : Int
  deriving DecidableEq, Repr

namespace Settings

def schema : Schema where
  name := "StorageConfig"
  fields := [
    { name := "bucket", type := .text, default := .text "" },
    { name := "region", type := .text, default := .text "us-east-1" },
    { name := "access_key_id", type := .text, default := .text "" },
    { name := "secret_access_key", type := .text, default := .text "" },
    { name := "endpoint", type := .text, default := .text "" },
    { name := "path_prefix", type := .text, default := .text "" },
    { name := "use_path_style", type := .flag, default := .bool false },
    { name := "use_public_urls", type := .flag, default := .bool false },
    { name := "use_path_only", type := .flag, default := .bool false },
    { name := "presigned_url_expiry_seconds", type := .positive, default := .int 3600 }]

/-- The text under a name. -/
def textAt (values : List (String × Value)) (name : String) : String :=
  match values.lookup name with
  | some (.text s) => s
  | _ => ""

/-- The flag under a name. -/
def flagAt (values : List (String × Value)) (name : String) : Bool :=
  match values.lookup name with
  | some (.bool b) => b
  | _ => false

/-- The integer under a name. -/
def integerAt (values : List (String × Value)) (name : String) : Int :=
  match values.lookup name with
  | some (.int n) => n
  | _ => 0

/-- The settings that values read against the schema make up. -/
def ofValues (values : List (String × Value)) : Settings where
  bucket := textAt values "bucket"
  region := textAt values "region"
  accessKeyId := textAt values "access_key_id"
  secretAccessKey := textAt values "secret_access_key"
  endpoint := textAt values "endpoint"
  pathPrefix := textAt values "path_prefix"
  usePathStyle := flagAt values "use_path_style"
  usePublicUrls := flagAt values "use_public_urls"
  usePathOnly := flagAt values "use_path_only"
  expirySeconds := integerAt values "presigned_url_expiry_seconds"

/-- The value of every field, in the order of the schema. -/
def values (s : Settings) : List (String × Value) := [
  ("bucket", .text s.bucket),
  ("region", .text s.region),
  ("access_key_id", .text s.accessKeyId),
  ("secret_access_key", .text s.secretAccessKey),
  ("endpoint", .text s.endpoint),
  ("path_prefix", .text s.pathPrefix),
  ("use_path_style", .bool s.usePathStyle),
  ("use_public_urls", .bool s.usePublicUrls),
  ("use_path_only", .bool s.usePathOnly),
  ("presigned_url_expiry_seconds", .int s.expirySeconds)]

def read (entries : Entries) : Except SettingsError Settings :=
  (schema.read entries).map ofValues

/-- A storage can be used only with a bucket and both credentials. -/
def isEnabled (s : Settings) : Bool :=
  !s.bucket.isEmpty && !s.accessKeyId.isEmpty && !s.secretAccessKey.isEmpty

end Settings

end ObjectStorage
