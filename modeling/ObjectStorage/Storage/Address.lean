import ObjectStorage.Settings.Storage

/-! Keys and plain URLs of objects, as the settings of a storage make them. -/

namespace ObjectStorage

/-- An endpoint without the scheme in front of it; only one scheme is taken off. -/
def stripScheme (endpoint : String) : String :=
  let rest (scheme : String) : Option String :=
    if endpoint.startsWith scheme then some (endpoint.drop scheme.length).toString else none
  ((rest "https://").or (rest "http://")).getD endpoint

namespace Settings

/-- The key of an object in its bucket. -/
def fullKey (s : Settings) (key : String) : String :=
  if s.pathPrefix.isEmpty then key else s!"{s.pathPrefix}/{key}"

/-- The URL of an object that anyone may read. -/
def publicUrl (s : Settings) (key : String) : String :=
  let path := s.fullKey key
  if s.endpoint.isEmpty then s!"https://{s.bucket}.s3.{s.region}.amazonaws.com/{path}"
  else if s.usePathStyle then s!"{s.endpoint}/{s.bucket}/{path}"
  else s!"https://{s.bucket}.{stripScheme s.endpoint}/{path}"

end Settings

end ObjectStorage
