/-! The content type of an object, told from its key. -/

namespace ObjectStorage.ContentType

/-- What follows the last slash of a path, or the whole path. -/
def lastComponent (path : List Char) : List Char :=
  (path.reverse.takeWhile (· != '/')).reverse

/-- What follows the last dot of a name; a name without a dot has none. -/
def afterLastDot (name : List Char) : List Char :=
  if '.' ∈ name then (name.reverse.takeWhile (· != '.')).reverse else []

/-- The text after the last dot of the last component of a path. -/
def extension (path : String) : String :=
  String.ofList (afterLastDot (lastComponent path.toList))

/-- The types that are known by an extension, which counts letter case. -/
def known : List (String × String) := [
  ("jpg", "image/jpeg"),
  ("jpeg", "image/jpeg"),
  ("png", "image/png"),
  ("gif", "image/gif"),
  ("webp", "image/webp"),
  ("mp4", "video/mp4"),
  ("webm", "video/webm"),
  ("mp3", "audio/mpeg"),
  ("ogg", "audio/ogg"),
  ("pdf", "application/pdf"),
  ("json", "application/json")]

/-- The type of bytes of which nothing is known. -/
def fallback : String := "application/octet-stream"

/-- The content type of the object at a path. -/
def detect (path : String) : String :=
  (known.lookup (extension path)).getD fallback

end ObjectStorage.ContentType
