import DocBuild.Url
import DocBuild.Fault

/-!
# File inputs

The ways in which a caller may give a file: a text that is an address or a path, a path, raw octets, an
input that says what it is, or an open stream. Anything else can be given too, but is no file.

An input is checked for its shape when it is registered, and obtained only when the build runs.
-/

namespace DocBuild

/-- The number of a stream in the table of streams. -/
abbrev StreamId := Nat

/-- What a caller gives as a file. -/
inductive FileInput where
  /-- An address if it is one, and a path otherwise. -/
  | text (value : Text)
  | path (path : FilePath)
  /-- A path whose file is there but cannot be opened for the given reason. -/
  | locked (path : FilePath) (reason : Text)
  | bytes (data : Bytes)
  | byteArray (data : Bytes)
  | byteView (data : Bytes)
  /-- A path, even if it looks like an address. -/
  | localFile (path : Json)
  | buffer (data : Bytes) (filename contentType : Json)
  | mutableBuffer (data : Bytes) (filename contentType : Json)
  /-- An address, even if it does not look like one. -/
  | remote (address : Json)
  /-- An open stream, with the name it bears if it has one. -/
  | stream (id : StreamId) (name : Option Json)
  /-- Something that looks like a stream but cannot be read. -/
  | inert
  | plain (value : Json)

namespace FileInput

/-- Whether an input has the shape of a file. -/
def isValid : FileInput → Bool
  | text value => !value.isEmpty
  | inert | plain _ => false
  | _ => true

/-- Whether an input is fetched from a remote address. -/
def isRemote : FileInput → Except UrlError Bool
  | remote _ => .ok true
  | text value => isUrl value
  | _ => .ok false

/-- The address that a value is. A value that does not count as given is the empty address. -/
def addressOf : Json → Except Fault Text
  | .str t => .ok t
  | value => if value.isGiven then .error (.notOffered value.kindName "decode") else .ok []

/-- The name by which messages call the kind of an input that is no file. -/
def kindName : FileInput → Text
  | inert => "Opaque"
  | plain value => value.kindName
  | text _ => "str"
  | _ => "file"

/-- The fault of an input that is no file. -/
def invalid (input : FileInput) : Fault :=
  .validation "Invalid file input provided" (some [("input_type", .str input.kindName)])

end FileInput

end DocBuild
