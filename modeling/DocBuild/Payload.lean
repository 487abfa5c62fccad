import DocBuild.Session
import DocBuild.Pdf.PageCount

/-!
# Reading payloads

The stream of a payload is read at most once with success; after the first attempt to read it, successful or
not, it is closed.
-/

namespace DocBuild

namespace Payload

/-- Whether the octets are still in a stream. -/
def isStream (p : Payload) : Bool :=
  match p.source with
  | .owned _ => false
  | .stream _ => true

/-- The payload with its octets read. -/
def owning (p : Payload) (data : Bytes) : Payload := { p with source := .owned data }

/-- Reads the octets, closing the stream they come from, and gives the payload that owns them. -/
def read (p : Payload) : Run (Bytes × Payload) :=
  match p.source with
  | .owned data => pure (data, p)
  | .stream id => do
    let data ← Run.andFinally (Run.readStream id) (Run.closeStream id)
    return (data, p.owning data)

/-- Closes the stream that a payload comes from. -/
def close (p : Payload) : Run Unit :=
  match p.source with
  | .owned _ => pure ()
  | .stream id => Run.closeStream id

/-- The octets as they are now, without closing the stream. -/
def peek (p : Payload) : Run Bytes :=
  match p.source with
  | .owned data => pure data
  | .stream id => Run.readStream id

/-- The payload with its octets, ready to be put into a form. -/
def attachment (p : Payload) (data : Bytes) : Attachment := ⟨p.filename, p.contentType, data⟩

/-- Reads the octets and counts the pages that they declare. -/
def countPages (p : Payload) : Run (Nat × Payload) := do
  let (data, p) ← p.read
  let count ← Run.ofExcept (Pdf.countPages data p.filename)
  return (count, p)

/-- Closes payloads one after the other. -/
def closeAll : List Payload → Run Unit
  | [] => pure ()
  | p :: rest => do
    p.close
    closeAll rest

end Payload

end DocBuild
