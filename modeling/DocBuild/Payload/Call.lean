import DocBuild.Payload

/-!
# Calls of payloads

A payload may be asked for its octets and for the number of its pages, and it may be closed, any number of times and in
any order. A call that fails leaves a payload that may be called again.
-/

namespace DocBuild

/-- What may be asked of a payload. -/
inductive PayloadCall where
  | read
  | close
  | count
deriving DecidableEq

/-- What a payload gives when it is asked. -/
inductive PayloadReply where
  | octets (data : Bytes)
  | closed
  | pages (count : Nat)
deriving DecidableEq

namespace Payload

/-- Reads the octets as far as they can be, and gives the payload as it is afterwards: it owns what was read. -/
def access (p : Payload) : Run (Except Fault Bytes × Payload) := do
  match ← Run.attempt p.read with
  | .ok (data, owner) => return (.ok data, owner)
  | .error fault => return (.error fault, p)

/-- What comes of a call, and the payload afterwards. Octets that were read are kept, whatever pages they declare. -/
def call (p : Payload) : PayloadCall → Run (Except Fault PayloadReply × Payload)
  | .read => do
    let (data, owner) ← p.access
    return (data.map .octets, owner)
  | .close => do
    let outcome ← Run.attempt p.close
    return (outcome.map fun _ => .closed, p)
  | .count => do
    let (data, owner) ← p.access
    return (data.bind fun data => (Pdf.countPages data owner.filename).map .pages, owner)

end Payload

end DocBuild
