import DocBuild.Deflate.Format
import DocBuild.Text.Blank

/-!
# Content codings

The body of an answer may be compressed, even several times. Its header lists the codings in the order in
which they were applied; names that are not known are passed over.
-/

namespace DocBuild

/-- The known codings. -/
inductive ContentCoding where
  | deflate
  | gzip
deriving DecidableEq

namespace ContentCoding

/-- The coding of a name, in any case. -/
def ofName? (name : Text) : Option ContentCoding :=
  let name := Text.lowerAscii (Text.trim name)
  if name = "deflate" then some deflate else if name = "gzip" then some gzip else none

/-- The octets that a body in a coding stands for. Under the name `deflate` the bare format is taken where the
one with a header does not fit. -/
def decode (body : Bytes) : ContentCoding → Except Deflate.Flaw Bytes
  | gzip => Deflate.Format.gzip.decode body
  | deflate =>
    match Deflate.Format.zlib.decode body with
    | .ok content => .ok content
    | .error _ => Deflate.Format.bare.decode body

/-- The octets that a body in a list of codings stands for; the last coding is taken off first. -/
def decodeAll (codings : Text) (body : Bytes) : Except Deflate.Flaw Bytes :=
  ((Text.splitAt (CodePoint.ofChar ',') codings).filterMap ofName?).reverse.foldlM decode body

end ContentCoding

end DocBuild
