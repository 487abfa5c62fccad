import DocBuild.FileInput

/-!
# Payloads and their sources

A payload is a file made ready to travel: a name, a media type if one is known, and either the octets
themselves or an open stream.
-/

namespace DocBuild

/-- Where the octets of a payload come from. -/
inductive PayloadSource where
  | owned (data : Bytes)
  | stream (id : StreamId)
deriving DecidableEq

/-- A file made ready to travel. -/
structure Payload where
  source : PayloadSource
  filename : Json
  contentType : Json := .null

end DocBuild
