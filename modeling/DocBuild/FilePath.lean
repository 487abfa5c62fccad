import DocBuild.Text.Basic

/-!
# File paths

A path is a root and a list of names. Empty names and `.` vanish when a path is read; `..` stays. One
leading slash or more than two make the ordinary root, and exactly two a root of their own.
-/

namespace DocBuild

/-- What a path starts from. -/
inductive PathRoot where
  | here
  | slash
  | doubleSlash
deriving DecidableEq

/-- A path in normal form. -/
structure FilePath where
  root : PathRoot
  names : List Text
deriving DecidableEq

namespace FilePath

/-- The slash that separates names. -/
def slash : CodePoint := CodePoint.ofChar '/'

/-- The root that the leading slashes of a text stand for. -/
def rootOf (t : Text) : PathRoot :=
  match (t.takeWhile (· = slash)).length with
  | 0 => .here
  | 2 => .doubleSlash
  | _ => .slash

/-- Whether a piece between slashes is a name. -/
def isName (piece : Text) : Bool := !(piece.isEmpty || piece = ".")

/-- Reads a path. -/
def ofText (t : Text) : FilePath := ⟨rootOf t, (Text.splitAt slash t).filter isName⟩

/-- The text of a root. -/
def rootText : PathRoot → Text
  | .here => []
  | .slash => "/"
  | .doubleSlash => "//"

/-- The text of a path; that of the empty path is a point. -/
def toText (p : FilePath) : Text :=
  match p.root, p.names with
  | .here, [] => "."
  | root, names => rootText root ++ Text.join [slash] names

/-- The last name of a path, or the empty text if there is none. -/
def name (p : FilePath) : Text := p.names.getLast?.getD []

example : (ofText "a//b/./c/").toText = "a/b/c" := by decide

example : (ofText "///x/..").toText = "/x/.." := by decide

end FilePath

end DocBuild
