import DocBuild.FilePath
import DocBuild.Text.Quoted
import DocBuild.Text.Utf8

/-!
# File trees

What is found at a path in a directory tree. A path is walked name by name: only a directory can be
walked through, `..` leads back, and a name that is too long for any directory cannot even be looked up.
For the system a name is octets: two names with the same octets are one, and a name without octets is none.
Nothing is known of what lies outside the tree except that it is made of directories.
-/

namespace DocBuild

/-- What is found at a path. -/
inductive PathEntry where
  | noFile
  | file (content : Bytes)
  /-- A file that cannot be opened for the given reason. -/
  | locked (reason : Text)
  /-- Even looking fails for the given reason. -/
  | unreachable (reason : Text)
deriving DecidableEq

/-- A file with its content, or a directory. -/
inductive FileNode where
  | file (content : Bytes)
  | directory
deriving DecidableEq

/-- The files and directories of a tree by their names from the top. A directory is also there if only
something in it is named. -/
abbrev FileTree := List (List Text × FileNode)

/-- A place that a walk has come to. -/
inductive Place where
  | inside (names : List Text)
  | outside

namespace FileTree

/-- The longest name in octets. -/
def maxName : Nat := 255

/-- The longest path in octets. -/
def maxPath : Nat := 4095

/-- The octets of a character of a name. The surrogates from U+DC80 on stand for single octets that are no
text; other surrogates have no octets. -/
def pointOctets? (c : CodePoint) : Option Bytes :=
  if c.val < 0xD800 || 0xE000 ≤ c.val then some (Utf8.encodePoint c)
  else if 0xDC80 ≤ c.val && c.val < 0xDD00 then some [UInt8.ofNat (c.val - 0xDC00)]
  else none

/-- The octets of a text for the system. -/
def octets? (t : Text) : Option Bytes := (t.mapM pointOctets?).map List.flatten

/-- The number of octets of a text for the system. -/
def size (t : Text) : Nat := ((octets? t).getD []).length

/-- The entry that says that a path or one of its names is too long. -/
def tooLong (path : FilePath) : PathEntry :=
  .unreachable ("[Errno 36] File name too long: " ++ path.toText.quoted)

/-- What is at the given names, if there is something. -/
def node? (tree : FileTree) (names : List Text) : Option FileNode :=
  let place := names.map octets?
  match tree.find? (fun e => e.1.map octets? = place) with
  | some entry => some entry.2
  | none =>
    if names.isEmpty || tree.any (fun e => place.isPrefixOf (e.1.map octets?)) then some .directory
    else none

/-- Whether a name leads back. -/
def isParent (name : Text) : Bool := name = ".."

/-- The place above a place. -/
def parent : Place → Place
  | .inside [] => .outside
  | .inside names => .inside names.dropLast
  | .outside => .outside

/-- Walks on from a place. -/
def walk (tree : FileTree) (path : FilePath) : Place → List Text → PathEntry
  | .outside, [] => .noFile
  | .outside, name :: rest =>
    if isParent name then walk tree path .outside rest
    else if maxName < size name then tooLong path
    else .noFile
  | .inside names, [] =>
    match tree.node? names with
    | some (.file content) => .file content
    | _ => .noFile
  | .inside names, name :: rest =>
    if tree.node? names = some .directory then
      if isParent name then walk tree path (parent (.inside names)) rest
      else if maxName < size name then tooLong path
      else walk tree path (.inside (names ++ [name])) rest
    else .noFile

/-- Whether a text cannot be handed to the system: it has no octets, or the null character, which ends a
path. -/
def isUnnameable (t : Text) : Bool := (octets? t).isNone || t.any (·.val = 0)

/-- What is at a path. A path that cannot be handed to the system is that of no file. -/
def entry (tree : FileTree) (path : FilePath) : PathEntry :=
  if path.names.any isUnnameable then .noFile
  else if maxPath < size path.toText then tooLong path
  else walk tree path (if path.root = .here then .inside [] else .outside) path.names

end FileTree

end DocBuild
