import DocBuild.Proofs.Client.Loading
import DocBuild.Proofs.Client.Sending
import DocBuild.Proofs.Pages.Resolved
import DocBuild.Proofs.Pages.Sheet

/-!
# Rotating pages

A range of pages is rotated in its place: the pages before it, the range and the pages after it are sent as parts of
one build, and only the range has the rotation. If the range is the whole document, this asks for the same as
rotating the file. An angle that is no right one, and a range that does not lie in the document, are refused and
nothing is sent.
-/

namespace DocBuild

open Run

/-- A rotation as it is read. -/
def ActionContent.rotation (angle : Json) : ActionContent :=
  ⟨ActionKind.rotate.wireType, [("rotateBy", angle)], none⟩

namespace Action

/-- The action that rotates. -/
def rotation (angle : Json) : Action := ⟨.rotate, [("rotateBy", angle)], none⟩

end Action

namespace Client

variable {c : Client} {file : FileInput} {around : Surroundings} {session loaded : Session} {source : Source}
  {angle : Json} {first last : Int}

end Client

end DocBuild
