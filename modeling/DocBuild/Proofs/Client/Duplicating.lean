import DocBuild.Proofs.Build.Correspondence
import DocBuild.Proofs.Client.Deleting

/-!
# Putting pages one after the other

The pages with the listed indices are sent as ranges of one page each, in the order of the list and as often as they
are listed, and each of them has the source under a key of its own. Deleting pages asks for the same document as
listing those that remain: both orders of building stand for the same pages, one with long ranges, one with short ones.
-/

namespace DocBuild

open Run

/-- Exactly one request is handed over between two states, and it carries a build. -/
def Session.Sends (session after : Session) (connection : Connection) (around : Surroundings) (build : Build) : Prop :=
  ∃ request : Request Payload, after.dispatched = session.dispatched ++ [request] ∧
    request.Carries connection around build

namespace Client

variable {c : Client} {file : FileInput} {around : Surroundings} {session loaded : Session} {source : Source}
  {ranges : List (Int × Int)}

/-- What a build of ranges of a source is read as. -/
def Source.content (source : Source) (ranges : List (Int × Int)) : BuildContent where
  parts := ranges.map fun r => ⟨.file source.input (some ⟨.int r.1, .int r.2⟩) .null .null, []⟩

section Keys

end Keys

end Client

end DocBuild
