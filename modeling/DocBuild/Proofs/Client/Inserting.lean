import DocBuild.Proofs.Client.Loading
import DocBuild.Proofs.Client.Sending
import DocBuild.Proofs.Pages.Sheet

/-!
# Inserting blank pages

Blank pages go before the page with an index, and the pages of the source stay as they are around them. At the end of
the source the place needs no index: the file is sent as it was given and its pages are not counted. There are at
least one blank page and a place for it, or nothing is sent.
-/

namespace DocBuild

open Run

namespace Client

variable {c : Client} {file : FileInput} {around : Surroundings} {session loaded : Session} {source : Source}
  {count index : Int}

end Client

end DocBuild
