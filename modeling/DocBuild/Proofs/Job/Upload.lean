import DocBuild.Proofs.Build.Correspondence
import DocBuild.Proofs.Job.Account
import DocBuild.Proofs.Job.Asking
import DocBuild.Proofs.Job.Exchange
import DocBuild.Proofs.Job.Release
import DocBuild.Proofs.Service.Form

/-!
# What an execution uploads

In whatever order the files of a build are obtained, the request has under each key of the build what the input under
this key holds if it is obtained alone. Over HTTP the same files are sent in the same order, and no field has the key
of a file. So what a part or an action refers to is what was given for it.
-/

namespace DocBuild

open Run

variable {around : Surroundings} {session prepared after : Session}

/-- Under the keys of the entries, in their order, are files that hold in `prepared` what the inputs of the entries
hold in `session` if each is obtained alone. -/
def Uploads (connection : Connection) (around : Surroundings) (session : Session) (entries : List (Text × FileInput))
    (prepared : Session) (files : List (Text × Payload)) : Prop :=
  List.Forall₂ (fun (entry : Text × FileInput) (file : Text × Payload) => file.1 = entry.1 ∧
    (file.2.held.start around prepared).1 = ((Payload.sample connection entry.2).start around session).1) entries files

/-- Under the keys of the entries, in their order, is what the inputs of the entries hold if each is obtained alone. -/
def Samples (connection : Connection) (around : Surroundings) (session : Session) (entries : List (Text × FileInput))
    (sent : List (Text × Attachment)) : Prop :=
  List.Forall₂ (fun (entry : Text × FileInput) (file : Text × Attachment) => file.1 = entry.1 ∧
    ((Payload.sample connection entry.2).start around session).1 = .ok file.2) entries sent

namespace Uploads

variable {connection : Connection} {entries : List (Text × FileInput)} {files : List (Text × Payload)}

/-- The files have the keys of the entries, in their order. -/
theorem keys (h : Uploads connection around session entries prepared files) :
    files.map Prod.fst = entries.map Prod.fst := by
  induction h with
  | nil => rfl
  | cons hfile _ ih => rw [List.map_cons, List.map_cons, hfile.1, ih]

/-- If all files can be read, they hold what is to be sent. -/
theorem held (h : Uploads connection around session entries prepared files) {sent : List (Text × Attachment)}
    (hsent : Samples connection around session entries sent) :
    List.Forall₂ (fun file attachment => attachment.1 = file.1 ∧
      (file.2.held.start around prepared).1 = .ok attachment.2) files sent :=
  forall₂_comp h.flip hsent fun _ _ _ hfile hattachment =>
    ⟨hattachment.1.trans hfile.1.symm, hfile.2.trans hattachment.2⟩

end Uploads

/-- If the first report is completed, all files can be obtained and their streams are lent, the first step gives the
files to upload. No two of them come from the same stream. -/
theorem Execution.uploads_first {e : Execution} (hcompleted : (e.progressReport 1).isCompleted = true)
    (hfiles : ∀ entry ∈ e.build.files, Payload.Obtainable e.connection around entry.2)
    (hlends : session.Lends (e.build.files.map Prod.snd)) :
    ∃ files prepared, (e.step 1 e.prepare).start around session = (.ok files, prepared) ∧
      Uploads e.connection around session e.build.files prepared files ∧
      (files.map Prod.snd).Pairwise Payload.Apart := by
  have hlends' : (session.reporting (e.progressReport 1)).Lends (e.build.files.map Prod.snd) :=
    hlends.of_prefix List.prefix_rfl
  obtain ⟨payloads, prepared, hobtain, hheld, hapart⟩ :=
    Payload.start_obtainAll_held (List.forall_mem_map.mpr hfiles) hlends'
  have hlength : payloads.length = (e.build.files.map Prod.fst).length := by
    rw [← hheld.length_eq, List.length_map, List.length_map]
  have hsame (input : FileInput) :
      ((Payload.sample e.connection input).start around (session.reporting (e.progressReport 1))).1 =
        ((Payload.sample e.connection input).start around session).1 := Payload.sample_congr fun _ _ _ => rfl
  refine ⟨(e.build.files.map Prod.fst).zip payloads, prepared, ?_, ?_, ?_⟩
  · rw [start_step hcompleted]
    exact start_bind_of_ok hobtain _
  · exact forall₂_zip (hheld.imp fun input p hp => hp.trans (hsame input))
  · rwa [List.map_snd_zip (Nat.le_of_eq hlength)]

/-- Surroundings with a file at every path, where the last input is obtained first. -/
def Surroundings.backwards : Surroundings :=
  { Surroundings.empty with
    entry := fun _ => .file [97]
    schedule := { Schedule.inOrder with
      inputs := fun n => (List.range n).reverse
      inputs_perm := fun n => List.reverse_perm (List.range n) } }

/-- What is to be sent under the three keys. -/
def stampedFiles : List (Text × Attachment) :=
  [(Text.ofString "file0", ⟨.str "a.pdf", .null, [97]⟩),
   (Text.ofString "file1", ⟨.str Payload.bufferName, .null, [105]⟩),
   (Text.ofString "file2", ⟨.str Payload.streamName, .null, [120]⟩)]

end DocBuild
