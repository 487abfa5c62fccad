import DocBuild.Proofs.Client.SingleBuild
import DocBuild.Proofs.Job.Analysing
import DocBuild.Proofs.Job.Upload

/-!
# Putting files one after the other

Files are merged by one build that has a part for each of them, in the order in which they are given. Each file is
registered under the key with the number of its place, the part at this place refers to the key, and what is uploaded
under the key is what the file holds, in whatever order the files are obtained. What cannot be merged is refused while
the build is drafted, before anything is opened, fetched or sent: fewer than two files, a format that is not offered, or
something without the shape of a file at any place.
-/

namespace DocBuild

open Run

variable {around : Surroundings} {session : Session}

namespace Output

/-- Page images in a format, as they are made when files are converted. -/
def pageImages (format : Text) : Output := ⟨.image, [("format", .str format), ("dpi", .int 300)]⟩

/-- The formats that files can be converted to, in small letters, with the output that each of them asks for. -/
def targets : List (Text × Output) :=
  [("pdf", ⟨.pdf, []⟩), ("pdfa", ⟨.pdfa, []⟩), ("pdfua", ⟨.pdfua, []⟩), ("docx", ⟨.docx, []⟩), ("xlsx", ⟨.xlsx, []⟩),
   ("pptx", ⟨.pptx, []⟩), ("png", pageImages "png"), ("jpeg", pageImages "jpeg"), ("jpg", pageImages "jpg"),
   ("webp", pageImages "webp"), ("html", ⟨.html, [("layout", .str "page")]⟩), ("markdown", ⟨.markdown, []⟩)]

/-- A format asks for the output of its name in small letters, and is refused if there is none. -/
theorem ofTargetName_eq (format : Text) :
    ofTargetName format = match targets.lookup (Text.lowered format) with
      | some output => .ok output
      | none => .error (.targetFormat format) := by
  unfold ofTargetName
  generalize Text.lowered format = target
  dsimp only
  by_cases htarget : target ∈ targets.map Prod.fst
  · simp only [targets, List.map_cons, List.map_nil, List.mem_cons, List.not_mem_nil, or_false] at htarget
    rcases htarget with rfl | rfl | rfl | rfl | rfl | rfl | rfl | rfl | rfl | rfl | rfl | rfl <;> rfl
  · have hne {name : Text} (hname : name ∈ targets.map Prod.fst) : target ≠ name := fun h => htarget (h ▸ hname)
    have hlookup {α : Type} {known : List (Text × α)} (h : ∀ name ∈ known.map Prod.fst, name ∈ targets.map Prod.fst) :
        known.lookup target = none := by
      rw [List.lookup_eq_none_iff]
      exact fun entry hentry => bne_iff_ne.mpr (hne (h _ (List.mem_map_of_mem hentry)))
    have hoffice : officeFormats.find? (·.name = target) = none := by
      rw [List.find?_eq_none]
      have hnames : ∀ type ∈ officeFormats, type.name ∈ targets.map Prod.fst := by decide
      exact fun type htype hname => hne (hnames type htype) (of_decide_eq_true hname).symm
    have himage : imageMediaTypes.lookup target = none := hlookup (by decide)
    rw [hlookup fun _ h => h, hoffice, himage, if_neg (hne (by decide)), if_neg (hne (by decide)),
      if_neg (hne (by decide)), if_neg (hne (by decide)), if_neg (hne (by decide))]
    rfl

end Output

/-- The instruction for a file with the number `n`, as a whole. -/
def Draft.fileNode (n : Nat) : Members := .single "file" (.str ("file" ++ Text.ofNat n))

/-- The build of files, each as a whole: the part at a place refers to the key of this place, under which the file is
enclosed. -/
def Build.ofFiles (files : List FileInput) (output : Output) : Build where
  instructions :=
    [("parts", .arr ((files.mapIdx fun i _ => Draft.fileNode i).map .obj)), ("output", output.toJson)]
  files := files.mapIdx fun i file => ("file" ++ Text.ofNat i, file)

/-- The build of files encloses the files, in their order. -/
theorem Build.inputs_ofFiles (files : List FileInput) (output : Output) :
    (Build.ofFiles files output).files.map Prod.snd = files :=
  List.ext_getElem (by simp [ofFiles]) fun i _ _ => by simp [ofFiles]

namespace Draft

/-- The calls that add files as parts. -/
def addFiles (files : List FileInput) : List DraftCall := (files.map Part.ofFile).map .addPart

/-- Files that are added as parts refer to the next keys, one after the other. -/
theorem parts_applyAll_addFiles (draft : Draft) (files : List FileInput) :
    (draft.applyAll (addFiles files)).parts = draft.parts ++ files.mapIdx fun i _ => fileNode (draft.nextKey + i) := by
  induction files generalizing draft with
  | nil => exact (List.append_nil draft.parts).symm
  | cons file rest ih =>
    let added := (DraftCall.addPart (.ofFile file)).apply draft
    have hparts : added.parts = draft.parts ++ [fileNode draft.nextKey] := rfl
    have hnext : added.nextKey = draft.nextKey + 1 := rfl
    have hplace (i : Nat) : draft.nextKey + 1 + i = draft.nextKey + (i + 1) := by omega
    have hrest := ih added
    simp only [hparts, hnext, hplace, List.append_assoc] at hrest
    rw [List.mapIdx_cons]
    exact hrest

/-- Adding files as parts adds no action on the document. -/
theorem actions_applyAll_addFiles (draft : Draft) (files : List FileInput) :
    (draft.applyAll (addFiles files)).actions = draft.actions := by
  induction files generalizing draft with
  | nil => rfl
  | cons file rest ih => exact ih _

/-- The draft of at least one file is built as the build of the files. -/
theorem compile_ofParts_ofFile {files : List FileInput} (hfiles : files ≠ []) (output : Output) :
    (ofParts (files.map Part.ofFile) output).compile = .ok (Build.ofFiles files output) := by
  have hparts : (ofParts (files.map Part.ofFile) output).parts = files.mapIdx fun i _ => fileNode i := by
    have hall := parts_applyAll_addFiles {} files
    simp only [List.nil_append, Nat.zero_add] at hall
    exact hall
  have hactions : (ofParts (files.map Part.ofFile) output).actions = [] := actions_applyAll_addFiles {} files
  have henclosed : (ofParts (files.map Part.ofFile) output).files =
      files.mapIdx fun i file => ("file" ++ Text.ofNat i, file) := by
    have hfile : (files.map Part.ofFile).flatMap Part.enclosures = files.map (Enclosure.mk .file) := by
      rw [List.flatMap_map, List.map_eq_flatMap]
      rfl
    rw [files_ofParts, hfile]
    refine List.ext_getElem (by simp) fun i _ _ => ?_
    simp [numbered, Enclosure.key, KeyTag.text]
  obtain ⟨file, rest, rfl⟩ := List.exists_cons_of_ne_nil hfiles
  unfold compile Build.ofFiles
  rw [hparts, henclosed, documentActions, hactions]
  simp only [List.mapIdx_cons]
  rfl

end Draft

/-- A file as a part is refused as the file is. -/
theorem Part.refusal?_ofFile (file : FileInput) : (Part.ofFile file).refusal? = file.refusal? :=
  Option.or_none

namespace HttpTransport

variable {t : HttpTransport} {request : Request Payload} {instructions : Members} {prepared after : Session}
  {reply : Except Fault Answer} {key url : Text} {sent : List (Text × Attachment)}

/-- Over HTTP a request with instructions and files that can all be read is sent as a form: it has the files as what
they hold, and the JSON text of the instructions as its only field. -/
theorem sent_form (h : t.transport.Exchanges around prepared [⟨request, reply⟩] after)
    (hdata : request.data = .obj (Members.single "instructions" (.obj instructions))) (hfiles : request.attached ≠ [])
    (hkey : t.key.resolve = .ok key) (haddress : t.address request.endpoint = .ok url)
    (hapart : (request.attached.map Prod.snd).Pairwise Payload.Apart)
    (hheld : List.Forall₂ (fun file attachment => attachment.1 = file.1 ∧
      (file.2.held.start around prepared).1 = .ok attachment.2) request.attached sent) :
    after.sent = prepared.sent ++
      [.request (t.message key url request (.form sent [("instructions", (Json.obj instructions).compact)]))] := by
  obtain ⟨reached, hattachments, -⟩ := start_attachments hapart hheld
  have hform : ((body request).start around prepared).1 =
      .ok (.form sent [("instructions", (Json.obj instructions).compact)]) := by
    rw [start_body_of_attached hdata hfiles, hattachments]
    rfl
  have hposts : t.Posts request around prepared _ := ⟨key, url, _, hkey, haddress, hform, rfl⟩
  exact hposts.sent_of_exchanges h

end HttpTransport

namespace Client

variable {c : Client} {fault : Fault}

/-- The first part that is refused refuses all parts. -/
theorem perform_addParts_of_refused {parts : List Part} (h : parts.findSome? Part.refusal? = some fault) {job : Job}
    (hunused : job.executed = false) : ∃ after, job.perform (addParts parts) = (.error fault, after) := by
  induction parts generalizing job with
  | nil => contradiction
  | cons part rest ih =>
    unfold addParts
    rw [List.findSome?_cons] at h
    cases hpart : part.refusal? with
    | some raised =>
      rw [hpart] at h
      cases h
      exact ⟨_, Job.perform_bind_of_error (Job.perform_addPart_of_refused hunused hpart) _⟩
    | none =>
      rw [hpart] at h
      let added : Job := { job with draft := (DraftCall.addPart part).apply job.draft }
      obtain ⟨after, hrest⟩ := @ih h added hunused
      exact ⟨after, (Job.perform_bind_of_ok (Job.perform_addPart hunused hpart) _).trans hrest⟩

/-- There is no execution of parts one of which is refused. -/
theorem execution_of_refused {parts : List Part} (h : parts.findSome? Part.refusal? = some fault)
    (actions : List Action) (output : Output) : c.execution parts actions output = .error fault := by
  obtain ⟨after, hadd⟩ := @perform_addParts_of_refused _ _ h (c.newJob .null) rfl
  unfold execution
  dsimp only
  rw [Job.perform_bind_of_error hadd]

variable {files : List FileInput} {format : Text} {output : Output}

/-- Fewer than two files are not merged. -/
theorem start_merge_of_few (hfew : files.length < 2) (format : Json) :
    (c.merge files format).start around session =
      (.error (.validation "At least 2 files are required for merge operation" none), session) := by
  unfold merge
  rw [if_pos hfew]
  rfl

/-- At least two files are merged by the build of their parts, if the format is offered. -/
theorem start_merge (hseveral : 2 ≤ files.length) (format : Text) :
    (c.merge files (.str format)).start around session =
      match Output.targets.lookup (Text.lowered format) with
      | some output => (c.build (files.map .ofFile) [] output).start around session
      | none => (.error (OutputError.targetFormat format).toFault, session) := by
  unfold merge
  rw [if_neg (Nat.not_lt.mpr hseveral), Output.ofTargetFormat, Output.ofTargetName_eq]
  cases Output.targets.lookup (Text.lowered format) <;> rfl

/-- If one of the files has not the shape of a file, their build is refused as it is drafted. -/
theorem start_build_of_invalid (hinvalid : ∃ file ∈ files, file.isValid = false) (output : Output) :
    ∃ fault, (c.build (files.map .ofFile) [] output).start around session = (.error fault, session) ∧
      fault.isValidation = true := by
  have hparts : (files.map Part.ofFile).findSome? Part.refusal? = files.findSome? FileInput.refusal? := by
    rw [List.findSome?_map]
    exact congrArg (files.findSome? ·) (funext Part.refusal?_ofFile)
  cases hrefused : files.findSome? FileInput.refusal? with
  | none =>
    obtain ⟨file, hfile, hshape⟩ := hinvalid
    rw [List.all_eq_true.mp (FileInput.findSome?_refusal?_eq_none_iff.mp hrefused) file hfile] at hshape
    contradiction
  | some fault =>
    obtain ⟨file, -, hfault⟩ := List.exists_of_findSome?_eq_some hrefused
    exact ⟨fault, start_build_of_error (execution_of_refused (hparts.trans hrefused) [] output),
      FileInput.isValidation_of_refusal? hfault⟩

/-- **Merging keeps every file, once, in order.** Fewer than two files, a format that is not offered, or something
without the shape of a file at any place are refused as an error of the caller, with nothing opened, fetched or sent.
Otherwise, if all files can be obtained and no stream is given twice, merging sends one request, whatever is answered:
the build of the files in the output that the format asks for, with what each file holds under the key of its place.
Over HTTP the files are in the same order in the only message that is sent to the service. -/
theorem merge_keeps_each_file (c : Client) (files : List FileInput) (format : Text) (around : Surroundings)
    (session : Session) :
    ((files.length < 2 ∨ Output.targets.lookup (Text.lowered format) = none ∨ ∃ file ∈ files, file.isValid = false) →
      ∃ fault, (c.merge files (.str format)).start around session = (.error fault, session) ∧
        fault.isValidation = true) ∧
    ∀ output, Output.targets.lookup (Text.lowered format) = some output → 2 ≤ files.length →
      (∀ file ∈ files, file.isValid = true) → session.Lends files →
      (∀ file ∈ files, ∃ session payload after,
        (Payload.obtain c.connection file).start around session = (.ok payload, after)) →
      ∃ request uploads prepared reply outcome after,
        (c.merge files (.str format)).start around session = (outcome, after) ∧
        c.transport.Exchanges around prepared [⟨request, reply⟩] after ∧
        after.dispatched = session.dispatched ++ [request] ∧
        request.endpoint = .str Execution.endpoint ∧
        request.data = .obj (Members.single "instructions" (Build.ofFiles files output).tree) ∧
        request.files = some uploads ∧
        Uploads c.connection around session (Build.ofFiles files output).files prepared uploads ∧
        ∀ (t : HttpTransport) (key url : Text) (sent : List (Text × Attachment)), c.transport = t.transport →
          t.key.resolve = .ok key → t.address (.str Execution.endpoint) = .ok url →
          Samples c.connection around session (Build.ofFiles files output).files sent →
          ∃ message, after.requests = session.requests ++ [message] ∧ message.url = url ∧
            message.body = .form sent [("instructions", (Build.ofFiles files output).tree.compact)] := by
  constructor
  · intro hrefused
    by_cases hfew : files.length < 2
    · exact ⟨_, start_merge_of_few hfew _, rfl⟩
    · rw [start_merge (Nat.not_lt.mp hfew)]
      cases hformat : Output.targets.lookup (Text.lowered format) with
      | none => exact ⟨_, rfl, rfl⟩
      | some output =>
        obtain hfew' | hformat' | hinvalid := hrefused
        · exact absurd hfew' hfew
        · cases hformat.symm.trans hformat'
        · exact start_build_of_invalid hinvalid output
  · intro output hformat hseveral hvalid hlends hobtain
    have hfiles : files ≠ [] := fun hnil => by simp [hnil] at hseveral
    have haccepted : ∀ part ∈ files.map Part.ofFile, part.refusal? = none := by
      refine List.forall_mem_map.mpr fun file hfile => ?_
      rw [Part.refusal?_ofFile, FileInput.refusal?_eq_none_iff]
      exact hvalid file hfile
    have hplain : ∀ part ∈ files.map Part.ofFile, ∀ action ∈ part.actions, action.isPlain :=
      List.forall_mem_map.mpr fun file _ action haction => absurd haction List.not_mem_nil
    obtain ⟨e, hexecution, hbuild, hcallback, hconnection, htransport, houtput⟩ :=
      execution_of_accepted (c := c) (by simpa using hfiles) haccepted hplain output
    have hserves : Build.ofFiles files output = e.build :=
      Except.ok.inj ((Draft.compile_ofParts_ofFile hfiles output).symm.trans hbuild)
    have hinputs : e.build.files.map Prod.snd = files := by
      rw [← hserves]
      exact Build.inputs_ofFiles files output
    have hobtainable : ∀ entry ∈ e.build.files, Payload.Obtainable e.connection around entry.2 := by
      intro entry hentry
      obtain ⟨_, _, _, hstart⟩ := hobtain entry.2 (hinputs ▸ List.mem_map_of_mem hentry)
      rw [hconnection]
      exact Payload.obtainable_of_start hstart
    have hcalm := Execution.isCalm_of_callback hcallback
    obtain ⟨uploads, prepared, hfirst, huploads, hapart⟩ :=
      Execution.uploads_first (hcalm.isCompleted 1) hobtainable (hinputs.symm ▸ hlends)
    obtain ⟨reply, hexchanges⟩ := Execution.exchanges_run hfirst (hcalm.isCompleted 2)
    obtain ⟨outcome, -, hrun, -, -⟩ := Execution.run_ends hcalm around session
    have hmerge : (c.merge files (.str format)).start around session =
        (outcome.toExcept, (e.run.start around session).2) := by
      rw [start_merge hseveral, hformat]
      exact start_build_of_ok hexecution (Prod.ext hrun rfl)
    have hdispatched := hexchanges.dispatched
    rw [(Execution.adds_first hfirst).dispatched, List.append_nil] at hdispatched
    rw [htransport] at hexchanges
    have hdata : (e.request uploads).data = .obj (Members.single "instructions" (Build.ofFiles files output).tree) := by
      rw [hserves]
      rfl
    rw [hconnection, ← hserves] at huploads
    refine ⟨e.request uploads, uploads, prepared, reply, outcome.toExcept, _, hmerge, hexchanges, hdispatched, rfl,
      hdata, rfl, huploads, fun t key url sent ht hkey haddress hsamples => ?_⟩
    have hattached : (e.request uploads).attached ≠ [] := by
      intro hnil
      have hlength := List.Forall₂.length_eq huploads
      rw [show uploads = [] from hnil, Build.ofFiles, List.length_mapIdx, List.length_nil] at hlength
      omega
    rw [ht] at hexchanges
    have hsent := HttpTransport.sent_form hexchanges hdata hattached hkey haddress hapart (huploads.held hsamples)
    have hkept := e.keeps_requests_first around session
    rw [hfirst] at hkept
    have hrequests := Session.requests_of_sent hsent
    rw [hkept] at hrequests
    exact ⟨_, hrequests, rfl, rfl⟩

/-- A client with a key. -/
def keyedClient : Client := ⟨HttpTransport.plain.transport, .own, .null⟩

/-- A local file, octets and a stream. -/
def mixedFiles : List FileInput := [.localFile (.str "a.pdf"), .bytes [105], .stream 0 none]

/-- The files are obtained backwards and merged in their order, into page images that are named in capital letters. A
number in the last place is refused. -/
theorem mixedFiles_merged :
    (Output.targets.lookup (Text.lowered "PNG") = some (Output.pageImages "png") ∧ 2 ≤ mixedFiles.length ∧
      (∀ file ∈ mixedFiles, file.isValid = true) ∧ streamSession.Lends mixedFiles) ∧
    (∃ outcome after message,
      (keyedClient.merge mixedFiles (.str "PNG")).start .backwards streamSession = (outcome, after) ∧
      after.requests = [message] ∧
      message.body = .form stampedFiles [("instructions", (Json.obj
        [("parts", .arr [.obj [("file", .str "file0")], .obj [("file", .str "file1")], .obj [("file", .str "file2")]]),
         ("output", .obj [("type", .str "image"), ("format", .str "png"), ("dpi", .int 300)])]).compact)]) ∧
    ∃ fault, (keyedClient.merge (mixedFiles ++ [.plain (.int 5)]) (.str "PNG")).start .backwards streamSession =
        (.error fault, streamSession) ∧ fault.isValidation = true := by
  have hformat : Output.targets.lookup (Text.lowered "PNG") = some (Output.pageImages "png") := by rfl
  have hvalid : ∀ file ∈ mixedFiles, file.isValid = true := by decide
  have hlends : streamSession.Lends mixedFiles := by
    have hlast : ∀ i id name, mixedFiles[i]? = some (.stream id name) → i = 2 ∧ id = 0 := by
      rintro (_ | _ | _ | i) id name hi <;> cases hi
      exact ⟨rfl, rfl⟩
    refine ⟨fun id name hid => ?_, fun i j id name name' hi hj => ?_⟩
    · obtain ⟨i, hi⟩ := List.mem_iff_getElem?.mp hid
      rw [(hlast i id name hi).2]
      exact Nat.zero_lt_one
    · rw [(hlast i id name hi).1, (hlast j id name' hj).1]
  have hobtain : ∀ file ∈ mixedFiles, ∃ session payload after,
      (Payload.obtain .own file).start .backwards session = (.ok payload, after) :=
    List.forall_mem_cons.mpr ⟨⟨{}, _, _, rfl⟩, List.forall_mem_cons.mpr ⟨⟨{}, _, _, rfl⟩,
      List.forall_mem_singleton.mpr ⟨{}, _, _, rfl⟩⟩⟩
  have hsamples : Samples .own .backwards streamSession (Build.ofFiles mixedFiles (Output.pageImages "png")).files
      stampedFiles := .cons ⟨rfl, rfl⟩ (.cons ⟨rfl, rfl⟩ (.cons ⟨rfl, rfl⟩ .nil))
  obtain ⟨-, hmerges⟩ := merge_keeps_each_file keyedClient mixedFiles "PNG" .backwards streamSession
  obtain ⟨-, -, -, -, outcome, after, hmerge, -, -, -, -, -, -, hhttp⟩ :=
    hmerges _ hformat (by decide) hvalid hlends hobtain
  obtain ⟨message, hrequests, -, hbody⟩ := hhttp _ _ _ _ rfl rfl rfl hsamples
  obtain ⟨hrefused, -⟩ :=
    merge_keeps_each_file keyedClient (mixedFiles ++ [.plain (.int 5)]) "PNG" .backwards streamSession
  exact ⟨⟨hformat, by decide, hvalid, hlends⟩, ⟨outcome, after, message, hmerge, hrequests, hbody⟩,
    hrefused (.inr (.inr ⟨_, List.mem_append_right _ List.mem_cons_self, rfl⟩))⟩

end Client

end DocBuild
