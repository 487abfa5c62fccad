import DocBuild.Client
import DocBuild.Proofs.Build.Lossless
import DocBuild.Proofs.Job.Account
import DocBuild.Proofs.Job.Exchange
import DocBuild.Proofs.Payload.Obtainable

/-!
# What a client sends

An operation that builds a document from parts that are not refused, each from files that can be obtained, sends
exactly one request, whatever the service answers. The request carries the build of the parts: its instructions read
as the parts, and under each of its keys it has the file that was obtained for it.
-/

namespace DocBuild

open Run

variable {around : Surroundings} {session after : Session}

/-- A request carries a build: its instructions, and under each key of the build what was obtained for the file. -/
structure Request.Carries (request : Request Payload) (connection : Connection) (around : Surroundings)
    (build : Build) : Prop where
  endpoint : request.endpoint = .str Execution.endpoint
  instructions : request.data = .obj (Members.single "instructions" build.tree)
  files : ∃ files, request.files = some files ∧ List.Forall₂ (fun (entry : Text × FileInput) file =>
    file.1 = entry.1 ∧ Payload.IsAttempt connection around entry.2 (.ok file.2)) build.files files

/-- A part can be sent: it is not refused, its options are plain, and its files can be obtained. -/
structure Part.Sendable (part : Part) (connection : Connection) (around : Surroundings) : Prop where
  accepted : part.refusal? = none
  plain : ∀ action ∈ part.actions, action.isPlain
  obtainable : ∀ enclosure ∈ part.enclosures, Payload.Obtainable connection around enclosure.input

/-- A part that can be sent can be sent with plain actions that need no file. -/
theorem Part.Sendable.withActions {part : Part} {connection : Connection} (h : part.Sendable connection around)
    {actions : List Action} (hplain : ∀ action ∈ actions, action.isPlain)
    (hfileless : ∀ action ∈ actions, action.kind.fileField? = none) :
    (part.withActions actions).Sendable connection around := by
  have hsource : part.source.refusal? = none := (Option.or_eq_none_iff.mp h.accepted).1
  have hactions : actions.findSome? Action.refusal? = none := by
    refine List.findSome?_eq_none_iff.mpr fun action haction => ?_
    simp [Action.refusal?, hfileless action haction]
  have henclosed : actions.flatMap Action.enclosures = [] := by
    refine List.flatMap_eq_nil_iff.mpr fun action haction => ?_
    simp [Action.enclosures, Action.embedded?, hfileless action haction]
  refine ⟨Option.or_eq_none_iff.mpr ⟨hsource, hactions⟩, hplain, fun enclosure henclosure => ?_⟩
  have hmem : enclosure ∈ part.source.enclosures ++ actions.flatMap Action.enclosures := henclosure
  rw [henclosed, List.append_nil] at hmem
  exact h.obtainable enclosure (List.mem_append_left _ hmem)

namespace Execution

variable {e : Execution}

/-- If nobody wants to be told of the progress, every report is completed. -/
theorem isCompleted_of_callback (h : e.callback = none) (number : Nat) :
    (e.progressReport number).isCompleted = true :=
  isCompleted_of_told fun told htold => by cases h.symm.trans htold

/-- If the first report is completed and all files can be obtained, the first step obtains them, and the request with
them carries the build. Nothing but the progress changes if obtaining changes nothing. -/
theorem start_first (hcompleted : (e.progressReport 1).isCompleted = true)
    (hfiles : ∀ entry ∈ e.build.files, Payload.Obtainable e.connection around entry.2) (session : Session) :
    ∃ files prepared, (e.step 1 e.prepare).start around session = (.ok files, prepared) ∧
      (e.request files).Carries e.connection around e.build ∧
      ((∀ entry ∈ e.build.files, (Payload.obtain e.connection entry.2).Keeps id) →
        prepared = session.reporting (e.progressReport 1)) := by
  have hinputs : ∀ input ∈ e.build.files.map Prod.snd, Payload.Obtainable e.connection around input :=
    List.forall_mem_map.mpr hfiles
  obtain ⟨payloads, prepared, hobtain, hpayloads, hkeeps⟩ :=
    Payload.start_obtainAll_of_obtainable hinputs (session.reporting (e.progressReport 1))
  refine ⟨(e.build.files.map Prod.fst).zip payloads, prepared, ?_, ⟨rfl, rfl, _, rfl, forall₂_zip hpayloads⟩,
    fun hkept => hkeeps id (List.forall_mem_map.mpr hkept)⟩
  rw [start_step hcompleted]
  exact start_bind_of_ok hobtain _

end Execution

namespace Draft

variable {parts : List Part}

/-- The draft of parts and an output. -/
def ofParts (parts : List Part) (output : Output) : Draft :=
  { Draft.applyAll {} (parts.map .addPart) with output := some output }

/-- Parts that are added are read behind the others. -/
theorem Reads.applyAll {draft : Draft} {files : List (Text × FileInput)} {earlier : List Part} {actions : List Action}
    (h : draft.Reads files earlier actions) (haccepted : ∀ part ∈ parts, part.refusal? = none)
    (hplain : ∀ part ∈ parts, ∀ action ∈ part.actions, action.isPlain)
    (hfiled : Filed files draft.nextKey (parts.flatMap Part.enclosures)) :
    (draft.applyAll (parts.map .addPart)).Reads files (earlier ++ parts) actions := by
  induction parts generalizing draft earlier with
  | nil => simpa [Draft.applyAll] using h
  | cons part rest ih =>
    rw [List.flatMap_cons, filed_append] at hfiled
    have hcall : (DraftCall.addPart part).refusal? = none := haccepted part List.mem_cons_self
    have hstep := h.apply hcall (hplain part List.mem_cons_self) hfiled.1
    have hnext := ((DraftCall.addPart part).apply_files draft).2
    simp only [DraftCall.parts, DraftCall.documentActions, List.append_nil] at hstep
    have hrest := ih hstep (fun p hp => haccepted p (List.mem_cons_of_mem _ hp))
      (fun p hp => hplain p (List.mem_cons_of_mem _ hp)) (by rw [hnext]; exact hfiled.2)
    rw [List.append_assoc] at hrest
    exact hrest

/-- The draft of parts encloses their files. -/
theorem files_ofParts (parts : List Part) (output : Output) :
    (ofParts parts output).files = numbered 0 (parts.flatMap Part.enclosures) := by
  have hfiles := files_applyAll {} (parts.map DraftCall.addPart)
  rw [List.flatMap_map] at hfiles
  exact hfiles

/-- The build of parts that are not refused encloses their files and reads as the parts. -/
theorem compile_ofParts (hparts : parts ≠ []) (haccepted : ∀ part ∈ parts, part.refusal? = none)
    (hplain : ∀ part ∈ parts, ∀ action ∈ part.actions, action.isPlain) (output : Output) :
    ∃ build, (ofParts parts output).compile = .ok build ∧
      build.files = numbered 0 (parts.flatMap Part.enclosures) ∧
      build.read = some ⟨parts.map Part.content, []⟩ := by
  have hempty : Draft.Reads {} (ofParts parts output).files [] [] := ⟨rfl, rfl⟩
  have hfiled : Filed (ofParts parts output).files 0 (parts.flatMap Part.enclosures) := by
    rw [files_ofParts]
    exact lookup_numbered 0 _
  have hall := hempty.applyAll haccepted hplain hfiled
  have hreads : (ofParts parts output).Reads (ofParts parts output).files parts [] := ⟨hall.parts, hall.actions⟩
  obtain ⟨build, hbuild, hfiles⟩ := exists_compile (hreads.parts_ne_nil hparts)
  exact ⟨build, hbuild, hfiles.trans (files_ofParts parts output), hreads.read hbuild⟩

end Draft

namespace Client

variable {c : Client} {parts : List Part}

/-- Parts that are not refused are added to a job that was not started. -/
theorem perform_addParts (h : ∀ part ∈ parts, part.refusal? = none) {job : Job} (hunused : job.executed = false) :
    job.perform (addParts parts) = (.ok (), { job with draft := job.draft.applyAll (parts.map .addPart) }) := by
  induction parts generalizing job with
  | nil => rfl
  | cons part rest ih =>
    have hfirst := Job.perform_addPart hunused (h part List.mem_cons_self)
    unfold addParts
    rw [Job.perform_bind_of_ok hfirst]
    exact ih (fun p hp => h p (List.mem_cons_of_mem _ hp)) hunused

/-- The execution of parts that are not refused is that of a job with their draft. -/
theorem execution_eq (haccepted : ∀ part ∈ parts, part.refusal? = none) (output : Output) :
    c.execution parts [] output =
      (Job.perform { c.newJob .null with draft := Draft.ofParts parts output } (Job.execute .null none)).1 := by
  let added : Job := { c.newJob .null with draft := Draft.applyAll {} (parts.map .addPart) }
  let ready : Job := { c.newJob .null with draft := Draft.ofParts parts output }
  have hadd : (c.newJob .null).perform (addParts parts) = (.ok (), added) := perform_addParts haccepted rfl
  have hactions : added.perform (Job.applyActions []) = (.ok (), added) :=
    Job.perform_bind_of_ok (Job.perform_ensureUnused rfl) _
  have houtput : added.perform (Job.setOutput (some output)) = (.ok (), ready) := Job.perform_setOutput rfl _
  unfold execution
  dsimp only
  rw [Job.perform_bind_of_ok hadd, Job.perform_bind_of_ok hactions, Job.perform_bind_of_ok houtput]

/-- The execution of parts that are not refused is one of their build, over the transport and the connection of the
client, and tells nobody of its progress. -/
theorem execution_of_accepted (hparts : parts ≠ []) (haccepted : ∀ part ∈ parts, part.refusal? = none)
    (hplain : ∀ part ∈ parts, ∀ action ∈ part.actions, action.isPlain) (output : Output) :
    ∃ e, c.execution parts [] output = .ok e ∧ (Draft.ofParts parts output).compile = .ok e.build ∧
      e.callback = none ∧ e.connection = c.connection ∧ e.transport = c.transport ∧ e.output = output := by
  obtain ⟨build, hbuild, -⟩ := Draft.compile_ofParts hparts haccepted hplain output
  let ready : Job := { c.newJob .null with draft := Draft.ofParts parts output }
  have hready : ready.executed = false := rfl
  obtain ⟨e, hexecute, hbuild', hcallback, htransport, hconnection, houtput'⟩ :=
    Job.perform_execute hready hbuild .null none
  refine ⟨e, ?_, by rw [hbuild', hbuild], hcallback, hconnection, htransport, houtput'⟩
  rw [execution_eq haccepted, hexecute]

/-- Adding parts changes the draft. -/
theorem draftsOnly_addParts (parts : List Part) : (addParts parts).DraftsOnly := by
  induction parts with
  | nil => exact Job.draftsOnly_pure ()
  | cons part rest ih => exact Job.draftsOnly_bind (Job.draftsOnly_addPart part) fun _ => ih

/-- An execution is one over the transport and the connection of the client, into the output that was chosen, and tells
nobody of its progress. -/
theorem of_execution {actions : List Action} {output : Output} {e : Execution}
    (h : c.execution parts actions output = .ok e) :
    e.callback = none ∧ e.transport = c.transport ∧ e.connection = c.connection ∧ e.output = output := by
  obtain ⟨_, added, hadd, h⟩ := Job.exists_of_perform_bind (Prod.ext h rfl)
  obtain ⟨_, acted, hact, h⟩ := Job.exists_of_perform_bind h
  obtain ⟨_, ready, hset, h⟩ := Job.exists_of_perform_bind h
  obtain ⟨_, hadded⟩ := Job.exists_draft_of_draftsOnly (draftsOnly_addParts parts) hadd
  obtain ⟨_, hacted⟩ := Job.exists_draft_of_draftsOnly (Job.draftsOnly_applyActions actions) hact
  have hunused : acted.executed = false := by
    rw [hacted, hadded]
    rfl
  cases hset.symm.trans (Job.perform_setOutput hunused _)
  obtain ⟨hcallback, htransport, hconnection, houtput⟩ := Job.of_perform_execute h
  refine ⟨hcallback, htransport.trans ?_, hconnection.trans ?_, houtput⟩
  · rw [hacted, hadded]
    rfl
  · rw [hacted, hadded]
    rfl

end Client

end DocBuild
