import DocBuild.Job
import DocBuild.Proofs.Build.History

/-!
# Asking a job

What a job does at once when it is asked for something. A job that was started refuses everything but to show the
build; any other one is started only by a demand for a run, which takes the build as it is at that moment.
-/

namespace DocBuild

/-- Whether a demand asks for a run. -/
def Demand.startsRun : Demand → Bool
  | execute _ _ | dryRun _ => true
  | addPart _ | applyActions _ | setOutput _ | compile => false

/-- Whether a demand only asks to be shown the build. -/
def Demand.onlyShows : Demand → Bool
  | compile => true
  | addPart _ | applyActions _ | setOutput _ | execute _ _ | dryRun _ => false

/-- What was begun is a run of a build. -/
def Begun.IsRunOf (build : Build) : Begun → Prop
  | execution e => e.build = build
  | analysis a => a.build = build
  | done | .build _ => False

/-- A step changes nothing of a job but its draft. -/
def JobStep.DraftsOnly {α : Type} (x : JobStep α) : Prop :=
  ∀ job : Job, (job.perform x).2 = { job with draft := (job.perform x).2.draft }

/-- What a step gives, if it gives a value, is no run. -/
def JobStep.BeginsNoRun (x : JobStep Begun) : Prop :=
  ∀ (job : Job) (begun : Begun), (job.perform x).1 = .ok begun → ∀ build, ¬ begun.IsRunOf build

namespace Job

variable {job : Job}

/-- What follows a step on a job goes on with the job that the step leaves. -/
theorem perform_bind_of_ok {α β : Type} {x : JobStep α} {a : α} {after : Job} (h : job.perform x = (.ok a, after))
    (k : α → JobStep β) : job.perform (x >>= k) = after.perform (k a) := by
  simp only [perform, ExceptT.run, StateT.run] at h ⊢
  simp only [bind, ExceptT.bind, ExceptT.mk, StateT.bind, h, ExceptT.bindCont]

/-- Nothing follows a refused step on a job. -/
theorem perform_bind_of_error {α β : Type} {x : JobStep α} {fault : Fault} {after : Job}
    (h : job.perform x = (.error fault, after)) (k : α → JobStep β) :
    job.perform (x >>= k) = (.error fault, after) := by
  simp only [perform, ExceptT.run, StateT.run] at h ⊢
  simp only [bind, ExceptT.bind, ExceptT.mk, StateT.bind, h, ExceptT.bindCont]
  rfl

/-- Steps on a job that give a value got one from the first step and went on from there. -/
theorem exists_of_perform_bind {α β : Type} {x : JobStep α} {k : α → JobStep β} {b : β} {after : Job}
    (h : job.perform (x >>= k) = (.ok b, after)) :
    ∃ a middle, job.perform x = (.ok a, middle) ∧ middle.perform (k a) = (.ok b, after) := by
  rcases hx : job.perform x with ⟨fault | a, middle⟩
  · cases h.symm.trans (perform_bind_of_error hx k)
  · exact ⟨a, middle, rfl, (perform_bind_of_ok hx k).symm.trans h⟩

/-- The job that is left by a step that drafts only is the same but for the draft. -/
theorem exists_draft_of_draftsOnly {α : Type} {x : JobStep α} (hx : x.DraftsOnly) {outcome : Except Fault α}
    {after : Job} (h : job.perform x = (outcome, after)) : ∃ draft, after = { job with draft } := by
  have hafter := hx job
  rw [h] at hafter
  exact ⟨_, hafter⟩

/-- Two steps that draft only do so one after the other. -/
theorem draftsOnly_bind {α β : Type} {x : JobStep α} {k : α → JobStep β} (hx : x.DraftsOnly)
    (hk : ∀ a, (k a).DraftsOnly) : (x >>= k).DraftsOnly := by
  intro job
  have hfirst := hx job
  rcases h : job.perform x with ⟨fault | a, after⟩
  · rw [perform_bind_of_error h]
    rwa [h] at hfirst
  · rw [h] at hfirst
    dsimp only at hfirst
    rw [perform_bind_of_ok h, hk a after]
    rw [hfirst]

/-- A value alone changes nothing. -/
theorem draftsOnly_pure {α : Type} (a : α) : (pure a : JobStep α).DraftsOnly := fun _ => rfl

/-- A fault alone changes nothing. -/
theorem draftsOnly_throw {α : Type} (fault : Fault) : (throw fault : JobStep α).DraftsOnly := fun _ => rfl

/-- Work on the draft changes the draft. -/
theorem draftsOnly_drafting {α : Type} (x : Drafting α) : (drafting x).DraftsOnly := fun _ => rfl

/-- Adding actions changes the draft. -/
theorem draftsOnly_addActions (actions : List Action) : (addActions actions).DraftsOnly := by
  induction actions with
  | nil => exact draftsOnly_pure ()
  | cons action rest ih => exact draftsOnly_bind (draftsOnly_drafting _) fun _ => ih

/-- A run is begun only by the last of several steps. -/
theorem beginsNoRun_bind {α : Type} {x : JobStep α} {k : α → JobStep Begun} (hk : ∀ a, (k a).BeginsNoRun) :
    (x >>= k).BeginsNoRun := by
  intro job begun hbegun
  rcases h : job.perform x with ⟨fault | a, after⟩
  · rw [perform_bind_of_error h] at hbegun
    contradiction
  · rw [perform_bind_of_ok h] at hbegun
    exact hk a after begun hbegun

/-- Where nothing is to show no run is begun. -/
theorem beginsNoRun_done : (pure .done : JobStep Begun).BeginsNoRun := by
  rintro job begun ⟨⟩ build
  exact id

/-- Showing a build begins no run. -/
theorem beginsNoRun_build (build : Build) : (pure (.build build) : JobStep Begun).BeginsNoRun := by
  rintro job begun ⟨⟩ build
  exact id

/-- A fault begins no run. -/
theorem beginsNoRun_throw (fault : Fault) : (throw fault : JobStep Begun).BeginsNoRun := by
  rintro job begun ⟨⟩

/-- A job that was started is used up. -/
theorem perform_ensureUnused_of_executed (h : job.executed = true) :
    job.perform ensureUnused = (.error usedUp, job) := by
  change job.perform (if job.executed = true then throw usedUp else pure ()) = _
  rw [if_pos h]
  rfl

/-- A job that was not started is not. -/
theorem perform_ensureUnused (h : job.executed = false) : job.perform ensureUnused = (.ok (), job) := by
  change job.perform (if job.executed = true then throw usedUp else pure ()) = _
  rw [h]
  rfl

/-- Work on the draft changes the draft alone. -/
theorem perform_drafting {α : Type} (x : Drafting α) :
    job.perform (drafting x) = ((x job.draft).1, { job with draft := (x job.draft).2 }) := rfl

/-- Looking whether a job was started changes nothing. -/
theorem draftsOnly_ensureUnused : ensureUnused.DraftsOnly := by
  intro job
  by_cases h : job.executed = true
  · rw [perform_ensureUnused_of_executed h]
  · rw [perform_ensureUnused (by simpa using h)]

/-- Adding a part changes the draft. -/
theorem draftsOnly_addPart (part : Part) : (addPart part).DraftsOnly :=
  draftsOnly_bind draftsOnly_ensureUnused fun _ => draftsOnly_drafting _

/-- Applying actions changes the draft. -/
theorem draftsOnly_applyActions (actions : List Action) : (applyActions actions).DraftsOnly :=
  draftsOnly_bind draftsOnly_ensureUnused fun _ => draftsOnly_addActions actions

/-- Choosing the output changes the draft. -/
theorem draftsOnly_setOutput (output : Option Output) : (setOutput output).DraftsOnly :=
  draftsOnly_bind draftsOnly_ensureUnused fun _ => draftsOnly_drafting _

/-- A job that was not started takes any output. -/
theorem perform_setOutput (h : job.executed = false) (output : Option Output) :
    job.perform (setOutput output) = (.ok (), { job with draft := { job.draft with output } }) :=
  perform_bind_of_ok (perform_ensureUnused h) _

/-- The build is shown as it is, and nothing changes. -/
theorem perform_compile (job : Job) : job.perform compile = (job.draft.compile, job) := by
  have hget : job.perform get = (.ok job, job) := rfl
  unfold compile
  rw [perform_bind_of_ok hget]
  cases job.draft.compile <;> rfl

/-- A job that was started is not started again. -/
theorem perform_start_of_executed (h : job.executed = true) : job.perform start = (.error usedUp, job) :=
  perform_bind_of_error (perform_ensureUnused_of_executed h) _

/-- A job is started with the build that it shows, or not at all if it shows none. -/
theorem perform_start (h : job.executed = false) :
    job.perform start = (job.draft.compile,
      match job.draft.compile with
      | .ok _ => { job with executed := true }
      | .error _ => job) := by
  unfold start
  rw [perform_bind_of_ok (perform_ensureUnused h)]
  have hcompile := job.perform_compile
  cases hbuild : job.draft.compile with
  | error fault =>
    rw [hbuild] at hcompile
    exact perform_bind_of_error hcompile _
  | ok build =>
    rw [hbuild] at hcompile
    rw [perform_bind_of_ok hcompile]
    rfl

/-- A job that was started refuses every demand but to show the build, and nothing changes. -/
theorem perform_begin_of_executed (h : job.executed = true) {demand : Demand}
    (hdemand : demand.onlyShows = false) :
    job.perform demand.begin = (.error usedUp, job) := by
  have hunused := perform_ensureUnused_of_executed h
  have hstart := perform_start_of_executed h
  cases demand with
  | addPart part => exact perform_bind_of_error (perform_bind_of_error hunused _) _
  | applyActions given => exact perform_bind_of_error hunused _
  | setOutput output => exact perform_bind_of_error (perform_bind_of_error hunused _) _
  | compile => contradiction
  | execute timeout callback => exact perform_bind_of_error (perform_bind_of_error hstart _) _
  | dryRun timeout => exact perform_bind_of_error (perform_bind_of_error hstart _) _

/-- Asking to be shown the build changes nothing. -/
theorem perform_begin_of_onlyShows (job : Job) {demand : Demand} (hdemand : demand.onlyShows = true) :
    job.perform demand.begin = (job.draft.compile.map .build, job) := by
  cases demand with
  | compile =>
    have hcompile := job.perform_compile
    cases hbuild : job.draft.compile with
    | error fault =>
      rw [hbuild] at hcompile
      exact perform_bind_of_error hcompile _
    | ok build =>
      rw [hbuild] at hcompile
      exact perform_bind_of_ok hcompile _
  | _ => contradiction

/-- A demand that asks for no run changes the draft alone. -/
theorem draftsOnly_begin {demand : Demand} (hdemand : demand.startsRun = false) : demand.begin.DraftsOnly := by
  cases demand with
  | addPart part => exact draftsOnly_bind (draftsOnly_addPart part) fun _ => draftsOnly_pure _
  | applyActions given =>
    refine draftsOnly_bind draftsOnly_ensureUnused fun _ => ?_
    split
    · exact draftsOnly_bind (draftsOnly_addActions _) fun _ => draftsOnly_pure _
    · exact draftsOnly_throw _
  | setOutput output => exact draftsOnly_bind (draftsOnly_setOutput output) fun _ => draftsOnly_pure _
  | compile =>
    intro job
    rw [perform_begin_of_onlyShows job rfl]
  | execute timeout callback => contradiction
  | dryRun timeout => contradiction

/-- A demand that asks for no run begins none. -/
theorem beginsNoRun_begin {demand : Demand} (hdemand : demand.startsRun = false) : demand.begin.BeginsNoRun := by
  cases demand with
  | addPart part => exact beginsNoRun_bind fun _ => beginsNoRun_done
  | applyActions given =>
    refine beginsNoRun_bind fun _ => ?_
    split
    · exact beginsNoRun_bind fun _ => beginsNoRun_done
    · exact beginsNoRun_throw _
  | setOutput output => exact beginsNoRun_bind fun _ => beginsNoRun_done
  | compile => exact beginsNoRun_bind fun build => beginsNoRun_build build
  | execute timeout callback => contradiction
  | dryRun timeout => contradiction

/-- An execution that is started is one of the build that the job shows, over the transport and the connection of
the job, into the output that was chosen. -/
theorem perform_execute (h : job.executed = false) {build : Build} (hbuild : job.draft.compile = .ok build)
    (timeout : Json) (callback : Option ProgressCallback) :
    ∃ e, job.perform (execute timeout callback) = (.ok e, { job with executed := true }) ∧ e.build = build ∧
      e.callback = callback ∧ e.transport = job.transport ∧ e.connection = job.connection ∧
      e.output = job.draft.chosenOutput := by
  have hstart := perform_start h
  rw [hbuild] at hstart
  rw [execute, perform_bind_of_ok hstart]
  exact ⟨_, rfl, rfl, rfl, rfl, rfl, rfl⟩

/-- An execution is one over the transport and the connection of the job, into the output that was chosen. -/
theorem of_perform_execute {timeout : Json} {callback : Option ProgressCallback} {e : Execution} {after : Job}
    (h : job.perform (execute timeout callback) = (.ok e, after)) :
    e.callback = callback ∧ e.transport = job.transport ∧ e.connection = job.connection ∧
      e.output = job.draft.chosenOutput := by
  obtain ⟨build, started, hstart, -⟩ := exists_of_perform_bind h
  cases hexecuted : job.executed with
  | true => cases hstart.symm.trans (perform_start_of_executed hexecuted)
  | false =>
    have hbuild := congrArg Prod.fst (hstart.symm.trans (perform_start hexecuted))
    obtain ⟨e', hexecute, -, hfields⟩ := perform_execute hexecuted hbuild.symm timeout callback
    cases hexecute.symm.trans h
    exact hfields

/-- An analysis that is started is one of the build that the job shows, over the transport of the job. -/
theorem perform_analyse (h : job.executed = false) {build : Build} (hbuild : job.draft.compile = .ok build)
    (timeout : Json) :
    ∃ a, job.perform (analyse timeout) = (.ok a, { job with executed := true }) ∧ a.build = build ∧
      a.transport = job.transport := by
  have hstart := perform_start h
  rw [hbuild] at hstart
  rw [analyse, perform_bind_of_ok hstart]
  exact ⟨_, rfl, rfl, rfl⟩

/-- A demand for a run starts a job that was not started with the build that it shows, if it shows one. -/
theorem perform_begin_of_startsRun (h : job.executed = false) {demand : Demand}
    (hdemand : demand.startsRun = true) :
    (∃ fault, job.draft.compile = .error fault ∧ job.perform demand.begin = (.error fault, job)) ∨
    ∃ build begun, job.draft.compile = .ok build ∧ begun.IsRunOf build ∧
      job.perform demand.begin = (.ok begun, { job with executed := true }) := by
  cases hbuild : job.draft.compile with
  | error fault =>
    have hstart := perform_start h
    rw [hbuild] at hstart
    refine Or.inl ⟨fault, rfl, ?_⟩
    cases demand with
    | execute timeout callback => exact perform_bind_of_error (perform_bind_of_error hstart _) _
    | dryRun timeout => exact perform_bind_of_error (perform_bind_of_error hstart _) _
    | _ => contradiction
  | ok build =>
    refine Or.inr ⟨build, ?_⟩
    cases demand with
    | execute timeout callback =>
      obtain ⟨e, hexecute, he, -⟩ := perform_execute h hbuild timeout callback
      exact ⟨.execution e, rfl, he, perform_bind_of_ok hexecute _⟩
    | dryRun timeout =>
      obtain ⟨a, hanalyse, ha, -⟩ := perform_analyse h hbuild timeout
      exact ⟨.analysis a, rfl, ha, perform_bind_of_ok hanalyse _⟩
    | _ => contradiction

/-- A part that is not refused is added to a job that was not started. -/
theorem perform_addPart (h : job.executed = false) {part : Part} (hpart : part.refusal? = none) :
    job.perform (addPart part) = (.ok (), { job with draft := (DraftCall.addPart part).apply job.draft }) := by
  have hadd : Draft.addPart part job.draft = (.ok (), (DraftCall.addPart part).apply job.draft) :=
    @DraftCall.on_of_accepted (.addPart part) hpart job.draft
  have hdrafting : job.perform (drafting (Draft.addPart part)) =
      (.ok (), { job with draft := (DraftCall.addPart part).apply job.draft }) := by
    rw [perform_drafting, hadd]
  exact (perform_bind_of_ok (perform_ensureUnused h) _).trans hdrafting

/-- A part that is refused is refused by a job that was not started. -/
theorem perform_addPart_of_refused (h : job.executed = false) {part : Part} {fault : Fault}
    (hpart : part.refusal? = some fault) :
    job.perform (addPart part) =
      (.error fault, { job with draft := job.draft.enclose (DraftCall.addPart part).leftover }) := by
  have hadd : Draft.addPart part job.draft = (.error fault, job.draft.enclose (DraftCall.addPart part).leftover) :=
    @DraftCall.on_of_refused (.addPart part) fault hpart job.draft
  refine (perform_bind_of_ok (perform_ensureUnused h) _).trans ?_
  rw [perform_drafting, hadd]

/-- Asking to add a part that is not refused adds it to a job that was not started. -/
theorem perform_begin_addPart (h : job.executed = false) {part : Part} (hpart : part.refusal? = none) :
    job.perform (Demand.addPart part).begin =
      (.ok .done, { job with draft := (DraftCall.addPart part).apply job.draft }) :=
  perform_bind_of_ok (perform_addPart h hpart) _

end Job

end DocBuild
