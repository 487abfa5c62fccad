import DocBuild.Proofs.Job.Dispatch
import DocBuild.Proofs.Job.Steps

/-!
# What an execution accounts for

The outcome of an execution says how far the execution came: the step of a failure is the number of reports that
were completed, who was told of the steps was told of them in order, and a request was handed over exactly if the
second report was completed. The error of the failure is the fault that the steps raise, or says which one it was.
-/

namespace DocBuild

open Run

/-- The step and the number of all steps of which somebody was told. -/
def ProgressReport.told? (report : ProgressReport) : Option (Nat × Nat) :=
  if report.reply.isSome then some (report.step, report.total) else none

/-- An error records a fault at a step: it is the fault if this is one of the client's own, and otherwise it says
at which step a fault of which kind was raised. -/
def ClientError.Records (error : ClientError) (step : Nat) : Fault → Prop
  | .client raised => error = raised
  | .foreign raised =>
    error.kind = .general ∧ error.code = .str "WRAPPED_ERROR" ∧
      error.message = .str ("Workflow failed at step " ++ Text.ofNat step) ∧
      error.details = .obj [("original_error", .str raised.kind.name), ("error", .str raised.text)] ∧
      error.cause = some (.foreign raised)

/-- A fault that is wrapped at a step is recorded. -/
theorem Fault.records_wrap (fault : Fault) (step : Nat) :
    (fault.wrap (Execution.failureMessage step)).Records step fault := by
  cases fault with
  | client raised => rfl
  | foreign raised => exact ⟨rfl, rfl, rfl, rfl, rfl⟩

variable {around : Surroundings} {session middle after : Session}

/-- Reports of progress and requests that were added to a session. -/
structure Session.Adds (session after : Session) (reports : List ProgressReport) (handed : List (Request Payload)) :
    Prop where
  progress : after.progress = session.progress ++ reports
  dispatched : after.dispatched = session.dispatched ++ handed

/-- What is added one after the other is added in this order. -/
theorem Session.Adds.trans {reports reports' : List ProgressReport} {handed handed' : List (Request Payload)}
    (h : session.Adds middle reports handed) (h' : middle.Adds after reports' handed') :
    session.Adds after (reports ++ reports') (handed ++ handed') :=
  ⟨by rw [h'.progress, h.progress, List.append_assoc], by rw [h'.dispatched, h.dispatched, List.append_assoc]⟩

/-- The completed reports are those before and those that were added. -/
theorem Session.Adds.completed {reports : List ProgressReport} {handed : List (Request Payload)}
    (h : session.Adds after reports handed) :
    after.completed = session.completed + reports.countP ProgressReport.isCompleted := by
  rw [Session.completed, h.progress, List.countP_append]
  rfl

namespace Execution

/-- A step whose work hands nothing over hands nothing over. -/
theorem dispatched_of_step {α : Type} {e : Execution} {number : Nat} {work : Run α}
    (hwork : work.Keeps Session.dispatched) {outcome : Except Fault α}
    (h : (e.step number work).start around session = (outcome, after)) :
    after.dispatched = session.dispatched := by
  have hkeeps := (e.keeps_dispatched_report number).bind fun _ => hwork
  have hafter := hkeeps around session
  rwa [show (e.report number >>= fun _ => work).start around session = (outcome, after) from h] at hafter

/-- Whatever comes of the first step, it makes its report and hands nothing over. -/
theorem adds_first {e : Execution} {outcome : Except Fault (List (Text × Payload))}
    (h : (e.step 1 e.prepare).start around session = (outcome, after)) :
    session.Adds after [e.progressReport 1] [] := by
  refine ⟨progress_of_step e.quiet_prepare.progress h, ?_⟩
  rw [List.append_nil]
  exact dispatched_of_step e.quiet_prepare.dispatched h

/-- Whatever comes of the second step, it makes its report, and hands its request over exactly if this is
completed. -/
theorem adds_second {e : Execution} {files : List (Text × Payload)} {outcome : Except Fault Content}
    (h : (e.step 2 (e.dispatch files)).start around session = (outcome, after)) :
    session.Adds after [e.progressReport 2] (if (e.progressReport 2).isCompleted then [e.request files] else []) := by
  refine ⟨progress_of_step (e.keeps_progress_dispatch files) h, ?_⟩
  cases hcompleted : (e.progressReport 2).isCompleted with
  | true =>
    have hhands := e.hands_dispatch files around (session.reporting (e.progressReport 2))
    rw [← start_step hcompleted, h] at hhands
    exact hhands
  | false =>
    obtain ⟨fault, -, hstep⟩ :=
      @start_step_of_not_completed _ around session e 2 hcompleted (e.dispatch files)
    cases h.symm.trans hstep
    simp [Session.reporting]

/-- Whatever comes of the last step, it makes its report and hands nothing over. -/
theorem adds_last {e : Execution} {content : Content} {outcome : Except Fault Product}
    (h : (e.step 3 (e.conclude content)).start around session = (outcome, after)) :
    session.Adds after [e.progressReport 3] [] := by
  refine ⟨progress_of_step (e.keeps_conclude content) h, ?_⟩
  rw [List.append_nil]
  exact dispatched_of_step (e.keeps_conclude content) h

/-- The steps of an execution make their reports in order, as far as they come; a request is handed over exactly
if two of the reports are completed, and all of them are made if the product is given. -/
theorem unguarded_adds {e : Execution} {outcome : Except Fault Product}
    (h : e.unguarded.start around session = (outcome, after)) :
    ∃ reports handed, session.Adds after reports handed ∧
      reports <+: [1, 2, 3].map e.progressReport ∧
      (outcome.toOption.isSome → reports = [1, 2, 3].map e.progressReport) ∧
      handed.length = if 2 ≤ reports.countP ProgressReport.isCompleted then 1 else 0 := by
  rcases e.start_unguarded around session with ⟨fault, failed, hfirst, hall⟩ |
    ⟨files, prepared, hfirst, ⟨fault, failed, hsecond, hall⟩ | ⟨content, answered, hsecond, hall⟩⟩
  · cases h.symm.trans hall
    refine ⟨_, _, adds_first hfirst, ⟨[2, 3].map e.progressReport, rfl⟩, by simp [Except.toOption], ?_⟩
    cases hcompleted : (e.progressReport 1).isCompleted <;> simp [hcompleted]
  · cases h.symm.trans hall
    refine ⟨_, _, (adds_first hfirst).trans (adds_second hsecond), ⟨[e.progressReport 3], rfl⟩,
      by simp [Except.toOption], ?_⟩
    cases hcompleted : (e.progressReport 2).isCompleted <;> simp [isCompleted_of_step hfirst, hcompleted]
  · have hlast := adds_last (hall.symm.trans h)
    refine ⟨_, _, ((adds_first hfirst).trans (adds_second hsecond)).trans hlast, List.prefix_rfl, fun _ => rfl, ?_⟩
    simp [isCompleted_of_step hfirst, isCompleted_of_step hsecond]

/-- What callers are told of reports that are made in order is told in order, and all of it if all are made. -/
theorem told_of_reports {e : Execution} {reports : List ProgressReport}
    (h : reports <+: [1, 2, 3].map e.progressReport) :
    (∀ report ∈ reports, report.reply = e.callback.map (· report.step)) ∧
      reports.filterMap ProgressReport.told? <+: [(1, 3), (2, 3), (3, 3)] := by
  constructor
  · intro report hreport
    obtain ⟨number, -, rfl⟩ := List.mem_map.mp (h.mem hreport)
    rfl
  · refine (h.filterMap _).trans ?_
    cases hcallback : e.callback <;>
      simp [ProgressReport.told?, progressReport, executionTurns, hcallback]

end Execution

/-- An execution of a job that has a part and was not started ends with an outcome whatever the files, the caller
who is told of the progress and the transport do. It is the product alone or one failure alone, as the steps with
nothing to catch a fault give the product or raise one; the step of the failure is the number of reports that were
completed, and its error records the fault. Callers are told of the steps in order, and of all of them if there is
a product. A request was handed over exactly if two reports were completed. -/
theorem execution_accounts_for_run (job : Job) (hunused : job.executed = false) (hparts : job.draft.parts ≠ [])
    (timeout : Json) (callback : Option ProgressCallback) :
    ∃ e, job.perform (Job.execute timeout callback) = (.ok e, { job with executed := true }) ∧
      ∀ around session, ∃ outcome after reports handed,
        e.run.start around session = (.ok outcome, after) ∧
        after.progress = session.progress ++ reports ∧
        after.dispatched = session.dispatched ++ handed ∧
        (∀ report ∈ reports, report.reply = callback.map (· report.step)) ∧
        reports.filterMap ProgressReport.told? <+: [(1, 3), (2, 3), (3, 3)] ∧
        handed.length = (if 2 ≤ reports.countP ProgressReport.isCompleted then 1 else 0) ∧
        match (e.unguarded.start around session).1 with
        | .ok product =>
          outcome.succeeded = true ∧ outcome.result = some product ∧ outcome.failures = [] ∧
            reports.filterMap ProgressReport.told? = if callback.isSome then [(1, 3), (2, 3), (3, 3)] else []
        | .error fault =>
          outcome.succeeded = false ∧ outcome.result = none ∧
            ∃ error, outcome.failures = [⟨reports.countP ProgressReport.isCompleted, error⟩] ∧
              error.Records (reports.countP ProgressReport.isCompleted) fault := by
  obtain ⟨build, hbuild, -⟩ := Draft.exists_compile hparts
  obtain ⟨e, hexecute, -, rfl, -⟩ := Job.perform_execute hunused hbuild timeout callback
  refine ⟨e, hexecute, fun around session => ?_⟩
  rcases e.start_run around session with ⟨product, after, hgives, hrun⟩ |
    ⟨fault, after, log, reached, hraises, hreached, hrun⟩
  · obtain ⟨reports, handed, hadds, hprefix, hall, hhanded⟩ := Execution.unguarded_adds hgives
    obtain ⟨hreplies, htold⟩ := Execution.told_of_reports hprefix
    refine ⟨_, after, reports, handed, hrun, hadds.progress, hadds.dispatched, hreplies, htold, hhanded, ?_⟩
    rw [hgives, hall rfl]
    refine ⟨rfl, rfl, rfl, ?_⟩
    cases hcallback : e.callback <;>
      simp [ProgressReport.told?, Execution.progressReport, executionTurns, hcallback]
  · obtain ⟨reports, handed, hadds, hprefix, -, hhanded⟩ := Execution.unguarded_adds hraises
    obtain ⟨hreplies, htold⟩ := Execution.told_of_reports hprefix
    have hcount : reached = reports.countP ProgressReport.isCompleted := by
      have hcompleted := hadds.completed
      omega
    refine ⟨_, _, reports, handed, hrun, hadds.progress, hadds.dispatched, hreplies, htold, hhanded, ?_⟩
    rw [hraises, ← hcount]
    exact ⟨rfl, rfl, _, rfl, fault.records_wrap reached⟩

/-- A job that sends octets over a silent transport. -/
def octetsJob : Job := { transport := .silent, connection := .own, draft := (Draft.addPart (.ofFile (.bytes [])) {}).2 }

/-- A caller who fails when told of the last step. -/
def failsAtLastStep : ProgressCallback := fun step =>
  if step = 3 then .error (.ofForeign .runtime "stop") else .ok ()

/-- The caller is told of all steps; the failure is one of the second step, after the request was handed over. -/
theorem octetsJob_accounts_for_run :
    (octetsJob.executed = false ∧ octetsJob.draft.parts ≠ []) ∧
    ∃ e, octetsJob.perform (Job.execute .null (some failsAtLastStep)) = (.ok e, { octetsJob with executed := true }) ∧
      ∃ outcome after error, e.run.start .empty {} = (.ok outcome, after) ∧
        after.progress.filterMap ProgressReport.told? = [(1, 3), (2, 3), (3, 3)] ∧
        after.dispatched.length = 1 ∧ outcome.result = none ∧ outcome.failures = [⟨2, error⟩] ∧
        error.Records 2 (.ofForeign .runtime "stop") := by
  have hparts : octetsJob.draft.parts ≠ [] := by decide
  obtain ⟨e, hexecute, haccounts⟩ :=
    execution_accounts_for_run octetsJob rfl hparts .null (some failsAtLastStep)
  refine ⟨⟨rfl, hparts⟩, e, hexecute, ?_⟩
  obtain ⟨outcome, after, reports, handed, hrun, hprogress, hdispatched, -, -, hhanded, houtcome⟩ :=
    haccounts .empty {}
  cases hexecute
  cases hrun
  obtain rfl : _ = reports := hprogress
  obtain ⟨-, hresult, error, hfailures, hrecords⟩ := houtcome
  exact ⟨_, _, error, rfl, rfl, hdispatched ▸ hhanded, hresult, hfailures, hrecords⟩

end DocBuild
