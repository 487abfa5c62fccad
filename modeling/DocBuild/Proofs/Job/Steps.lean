import DocBuild.Proofs.Job.Turn

/-!
# The steps of an execution

An execution does three steps one after the other, each of which begins with its report. Written without anything
to catch a fault they are an ordinary operation, which gives the product or raises a fault. The execution has the
product as its outcome if this operation gives it; if the operation raises a fault, the outcome is the failure of
the step that was reported last.
-/

namespace DocBuild

open Run

/-- A report is completed if nobody wanted to be told, or who was told did not fail. -/
def ProgressReport.isCompleted (report : ProgressReport) : Bool :=
  match report.reply with
  | some (.error _) => false
  | some (.ok _) | none => true

/-- The number of completed reports. -/
def Session.completed (session : Session) : Nat := session.progress.countP ProgressReport.isCompleted

/-- The session after one more report. -/
def Session.reporting (session : Session) (report : ProgressReport) : Session :=
  { session with progress := session.progress ++ [report] }

variable {α : Type} {around : Surroundings} {session after : Session}

/-- One more report is one more completed report if it is completed. -/
theorem Session.completed_of_progress {report : ProgressReport}
    (h : after.progress = session.progress ++ [report]) :
    after.completed = session.completed + if report.isCompleted then 1 else 0 := by
  simp [Session.completed, h, List.countP_append, List.countP_singleton]

namespace Execution

/-- A step: its report, and then its work. -/
def step (e : Execution) (number : Nat) (work : Run α) : Run α := do
  e.report number
  work

/-- The steps of an execution one after the other, with nothing to catch a fault. -/
def unguarded (e : Execution) : Run Product := do
  let files ← e.step 1 e.prepare
  let content ← e.step 2 (e.dispatch files)
  e.step 3 (e.conclude content)

/-- What the outcome of a failure says. -/
def failureMessage (step : Nat) : Text := "Workflow failed at step " ++ Text.ofNat step

/-- A report is not completed exactly if the caller who is told of the step fails. -/
theorem isCompleted_eq_false_iff {e : Execution} {number : Nat} :
    (e.progressReport number).isCompleted = false ↔
      ∃ callback fault, e.callback = some callback ∧ callback number = .error fault := by
  unfold ProgressReport.isCompleted progressReport
  cases hcallback : e.callback with
  | none => simp
  | some callback => cases hreply : callback number <;> simp [hreply]

/-- A report is completed if nobody who is told of the step fails. -/
theorem isCompleted_of_told {e : Execution} {number : Nat} (h : ∀ told, e.callback = some told → told number = .ok ()) :
    (e.progressReport number).isCompleted = true := by
  refine Bool.of_not_eq_false fun hfalse => ?_
  obtain ⟨told, fault, hcallback, hfault⟩ := isCompleted_eq_false_iff.mp hfalse
  cases hfault.symm.trans (h told hcallback)

/-- A report is noted, and comes to what came of telling. -/
theorem start_report_eq (e : Execution) (number : Nat) :
    (e.report number).start around session =
      ((e.progressReport number).reply.getD (.ok ()), session.reporting (e.progressReport number)) := by
  unfold report Run.report
  exact (start_bind_of_ok (start_modify _) _).trans (start_ofExcept _)

/-- A report that is completed raises nothing. -/
theorem start_report {e : Execution} {number : Nat} (h : (e.progressReport number).isCompleted = true) :
    (e.report number).start around session = (.ok (), session.reporting (e.progressReport number)) := by
  have hreply : (e.progressReport number).reply.getD (.ok ()) = .ok () := by
    unfold ProgressReport.isCompleted at h
    split at h <;> simp_all
  rw [start_report_eq, hreply]

/-- A report that is not completed raises the fault of who was told. -/
theorem start_report_of_not_completed {e : Execution} {number : Nat}
    (h : (e.progressReport number).isCompleted = false) :
    ∃ fault, (e.progressReport number).reply = some (.error fault) ∧
      (e.report number).start around session = (.error fault, session.reporting (e.progressReport number)) := by
  unfold ProgressReport.isCompleted at h
  split at h
  · rename_i fault hreply
    refine ⟨fault, hreply, ?_⟩
    rw [start_report_eq, hreply]
    rfl
  · contradiction
  · contradiction

/-- A step whose report is completed comes to its work. -/
theorem start_step {e : Execution} {number : Nat} (h : (e.progressReport number).isCompleted = true)
    (work : Run α) :
    (e.step number work).start around session =
      work.start around (session.reporting (e.progressReport number)) :=
  start_bind_of_ok (start_report h) _

/-- A step whose report is not completed raises the fault of who was told. -/
theorem start_step_of_not_completed {e : Execution} {number : Nat}
    (h : (e.progressReport number).isCompleted = false) (work : Run α) :
    ∃ fault, (e.progressReport number).reply = some (.error fault) ∧
      (e.step number work).start around session =
        (.error fault, session.reporting (e.progressReport number)) := by
  obtain ⟨fault, hreply, hreport⟩ := @start_report_of_not_completed around session e number h
  exact ⟨fault, hreply, start_bind_of_error hreport _⟩

/-- However a step ends, it makes one report. -/
theorem progress_of_step {e : Execution} {number : Nat} {work : Run α} (hwork : work.Keeps Session.progress)
    {outcome : Except Fault α} (h : (e.step number work).start around session = (outcome, after)) :
    after.progress = session.progress ++ [e.progressReport number] := by
  cases hcompleted : (e.progressReport number).isCompleted with
  | true =>
    have hafter := hwork around (session.reporting (e.progressReport number))
    rwa [← start_step hcompleted, h] at hafter
  | false =>
    obtain ⟨fault, -, hstep⟩ := @start_step_of_not_completed α around session e number hcompleted work
    rw [hstep, Prod.mk.injEq] at h
    rw [← h.2]
    rfl

/-- The report of a step that gives a value is completed. -/
theorem isCompleted_of_step {e : Execution} {number : Nat} {work : Run α} {a : α}
    (h : (e.step number work).start around session = (.ok a, after)) :
    (e.progressReport number).isCompleted = true := by
  cases hcompleted : (e.progressReport number).isCompleted with
  | true => rfl
  | false =>
    obtain ⟨fault, -, hstep⟩ := @start_step_of_not_completed α around session e number hcompleted work
    rw [h] at hstep
    simp at hstep

/-- A failure becomes the outcome, and is logged. -/
theorem start_fail_eq (step : Nat) (fault : Fault) :
    ∃ log, (fail step fault).start around session =
      (.ok (.finished (.failure step (fault.wrap (failureMessage step)))), { session with log }) := by
  have hlog : ∃ log, (Run.log .error (failureMessage step ++ ": " ++ fault.text) []).start around session =
      (.ok (), { session with log }) := by
    unfold Run.log
    rw [start_modify]
    split
    · exact ⟨_, rfl⟩
    · exact ⟨session.log, rfl⟩
  obtain ⟨log, hlog⟩ := hlog
  exact ⟨log, start_bind_of_ok hlog _⟩

/-- A turn whose step gives a value goes on to the phase made of it. -/
theorem start_stretch_of_ok {e : Execution} {number : Nat} {work : Run α} {a : α}
    (h : (e.step number work).start around session = (.ok a, after)) (phase : α → Phase) :
    (e.stretch number (phase <$> work)).start around session = (.ok (phase a), after) := by
  have hcompleted := isCompleted_of_step h
  rw [start_step hcompleted] at h
  unfold stretch
  rw [start_bind_attempt, start_report hcompleted]
  dsimp only
  rw [start_bind_attempt, start_map, h]
  rfl

/-- A turn whose report is completed and whose work raises a fault finishes the execution with the failure of its
step. -/
theorem start_stretch_of_fault {e : Execution} {number : Nat} {work : Run α}
    (hcompleted : (e.progressReport number).isCompleted = true) {fault : Fault}
    (h : (e.step number work).start around session = (.error fault, after)) (phase : α → Phase) :
    ∃ log, (e.stretch number (phase <$> work)).start around session =
      (.ok (.finished (.failure number (fault.wrap (failureMessage number)))), { after with log }) := by
  obtain ⟨log, hfail⟩ := @start_fail_eq around after number fault
  rw [start_step hcompleted] at h
  refine ⟨log, ?_⟩
  unfold stretch
  rw [start_bind_attempt, start_report hcompleted]
  dsimp only
  rw [start_bind_attempt, start_map, h]
  exact hfail

/-- A turn whose step raises a fault finishes the execution with the failure of the step that was reported last. -/
theorem start_stretch_of_error {e : Execution} {number : Nat} {work : Run α} (hwork : work.Keeps Session.progress)
    {fault : Fault} (h : (e.step (number + 1) work).start around session = (.error fault, after))
    (phase : α → Phase) :
    ∃ reached log, reached + session.completed = number + after.completed ∧
      (e.stretch (number + 1) (phase <$> work)).start around session =
        (.ok (.finished (.failure reached (fault.wrap (failureMessage reached)))), { after with log }) := by
  have hprogress := Session.completed_of_progress (progress_of_step hwork h)
  cases hcompleted : (e.progressReport (number + 1)).isCompleted with
  | true =>
    obtain ⟨log, hstretch⟩ := start_stretch_of_fault hcompleted h phase
    rw [hcompleted, if_pos rfl] at hprogress
    exact ⟨number + 1, log, by omega, hstretch⟩
  | false =>
    obtain ⟨fault', -, hreport⟩ := @start_report_of_not_completed around session e (number + 1) hcompleted
    cases h.symm.trans (start_bind_of_error hreport _)
    obtain ⟨log, hfail⟩ := @start_fail_eq around (session.reporting (e.progressReport (number + 1))) number fault
    rw [hcompleted, if_neg Bool.false_ne_true] at hprogress
    refine ⟨number, log, by omega, ?_⟩
    unfold stretch
    rw [start_bind_attempt, hreport]
    exact hfail

/-- Turns have the product of an operation as their outcome if it gives one; if it raises a fault, they have the
failure of the step that was reported last, of those after the given number of completed reports. -/
def Settles (around : Surroundings) (session : Session) (before : Nat) (x : Run Product) (turns : Run Phase) :
    Prop :=
  (∃ product after, x.start around session = (.ok product, after) ∧
    turns.start around session = (.ok (.finished (.success product)), after)) ∨
  ∃ fault after log reached, x.start around session = (.error fault, after) ∧
    reached + before = after.completed ∧
    turns.start around session =
      (.ok (.finished (.failure reached (fault.wrap (failureMessage reached)))), { after with log })

/-- An execution that is finished stays so. -/
theorem advance_finished (e : Execution) (count : Nat) (outcome : Outcome Product) :
    (e.advance count (.finished outcome)).start around session = (.ok (.finished outcome), session) := by
  induction count with
  | zero => rfl
  | succ count ih => exact (start_bind_of_ok (start_pure _) _).trans ih

/-- One more turn before others settles one more step before theirs. -/
theorem settles_stretch {e : Execution} {number before : Nat} {work : Run α} {phase : α → Phase} {count : Nat}
    {rest : α → Run Product} (hwork : work.Keeps Session.progress) (hnumber : session.completed = before + number)
    (hrest : ∀ a after, (e.step (number + 1) work).start around session = (.ok a, after) →
      after.completed = before + (number + 1) →
      Settles around after before (rest a) (e.advance count (phase a))) :
    Settles around session before (e.step (number + 1) work >>= rest)
      (e.stretch (number + 1) (phase <$> work) >>= e.advance count) := by
  rcases hstep : (e.step (number + 1) work).start around session with ⟨fault | a, after⟩
  · obtain ⟨reached, log, hreached, hturn⟩ := start_stretch_of_error hwork hstep phase
    refine Or.inr ⟨fault, after, log, reached, start_bind_of_error hstep _, by omega, ?_⟩
    exact (start_bind_of_ok hturn _).trans (e.advance_finished count _)
  · have hprogress := Session.completed_of_progress (progress_of_step hwork hstep)
    rw [isCompleted_of_step hstep, if_pos rfl] at hprogress
    unfold Settles
    rw [start_bind_of_ok hstep, start_bind_of_ok (start_stretch_of_ok hstep phase)]
    exact hrest a after hstep (by omega)

/-- Dispatching reports no progress. -/
theorem keeps_progress_dispatch (e : Execution) (files : List (Text × Payload)) :
    (e.dispatch files).Keeps Session.progress :=
  Keeps.bind (quiet_log _ _ _).progress fun _ =>
    (e.transport.keeps_progress_send _).bind fun _ => keeps_pure _

/-- The turns of an execution settle its steps. -/
theorem settles_unguarded (e : Execution) (around : Surroundings) (session : Session) :
    Settles around session session.completed e.unguarded (e.advance executionTurns .started) := by
  refine settles_stretch e.quiet_prepare.progress rfl fun files prepared _ hone => ?_
  refine settles_stretch (e.keeps_progress_dispatch files) hone fun content answered _ htwo => ?_
  have hlast : Settles around answered session.completed (e.step 3 (e.conclude content) >>= pure)
      (e.advance 1 (.answered content)) :=
    settles_stretch (e.keeps_conclude content) htwo fun product concluded _ _ =>
      Or.inl ⟨product, concluded, rfl, rfl⟩
  rwa [bind_pure] at hlast

/-- An execution has the product as its outcome if its steps give it, and otherwise the failure of the step that
was reported last. -/
theorem start_run (e : Execution) (around : Surroundings) (session : Session) :
    (∃ product after, e.unguarded.start around session = (.ok product, after) ∧
      e.run.start around session = (.ok (.success product), after)) ∨
    ∃ fault after log reached, e.unguarded.start around session = (.error fault, after) ∧
      reached + session.completed = after.completed ∧
      e.run.start around session =
        (.ok (.failure reached (fault.wrap (failureMessage reached))), { after with log }) := by
  rcases e.settles_unguarded around session with ⟨product, after, hgives, hturns⟩ |
    ⟨fault, after, log, reached, hraises, hreached, hturns⟩
  · exact Or.inl ⟨product, after, hgives, start_bind_of_ok hturns _⟩
  · exact Or.inr ⟨fault, after, log, reached, hraises, hreached, start_bind_of_ok hturns _⟩

/-- The steps of an execution end in the first one, in the second one, or as the last one does. -/
theorem start_unguarded (e : Execution) (around : Surroundings) (session : Session) :
    (∃ fault after, (e.step 1 e.prepare).start around session = (.error fault, after) ∧
      e.unguarded.start around session = (.error fault, after)) ∨
    ∃ files prepared, (e.step 1 e.prepare).start around session = (.ok files, prepared) ∧
      ((∃ fault after, (e.step 2 (e.dispatch files)).start around prepared = (.error fault, after) ∧
        e.unguarded.start around session = (.error fault, after)) ∨
      ∃ content answered, (e.step 2 (e.dispatch files)).start around prepared = (.ok content, answered) ∧
        e.unguarded.start around session = (e.step 3 (e.conclude content)).start around answered) := by
  unfold unguarded
  rcases hfirst : (e.step 1 e.prepare).start around session with ⟨fault | files, prepared⟩
  · exact Or.inl ⟨fault, prepared, rfl, start_bind_of_error hfirst _⟩
  · refine Or.inr ⟨files, prepared, rfl, ?_⟩
    rw [start_bind_of_ok hfirst]
    rcases hsecond : (e.step 2 (e.dispatch files)).start around prepared with ⟨fault | content, answered⟩
    · exact Or.inl ⟨fault, answered, rfl, start_bind_of_error hsecond _⟩
    · exact Or.inr ⟨content, answered, rfl, start_bind_of_ok hsecond _⟩

end Execution

end DocBuild
