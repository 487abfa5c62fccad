import DocBuild.Proofs.Job.Ending
import DocBuild.Proofs.Job.Upload
import DocBuild.Proofs.Payload.Failing

/-!
# Executions whose files cannot all be obtained

If some of its files cannot be obtained, an execution ends in its first step, with the fault of the first of them in the
order in which they were registered. This does not depend on the order in which the files are attempted. All of them
are attempted before the execution ends, what was obtained is closed, and nothing is handed to the transport.
-/

namespace DocBuild

open Run

variable {around : Surroundings} {session after : Session}

namespace Execution

variable {e : Execution} {fault : Fault}

/-- Preparing an execution raises the fault of the first file that cannot be obtained, and gives all files up. -/
theorem start_prepare_of_firstFails
    (h : Payload.FirstFails e.connection around (e.build.files.map Prod.snd) fault) (session : Session) :
    ∃ after, e.prepare.start around session = (.error fault, after) ∧
      Payload.GivesUp e.connection (e.build.files.map Prod.snd) around session after := by
  obtain ⟨after, hobtain, hgives⟩ := Payload.start_obtainAll_of_firstFails h session
  unfold prepare
  exact ⟨after, start_bind_of_error hobtain _, hgives⟩

/-- If the first report is completed, an execution ends in its first step with the fault of the first file that cannot
be obtained. Its files leave nothing behind, and what was produced of them is released. -/
theorem start_run_of_firstFails (hone : (e.progressReport 1).isCompleted = true)
    (h : Payload.FirstFails e.connection around (e.build.files.map Prod.snd) fault) (session : Session) :
    ∃ after, e.run.start around session = (.ok (.failure 1 (fault.wrap (failureMessage 1))), after) ∧
      Payload.LeavesNothing e.connection (e.build.files.map Prod.snd) session after ∧
      ∀ p ∈ e.produced around session, p.IsReleased after := by
  obtain ⟨given, hprepare, hgives⟩ := start_prepare_of_firstFails h (session.reporting (e.progressReport 1))
  have hfirst : (e.step 1 e.prepare).start around session = (.error fault, given) := (start_step hone _).trans hprepare
  have hall : e.unguarded.start around session = (.error fault, given) := start_bind_of_error hfirst _
  have houtcome := start_run_of_error hall (adds_first hfirst) (List.forall_mem_singleton.mpr hone)
  have hremarks := e.remarks_run around session
  rw [hall] at hremarks
  have hleaves := hgives.leavesNothing.of_remarks hremarks
  refine ⟨(e.run.start around session).2, Prod.ext houtcome rfl,
    ⟨hleaves.sent, hleaves.closed, hleaves.dispatched⟩, fun p hp => ?_⟩
  obtain ⟨log, progress, hlater⟩ := hremarks
  rw [hlater]
  exact (produced_step hfirst).2 fault rfl p hp

end Execution

/-- A job that has a part and was not started fails in its first step if some of its inputs cannot be obtained and
nobody who is told of this step fails. The fault is the one of the first input that cannot be obtained, in the order in
which the inputs were registered; it is the same in whatever order they are attempted. In every order and every session
preparing attempts all inputs, closes what was obtained and raises this fault; and the execution comes to the failure
of its first step whose error records the fault, with everything closed that was produced, nothing of the inputs left
behind and nothing handed to the transport. -/
theorem execution_fails_with_first (job : Job) (hunused : job.executed = false) (hparts : job.draft.parts ≠ [])
    (timeout : Json) (callback : Option ProgressCallback) (hcalm : ∀ told, callback = some told → told 1 = .ok ())
    (around : Surroundings)
    (hfails : ∃ entry ∈ job.draft.files, ¬ Payload.Obtainable job.connection around entry.2) :
    ∃ e fault, job.perform (Job.execute timeout callback) = (.ok e, { job with executed := true }) ∧
      Payload.FirstFails job.connection around (job.draft.files.map Prod.snd) fault ∧
      ∀ schedule session,
        (∃ prepared, e.prepare.start { around with schedule } session = (.error fault, prepared) ∧
          Payload.GivesUp job.connection (job.draft.files.map Prod.snd) { around with schedule } session prepared) ∧
        ∃ error after, e.run.start { around with schedule } session = (.ok (.failure 1 error), after) ∧
          error.Records 1 fault ∧
          (∀ p ∈ e.produced { around with schedule } session, p.IsReleased after) ∧
          Payload.LeavesNothing job.connection (job.draft.files.map Prod.snd) session after := by
  obtain ⟨build, hbuild, hfiles⟩ := Draft.exists_compile hparts
  obtain ⟨e, hexecute, hserves, hcallback, -, hconnection, -⟩ := Job.perform_execute hunused hbuild timeout callback
  have hone : (e.progressReport 1).isCompleted = true :=
    Execution.isCompleted_of_told fun told htold => hcalm told (hcallback ▸ htold)
  obtain ⟨entry, hentry, hnot⟩ := hfails
  obtain ⟨fault, hfirst⟩ := Payload.exists_firstFails ⟨entry.2, List.mem_map_of_mem hentry, hnot⟩
  refine ⟨e, fault, hexecute, hfirst, fun schedule session => ?_⟩
  have hnow := hfirst.of_schedule schedule
  rw [← hfiles, ← hserves, ← hconnection] at hnow ⊢
  obtain ⟨after, hrun, hleaves, hreleased⟩ := Execution.start_run_of_firstFails hone hnow session
  exact ⟨Execution.start_prepare_of_firstFails hnow session, _, after, hrun, fault.records_wrap 1, hreleased, hleaves⟩

/-- A stream, a local file and a remote one. -/
def scatteredHistory : List DraftCall :=
  [.addPart ⟨.file (.stream 0 none) none .null .null, []⟩,
   .addPart ⟨.file (.localFile (.str "a.pdf")) none .null .null, []⟩,
   .addPart ⟨.file (.remote (.str "https://files.example.com/missing.pdf")) none .null .null, []⟩]

/-- A job that sends the stream and the two files over a silent transport. -/
def scatteredJob : Job := { transport := .silent, connection := .own, draft := Draft.after {} scatteredHistory }

/-- Neither file is found, and the remote one is attempted before the local one: the fault is still that of the local
one. The stream is closed, and nothing but the fetch is sent. -/
theorem scatteredJob_fails_with_local :
    (scatteredJob.executed = false ∧ scatteredJob.draft.parts ≠ [] ∧
      ∃ entry ∈ scatteredJob.draft.files, ¬ Payload.Obtainable .own .empty entry.2) ∧
    ∃ e, scatteredJob.perform (Job.execute .null none) = (.ok e, { scatteredJob with executed := true }) ∧
      ∃ error after,
        e.run.start { Surroundings.empty with schedule := Surroundings.backwards.schedule } streamSession =
          (.ok (.failure 1 error), after) ∧
        error.Records 1 (Payload.missing (.ofText "a.pdf")) ∧
        after.streams.map Stream.closed = [true] ∧ ¬ after.HasOpen 0 ∧
        after.sent.length = 1 ∧ after.dispatched = [] := by
  have hparts : scatteredJob.draft.parts ≠ [] := by decide
  have hfails : ∃ entry ∈ scatteredJob.draft.files, ¬ Payload.Obtainable .own .empty entry.2 := by
    refine ⟨(_, .localFile (.str "a.pdf")), List.mem_cons_of_mem _ List.mem_cons_self, fun h => ?_⟩
    obtain ⟨payload, hpayload⟩ := h _ ⟨{}, rfl⟩
    cases hpayload
  obtain ⟨e, fault, hexecute, -, hruns⟩ := execution_fails_with_first scatteredJob rfl hparts .null none
    (fun told htold => by cases htold) .empty hfails
  obtain ⟨⟨prepared, hprepare, -⟩, error, after, hrun, hrecords, -, hleaves⟩ :=
    hruns Surroundings.backwards.schedule streamSession
  cases hexecute
  cases hprepare
  have hopen : ¬ after.HasOpen 0 := fun hopen => (hleaves.closed 0 hopen).2 none List.mem_cons_self
  cases hrun
  exact ⟨⟨rfl, hparts, hfails⟩, _, rfl, _, _, rfl, hrecords, rfl, hopen, rfl, hleaves.dispatched⟩

end DocBuild
