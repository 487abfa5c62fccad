import DocBuild.Proofs.Job.Dispatch
import DocBuild.Proofs.Job.Steps
import DocBuild.Proofs.Payload.Released

/-!
# What an execution releases

The files of an execution are obtained in its first step and belong to the transport once they are handed over. A
transport that releases what it is given leaves only one way for a file to stay open: the caller who is told of the
progress fails at the second step, when all files have been obtained and none has been handed over.
-/

namespace DocBuild

open Run

variable {around : Surroundings} {session middle after : Session}

/-- A transport releases all files that it is given, whatever comes of the request. -/
def Transport.Releases (t : Transport) : Prop :=
  ∀ (request : Request Payload) around session, ∀ file ∈ request.attached,
    file.2.IsReleased ((t.deliver request).start around session).2

namespace HttpTransport

/-- What a service makes of a refusal does not touch the streams. -/
theorem keeps_streams_refusal (request : Request Payload) (response : HttpResponse) :
    (Service.refusal request response).Keeps Session.streams :=
  (keeps_ofExcept _).bind fun _ => (keeps_log (fun _ _ => rfl) _ _ _).bind fun _ => keeps_pure _

/-- Whatever comes of an exchange over HTTP, the files of the request are released. -/
theorem releases_deliver (t : HttpTransport) (request : Request Payload) (around : Surroundings) (session : Session) :
    ∀ file ∈ request.attached, file.2.IsReleased ((t.deliver request).start around session).2 := by
  intro file hfile
  unfold deliver
  rw [start_andFinally fun session => Payload.start_closeAll _ around session]
  exact (Payload.releases_closeAll _ around _).1 _ (List.mem_map_of_mem hfile)

/-- Requests over HTTP are sent by a transport that releases the files. -/
theorem transport_releases (t : HttpTransport) : t.transport.Releases := by
  intro request around session file hfile
  refine Payload.isReleased_bind (t.releases_deliver request around session file hfile) fun response => ?_
  refine (keeps_log (fun _ _ => rfl) _ _ _).bind fun _ => ?_
  dsimp only
  split
  · exact (keeps_streams_refusal request response).bind fun _ => (keeps_throw _).bind fun _ =>
      (keeps_ofExcept _).bind fun _ => keeps_pure _
  · exact (keeps_ofExcept _).bind fun _ => keeps_pure _

end HttpTransport

namespace Execution

/-- The payloads that were made of the files of the build, whether or not all of them could be obtained. -/
def produced (e : Execution) (around : Surroundings) (session : Session) : List Payload :=
  match (e.report 1).start around session with
  | (.ok _, reported) => Payload.produced e.connection (e.build.files.map Prod.snd) around reported
  | (.error _, _) => []

/-- All files are obtained, one of them from a stream that is still open, and then the caller who is told of the
second step fails. -/
def Abandons (e : Execution) (around : Surroundings) (session : Session) : Prop :=
  ∃ files prepared callback fault, (e.step 1 e.prepare).start around session = (.ok files, prepared) ∧
    e.callback = some callback ∧ callback 2 = .error fault ∧ ∃ file ∈ files, ¬ file.2.IsReleased prepared

/-- A transport that releases what it is given makes dispatching release all files. -/
theorem releases_dispatch {e : Execution} (htransport : e.transport.Releases) (files : List (Text × Payload))
    (around : Surroundings) (session : Session) :
    ∀ file ∈ files, file.2.IsReleased ((e.dispatch files).start around session).2 := by
  intro file hfile
  have hlog : (e.announce files.length).start around session =
      (.ok (), ((e.announce files.length).start around session).2) := rfl
  unfold dispatch
  rw [start_bind_of_ok hlog]
  refine Payload.isReleased_bind ?_ fun answer => keeps_pure _
  rw [Transport.start_send]
  exact htransport (e.request files) around _ file hfile

/-- The payloads that preparing gives are those that were produced; if it fails, all that were produced are
released. -/
theorem produced_prepare {e : Execution} {reported : Session} {outcome : Except Fault (List (Text × Payload))}
    (h : e.prepare.start around reported = (outcome, after)) :
    let produced := Payload.produced e.connection (e.build.files.map Prod.snd) around reported
    (∀ files, outcome = .ok files → ∀ p, p ∈ produced ↔ p ∈ files.map Prod.snd) ∧
      ∀ fault, outcome = .error fault → ∀ p ∈ produced, p.IsReleased after := by
  unfold prepare at h
  rw [start_bind_pure] at h
  rcases hobtain : (Payload.obtainAll e.connection (e.build.files.map Prod.snd)).start around reported with
    ⟨fault | payloads, obtained⟩
  · rw [hobtain] at h
    cases h
    refine ⟨fun files hfiles => by contradiction, fun _ _ => ?_⟩
    exact (Payload.produced_obtainAll hobtain).2 fault rfl
  · rw [hobtain] at h
    cases h
    refine ⟨fun files hfiles p => ?_, fun fault hfault => by contradiction⟩
    cases hfiles
    have hlength := Payload.length_obtainAll hobtain
    rw [List.map_snd_zip (by simp [hlength])]
    exact (Payload.produced_obtainAll hobtain).1 payloads rfl p

/-- The payloads that the first step gives are those that were produced; if it fails, all that were produced are
released. -/
theorem produced_step {e : Execution} {outcome : Except Fault (List (Text × Payload))}
    (h : (e.step 1 e.prepare).start around session = (outcome, after)) :
    (∀ files, outcome = .ok files → ∀ p, p ∈ e.produced around session ↔ p ∈ files.map Prod.snd) ∧
      ∀ fault, outcome = .error fault → ∀ p ∈ e.produced around session, p.IsReleased after := by
  unfold produced
  cases hcompleted : (e.progressReport 1).isCompleted with
  | true =>
    rw [start_step hcompleted] at h
    rw [start_report hcompleted]
    exact produced_prepare h
  | false =>
    obtain ⟨fault, -, hreport⟩ := @start_report_of_not_completed around session e 1 hcompleted
    cases h.symm.trans (start_bind_of_error hreport _)
    rw [hreport]
    exact ⟨fun files hfiles => by contradiction, fun _ _ p hp => by contradiction⟩

/-- Reporting a step does not touch the streams. -/
theorem keeps_streams_report (e : Execution) (number : Nat) : (e.report number).Keeps Session.streams := by
  intro around session
  rw [start_report_eq]
  rfl

/-- The files that the first step gives are all that was produced, and only the first step makes files. -/
theorem abandons_iff {e : Execution} {files : List (Text × Payload)} {prepared : Session}
    (h : (e.step 1 e.prepare).start around session = (.ok files, prepared)) :
    e.Abandons around session ↔
      (e.progressReport 2).isCompleted = false ∧ ∃ p ∈ e.produced around session, ¬ p.IsReleased prepared := by
  rw [isCompleted_eq_false_iff]
  have hproduced := (produced_step h).1 files rfl
  constructor
  · rintro ⟨files', prepared', callback, fault, hok, hcallback, hfault, file, hfile, hopen⟩
    cases h.symm.trans hok
    exact ⟨⟨callback, fault, hcallback, hfault⟩, file.2, (hproduced _).mpr (List.mem_map_of_mem hfile), hopen⟩
  · rintro ⟨⟨callback, fault, hcallback, hfault⟩, p, hp, hopen⟩
    obtain ⟨file, hfile, rfl⟩ := List.mem_map.mp ((hproduced p).mp hp)
    exact ⟨files, prepared, callback, fault, h, hcallback, hfault, file, hfile, hopen⟩

/-- Over a transport that releases what it is given, the steps of an execution leave all files that they obtained
released, unless they abandon them. -/
theorem releases_unguarded_iff {e : Execution} (htransport : e.transport.Releases) (around : Surroundings)
    (session : Session) :
    (∀ p ∈ e.produced around session, p.IsReleased (e.unguarded.start around session).2) ↔
      ¬ e.Abandons around session := by
  unfold unguarded
  rcases hfirst : (e.step 1 e.prepare).start around session with ⟨fault | files, prepared⟩
  · -- Not all files are obtained, and what was obtained is released.
    rw [start_bind_of_error hfirst]
    refine iff_of_true ((produced_step hfirst).2 fault rfl) ?_
    rintro ⟨files, prepared, -, -, hok, -⟩
    cases hfirst.symm.trans hok
  · rw [start_bind_of_ok hfirst, abandons_iff hfirst]
    cases htwo : (e.progressReport 2).isCompleted with
    | true =>
      -- The files are handed over, and what follows does not touch the streams.
      refine iff_of_true (fun p hp => ?_) (by simp)
      obtain ⟨file, hfile, rfl⟩ := List.mem_map.mp (((produced_step hfirst).1 files rfl p).mp hp)
      refine Payload.isReleased_bind ?_ fun content =>
        (e.keeps_streams_report 3).bind fun _ => e.keeps_conclude content
      rw [start_step htwo]
      exact releases_dispatch htransport files around _ file hfile
    | false =>
      -- The files are as they were obtained.
      obtain ⟨fault, -, hsecond⟩ := @start_step_of_not_completed _ around prepared e 2 htwo (e.dispatch files)
      rw [start_bind_of_error hsecond]
      have hstreams : ∀ p : Payload, p.IsReleased (prepared.reporting (e.progressReport 2)) ↔ p.IsReleased prepared :=
        fun p => Iff.rfl
      simp [hstreams]

end Execution

/-- An execution of a job that has a part and was not started, over a transport that releases what it is given,
leaves every file that it obtained released when it ends, whatever the inputs, the caller who is told of the
progress and the service do, except in one case: all files are obtained, one of them from a stream that is still
open, and the caller who is told of the second step fails. -/
theorem execution_releases_iff (job : Job) (hunused : job.executed = false) (hparts : job.draft.parts ≠ [])
    (htransport : job.transport.Releases) (timeout : Json) (callback : Option ProgressCallback) :
    ∃ e, job.perform (Job.execute timeout callback) = (.ok e, { job with executed := true }) ∧
      ∀ around session, ∃ outcome after, e.run.start around session = (.ok outcome, after) ∧
        ((∀ p ∈ e.produced around session, p.IsReleased after) ↔ ¬ e.Abandons around session) := by
  obtain ⟨build, hbuild, -⟩ := Draft.exists_compile hparts
  obtain ⟨e, hexecute, -, -, htransport', -⟩ := Job.perform_execute hunused hbuild timeout callback
  rw [← htransport'] at htransport
  refine ⟨e, hexecute, fun around session => ?_⟩
  have hreleases := e.releases_unguarded_iff htransport around session
  rcases e.start_run around session with ⟨product, after, hgives, hrun⟩ |
    ⟨fault, after, log, reached, hraises, -, hrun⟩
  · rw [hgives] at hreleases
    exact ⟨_, _, hrun, hreleases⟩
  · rw [hraises] at hreleases
    exact ⟨_, _, hrun, hreleases⟩

/-- A job that sends a stream over HTTP. -/
def streamJob : Job where
  transport := HttpTransport.transport ⟨.literal "key", .str HttpTransport.defaultBaseUrl, .null, .own⟩
  connection := .own
  draft := (Draft.addPart (.ofFile (.stream 0 none)) {}).2

/-- A session with one stream, which is open. -/
def streamSession : Session := { streams := [{ content := [120] }] }

/-- The service does not answer, and the stream is released. -/
theorem streamJob_releases :
    (streamJob.executed = false ∧ streamJob.draft.parts ≠ [] ∧ streamJob.transport.Releases) ∧
    ∃ e, streamJob.perform (Job.execute .null none) = (.ok e, { streamJob with executed := true }) ∧
      e.produced .empty streamSession = [⟨.stream 0, .str Payload.streamName, .null⟩] ∧
      ∃ outcome after, e.run.start .empty streamSession = (.ok outcome, after) ∧
        ∀ p ∈ e.produced .empty streamSession, p.IsReleased after := by
  have hparts : streamJob.draft.parts ≠ [] := by decide
  have htransport : streamJob.transport.Releases := HttpTransport.transport_releases _
  obtain ⟨e, hexecute, hruns⟩ := execution_releases_iff streamJob rfl hparts htransport .null none
  refine ⟨⟨rfl, hparts, htransport⟩, e, hexecute, ?_⟩
  obtain ⟨outcome, after, hrun, hreleases⟩ := hruns .empty streamSession
  cases hexecute
  refine ⟨rfl, outcome, after, hrun, hreleases.mpr ?_⟩
  rintro ⟨-, -, callback, -, -, hcallback, -⟩
  contradiction

/-- A caller who fails when told of the second step. -/
def failsAtSecondStep : ProgressCallback := fun step =>
  if step = 2 then .error (.ofForeign .runtime "stop") else .ok ()

/-- The caller fails when the stream was obtained and not yet handed over: it is still open when the execution
ends, although the transport releases what it is given. -/
theorem streamJob_stays_open :
    (streamJob.executed = false ∧ streamJob.draft.parts ≠ [] ∧ streamJob.transport.Releases) ∧
    ∃ e, streamJob.perform (Job.execute .null (some failsAtSecondStep)) =
        (.ok e, { streamJob with executed := true }) ∧
      ∃ outcome after, e.run.start .empty streamSession = (.ok outcome, after) ∧
        after.streams.map Stream.closed = [false] ∧
        ∃ p ∈ e.produced .empty streamSession, ¬ p.IsReleased after := by
  refine ⟨⟨rfl, by decide, HttpTransport.transport_releases _⟩, _, rfl, _, _, rfl, rfl, ?_⟩
  exact ⟨⟨.stream 0, .str Payload.streamName, .null⟩, List.mem_singleton_self _, fun h => h 0 rfl ⟨_, rfl, rfl⟩⟩

end DocBuild
