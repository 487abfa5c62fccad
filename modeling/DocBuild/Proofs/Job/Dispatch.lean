import DocBuild.Proofs.Job.Interleaving

/-!
# A job dispatches one build once

Until a call begins a run the job has handed nothing over, and that call takes the build as it is. From then on the
job refuses everything but to show this build, and its only run hands over at most one request, which carries it.
-/

namespace DocBuild

namespace World

variable {world : World} {begun : Begun} {build : Build}

/-- No run was begun. -/
structure Idle (world : World) : Prop where
  unused : world.job.executed = false
  running : world.running = []
  handed : world.handed = []

/-- The job was started, and its only run serves the build that the job shows. -/
structure Started (world : World) (begun : Begun) (build : Build) : Prop where
  used : world.job.executed = true
  shown : world.job.draft.compile = .ok build
  serves : ∃ run, world.running = [run] ∧ run.Serves begun build world.handed

/-- A call on a job that was started shows the build or is refused, and changes nothing. -/
theorem Started.call (h : world.Started begun build) (call : JobCall) :
    world.call call = (if call.demand.onlyShows then .ok (.build build) else .error Job.usedUp, world) := by
  cases hdemand : call.demand.onlyShows with
  | true =>
    have hperform := Job.perform_begin_of_onlyShows world.job hdemand
    rw [h.shown] at hperform
    simp [World.call, hperform, Except.map, Except.toOption, Begun.running?]
  | false =>
    have hperform := Job.perform_begin_of_executed h.used hdemand
    simp [World.call, hperform, Except.toOption]

/-- What was begun for a build is a run that has handed nothing over yet. -/
theorem exists_running (h : begun.IsRunOf build) :
    ∃ run, begun.running? = some run ∧ run.Serves begun build [] := by
  cases begun with
  | execution e => exact ⟨_, rfl, rfl, h, rfl⟩
  | analysis a => exact ⟨_, rfl, rfl, h, rfl⟩
  | done => exact h.elim
  | build shown => exact h.elim

/-- What is a run is one of some build. -/
theorem exists_isRunOf (h : begun.isRun = true) : ∃ build, begun.IsRunOf build := by
  cases begun with
  | execution e => exact ⟨e.build, rfl⟩
  | analysis a => exact ⟨a.build, rfl⟩
  | done => contradiction
  | build shown => contradiction

/-- A call on a job that was not started changes the draft alone, or it is a demand for a run that the job refuses
since it shows no build, or it starts the job with the build that the job shows. -/
theorem Idle.call (h : world.Idle) (call : JobCall) :
    (call.demand.startsRun = false ∧ (world.call call).2.Idle ∧
      ∀ begun, (world.call call).1 = .ok begun → begun.isRun = false) ∨
    (call.demand.startsRun = true ∧ ∃ fault, world.job.draft.compile = .error fault ∧
      world.call call = (.error fault, world)) ∨
    call.demand.startsRun = true ∧ ∃ begun build, (world.call call).1 = .ok begun ∧ begun.isRun = true ∧
      world.job.draft.compile = .ok build ∧ (world.call call).2.Started begun build := by
  cases hdemand : call.demand.startsRun with
  | false =>
    have hjob := Job.draftsOnly_begin hdemand world.job
    have hbegun : ∀ begun, (world.call call).1 = .ok begun → begun.isRun = false := by
      intro begun hok
      by_contra hrun
      obtain ⟨build, hbuild⟩ := exists_isRunOf (by simpa using hrun)
      exact Job.beginsNoRun_begin hdemand world.job begun hok build hbuild
    refine Or.inl ⟨rfl, ⟨?_, ?_, h.handed⟩, hbegun⟩
    · exact (congrArg Job.executed hjob).trans h.unused
    · have hnone : (world.call call).1.toOption.bind Begun.running? = none := by
        cases houtcome : (world.call call).1 with
        | error fault => rfl
        | ok begun => simpa [Begun.isRun, Except.toOption] using hbegun begun houtcome
      change world.running ++ ((world.call call).1.toOption.bind Begun.running?).toList = []
      rw [hnone, h.running]
      rfl
  | true =>
    rcases Job.perform_begin_of_startsRun h.unused hdemand with ⟨fault, hbuild, hperform⟩ |
      ⟨build, begun, hbuild, hrun, hperform⟩
    · refine Or.inr (Or.inl ⟨rfl, fault, hbuild, ?_⟩)
      simp [World.call, hperform, Except.toOption]
    · obtain ⟨run, hrunning, hserves⟩ := exists_running hrun
      refine Or.inr (Or.inr ⟨rfl, begun, build, ?_, ?_, hbuild, ?_, ?_, run, ?_, ?_⟩)
      · simp [World.call, hperform]
      · simp [Begun.isRun, hrunning]
      · simp [World.call, hperform]
      · simpa [World.call, hperform] using hbuild
      · simp [World.call, hperform, Except.toOption, hrunning, h.running]
      · simpa [World.call, hperform, h.handed] using hserves

/-- The build is shown as it is. -/
theorem call_compile (world : World) :
    (world.call { demand := .compile }).1 = .ok (.build build) ↔ world.job.draft.compile = .ok build := by
  have hperform := Job.perform_begin_of_onlyShows world.job (show Demand.compile.onlyShows = true from rfl)
  simp only [World.call, hperform]
  cases world.job.draft.compile with
  | error fault => simp [Except.map]
  | ok shown => simp [Except.map]

/-- A job that was started is not started again. -/
theorem Started.not_starts (h : world.Started begun build) {event : Event} {begun' : Begun} {build' : Build} :
    ¬ world.Starts event begun' build' := by
  rintro ⟨target, name, args, call, -, -, hcall, hrun, -⟩
  rw [h.call] at hcall
  cases hdemand : call.demand.onlyShows with
  | true =>
    simp only [hdemand, if_true, Except.ok.injEq] at hcall
    subst hcall
    contradiction
  | false => simp [hdemand] at hcall

/-- Whatever happens after a job was started, it stays started with the same build, and its run goes on. -/
theorem Started.step (h : world.Started begun build) (event : Event) : (world.step event).Started begun build := by
  cases event with
  | call target name args =>
    simp only [World.step]
    split
    · rw [h.call]
      exact h
    · exact h
  | turn place around =>
    obtain ⟨run, hrunning, hserves⟩ := h.serves
    simp only [World.step, World.turn, hrunning]
    cases place with
    | zero =>
      obtain ⟨next, after, more, hturn, hafter, hnext⟩ := Running.turn_serves hserves around world.session
      refine ⟨h.used, h.shown, next, ?_, ?_⟩
      · simp [hturn, Except.toOption]
      · simpa [hturn, hafter] using hnext
    | succ place => simpa using h
  | elsewhere session => exact ⟨h.used, h.shown, h.serves⟩

/-- A call that begins a run on a job that was not started starts it with the build that it shows. -/
theorem Idle.step_of_starts (h : world.Idle) {event : Event} (hstarts : world.Starts event begun build) :
    (world.step event).Started begun build := by
  obtain ⟨target, name, args, call, rfl, hnamed, hcall, hrun, hshown⟩ := hstarts
  have hbuild := world.call_compile.mp hshown
  simp only [World.step, hnamed]
  rcases h.call call with ⟨-, -, hnone⟩ | ⟨-, fault, hfault, -⟩ | ⟨-, begun', build', hcall', -, hbuild', hstarted⟩
  · rw [hnone begun hcall] at hrun
    contradiction
  · rw [hbuild] at hfault
    contradiction
  · cases hcall.symm.trans hcall'
    cases hbuild.symm.trans hbuild'
    exact hstarted

/-- A job that was not started stays so unless it is started. -/
theorem Idle.step (h : world.Idle) (event : Event) :
    (world.step event).Idle ∨ ∃ begun build, world.Starts event begun build := by
  cases event with
  | call target name args =>
    simp only [World.step]
    split
    · rename_i call hnamed
      rcases h.call call with ⟨-, hidle, -⟩ | ⟨-, fault, -, hcall⟩ | ⟨-, begun, build, hcall, hrun, hbuild, -⟩
      · exact Or.inl hidle
      · rw [hcall]
        exact Or.inl h
      · have hshown := world.call_compile.mpr hbuild
        exact Or.inr ⟨begun, build, target, name, args, call, rfl, hnamed, hcall, hrun, hshown⟩
    · exact Or.inl h
  | turn place around =>
    simp only [World.step, World.turn, h.running]
    exact Or.inl ⟨h.unused, h.running, h.handed⟩
  | elsewhere session => exact Or.inl ⟨h.unused, h.running, h.handed⟩

/-- A job that was started stays so. -/
theorem Started.after (h : world.Started begun build) (events : List Event) :
    (world.after events).Started begun build := by
  induction events generalizing world with
  | nil => exact h
  | cons event rest ih => exact ih (h.step event)

/-- After any events the job was not started, or one of the events started it. -/
theorem Idle.after (h : world.Idle) (events : List Event) :
    (world.after events).Idle ∨ ∃ before start rest begun build, events = before ++ start :: rest ∧
      (world.after before).Starts start begun build ∧ (world.after events).Started begun build := by
  induction events generalizing world with
  | nil => exact Or.inl h
  | cons event rest ih =>
    rcases h.step event with hidle | ⟨begun, build, hstarts⟩
    · rcases ih hidle with hlast | ⟨before, start, later, begun, build, rfl, hstarts, hlast⟩
      · exact Or.inl hlast
      · exact Or.inr ⟨event :: before, start, later, begun, build, rfl, hstarts, hlast⟩
    · exact Or.inr ⟨[], event, rest, begun, build, rfl, hstarts, (h.step_of_starts hstarts).after rest⟩

/-- Events one after the other. -/
theorem after_append (world : World) (before rest : List Event) :
    world.after (before ++ rest) = (world.after before).after rest :=
  List.foldl_append

/-- If one of the events begins a run, the job is started from then on. -/
theorem Idle.after_of_starts (h : world.Idle) {before : List Event} {start : Event}
    (hstarts : (world.after before).Starts start begun build) (rest : List Event) :
    (world.after (before ++ start :: rest)).Started begun build := by
  rw [after_append]
  rcases h.after before with hidle | ⟨_, _, _, begun', build', -, -, hstarted⟩
  · exact (hidle.step_of_starts hstarts).after rest
  · exact absurd hstarts hstarted.not_starts

/-- A run has handed over at most one request, and this carries the build. -/
theorem Started.handed (h : world.Started begun build) :
    world.handed.length ≤ 1 ∧ ∀ request ∈ world.handed, begun.Sends build request := by
  obtain ⟨run, -, hserves⟩ := h.serves
  cases run with
  | execution e phase =>
    obtain ⟨rfl, rfl, hhanded⟩ := hserves
    have hcases : world.handed = [] ∨
        ∃ files, world.handed = [e.request files] ∧ files.map Prod.fst = e.build.files.map Prod.fst := by
      cases phase with
      | started => exact Or.inl hhanded
      | prepared files => exact Or.inl hhanded.1
      | answered content => exact Or.inr hhanded
      | finished outcome => exact hhanded
    rcases hcases with hnone | ⟨files, hone, hfiles⟩
    · simp [hnone]
    · rw [hone]
      refine ⟨Nat.le_refl 1, fun request hrequest => ?_⟩
      rw [List.mem_singleton.mp hrequest]
      exact ⟨rfl, files, rfl, hfiles⟩
  | analysis a outcome =>
    obtain ⟨rfl, rfl, hhanded⟩ := hserves
    cases outcome with
    | none =>
      have hnone : world.handed = [] := hhanded
      simp [hnone]
    | some outcome =>
      have hone : world.handed = [a.request] := hhanded
      rw [hone]
      refine ⟨Nat.le_refl 1, fun request hrequest => ?_⟩
      rw [List.mem_singleton.mp hrequest]
      exact ⟨rfl, rfl⟩

/-- Adding an accepted part to a job that was not started makes every demand for a run begin one. -/
theorem Idle.begins_after_part (h : world.Idle) {part : Part} (hpart : part.refusal? = none) (stage : Option Stage)
    {call : JobCall} (hcall : call.demand.startsRun = true) :
    ∃ begun, ((world.call ⟨.addPart part, stage⟩).2.call call).1 = .ok begun ∧ begun.isRun = true := by
  have hperform := Job.perform_begin_addPart h.unused hpart
  have hnext : (world.call ⟨.addPart part, stage⟩).2.Idle := by
    rcases h.call ⟨.addPart part, stage⟩ with ⟨-, hidle, -⟩ | ⟨hrun, -⟩ | ⟨hrun, -⟩
    · exact hidle
    · contradiction
    · contradiction
  have hparts : (world.call ⟨.addPart part, stage⟩).2.job.draft.parts ≠ [] := by
    simp [World.call, hperform, DraftCall.apply]
  obtain ⟨build, hbuild, -⟩ := Draft.exists_compile hparts
  rcases hnext.call call with ⟨hrun, -⟩ | ⟨-, fault, hfault, -⟩ | ⟨-, begun, -, hbegun, hisRun, -⟩
  · rw [hcall] at hrun
    contradiction
  · rw [hbuild] at hfault
    contradiction
  · exact ⟨begun, hbegun, hisRun⟩

end World

/-- However calls through any stage or on the job itself are interleaved with the turns of its runs, the job hands
at most one request over. The request carries the build that the job showed when a call began the run; from then
on every call is refused but to show this build. A call that should begin a run and is refused changes nothing,
and if only a part is missing, adding one is enough. -/
theorem job_dispatches_once (transport : Transport) (connection : Connection) (timeout : Json) (session : Session)
    (events : List Event) :
    let initial : World := { job := { transport, connection, timeout }, session }
    let world := initial.after events
    world.handed.length ≤ 1 ∧
    (∀ request ∈ world.handed, ∃ before start rest begun build, events = before ++ start :: rest ∧
      (initial.after before).Starts start begun build ∧ begun.Sends build request) ∧
    (∀ before start rest begun build, events = before ++ start :: rest →
      (initial.after before).Starts start begun build →
      (∀ request ∈ world.handed, begun.Sends build request) ∧
      ∀ call : JobCall, world.call call =
        (if call.demand.onlyShows then .ok (.build build) else .error Job.usedUp, world)) ∧
    ∀ call : JobCall, call.demand.startsRun = true → ∀ fault next, world.call call = (.error fault, next) →
      next = world ∧
      (fault = Job.usedUp ∧ world.job.executed = true ∨
        (fault = Draft.partless ∧ world.job.draft.parts = []) ∧
        ∀ part stage, part.refusal? = none → ∀ other : JobCall, other.demand.startsRun = true →
          ∃ begun, ((world.call ⟨.addPart part, stage⟩).2.call other).1 = .ok begun ∧ begun.isRun = true) := by
  intro initial world
  have hinitial : initial.Idle := ⟨rfl, rfl, rfl⟩
  refine ⟨?_, ?_, ?_, ?_⟩
  · rcases hinitial.after events with hidle | ⟨_, _, _, begun, build, -, -, hstarted⟩
    · simp [world, hidle.handed]
    · exact hstarted.handed.1
  · intro request hrequest
    rcases hinitial.after events with hidle | ⟨before, start, rest, begun, build, hevents, hstarts, hstarted⟩
    · simp [world, hidle.handed] at hrequest
    · exact ⟨before, start, rest, begun, build, hevents, hstarts, hstarted.handed.2 request hrequest⟩
  · rintro before start rest begun build rfl hstarts
    have hstarted := hinitial.after_of_starts hstarts rest
    exact ⟨hstarted.handed.2, hstarted.call⟩
  · intro call hdemand fault next hcall
    rcases hinitial.after events with hidle | ⟨_, _, _, begun, build, -, -, hstarted⟩
    · rcases hidle.call call with ⟨hrun, -⟩ | ⟨-, fault', hfault, hrefused⟩ | ⟨-, begun, -, hbegun, -⟩
      · rw [hdemand] at hrun
        contradiction
      · cases hcall.symm.trans hrefused
        obtain ⟨rfl, hparts⟩ := Draft.compile_eq_error hfault
        exact ⟨rfl, Or.inr ⟨⟨rfl, hparts⟩, fun part stage hpart other hother =>
          hidle.begins_after_part hpart stage hother⟩⟩
      · rw [hcall] at hbegun
        contradiction
    · have hshows : call.demand.onlyShows = false := by
        cases hkind : call.demand with
        | compile => simp [hkind, Demand.startsRun] at hdemand
        | _ => rfl
      have hrefused := hstarted.call call
      rw [hshows] at hrefused
      cases hcall.symm.trans hrefused
      exact ⟨rfl, Or.inl ⟨rfl, hstarted.used⟩⟩

/-- Surroundings in which nothing is found. -/
def Surroundings.empty : Surroundings where
  entry _ := .noFile
  web _ := .error Job.usedUp
  service _ _ := .error Job.usedUp

/-- A transport that answers every request with an empty document. -/
def Transport.silent : Transport := ⟨fun _ => pure ⟨.bytes [], 200, []⟩⟩

/-- A job that reaches only a silent transport. -/
def silentWorld : World := { job := { transport := .silent, connection := .own, timeout := .null } }

/-- Blank pages, and an execution that is interrupted by other calls before each of its turns. -/
def interruptedExecution : List Event :=
  [.call (some .empty) "add_new_page" [],
   .call (some .withOutput) "execute" [],
   .call (some .withParts) "add_new_page" [],
   .turn 0 .empty,
   .call none "dry_run" [],
   .turn 0 .empty,
   .call none "set_output" [("output", .output Output.markdown)],
   .turn 0 .empty]

/-- The execution hands its request over once, with the build as it was when the execution began. -/
theorem interruptedExecution_dispatches_once :
    (silentWorld.after interruptedExecution).handed.length = 1 ∧
    ∃ begun build,
      (silentWorld.after (interruptedExecution.take 1)).Starts (.call (some .withOutput) "execute" []) begun build ∧
      (∀ request ∈ (silentWorld.after interruptedExecution).handed, begun.Sends build request) ∧
      ∀ call : JobCall, (silentWorld.after interruptedExecution).call call =
        (if call.demand.onlyShows then .ok (.build build) else .error Job.usedUp,
          silentWorld.after interruptedExecution) := by
  obtain ⟨-, -, hfrom, -⟩ := job_dispatches_once .silent .own .null {} interruptedExecution
  have hstarts : ∃ begun build, (silentWorld.after (interruptedExecution.take 1)).Starts
      (.call (some .withOutput) "execute" []) begun build :=
    ⟨_, _, _, _, _, _, rfl, rfl, rfl, rfl, rfl⟩
  obtain ⟨begun, build, hstarts⟩ := hstarts
  exact ⟨rfl, begun, build, hstarts, hfrom _ _ _ begun build rfl hstarts⟩

end DocBuild
