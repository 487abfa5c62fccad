import DocBuild.Call.Job
import DocBuild.Proofs.Job.Asking
import DocBuild.Proofs.Job.Turn

/-!
# Interleavings

A job is asked for things through any of its stages or itself, while the runs that it has begun take their turns
one at a time. What a run waits for is settled in the turn in which it asks for it, so between two turns it is
waiting for its files or for the answer. Whatever else goes on may change the session in any way.

What the job is asked and what its runs do is what the operations by name and the executions do; only the order in
which it happens is free.
-/

namespace DocBuild

/-- A run that was begun, and how far it has come. -/
inductive Running where
  | execution (execution : Execution) (phase : Phase)
  | analysis (analysis : Analysis) (outcome : Option (Outcome Content))

/-- One turn of a run. An analysis has only one. -/
def Running.turn : Running → Run Running
  | execution e phase => execution e <$> e.turn phase
  | analysis a none => (analysis a ∘ some) <$> a.run
  | analysis a (some outcome) => pure (analysis a (some outcome))

/-- The run that was begun, before its first turn. -/
def Begun.running? : Begun → Option Running
  | execution e => some (.execution e .started)
  | analysis a => some (.analysis a none)
  | done | build _ => none

/-- Whether what was begun is a run. -/
def Begun.isRun (begun : Begun) : Bool := begun.running?.isSome

/-- The call with a name on a stage of the job, or on the job itself. -/
def JobCall.named (target : Option Stage) (name : Text) (args : Arguments) : Except Fault JobCall :=
  match target with
  | some stage => stage.call name args
  | none => Job.call name args

/-- A job with the runs it has begun, in a session. -/
structure World where
  job : Job
  running : List Running := []
  session : Session := {}
  /-- The requests that the runs have handed to the transport of the job. -/
  handed : List (Request Payload) := []

/-- What may happen next. -/
inductive Event where
  /-- The job is asked for something, through a stage or directly. -/
  | call (target : Option Stage) (name : Text) (args : Arguments)
  /-- The run with the given place takes its next turn. -/
  | turn (place : Nat) (around : Surroundings)
  /-- Something else leaves the session as given. -/
  | elsewhere (session : Session)

namespace World

/-- Asks the job; a run that is begun goes on in later turns. -/
def call (world : World) (call : JobCall) : Except Fault Begun × World :=
  let (outcome, job) := world.job.perform call.demand.begin
  let begun := outcome.toOption.bind Begun.running?
  (outcome, { world with job, running := world.running ++ begun.toList })

/-- Gives the run with the given place a turn. -/
def turn (world : World) (place : Nat) (around : Surroundings) : World :=
  match world.running[place]? with
  | none => world
  | some run =>
    let (outcome, session) := run.turn.start around world.session
    { world with
      running := world.running.set place (outcome.toOption.getD run)
      session
      handed := world.handed ++ session.dispatched.drop world.session.dispatched.length }

/-- The world after an event. A name that is not offered, and arguments that do not fit, do not reach the job. -/
def step (world : World) : Event → World
  | .call target name args =>
    match JobCall.named target name args with
    | .ok call => (world.call call).2
    | .error _ => world
  | .turn place around => world.turn place around
  | .elsewhere session => { world with session }

/-- The world after events. -/
def after (world : World) (events : List Event) : World := events.foldl step world

/-- The event is a call that begins a run, and at that moment the job shows the build. -/
def Starts (world : World) (event : Event) (begun : Begun) (build : Build) : Prop :=
  ∃ target name args call, event = .call target name args ∧ JobCall.named target name args = .ok call ∧
    (world.call call).1 = .ok begun ∧ begun.isRun = true ∧
    (world.call { demand := .compile }).1 = .ok (.build build)

end World

/-- A request carries a build: its instructions, and for an execution one file under each of its keys. -/
def Begun.Sends (begun : Begun) (build : Build) (request : Request Payload) : Prop :=
  request.data = .obj (Members.single "instructions" build.tree) ∧
    match begun with
    | execution _ => ∃ files, request.files = some files ∧ files.map Prod.fst = build.files.map Prod.fst
    | analysis _ => request.files = none
    | done | Begun.build _ => False

/-- What an execution has handed over at each phase. -/
def Execution.HasHanded (e : Execution) (handed : List (Request Payload)) : Phase → Prop
  | .started => handed = []
  | .prepared files => handed = [] ∧ files.map Prod.fst = e.build.files.map Prod.fst
  | .answered _ => ∃ files, handed = [e.request files] ∧ files.map Prod.fst = e.build.files.map Prod.fst
  | .finished _ => handed = [] ∨
    ∃ files, handed = [e.request files] ∧ files.map Prod.fst = e.build.files.map Prod.fst

/-- What an analysis has handed over before and after it has its outcome. -/
def Analysis.HasHanded (a : Analysis) (handed : List (Request Payload)) : Option (Outcome Content) → Prop
  | none => handed = []
  | some _ => handed = [a.request]

/-- A run is the one that was begun for a build, and has handed over what it should. -/
def Running.Serves (begun : Begun) (build : Build) (handed : List (Request Payload)) : Running → Prop
  | execution e phase => begun = .execution e ∧ e.build = build ∧ e.HasHanded handed phase
  | analysis a outcome => begun = .analysis a ∧ a.build = build ∧ a.HasHanded handed outcome

/-- A turn of an execution never fails, and hands over what is due. -/
theorem Execution.turn_hasHanded {e : Execution} {handed : List (Request Payload)} {phase : Phase}
    (h : e.HasHanded handed phase) (around : Surroundings) (session : Session) :
    ∃ next after more, (e.turn phase).start around session = (.ok next, after) ∧
      after.dispatched = session.dispatched ++ more ∧ e.HasHanded (handed ++ more) next := by
  cases phase with
  | started =>
    obtain ⟨next, after, hturn, hafter, hnext⟩ := e.turn_started around session
    refine ⟨next, after, [], hturn, by simpa using hafter, ?_⟩
    have hnone : handed = [] := h
    subst hnone
    rcases hnext with ⟨outcome, rfl⟩ | ⟨files, rfl, hfiles⟩
    · exact Or.inl rfl
    · exact ⟨rfl, hfiles⟩
  | prepared files =>
    obtain ⟨rfl, hfiles⟩ := h
    obtain ⟨next, after, hturn, ⟨⟨outcome, rfl⟩, hafter⟩ | ⟨hnext, hafter⟩⟩ := e.turn_prepared files around session
    · exact ⟨_, after, [], hturn, by simpa using hafter, Or.inl rfl⟩
    · refine ⟨next, after, [e.request files], hturn, hafter, ?_⟩
      rcases hnext with ⟨outcome, rfl⟩ | ⟨content, rfl⟩
      · exact Or.inr ⟨files, rfl, hfiles⟩
      · exact ⟨files, rfl, hfiles⟩
  | answered content =>
    obtain ⟨files, rfl, hfiles⟩ := h
    obtain ⟨outcome, after, hturn, hafter⟩ := e.turn_answered content around session
    exact ⟨_, after, [], hturn, by simpa using hafter, Or.inr ⟨files, rfl, hfiles⟩⟩
  | finished outcome => exact ⟨_, session, [], rfl, by simp, by simpa using h⟩

/-- A turn of a run never fails, and hands over what is due. -/
theorem Running.turn_serves {begun : Begun} {build : Build} {handed : List (Request Payload)} {run : Running}
    (h : run.Serves begun build handed) (around : Surroundings) (session : Session) :
    ∃ next after more, run.turn.start around session = (.ok next, after) ∧
      after.dispatched = session.dispatched ++ more ∧ next.Serves begun build (handed ++ more) := by
  cases run with
  | execution e phase =>
    obtain ⟨hbegun, hbuild, hhanded⟩ := h
    obtain ⟨next, after, more, hturn, hafter, hnext⟩ := Execution.turn_hasHanded hhanded around session
    refine ⟨.execution e next, after, more, ?_, hafter, hbegun, hbuild, hnext⟩
    rw [Running.turn, Run.start_map, hturn]
    rfl
  | analysis a outcome =>
    obtain ⟨hbegun, hbuild, hhanded⟩ := h
    cases outcome with
    | none =>
      have hnone : handed = [] := hhanded
      subst hnone
      obtain ⟨outcome, after, hrun, hafter⟩ := a.start_run around session
      refine ⟨.analysis a (some outcome), after, [a.request], ?_, hafter, hbegun, hbuild, rfl⟩
      rw [Running.turn, Run.start_map, hrun]
      rfl
    | some outcome => exact ⟨_, session, [], rfl, by simp, hbegun, hbuild, by simpa using hhanded⟩

namespace World

/-- So many turns of the last run. -/
def turns (world : World) (count : Nat) (around : Surroundings) : World :=
  world.after (List.replicate count (.turn (world.running.length - 1) around))

end World

end DocBuild
