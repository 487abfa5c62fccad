import DocBuild.Proofs.Job.Dispatch
import DocBuild.Proofs.Job.Offers

/-!
# Stages

A stage is obtained by what was asked through an earlier one, and from then on it tells what was done by then: a stage
with parts that there is a part, and a stage with an output that an output was chosen. All stages share one job, so
this has to outlast whatever is asked through any of them, also through those that were obtained long before, and
whatever is refused.
-/

namespace DocBuild

/-- The stage that a call gives when what it asks for is begun. -/
def JobCall.stage? (call : JobCall) : Begun → Option Stage
  | .done => call.next?
  | .build _ | .execution _ | .analysis _ => none

/-- The stage that a call gives is the stage of its reply. -/
theorem JobCall.start_reply_stage_iff (call : JobCall) (begun : Begun) (stage : Stage) (around : Surroundings)
    (session : Session) :
    ((call.reply begun).start around session).1 = .ok (.stage stage) ↔ call.stage? begun = some stage := by
  cases begun with
  | done => cases hnext : call.next? <;> simp [reply, stage?, hnext]
  | build build => simp [reply, stage?]
  | execution e =>
    simp only [reply, stage?, Run.start_bind_pure]
    cases (e.run.start around session).1 <;> simp [Except.map]
  | analysis a =>
    simp only [reply, stage?, Run.start_bind_pure]
    cases (a.run.start around session).1 <;> simp [Except.map]

/-- A job that is known only through its stages. -/
structure Workflow where
  world : World
  /-- The stages that were obtained, in order. -/
  stages : List Stage := [.empty]
  /-- The outputs that accepted calls chose, in order. -/
  outputs : List (Option Output) := []

/-- What may happen next to a workflow. -/
inductive StageEvent where
  /-- Something is asked through the stage that was obtained at the given place. -/
  | call (place : Nat) (name : Text) (args : Arguments)
  /-- The run with the given place takes its next turn. -/
  | turn (place : Nat) (around : Surroundings)
  /-- Something else leaves the session as given. -/
  | elsewhere (session : Session)

namespace Workflow

/-- Asks for something, and notes the stage that is given and the output that is chosen unless it is refused. -/
def ask (w : Workflow) (call : JobCall) : Workflow :=
  match w.world.call call with
  | (.error _, world) => { w with world }
  | (.ok begun, world) => {
      world
      stages := w.stages ++ (call.stage? begun).toList
      outputs := w.outputs ++ call.demand.output?.toList }

/-- The workflow after an event. Nothing comes of a name that the stage does not offer, nor of arguments that do not
fit. -/
def step (w : Workflow) : StageEvent → Workflow
  | .call place name args =>
    match w.stages[place]? with
    | none => w
    | some stage =>
      match stage.call name args with
      | .error _ => w
      | .ok call => w.ask call
  | .turn place around => { w with world := w.world.turn place around }
  | .elsewhere session => { w with world := { w.world with session } }

/-- The workflow after events. -/
def after (w : Workflow) (events : List StageEvent) : Workflow := events.foldl step w

/-- The output of the builds: the one that was chosen last, or a plain PDF. -/
def chosenOutput (w : Workflow) : Output := w.outputs.getLast?.join.getD (Output.pdf {})

/-- The stages that were obtained tell the truth about the job. -/
structure Sound (w : Workflow) : Prop where
  parts : ∀ stage ∈ w.stages, stage ≠ .empty → w.world.job.draft.parts ≠ []
  chosen : .withOutput ∈ w.stages → w.outputs ≠ []
  last : w.world.job.draft.output = w.outputs.getLast?.join

variable {w : Workflow}

/-- The output that was chosen last, if another one may be chosen after it. -/
theorem join_getLast?_append (outputs : List (Option Output)) (chosen : Option (Option Output)) :
    (outputs ++ chosen.toList).getLast?.join = chosen.getD outputs.getLast?.join := by
  cases chosen <;> simp

/-- Whatever is asked through a stage that was obtained, the stages go on telling the truth. -/
theorem Sound.ask (h : w.Sound) {stage : Stage} (hstage : stage ∈ w.stages) {name : Text} {args : Arguments}
    {call : JobCall} (hcall : stage.call name args = .ok call) : (w.ask call).Sound := by
  obtain ⟨operation, -, hoffers, hdemand, hnext⟩ := Stage.of_call hcall
  have hmakes := Operation.makes_demand hdemand
  obtain ⟨hgrown, houtput⟩ := w.world.job.perform_begin_draft call.demand
  have hold : ∀ stage ∈ w.stages, stage ≠ .empty →
      (w.world.job.perform call.demand.begin).2.draft.parts ≠ [] := fun stage hstage hne =>
    hgrown.ne_nil (h.parts stage hstage hne)
  rcases hperform : w.world.job.perform call.demand.begin with ⟨fault | begun, job⟩
  · have hask : w.ask call = { w with world := { w.world with job } } := by
      simp [Workflow.ask, World.call, hperform, Except.toOption]
    rw [hperform] at hold houtput
    rw [hask]
    exact ⟨hold, h.chosen, houtput.trans h.last⟩
  · have hask : w.ask call = {
        world := { w.world with job, running := w.world.running ++ begun.running?.toList }
        stages := w.stages ++ (call.stage? begun).toList
        outputs := w.outputs ++ call.demand.output?.toList } := by
      simp [Workflow.ask, World.call, hperform, Except.toOption]
    have hadded (part : Part) (hpart : call.demand = .addPart part) : job.draft.parts ≠ [] := by
      rw [hpart] at hperform
      have hok : (w.world.job.perform (Demand.addPart part).begin).1 = .ok begun := congrArg Prod.fst hperform
      have hne := Job.parts_ne_nil_of_perform hok
      rwa [hperform] at hne
    have hgiven (next : Stage) (hstage? : call.stage? begun = some next) : operation.next? = some next := by
      cases begun with
      | done => exact hnext.symm.trans hstage?
      | _ => contradiction
    rw [hperform] at hold houtput
    rw [hask]
    refine ⟨?_, ?_, ?_⟩
    · intro other hother hne
      rcases List.mem_append.mp hother with hother | hother
      · exact hold other hother hne
      · have hother := hgiven other (Option.mem_toList.mp hother)
        rcases Stage.addsPart_or_ne_empty hoffers hmakes hother with ⟨part, hpart⟩ | hlater
        · exact hadded part hpart
        · exact hold stage hstage hlater
    · intro hother
      rcases List.mem_append.mp hother with hother | hother
      · simp [h.chosen hother]
      · have hother := hgiven .withOutput (Option.mem_toList.mp hother)
        obtain ⟨output, houtput⟩ := Operation.exists_output_of_next hmakes hother
        simp [houtput]
    · rw [join_getLast?_append, ← h.last]
      exact houtput

/-- A turn of a run leaves the job alone. -/
theorem job_turn (world : World) (place : Nat) (around : Surroundings) :
    (world.turn place around).job = world.job := by
  unfold World.turn
  cases world.running[place]? <;> rfl

/-- Whatever happens, the stages go on telling the truth. -/
theorem Sound.step (h : w.Sound) (event : StageEvent) : (w.step event).Sound := by
  cases event with
  | call place name args =>
    simp only [Workflow.step]
    split
    · exact h
    · next stage hstage =>
      split
      · exact h
      · next call hcall => exact h.ask (List.mem_of_getElem? hstage) hcall
  | turn place around =>
    have hjob := job_turn w.world place around
    exact ⟨by simpa [Workflow.step, hjob] using h.parts, h.chosen, by simpa [Workflow.step, hjob] using h.last⟩
  | elsewhere session => exact ⟨h.parts, h.chosen, h.last⟩

/-- After any events the stages tell the truth. -/
theorem Sound.after (h : w.Sound) (events : List StageEvent) : (w.after events).Sound := by
  induction events generalizing w with
  | nil => exact h
  | cons event rest ih => exact ih (h.step event)

end Workflow

namespace World

variable {world : World} {call : JobCall}

end World

end DocBuild
