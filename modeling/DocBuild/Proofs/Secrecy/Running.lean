import DocBuild.Call.Job
import DocBuild.Proofs.Job.Asking
import DocBuild.Proofs.Secrecy.Sending

/-!
# Running over either transport

A job drafts the same whatever its transport is, and what it begins is the same but for the transport. If two
transports agree, so do the runs over them: the same outcomes, with the same failures, the same log and the same
progress.
-/

namespace DocBuild

open Run

variable {key key' : Text} {around : Surroundings} {t t' : Transport}

/-- The execution through another transport. -/
def Execution.through (t : Transport) (e : Execution) : Execution := { e with transport := t }

/-- The analysis through another transport. -/
def Analysis.through (t : Transport) (a : Analysis) : Analysis := { a with transport := t }

/-- What was begun, through another transport. -/
def Begun.through (t : Transport) : Begun → Begun
  | execution e => .execution (e.through t)
  | analysis a => .analysis (a.through t)
  | done => done
  | build shown => build shown

/-- The job through another transport. -/
def Job.through (t : Transport) (job : Job) : Job := { job with transport := t }

namespace Execution

/-- Reports agree, whatever the transports are. -/
theorem agrees_report (e : Execution) (number : Nat) :
    Agrees key key' around ((e.through t).report number) ((e.through t').report number) :=
  (agrees_modify fun _ _ => rfl).bind fun _ => agrees_ofExcept _

/-- Failures agree. -/
theorem agrees_fail (number : Nat) (fault : Fault) :
    Agrees key key' around (fail number fault) (fail number fault) :=
  (agrees_log _ _ _).bind fun _ => agrees_pure _

/-- Turns agree if their work does. -/
theorem agrees_stretch (e : Execution) (number : Nat) {work work' : Run Phase} (h : Agrees key key' around work work') :
    Agrees key key' around ((e.through t).stretch number work) ((e.through t').stretch number work') := by
  refine (e.agrees_report number).attempt.bind fun reported => ?_
  cases reported with
  | error fault => exact agrees_fail _ _
  | ok _ =>
    refine h.attempt.bind fun outcome => ?_
    cases outcome with
    | error fault => exact agrees_fail _ _
    | ok phase => exact agrees_pure _

/-- Over transports that agree turns agree. -/
theorem agrees_turn (e : Execution) (h : Transport.Agree key key' around t t') (phase : Phase) :
    Agrees key key' around ((e.through t).turn phase) ((e.through t').turn phase) := by
  cases phase with
  | started =>
    have hprepare : Agrees key key' around (e.through t).prepare (e.through t').prepare :=
      (Payload.agrees_obtainAll _ _).bind fun _ => agrees_pure _
    exact e.agrees_stretch 1 (hprepare.map _)
  | prepared files =>
    have hdispatch : Agrees key key' around ((e.through t).dispatch files) ((e.through t').dispatch files) :=
      (agrees_log _ _ _).bind fun _ => (h _).bind fun _ => agrees_pure _
    exact e.agrees_stretch 2 (hdispatch.map _)
  | answered content =>
    have hconclude : Agrees key key' around ((e.through t).conclude content) ((e.through t').conclude content) :=
      agrees_ofExcept _
    exact e.agrees_stretch 3 (hconclude.map _)
  | finished outcome => exact agrees_pure _

/-- Over transports that agree executions agree without a break. -/
theorem agrees_run (e : Execution) (h : Transport.Agree key key' around t t') :
    Agrees key key' around (e.through t).run (e.through t').run := by
  have hadvance (n : Nat) (phase : Phase) :
      Agrees key key' around ((e.through t).advance n phase) ((e.through t').advance n phase) := by
    induction n generalizing phase with
    | zero => exact agrees_pure _
    | succ n ih => exact (e.agrees_turn h phase).bind ih
  exact (hadvance _ _).bind fun _ => agrees_pure _

/-- Over transports that agree executions agree side by side, turn by turn. -/
theorem agrees_takeTurns (executions : List Execution) (h : Transport.Agree key key' around t t') (turns : List Nat)
    (phases : List Phase) :
    Agrees key key' around (takeTurns (executions.map (through t)) turns phases)
      (takeTurns (executions.map (through t')) turns phases) := by
  induction turns generalizing phases with
  | nil => exact agrees_pure _
  | cons place rest ih =>
    simp only [takeTurns, List.getElem?_map]
    cases executions[place]? with
    | none => exact ih phases
    | some e =>
      cases phases[place]? with
      | none => exact ih phases
      | some phase => exact (e.agrees_turn h phase).bind fun next => ih _

/-- Over transports that agree executions agree side by side. -/
theorem agrees_runAll (executions : List Execution) (h : Transport.Agree key key' around t t') :
    Agrees key key' around (runAll (executions.map (through t))) (runAll (executions.map (through t'))) := by
  refine agrees_surroundings_bind ?_
  simp only [List.length_map, List.map_map]
  exact (agrees_takeTurns executions h _ _).bind fun _ => agrees_pure _

end Execution

/-- Over transports that agree analyses agree. -/
theorem Analysis.agrees_run (a : Analysis) (h : Transport.Agree key key' around t t') :
    Agrees key key' around (a.through t).run (a.through t').run := by
  refine (h _).attempt.bind fun outcome => ?_
  cases outcome with
  | error fault => exact (agrees_log _ _ _).bind fun _ => agrees_pure _
  | ok answer => exact agrees_pure _

/-- Through another transport `y` gives what `f` makes of what `x` gives through the transport of the job, and leaves
the same job but for the transport. -/
def JobStep.Carries {α β : Type} (t : Transport) (f : α → β) (x : JobStep α) (y : JobStep β) : Prop :=
  ∀ job : Job, (job.through t).perform y = ((job.perform x).1.map f, (job.perform x).2.through t)

namespace Job

variable {α β α' β' : Type} {f : α → β}

/-- A value alone is carried over. -/
theorem carries_pure (a : α) : JobStep.Carries t f (pure a) (pure (f a)) := fun _ => rfl

/-- A fault alone is carried over. -/
theorem carries_throw (fault : Fault) : JobStep.Carries t f (throw fault) (throw fault) := fun _ => rfl

/-- Steps that are carried over are so one after the other. -/
theorem carries_bind {g : α' → β'} {x : JobStep α} {y : JobStep β} {k : α → JobStep α'} {l : β → JobStep β'}
    (h : JobStep.Carries t f x y) (hnext : ∀ a, JobStep.Carries t g (k a) (l (f a))) :
    JobStep.Carries t g (x >>= k) (y >>= l) := by
  intro job
  have hfirst := h job
  rcases hx : job.perform x with ⟨fault | a, after⟩
  · rw [hx] at hfirst
    rw [perform_bind_of_error hx, perform_bind_of_error hfirst]
    rfl
  · rw [hx] at hfirst
    rw [perform_bind_of_ok hx, perform_bind_of_ok hfirst]
    exact hnext a after

/-- Looking whether a job was started is carried over. -/
theorem carries_ensureUnused : JobStep.Carries t id ensureUnused ensureUnused := by
  intro job
  cases h : job.executed with
  | true =>
    have hthrough : (job.through t).executed = true := h
    rw [perform_ensureUnused_of_executed h, perform_ensureUnused_of_executed hthrough]
    rfl
  | false =>
    have hthrough : (job.through t).executed = false := h
    rw [perform_ensureUnused h, perform_ensureUnused hthrough]
    rfl

/-- Work on the draft is carried over. -/
theorem carries_drafting (x : Drafting α) : JobStep.Carries t id (drafting x) (drafting x) := by
  intro job
  rw [perform_drafting, perform_drafting, Except.map_id]
  rfl

/-- Adding a part is carried over. -/
theorem carries_addPart (part : Part) : JobStep.Carries t id (addPart part) (addPart part) :=
  carries_bind carries_ensureUnused fun _ => carries_drafting _

/-- Adding actions is carried over. -/
theorem carries_addActions (actions : List Action) :
    JobStep.Carries t id (addActions actions) (addActions actions) := by
  induction actions with
  | nil => exact carries_pure ()
  | cons action rest ih => exact carries_bind (carries_drafting _) fun _ => ih

/-- Applying actions is carried over. -/
theorem carries_applyActions (actions : List Action) :
    JobStep.Carries t id (applyActions actions) (applyActions actions) :=
  carries_bind carries_ensureUnused fun _ => carries_addActions actions

/-- Choosing an output is carried over. -/
theorem carries_setOutput (output : Option Output) : JobStep.Carries t id (setOutput output) (setOutput output) :=
  carries_bind carries_ensureUnused fun _ => carries_drafting _

/-- Showing the build is carried over. -/
theorem carries_compile : JobStep.Carries t id compile compile := by
  intro job
  rw [perform_compile, perform_compile, Except.map_id]
  rfl

/-- Starting a job is carried over. -/
theorem carries_start : JobStep.Carries t id start start := by
  have hstarted : JobStep.Carries t id (modify fun job : Job => { job with executed := true })
      (modify fun job => { job with executed := true }) := fun _ => rfl
  exact carries_bind carries_ensureUnused fun _ => carries_bind carries_compile fun build =>
    carries_bind hstarted fun _ => carries_pure build

/-- The execution that is begun is carried over. -/
theorem carries_execute (timeout : Json) (callback : Option ProgressCallback) :
    JobStep.Carries t (Execution.through t) (execute timeout callback) (execute timeout callback) :=
  carries_bind carries_start fun _ _ => rfl

/-- The analysis that is begun is carried over. -/
theorem carries_analyse (timeout : Json) : JobStep.Carries t (Analysis.through t) (analyse timeout) (analyse timeout) :=
  carries_bind carries_start fun _ _ => rfl

end Job

/-- What is begun when a job is asked is carried over. -/
theorem Demand.carries_begin (demand : Demand) : JobStep.Carries t (Begun.through t) demand.begin demand.begin := by
  cases demand with
  | addPart part => exact Job.carries_bind (Job.carries_addPart part) fun _ => Job.carries_pure _
  | applyActions given =>
    refine Job.carries_bind Job.carries_ensureUnused fun _ => ?_
    cases given with
    | ok actions => exact Job.carries_bind (Job.carries_addActions actions) fun _ => Job.carries_pure _
    | error fault => exact Job.carries_throw fault
  | setOutput output => exact Job.carries_bind (Job.carries_setOutput output) fun _ => Job.carries_pure _
  | compile => exact Job.carries_bind Job.carries_compile fun _ => Job.carries_pure _
  | execute timeout callback =>
    exact Job.carries_bind (Job.carries_execute timeout callback) fun e => Job.carries_pure (Begun.execution e)
  | dryRun timeout => exact Job.carries_bind (Job.carries_analyse timeout) fun a => Job.carries_pure (Begun.analysis a)

namespace JobCall

/-- Over transports that agree replies agree. -/
theorem agrees_reply (call : JobCall) (begun : Begun) (h : Transport.Agree key key' around t t') :
    Agrees key key' around (call.reply (begun.through t)) (call.reply (begun.through t')) := by
  cases begun with
  | done =>
    change Agrees key key' around (call.reply .done) (call.reply .done)
    unfold reply
    dsimp only
    split <;> exact agrees_pure _
  | build shown => exact agrees_pure _
  | execution e => exact (e.agrees_run h).bind fun _ => agrees_pure _
  | analysis a => exact (a.agrees_run h).bind fun _ => agrees_pure _

/-- Over transports that agree calls on a job agree, and leave the same job but for the transport. -/
theorem agrees_on (call : JobCall) (job : Job) (h : Transport.Agree key key' around t t') :
    ∃ (after : Job) (reply reply' : Run (Except Fault JobReply)),
      call.on (job.through t) = (fun found => (found, after.through t)) <$> reply ∧
      call.on (job.through t') = (fun found => (found, after.through t')) <$> reply' ∧
      Agrees key key' around reply reply' := by
  have hbegin := @Demand.carries_begin t call.demand job
  have hbegin' := @Demand.carries_begin t' call.demand job
  rcases hasked : job.perform call.demand.begin with ⟨outcome, after⟩
  rw [hasked] at hbegin hbegin'
  unfold on
  rw [hbegin, hbegin']
  cases outcome with
  | error fault => exact ⟨after, pure (.error fault), pure (.error fault), rfl, rfl, agrees_pure _⟩
  | ok begun =>
    refine ⟨after, .ok <$> call.reply (begun.through t), .ok <$> call.reply (begun.through t'), ?_, ?_,
      (call.agrees_reply begun h).map _⟩
    · rw [Functor.map_map]
      exact bind_pure_comp _ _
    · rw [Functor.map_map]
      exact bind_pure_comp _ _

end JobCall

end DocBuild
