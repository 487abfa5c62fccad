import DocBuild.Proofs.Build.Correspondence
import DocBuild.Proofs.Job.Interleaving

/-!
# What is asked through a stage

An operation that a stage offers asks the job for something of its kind. Whatever it is, the parts of the draft stay and
others may follow; the output stays as well, unless one is chosen; and a part that is not refused is there afterwards.
-/

namespace DocBuild

/-- The output that a demand chooses, if it is one for an output. -/
def Demand.output? : Demand → Option (Option Output)
  | setOutput output => some output
  | addPart _ | applyActions _ | compile | execute _ _ | dryRun _ => none

/-- A step on a job adds to the parts at most, and leaves the output. -/
def JobStep.Extends {α : Type} (x : JobStep α) : Prop :=
  ∀ job : Job, job.draft.parts <+: (job.perform x).2.draft.parts ∧
    (job.perform x).2.draft.output = job.draft.output

section Demands

/-- A call for a part or an action adds to the parts at most, and leaves the output. -/
theorem DraftCall.on_extends (call : DraftCall) (h : ∀ output, call ≠ setOutput output) (draft : Draft) :
    draft.parts <+: (call.on draft).2.parts ∧ (call.on draft).2.output = draft.output := by
  refine ⟨Draft.parts_prefix_after draft [call], ?_⟩
  cases hrefusal : call.refusal? with
  | some fault =>
    rw [DraftCall.on_of_refused hrefusal]
    rfl
  | none =>
    rw [DraftCall.on_of_accepted hrefusal]
    cases call with
    | addPart part => rfl
    | addAction action scope =>
      simp only [apply]
      split <;> rfl
    | setOutput output => exact absurd rfl (h output)

namespace Job

variable {job : Job}

/-- Two steps that extend the draft do so one after the other. -/
theorem extends_bind {α β : Type} {x : JobStep α} {k : α → JobStep β} (hx : x.Extends) (hk : ∀ a, (k a).Extends) :
    (x >>= k).Extends := by
  intro job
  have hfirst := hx job
  rcases h : job.perform x with ⟨fault | a, after⟩
  · rw [perform_bind_of_error h]
    rwa [h] at hfirst
  · rw [h] at hfirst
    rw [perform_bind_of_ok h]
    have hnext := hk a after
    exact ⟨hfirst.1.trans hnext.1, hnext.2.trans hfirst.2⟩

/-- A step that leaves the draft extends it. -/
theorem extends_of_draft_eq {α : Type} {x : JobStep α} (h : ∀ job : Job, (job.perform x).2.draft = job.draft) :
    x.Extends := by
  intro job
  rw [h job]
  exact ⟨List.prefix_rfl, rfl⟩

/-- Looking whether a job was started extends its draft. -/
theorem extends_ensureUnused : ensureUnused.Extends := by
  refine extends_of_draft_eq fun job => ?_
  by_cases h : job.executed = true
  · rw [perform_ensureUnused_of_executed h]
  · rw [perform_ensureUnused (by simpa using h)]

/-- Adding actions extends the draft. -/
theorem extends_addActions (actions : List Action) : (addActions actions).Extends := by
  induction actions with
  | nil => exact extends_of_draft_eq fun _ => rfl
  | cons action rest ih =>
    refine extends_bind (fun job => ?_) fun _ => ih
    have hon := DraftCall.on_extends (.addAction action (.str "document")) (fun _ => DraftCall.noConfusion) job.draft
    -- The call forgets the instruction that the action has become, and is the same otherwise.
    have hadd : ((DraftCall.addAction action (.str "document")).on job.draft).2 =
        (Draft.addAction action (.str "document") job.draft).2 := by
      rcases h : Draft.addAction action (.str "document") job.draft with ⟨fault | node, after⟩
      · exact congrArg Prod.snd (Drafting.bind_of_error h)
      · exact congrArg Prod.snd (Drafting.bind_of_ok h)
    rw [hadd] at hon
    exact hon

/-- A demand for anything but an output extends the draft. -/
theorem extends_begin {demand : Demand} (h : demand.output? = none) : demand.begin.Extends := by
  have hdone : (pure .done : JobStep Begun).Extends := extends_of_draft_eq fun _ => rfl
  have hstart (job : Job) : (job.perform start).2.draft = job.draft := by
    cases hused : job.executed with
    | true => rw [perform_start_of_executed hused]
    | false =>
      rw [perform_start hused]
      cases job.draft.compile <;> rfl
  have hget : (get : JobStep Job).Extends := extends_of_draft_eq fun _ => rfl
  cases demand with
  | addPart part =>
    refine extends_bind (extends_bind extends_ensureUnused fun _ job => ?_) fun _ => hdone
    exact DraftCall.on_extends (.addPart part) (fun _ => DraftCall.noConfusion) job.draft
  | applyActions given =>
    refine extends_bind extends_ensureUnused fun _ => ?_
    split
    · exact extends_bind (extends_addActions _) fun _ => hdone
    · exact extends_of_draft_eq fun _ => rfl
  | setOutput output => contradiction
  | compile =>
    refine extends_of_draft_eq fun job => ?_
    rw [perform_begin_of_onlyShows job rfl]
  | execute timeout callback =>
    refine extends_bind ?_ fun _ => extends_of_draft_eq fun _ => rfl
    refine extends_bind (extends_of_draft_eq hstart) fun _ => extends_bind hget fun _ => ?_
    exact extends_of_draft_eq fun _ => rfl
  | dryRun timeout =>
    refine extends_bind ?_ fun _ => extends_of_draft_eq fun _ => rfl
    refine extends_bind (extends_of_draft_eq hstart) fun _ => extends_bind hget fun _ => ?_
    exact extends_of_draft_eq fun _ => rfl

/-- A job that was not started takes any output that it is asked to. -/
theorem perform_begin_setOutput (h : job.executed = false) (output : Option Output) :
    job.perform (Demand.setOutput output).begin = (.ok .done, { job with draft := { job.draft with output } }) :=
  perform_bind_of_ok (perform_setOutput h output) _

/-- What a demand makes of the draft: parts are at most added, and the output is the one that the demand chooses, if it
chooses one and is not refused. -/
theorem perform_begin_draft (job : Job) (demand : Demand) :
    job.draft.parts <+: (job.perform demand.begin).2.draft.parts ∧
    (job.perform demand.begin).2.draft.output =
      match (job.perform demand.begin).1 with
      | .ok _ => demand.output?.getD job.draft.output
      | .error _ => job.draft.output := by
  cases houtput : demand.output? with
  | none =>
    obtain ⟨hparts, hsame⟩ := extends_begin houtput job
    refine ⟨hparts, hsame.trans ?_⟩
    cases (job.perform demand.begin).1 <;> rfl
  | some output =>
    cases demand with
    | setOutput chosen =>
      cases houtput
      cases hused : job.executed with
      | true =>
        rw [perform_begin_of_executed hused rfl]
        exact ⟨List.prefix_rfl, rfl⟩
      | false =>
        rw [perform_begin_setOutput hused]
        exact ⟨List.prefix_rfl, rfl⟩
    | _ => contradiction

/-- If a demand for a part is not refused, there is a part. -/
theorem parts_ne_nil_of_perform {part : Part} {begun : Begun}
    (h : (job.perform (Demand.addPart part).begin).1 = .ok begun) :
    (job.perform (Demand.addPart part).begin).2.draft.parts ≠ [] := by
  cases hused : job.executed with
  | true =>
    rw [perform_begin_of_executed hused rfl] at h
    contradiction
  | false =>
    cases hrefusal : part.refusal? with
    | none =>
      rw [perform_begin_addPart hused hrefusal]
      simp [DraftCall.apply]
    | some fault =>
      rw [Demand.begin, perform_bind_of_error (perform_addPart_of_refused hused hrefusal)] at h
      contradiction

end Job

/-- The instructions of a build name the output that the draft has chosen. -/
theorem Draft.get?_output_of_compile {draft : Draft} {build : Build} (h : draft.compile = .ok build) :
    build.instructions.get? "output" = some draft.chosenOutput.toJson := by
  have hactions : draft.documentActions.get? "output" = none := by
    refine Members.get?_eq_none ?_
    unfold documentActions
    cases draft.actions with
    | nil => simp [Members.names]
    | cons first rest =>
      simp only [Members.names, List.map_cons, List.map_nil, List.mem_singleton]
      decide
  unfold compile at h
  cases hparts : draft.parts with
  | nil => simp [hparts] at h
  | cons first rest =>
    simp only [hparts, Except.ok.injEq] at h
    subst h
    have hname : (Text.ofString "parts") ≠ Text.ofString "output" := by decide
    simp [hactions, hname]

end Demands

section Offers

variable {stage : Stage} {operation : Operation} {args : Arguments} {demand : Demand}

/-- A demand is one that the operation makes. -/
def Operation.Makes (operation : Operation) : Demand → Prop
  | .addPart _ => operation.addsPart = true
  | .applyActions _ => operation = applyActions ∨ operation = applyAction
  | .setOutput _ => operation.choosesOutput = true
  | .compile => operation = compile
  | .execute _ _ => operation = execute
  | .dryRun _ => operation = dryRun

/-- What an operation asks for is a demand that it makes. -/
theorem Operation.makes_demand (h : operation.demand args = .ok demand) : operation.Makes demand := by
  have hpart {made : Except Fault Part} (h : Demand.ofPart made = .ok demand) : ∃ part, demand = .addPart part := by
    cases made with
    | error fault => contradiction
    | ok part =>
      cases h
      exact ⟨part, rfl⟩
  have houtput {made : Except Fault Output} (h : Demand.ofOutput made = .ok demand) :
      ∃ output, demand = .setOutput output := by
    cases made with
    | error fault => contradiction
    | ok output =>
      cases h
      exact ⟨_, rfl⟩
  have hgiven {expected : Except Fault Unit} {made : Demand} (h : (expected >>= fun _ => pure made) = .ok demand) :
      demand = made := by
    cases expected with
    | error fault => contradiction
    | ok _ =>
      cases h
      rfl
  cases operation with
  | addPart | output | compile | execute | dryRun =>
    obtain rfl := hgiven h
    rfl
  | addFilePart | addHtmlPart | addNewPage | addDocumentPart =>
    obtain ⟨part, rfl⟩ := hpart h
    rfl
  | outputPdf | outputPdfa | outputPdfua | outputImage | outputOffice | outputJson | outputHtml | outputMarkdown =>
    obtain ⟨output, rfl⟩ := houtput h
    rfl
  | applyActions =>
    obtain rfl := hgiven h
    exact Or.inl rfl
  | applyAction =>
    obtain rfl := hgiven h
    exact Or.inr rfl

/-- An operation that runs the build makes a demand for a run. -/
theorem Operation.Makes.startsRun (h : operation.Makes demand) (hrun : operation = execute ∨ operation = dryRun) :
    demand.startsRun = true := by
  cases demand with
  | execute | dryRun => rfl
  | applyActions given => rcases hrun with rfl | rfl <;> rcases h with h | h <;> contradiction
  | _ => rcases hrun with rfl | rfl <;> contradiction

/-- A call on a stage asks for an operation that the stage offers, and gives the stage to which this leads. -/
theorem Stage.of_call {name : Text} {call : JobCall} (h : stage.call name args = .ok call) :
    ∃ operation, stage.operation name = .ok operation ∧ stage.offers operation = true ∧
      operation.demand args = .ok call.demand ∧ call.next? = operation.next? := by
  unfold Stage.call at h
  cases hoperation : stage.operation name with
  | error fault =>
    rw [hoperation] at h
    contradiction
  | ok operation =>
    have hoffers : stage.offers operation = true := by
      unfold Stage.operation at hoperation
      split at hoperation
      · split at hoperation
        · next hoffered =>
          cases hoperation
          exact hoffered
        · contradiction
      · contradiction
    cases hdemand : operation.demand args with
    | error fault =>
      rw [hoperation] at h
      simp only [bind, Except.bind, hdemand] at h
      contradiction
    | ok demand =>
      rw [hoperation] at h
      simp only [bind, Except.bind, hdemand] at h
      cases h
      exact ⟨operation, rfl, hoffers, hdemand, rfl⟩

/-- Only a demand for an output leads to a stage with an output. -/
theorem Operation.exists_output_of_next (h : operation.Makes demand) (hnext : operation.next? = some .withOutput) :
    ∃ output, demand.output? = some output := by
  have hkind : operation.choosesOutput = true := by
    cases operation <;> first | rfl | contradiction
  cases demand with
  | setOutput output => exact ⟨output, rfl⟩
  | addPart part =>
    have hadds : operation.addsPart = true := h
    cases operation <;> contradiction
  | applyActions given => rcases h with rfl | rfl <;> contradiction
  | compile | execute | dryRun =>
    cases h
    contradiction

/-- A stage is given only for a part, or through a stage that is not the first. -/
theorem Stage.addsPart_or_ne_empty (hoffers : stage.offers operation = true) (h : operation.Makes demand)
    {next : Stage} (hnext : operation.next? = some next) : (∃ part, demand = .addPart part) ∨ stage ≠ .empty := by
  cases stage with
  | withParts => exact Or.inr Stage.noConfusion
  | withOutput => exact Or.inr Stage.noConfusion
  | empty =>
    have hadds : operation.addsPart = true := hoffers
    cases demand with
    | addPart part => exact Or.inl ⟨part, rfl⟩
    | setOutput output =>
      have houtput : operation.choosesOutput = true := h
      cases operation <;> contradiction
    | applyActions given => rcases h with rfl | rfl <;> contradiction
    | compile | execute | dryRun =>
      cases h
      contradiction

end Offers

end DocBuild
