import DocBuild.Proofs.Job.Asking

/-!
# Applying actions to a job

Actions are applied one after the other, and one that is refused takes back no more than its own file. So a list with
a refused action leaves the job with all the actions before it, as if these alone had been given. The job is as it was
exactly if the very first action is refused.
-/

namespace DocBuild

/-- The instructions for actions of the document whose files get the numbers from `n` on. -/
def Action.instructions (n : Nat) : List Action → List Members
  | [] => []
  | action :: rest => action.node n :: instructions (n + action.enclosures.length) rest

/-- The actions before the first one that is refused. -/
def Action.beforeRefused (actions : List Action) : List Action :=
  actions.takeWhile fun action => action.refusal?.isNone

namespace Action

variable {kept : List Action}

/-- Every action has one instruction. -/
@[simp] theorem length_instructions (n : Nat) (actions : List Action) :
    (instructions n actions).length = actions.length := by
  induction actions generalizing n with
  | nil => rfl
  | cons action rest ih => simp [instructions, ih]

/-- An action before the first refused one is not refused. -/
theorem refusal?_of_mem_beforeRefused {actions : List Action} {action : Action}
    (h : action ∈ beforeRefused actions) : action.refusal? = none := by
  have hall := List.all_eq_true.mp List.all_takeWhile action h
  simpa using hall

/-- Actions that are not refused stand before the first refused one of those that follow. -/
theorem beforeRefused_append (hkept : ∀ action ∈ kept, action.refusal? = none) (more : List Action) :
    beforeRefused (kept ++ more) = kept ++ beforeRefused more :=
  List.takeWhile_append_of_pos fun action haction => by simp [hkept action haction]

/-- What is refused after actions that are not is the first refused one of the others. -/
theorem findSome?_refusal?_append (hkept : ∀ action ∈ kept, action.refusal? = none) (more : List Action) :
    (kept ++ more).findSome? Action.refusal? = more.findSome? Action.refusal? := by
  rw [List.findSome?_append, List.findSome?_eq_none_iff.mpr hkept, Option.none_or]

end Action

namespace Draft

variable {draft : Draft}

/-- The draft with actions of the document added, their files enclosed under the next keys. -/
def withActions (draft : Draft) (actions : List Action) : Draft :=
  { draft.enclose (actions.flatMap Action.enclosures) with
    actions := draft.actions ++ Action.instructions draft.nextKey actions }

/-- No actions change nothing. -/
@[simp] theorem withActions_nil (draft : Draft) : draft.withActions [] = draft := by
  simp [withActions, enclose, Action.instructions]

/-- The first of several actions is added before the others. -/
theorem withActions_cons (draft : Draft) (action : Action) (rest : List Action) :
    draft.withActions (action :: rest) =
      withActions { draft.enclose action.enclosures with actions := draft.actions ++ [action.node draft.nextKey] }
        rest := by
  simp [withActions, enclose, Action.instructions, numbered_append, Nat.add_assoc]

/-- Actions that are added in two steps are added in one. -/
theorem withActions_withActions (draft : Draft) (actions more : List Action) :
    (draft.withActions actions).withActions more = draft.withActions (actions ++ more) := by
  induction actions generalizing draft with
  | nil => rw [withActions_nil, List.nil_append]
  | cons action rest ih => rw [withActions_cons, ih, List.cons_append, withActions_cons]

/-- Every action that is added changes the draft. -/
theorem withActions_eq_self_iff (draft : Draft) (actions : List Action) :
    draft.withActions actions = draft ↔ actions = [] := by
  constructor
  · intro h
    have hlength := congrArg (fun d : Draft => d.actions.length) h
    simp only [withActions, List.length_append, Action.length_instructions] at hlength
    exact List.length_eq_zero_iff.mp (by omega)
  · rintro rfl
    exact draft.withActions_nil

/-- Drafts with the same parts and the same output have as many actions if the same is built from them. -/
theorem actions_length_of_compile {draft' : Draft} (hparts : draft'.parts = draft.parts) (hsome : draft.parts ≠ [])
    (houtput : draft'.output = draft.output) (h : draft'.compile = draft.compile) :
    draft'.actions.length = draft.actions.length := by
  obtain ⟨part, rest, hcons⟩ := List.exists_cons_of_ne_nil hsome
  have hactions : draft'.documentActions = draft.documentActions := by
    have hbuild := Except.ok.inj (by simpa only [compile, hparts, hcons] using h)
    simpa [chosenOutput, houtput] using (Build.mk.inj hbuild).1
  cases hleft : draft'.actions <;> cases hright : draft.actions <;>
    simp only [documentActions, hleft, hright, List.cons.injEq, Prod.mk.injEq, reduceCtorEq] at hactions ⊢
  have hmapped := congrArg List.length (Json.arr.inj hactions.1.2)
  simpa using hmapped

/-- Every action that is added changes the build, if there is one. -/
theorem compile_withActions_iff (draft : Draft) (actions : List Action) :
    (draft.withActions actions).compile = draft.compile ↔ actions = [] ∨ draft.parts = [] := by
  constructor
  · intro h
    by_cases hparts : draft.parts = []
    · exact Or.inr hparts
    · have hlength : (draft.withActions actions).actions.length = draft.actions.length :=
        actions_length_of_compile rfl hparts rfl h
      simp only [withActions, List.length_append, Action.length_instructions] at hlength
      exact Or.inl (List.length_eq_zero_iff.mp (by omega))
  · rintro (rfl | hparts)
    · rw [withActions_nil]
    · simp [compile, withActions, enclose, hparts]

end Draft

namespace Job

variable {job : Job}

/-- Actions are added up to the first that is refused. -/
theorem perform_addActions (job : Job) (actions : List Action) :
    job.perform (addActions actions) =
      (match actions.findSome? Action.refusal? with
        | none => .ok ()
        | some fault => .error fault,
      { job with draft := job.draft.withActions (Action.beforeRefused actions) }) := by
  have hscope : ActionScope.ofName (.str "document") = .ok .document := rfl
  induction actions generalizing job with
  | nil =>
    rw [Action.beforeRefused, List.takeWhile_nil, Draft.withActions_nil]
    rfl
  | cons action rest ih =>
    cases haction : action.refusal? with
    | some fault =>
      have hrefused : job.perform (drafting (Draft.addAction action (.str "document"))) = (.error fault, job) := by
        rw [perform_drafting, Draft.addAction_of_refused hscope haction]
      rw [addActions, perform_bind_of_error hrefused, Action.beforeRefused, List.takeWhile_cons, haction,
        List.findSome?_cons, haction]
      simp
    | none =>
      have hadded := @perform_drafting job _ (Draft.addAction action (.str "document"))
      rw [Draft.addAction_of_accepted hscope haction, if_pos rfl] at hadded
      have hkept : Action.beforeRefused (action :: rest) = action :: Action.beforeRefused rest := by
        simp [Action.beforeRefused, haction]
      rw [addActions, perform_bind_of_ok hadded, ih, hkept, Draft.withActions_cons, List.findSome?_cons, haction]

/-- A job that was not started applies actions up to the first that is refused. -/
theorem perform_begin_applyActions (h : job.executed = false) (actions : List Action) :
    job.perform (Demand.applyActions (.ok actions)).begin =
      (match actions.findSome? Action.refusal? with
        | none => .ok .done
        | some fault => .error fault,
      { job with draft := job.draft.withActions (Action.beforeRefused actions) }) := by
  have hadd := job.perform_addActions actions
  unfold Demand.begin
  rw [perform_bind_of_ok (perform_ensureUnused h)]
  cases hrefused : actions.findSome? Action.refusal? with
  | none =>
    rw [hrefused] at hadd
    exact perform_bind_of_ok hadd _
  | some fault =>
    rw [hrefused] at hadd
    exact perform_bind_of_error hadd _

/-- What a refused list of actions leaves of a job: the actions before the refused one are applied. -/
structure KeepsActions (job : Job) (kept : List Action) (after : Job) : Prop where
  /-- These actions alone lead to the same job. -/
  applied : job.perform (Demand.applyActions (.ok kept)).begin = (.ok .done, after)
  /-- Actions that are given afterwards come after these. -/
  resumed (more : List Action) : after.perform (Demand.applyActions (.ok more)).begin =
    job.perform (Demand.applyActions (.ok (kept ++ more))).begin
  /-- The job is as it was exactly if there are none of these. -/
  restored_iff : after = job ↔ kept = []
  /-- The same build is shown exactly if there are none of these, or no build is shown at all. -/
  shows_iff : after.draft.compile = job.draft.compile ↔ kept = [] ∨ job.draft.parts = []
  /-- The next file gets the same number exactly if none of these has a file. -/
  nextKey_iff : after.draft.nextKey = job.draft.nextKey ↔ kept.flatMap Action.enclosures = []

/-- A job with actions that are not refused keeps them. -/
theorem keepsActions (h : job.executed = false) {kept : List Action}
    (hkept : ∀ action ∈ kept, action.refusal? = none) :
    job.KeepsActions kept { job with draft := job.draft.withActions kept } where
  applied := by
    have hall : Action.beforeRefused kept = kept := by
      simpa [Action.beforeRefused] using Action.beforeRefused_append hkept []
    rw [perform_begin_applyActions h, hall, List.findSome?_eq_none_iff.mpr hkept]
  resumed more := by
    have hafter : ({ job with draft := job.draft.withActions kept } : Job).executed = false := h
    rw [perform_begin_applyActions hafter, perform_begin_applyActions h, Action.findSome?_refusal?_append hkept,
      Action.beforeRefused_append hkept, Draft.withActions_withActions]
  restored_iff := by
    rw [← job.draft.withActions_eq_self_iff kept]
    exact ⟨congrArg Job.draft, fun hdraft => by rw [hdraft]⟩
  shows_iff := job.draft.compile_withActions_iff kept
  nextKey_iff := by
    rw [← List.length_eq_zero_iff]
    exact Nat.add_eq_left

/-- A job that was not started refuses a list of actions exactly if one of them is refused. It then keeps the actions
before the refused one, and nothing else; so it is as it was exactly if the refused action is the first. -/
theorem applyActions_restores_iff (h : job.executed = false) (actions : List Action) :
    ((∃ fault after, job.perform (Demand.applyActions (.ok actions)).begin = (.error fault, after)) ↔
      ∃ action ∈ actions, action.refusal? ≠ none) ∧
    ∀ fault after, job.perform (Demand.applyActions (.ok actions)).begin = (.error fault, after) →
      actions.findSome? Action.refusal? = some fault ∧ fault.isValidation = true ∧
        job.KeepsActions (Action.beforeRefused actions) after := by
  have hperform := perform_begin_applyActions h actions
  have hkeeps := keepsActions h fun action => @Action.refusal?_of_mem_beforeRefused actions action
  cases hrefused : actions.findSome? Action.refusal? with
  | none =>
    rw [hrefused] at hperform
    refine ⟨⟨?_, ?_⟩, ?_⟩
    · rintro ⟨fault, after, hfault⟩
      cases hperform.symm.trans hfault
    · rintro ⟨action, haction, hne⟩
      exact absurd (List.findSome?_eq_none_iff.mp hrefused action haction) hne
    · intro fault after hfault
      cases hperform.symm.trans hfault
  | some first =>
    rw [hrefused] at hperform
    obtain ⟨action, haction, hfirst⟩ := List.exists_of_findSome?_eq_some hrefused
    refine ⟨⟨fun _ => ⟨action, haction, by simp [hfirst]⟩, fun _ => ⟨_, _, hperform⟩⟩, ?_⟩
    intro fault after hfault
    cases hperform.symm.trans hfault
    exact ⟨rfl, Action.isValidation_of_refusal? hfirst, hkeeps⟩

/-- A job with one file, over the service at its usual address. -/
def withFile : Job where
  transport := (HttpTransport.mk (.literal "key") (.str HttpTransport.defaultBaseUrl) .null .own).transport
  connection := .own
  draft := (DraftCall.addPart ⟨.file (.bytes [120]) none .null .null, []⟩).apply {}

/-- Annotations that are imported from a file, and then from none. -/
def importThenFileless : List Action :=
  [.applyXfdf (some (.bytes [121])) .null .null, .applyInstantJson none]

/-- The job with a file keeps the first of the two imports. -/
theorem importThenFileless_keeps :
    withFile.executed = false ∧
    ∃ fault after, withFile.perform (Demand.applyActions (.ok importThenFileless)).begin = (.error fault, after) ∧
      withFile.KeepsActions [.applyXfdf (some (.bytes [121])) .null .null] after :=
  ⟨rfl, _, _, rfl, ((@applyActions_restores_iff withFile rfl importThenFileless).2 _ _ rfl).2.2⟩

/-- The second import is refused, and the first one stays in the build with its file, though the same two actions
given with a part leave nothing behind. -/
theorem importThenFileless_changes_build :
    ∃ fault after, withFile.perform (Demand.applyActions (.ok importThenFileless)).begin = (.error fault, after) ∧
      fault.isValidation = true ∧ after.draft.compile ≠ withFile.draft.compile ∧
      after.draft.nextKey ≠ withFile.draft.nextKey ∧
      (withFile.perform (Demand.addPart ⟨.blank (.int 1) .null, importThenFileless⟩).begin).2 = withFile := by
  have hperform := @perform_begin_applyActions withFile rfl importThenFileless
  refine ⟨_, _, hperform, rfl, ?_, by decide, rfl⟩
  intro h
  rcases (withFile.draft.compile_withActions_iff _).mp h with hnone | hparts <;> contradiction

end Job

end DocBuild
