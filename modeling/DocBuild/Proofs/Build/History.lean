import DocBuild.Proofs.Build.Registration

/-!
# Histories of a draft

Whether a draft accepts a call does not depend on the draft. An accepted call adds its instruction and encloses
its files under the next keys; a refused one leaves behind at most the files of the source of a part. If only
errors of the caller are refused, a history amounts to its accepted calls.
-/

namespace DocBuild

/-- A scope that has a name is the whole document exactly if it is called so. -/
theorem ActionScope.eq_document_iff {name : Json} {scope : ActionScope} (h : ofName name = .ok scope) :
    scope = .document ↔ name.isText "document" = true := by
  unfold ofName at h
  split at h
  · rename_i hname
    cases h
    simp [hname]
  · rename_i hname
    split at h
    · cases h
      simp [hname]
    · contradiction

namespace Draft

/-- An accepted action gives its instruction, and the document gets it if the scope is the document. -/
theorem addAction_of_accepted {action : Action} {name : Json} {scope : ActionScope}
    (hscope : ActionScope.ofName name = .ok scope) (haction : action.refusal? = none) (draft : Draft) :
    addAction action name draft =
      (.ok (action.node draft.nextKey),
        if scope = .document then
          { draft.enclose action.enclosures with actions := draft.actions ++ [action.node draft.nextKey] }
        else draft.enclose action.enclosures) := by
  have hnode := (actionNode_gives action haction).registration draft
  unfold addAction
  rw [hscope]
  change ((actionNode action).registration >>= _) draft = _
  rw [Drafting.bind_of_ok hnode]
  cases scope <;> rfl

/-- A refused action leaves the draft as it was. -/
theorem addAction_of_refused {action : Action} {name : Json} {scope : ActionScope} {fault : Fault}
    (hscope : ActionScope.ofName name = .ok scope) (haction : action.refusal? = some fault) (draft : Draft) :
    addAction action name draft = (.error fault, draft) := by
  have hnode := (actionNode_refuses action fault haction).registration draft
  unfold addAction
  rw [hscope]
  change ((actionNode action).registration >>= _) draft = _
  rw [Drafting.bind_of_error hnode]
  simp

/-- An action for an unknown scope is refused before the draft is touched. -/
theorem addAction_of_unscoped {action : Action} {name : Json} {fault : Fault}
    (hscope : ActionScope.ofName name = .error fault) (draft : Draft) :
    addAction action name draft = (.error fault, draft) := by
  unfold addAction
  rw [hscope]
  rfl

end Draft

/-- A call on a draft. -/
inductive DraftCall where
  | addPart (part : Part)
  | addAction (action : Action) (scope : Json)
  | setOutput (output : Option Output)

namespace DraftCall

/-- Does what a call asks for. -/
def perform : DraftCall → Drafting Unit
  | addPart part => Draft.addPart part
  | addAction action scope => do
    let _ ← Draft.addAction action scope
  | setOutput output => Draft.setOutput output

/-- The outcome of a call on a draft, and the draft after it. -/
def on (call : DraftCall) (draft : Draft) : Except Fault Unit × Draft := call.perform.run.run draft

/-- Whether a call that adds an action adds it to the document. -/
def isForDocument : DraftCall → Bool
  | addAction _ scope => scope.isText "document"
  | addPart _ | setOutput _ => true

/-- The actions that a call adds. -/
def actions : DraftCall → List Action
  | addPart part => part.actions
  | addAction action _ => [action]
  | setOutput _ => []

/-- The files that a call encloses. -/
def enclosures : DraftCall → List Enclosure
  | addPart part => part.enclosures
  | addAction action _ => action.enclosures
  | setOutput _ => []

/-- Why a call is refused, if it is. -/
def refusal? : DraftCall → Option Fault
  | addPart part => part.refusal?
  | addAction action scope =>
    match ActionScope.ofName scope with
    | .ok _ => action.refusal?
    | .error fault => some fault
  | setOutput _ => none

/-- The files that a refused call leaves behind: those of the source, unless the fault is one of the caller. -/
def leftover : DraftCall → List Enclosure
  | addPart part =>
    match part.refusal? with
    | some fault => if fault.isValidation then [] else part.source.enclosures
    | none => []
  | addAction _ _ | setOutput _ => []

/-- The draft after an accepted call. -/
def apply (call : DraftCall) (draft : Draft) : Draft :=
  match call with
  | addPart part => { draft.enclose part.enclosures with parts := draft.parts ++ [part.node draft.nextKey] }
  | addAction action scope =>
    let enclosing := draft.enclose action.enclosures
    if scope.isText "document" then { enclosing with actions := draft.actions ++ [action.node draft.nextKey] }
    else enclosing
  | setOutput output => { draft with output }

/-- A call that is not refused is accepted by every draft. -/
theorem on_of_accepted {call : DraftCall} (h : call.refusal? = none) (draft : Draft) :
    call.on draft = (.ok (), call.apply draft) := by
  cases call with
  | addPart part =>
    have hnode := (Draft.partNode_gives part h).registration draft
    exact Drafting.bind_of_ok hnode
  | addAction action scope =>
    cases hscope : ActionScope.ofName scope with
    | error fault => simp [refusal?, hscope] at h
    | ok known =>
      have haction : action.refusal? = none := by simpa [refusal?, hscope] using h
      have hadd := Draft.addAction_of_accepted hscope haction draft
      have happly : (addAction action scope).apply draft = if known = .document then
          { draft.enclose action.enclosures with actions := draft.actions ++ [action.node draft.nextKey] }
          else draft.enclose action.enclosures := by
        simp only [apply, ActionScope.eq_document_iff hscope]
      rw [happly]
      exact Drafting.bind_of_ok hadd
  | setOutput output => rfl

/-- A call that is refused is refused by every draft, and leaves nothing but files behind. -/
theorem on_of_refused {call : DraftCall} {fault : Fault} (h : call.refusal? = some fault) (draft : Draft) :
    call.on draft = (.error fault, draft.enclose call.leftover) := by
  cases call with
  | addPart part =>
    have h' : part.refusal? = some fault := h
    obtain ⟨enclosed, hrefuses, hall⟩ := Draft.partNode_refuses part fault h'
    have hpart := hrefuses.registration draft
    have hleft : (if fault.isValidation = true then [] else enclosed) = (addPart part).leftover := by
      by_cases hfault : fault.isValidation = true
      · simp [leftover, h', hfault]
      · simp [leftover, h', hfault, hall (by simpa using hfault)]
    rw [hleft] at hpart
    exact Drafting.bind_of_error hpart
  | addAction action scope =>
    have hleft : draft.enclose (addAction action scope).leftover = draft := Draft.enclose_nil draft
    rw [hleft]
    cases hscope : ActionScope.ofName scope with
    | error fault' =>
      simp only [refusal?, hscope, Option.some.injEq] at h
      subst h
      exact Drafting.bind_of_error (Draft.addAction_of_unscoped hscope draft)
    | ok known =>
      have haction : action.refusal? = some fault := by simpa [refusal?, hscope] using h
      exact Drafting.bind_of_error (Draft.addAction_of_refused hscope haction draft)
  | setOutput output => simp [refusal?] at h

/-- A call that is not refused leaves no file behind. -/
theorem leftover_of_accepted {call : DraftCall} (h : call.refusal? = none) : call.leftover = [] := by
  cases call with
  | addPart part =>
    have h' : part.refusal? = none := h
    simp [leftover, h']
  | addAction action scope => rfl
  | setOutput output => rfl

/-- A call that is refused as an error of the caller leaves nothing behind. -/
theorem leftover_of_isValidation {call : DraftCall} {fault : Fault} (h : call.refusal? = some fault)
    (hfault : fault.isValidation = true) : call.leftover = [] := by
  cases call with
  | addPart part =>
    have h' : part.refusal? = some fault := h
    simp [leftover, h', hfault]
  | addAction action scope => rfl
  | setOutput output => rfl

/-- The files that a call adds: those it encloses if it is accepted, and those it leaves behind if it is not. -/
def kept (call : DraftCall) : List Enclosure :=
  match call.refusal? with
  | none => call.enclosures
  | some _ => call.leftover

/-- An accepted call puts its files under the next keys. -/
theorem apply_files (call : DraftCall) (draft : Draft) :
    (call.apply draft).files = draft.files ++ numbered draft.nextKey call.enclosures ∧
      (call.apply draft).nextKey = draft.nextKey + call.enclosures.length := by
  cases call with
  | addPart part => exact ⟨rfl, rfl⟩
  | addAction action scope =>
    simp only [apply]
    split <;> exact ⟨rfl, rfl⟩
  | setOutput output => simp [apply, enclosures]

/-- A call, accepted or not, puts the files that it adds under the next keys. -/
theorem on_files (call : DraftCall) (draft : Draft) :
    (call.on draft).2.files = draft.files ++ numbered draft.nextKey call.kept ∧
      (call.on draft).2.nextKey = draft.nextKey + call.kept.length := by
  unfold kept
  cases h : call.refusal? with
  | none =>
    rw [on_of_accepted h]
    exact call.apply_files draft
  | some fault =>
    rw [on_of_refused h]
    exact ⟨rfl, rfl⟩

end DraftCall

namespace Draft

/-- The draft after calls. -/
def after (draft : Draft) : List DraftCall → Draft
  | [] => draft
  | call :: rest => (call.on draft).2.after rest

/-- The calls that are accepted, in order. -/
def accepted (draft : Draft) : List DraftCall → List DraftCall
  | [] => []
  | call :: rest =>
    match call.on draft with
    | (.ok _, next) => call :: next.accepted rest
    | (.error _, next) => next.accepted rest

/-- The faults with which calls are refused, in order. -/
def faults (draft : Draft) : List DraftCall → List Fault
  | [] => []
  | call :: rest =>
    match call.on draft with
    | (.ok _, next) => next.faults rest
    | (.error fault, next) => fault :: next.faults rest

/-- The draft after calls all of which are accepted. -/
def applyAll (draft : Draft) (calls : List DraftCall) : Draft := calls.foldl (fun d call => call.apply d) draft

/-- A call is among the accepted ones exactly if it is not refused, whatever came before it. -/
theorem accepted_eq_filter (draft : Draft) (calls : List DraftCall) :
    draft.accepted calls = calls.filter fun call => call.refusal?.isNone := by
  induction calls generalizing draft with
  | nil => rfl
  | cons call rest ih =>
    cases h : call.refusal? with
    | none => simp [accepted, DraftCall.on_of_accepted h, ih, h]
    | some fault => simp [accepted, DraftCall.on_of_refused h, ih, h]

/-- The faults are the reasons for which calls are refused. -/
theorem faults_eq_filterMap (draft : Draft) (calls : List DraftCall) :
    draft.faults calls = calls.filterMap DraftCall.refusal? := by
  induction calls generalizing draft with
  | nil => rfl
  | cons call rest ih =>
    cases h : call.refusal? with
    | none => simp [faults, DraftCall.on_of_accepted h, ih, h]
    | some fault => simp [faults, DraftCall.on_of_refused h, ih, h]

/-- Calls put the files that they add in order under the next keys. -/
theorem files_after (draft : Draft) (calls : List DraftCall) :
    (draft.after calls).files = draft.files ++ numbered draft.nextKey (calls.flatMap DraftCall.kept) := by
  induction calls generalizing draft with
  | nil => simp [after]
  | cons call rest ih =>
    obtain ⟨hfiles, hnext⟩ := call.on_files draft
    rw [after, ih, hfiles, hnext, List.flatMap_cons, numbered_append, List.append_assoc]

/-- If no call leaves files behind, a history amounts to its accepted calls. -/
theorem after_eq_applyAll (draft : Draft) (calls : List DraftCall) (h : ∀ call ∈ calls, call.leftover = []) :
    draft.after calls = draft.applyAll (draft.accepted calls) := by
  induction calls generalizing draft with
  | nil => rfl
  | cons call rest ih =>
    have hrest := fun d => ih d fun c hc => h c (List.mem_cons_of_mem _ hc)
    cases hcall : call.refusal? with
    | none =>
      have hon := DraftCall.on_of_accepted hcall draft
      simp only [after, accepted, hon, applyAll, List.foldl_cons]
      exact hrest _
    | some fault =>
      have hon := DraftCall.on_of_refused hcall draft
      rw [h call List.mem_cons_self, enclose_nil] at hon
      simp only [after, accepted, hon]
      exact hrest draft

/-- If only errors of the caller are refused, no call leaves files behind. -/
theorem leftover_of_faults {draft : Draft} {calls : List DraftCall}
    (h : ∀ fault ∈ draft.faults calls, fault.isValidation = true) : ∀ call ∈ calls, call.leftover = [] := by
  intro call hcall
  rw [faults_eq_filterMap] at h
  cases hrefusal : call.refusal? with
  | none => exact DraftCall.leftover_of_accepted hrefusal
  | some fault =>
    exact DraftCall.leftover_of_isValidation hrefusal (h fault (List.mem_filterMap.mpr ⟨call, hcall, hrefusal⟩))

/-- The files that calls add are those that the accepted ones add and those that are left behind. -/
theorem length_kept (draft : Draft) (calls : List DraftCall) :
    (calls.flatMap DraftCall.kept).length =
      ((draft.accepted calls).flatMap DraftCall.enclosures).length +
        (calls.flatMap DraftCall.leftover).length := by
  rw [accepted_eq_filter]
  induction calls with
  | nil => rfl
  | cons call rest ih =>
    cases h : call.refusal? with
    | none =>
      have hleft := DraftCall.leftover_of_accepted h
      simp only [List.flatMap_cons, List.filter_cons, DraftCall.kept, h, hleft, List.length_append, ih,
        Option.isNone_none, if_true, List.nil_append]
      omega
    | some fault =>
      simp only [List.flatMap_cons, List.filter_cons, DraftCall.kept, h, List.length_append, ih,
        Option.isNone_some, Bool.false_eq_true, if_false]
      omega

/-- Calls that are all accepted enclose their files in order under the next keys. -/
theorem files_applyAll (draft : Draft) (calls : List DraftCall) :
    (draft.applyAll calls).files = draft.files ++ numbered draft.nextKey (calls.flatMap DraftCall.enclosures) := by
  induction calls generalizing draft with
  | nil => simp [applyAll]
  | cons call rest ih =>
    obtain ⟨hfiles, hnext⟩ := call.apply_files draft
    change ((call.apply draft).applyAll rest).files = _
    rw [ih, hfiles, hnext, List.flatMap_cons, numbered_append, List.append_assoc]

/-- The only reason why a draft cannot be built is that it has no parts. -/
theorem compile_eq_error {draft : Draft} {fault : Fault} (h : draft.compile = .error fault) :
    fault = partless ∧ draft.parts = [] := by
  unfold compile at h
  split at h
  · rename_i hparts
    cases h
    exact ⟨rfl, hparts⟩
  · contradiction

/-- A draft with a part can be built, and the build has its files. -/
theorem exists_compile {draft : Draft} (h : draft.parts ≠ []) :
    ∃ build, draft.compile = .ok build ∧ build.files = draft.files := by
  unfold compile
  cases hparts : draft.parts with
  | nil => exact absurd hparts h
  | cons first rest => exact ⟨_, rfl, rfl⟩

/-- A build has the files of the draft. -/
theorem files_of_compile {draft : Draft} {build : Build} (h : draft.compile = .ok build) :
    build.files = draft.files := by
  unfold compile at h
  split at h
  · contradiction
  · cases h
    rfl

end Draft

end DocBuild
