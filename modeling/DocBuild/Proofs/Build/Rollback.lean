import DocBuild.Proofs.Build.History

/-!
# What a refused call takes back

A refused call changes neither the parts, nor the actions, nor the output of a draft. It takes back its files and
their keys as well, with one exception: markup whose files are all accepted and whose layout makes no mapping is
refused with an error that is not one of the caller, and then the files of the markup stay. A history builds what
its accepted calls build exactly if this never happens.
-/

namespace DocBuild

/-- Whether a source is markup whose files are all accepted and whose layout is not. -/
def PartSource.strands : PartSource → Bool
  | .html markup assets layout =>
    markup.isValid && assets.all FileInput.isValid && (Layout.refusal? layout).isSome
  | .file _ _ _ _ | .blank _ _ | .stored _ _ _ _ | .unsupported _ => false

/-- Whether a call adds markup whose files are all accepted and whose layout is not. -/
def DraftCall.strands : DraftCall → Bool
  | addPart part => part.source.strands
  | addAction _ _ | setOutput _ => false

/-- The files of the source of the part that a call adds. -/
def DraftCall.sourceFiles : DraftCall → List Enclosure
  | addPart part => part.source.enclosures
  | addAction _ _ | setOutput _ => []

/-- An input has the shape of a file exactly if it is not refused. -/
theorem FileInput.refusal?_eq_none_iff {input : FileInput} : input.refusal? = none ↔ input.isValid = true := by
  simp [FileInput.refusal?]

/-- Inputs have the shape of files exactly if none of them is refused. -/
theorem FileInput.findSome?_refusal?_eq_none_iff {inputs : List FileInput} :
    inputs.findSome? FileInput.refusal? = none ↔ inputs.all FileInput.isValid = true := by
  simp [List.findSome?_eq_none_iff, FileInput.refusal?_eq_none_iff]

/-- A layout is refused with an error that is not one of the caller. -/
theorem Layout.isValidation_of_refusal? {layout : Json} {fault : Fault}
    (h : Layout.refusal? layout = some fault) : fault.isValidation = false := by
  unfold Layout.refusal? at h
  split at h
  · split at h
    · contradiction
    · cases h
      rfl
  · contradiction

/-- A source is stranded exactly if it has files and is refused with an error that is not one of the caller. -/
theorem PartSource.strands_iff (source : PartSource) :
    source.strands = true ↔
      source.enclosures ≠ [] ∧ ∃ fault, source.refusal? = some fault ∧ fault.isValidation = false := by
  cases source with
  | file input pages password contentType =>
    simp only [strands, Bool.false_eq_true, false_iff]
    rintro ⟨-, fault, hinput, hfault⟩
    simp [FileInput.isValidation_of_refusal? hinput] at hfault
  | html markup assets layout =>
    simp only [strands, Bool.and_eq_true, ← FileInput.refusal?_eq_none_iff,
      ← FileInput.findSome?_refusal?_eq_none_iff]
    constructor
    · rintro ⟨⟨hmarkup, hassets⟩, hlayout⟩
      obtain ⟨fault, hfault⟩ := Option.isSome_iff_exists.mp hlayout
      have hrefusal : (PartSource.html markup assets layout).refusal? = some fault := by
        simp [refusal?, hmarkup, hassets, hfault]
      exact ⟨by simp [enclosures], fault, hrefusal, Layout.isValidation_of_refusal? hfault⟩
    · rintro ⟨-, fault, hrefusal, hfault⟩
      simp only [refusal?, Option.or_eq_some_iff, Option.or_eq_none_iff] at hrefusal
      rcases hrefusal with (hmarkup | ⟨-, hassets⟩) | ⟨hfiles, hlayout⟩
      · simp [FileInput.isValidation_of_refusal? hmarkup] at hfault
      · obtain ⟨asset, -, hasset⟩ := List.exists_of_findSome?_eq_some hassets
        simp [FileInput.isValidation_of_refusal? hasset] at hfault
      · exact ⟨hfiles, by simp [hlayout]⟩
  | blank count layout => simp [strands, enclosures]
  | stored id layer pages password => simp [strands, enclosures]
  | unsupported value => simp [strands, enclosures]

/-- A part is refused with an error that is not one of the caller exactly if its source is. -/
theorem Part.refusal?_eq_foreign_iff {part : Part} {fault : Fault} (hfault : fault.isValidation = false) :
    part.refusal? = some fault ↔ part.source.refusal? = some fault := by
  simp only [Part.refusal?, Option.or_eq_some_iff]
  constructor
  · rintro (hsource | ⟨-, hactions⟩)
    · exact hsource
    · obtain ⟨action, -, haction⟩ := List.exists_of_findSome?_eq_some hactions
      simp [Action.isValidation_of_refusal? haction] at hfault
  · exact Or.inl

namespace DraftCall

/-- What a call leaves behind is the files of its markup if it strands them, and nothing otherwise. -/
theorem leftover_eq (call : DraftCall) : call.leftover = if call.strands then call.sourceFiles else [] := by
  cases call with
  | addPart part =>
    change (addPart part).leftover = if part.source.strands then part.source.enclosures else []
    by_cases hstrands : part.source.strands = true
    · obtain ⟨-, fault, hsource, hfault⟩ := part.source.strands_iff.mp hstrands
      have hpart := (Part.refusal?_eq_foreign_iff hfault).mpr hsource
      simp [leftover, hpart, hfault, hstrands]
    · rw [if_neg hstrands]
      cases hpart : part.refusal? with
      | none => simp [leftover, hpart]
      | some fault =>
        cases hfault : fault.isValidation with
        | true => simp [leftover, hpart, hfault]
        | false =>
          have hsource := (Part.refusal?_eq_foreign_iff hfault).mp hpart
          have hnone : part.source.enclosures = [] := by
            by_contra hsome
            exact hstrands (part.source.strands_iff.mpr ⟨hsome, fault, hsource, hfault⟩)
          simp [leftover, hpart, hfault, hnone]
  | addAction action scope => rfl
  | setOutput output => rfl

/-- A call leaves nothing behind unless it strands the files of its markup. -/
theorem leftover_eq_nil_iff (call : DraftCall) : call.leftover = [] ↔ call.strands = false := by
  rw [leftover_eq]
  cases hstrands : call.strands with
  | false => simp
  | true =>
    cases call with
    | addPart part =>
      have hsome := (part.source.strands_iff.mp hstrands).1
      simpa [sourceFiles] using hsome
    | addAction action scope => simp [strands] at hstrands
    | setOutput output => simp [strands] at hstrands

/-- A call adds as many parts to one draft as to another. -/
theorem on_parts_length (call : DraftCall) {draft draft' : Draft}
    (h : draft.parts.length = draft'.parts.length) :
    (call.on draft).2.parts.length = (call.on draft').2.parts.length := by
  cases hrefusal : call.refusal? with
  | some fault =>
    rw [on_of_refused hrefusal, on_of_refused hrefusal]
    exact h
  | none =>
    rw [on_of_accepted hrefusal, on_of_accepted hrefusal]
    cases call with
    | addPart part => simp [apply, h]
    | addAction action scope =>
      simp only [apply]
      split <;> exact h
    | setOutput output => exact h

end DraftCall

namespace Draft

/-- An enclosure changes a draft if there is a file to enclose. -/
theorem enclose_eq_self_iff (draft : Draft) (enclosed : List Enclosure) :
    draft.enclose enclosed = draft ↔ enclosed = [] := by
  constructor
  · intro h
    have hnext : draft.nextKey + enclosed.length = draft.nextKey := congrArg Draft.nextKey h
    exact List.length_eq_zero_iff.mp (by omega)
  · rintro rfl
    exact draft.enclose_nil

/-- Calls that are accepted once are accepted again. -/
theorem accepted_accepted (draft draft' : Draft) (calls : List DraftCall) :
    draft'.accepted (draft.accepted calls) = draft.accepted calls := by
  simp only [accepted_eq_filter, List.filter_filter, Bool.and_self]

/-- The accepted calls leave nothing behind. -/
theorem leftover_of_mem_accepted {draft : Draft} {calls : List DraftCall} {call : DraftCall}
    (h : call ∈ draft.accepted calls) : call.leftover = [] := by
  rw [accepted_eq_filter, List.mem_filter, Option.isNone_iff_eq_none] at h
  exact DraftCall.leftover_of_accepted h.2

/-- The accepted calls add all the parts. -/
theorem parts_length_after (draft draft' : Draft) (calls : List DraftCall)
    (h : draft.parts.length = draft'.parts.length) :
    (draft.after calls).parts.length = (draft'.after (draft.accepted calls)).parts.length := by
  induction calls generalizing draft draft' with
  | nil => exact h
  | cons call rest ih =>
    cases hrefusal : call.refusal? with
    | none =>
      simp only [after, accepted, DraftCall.on_of_accepted hrefusal draft]
      have hparts := call.on_parts_length h
      rw [DraftCall.on_of_accepted hrefusal draft] at hparts
      exact ih _ _ hparts
    | some fault =>
      simp only [after, accepted, DraftCall.on_of_refused hrefusal draft]
      exact ih _ _ h

/-- The build of a history is that of its accepted calls exactly if no call strands files, or nothing is built. -/
theorem compile_after_accepted_iff (draft : Draft) (calls : List DraftCall) :
    (draft.after calls).compile = (draft.after (draft.accepted calls)).compile ↔
      (∀ call ∈ calls, call.strands = false) ∨ (draft.after calls).parts = [] := by
  simp only [← DraftCall.leftover_eq_nil_iff]
  have haccepted : draft.after (draft.accepted calls) = draft.applyAll (draft.accepted calls) := by
    rw [after_eq_applyAll draft _ fun call hcall => leftover_of_mem_accepted hcall, accepted_accepted]
  have hparts := parts_length_after draft draft calls rfl
  constructor
  · intro h
    by_cases hnil : (draft.after calls).parts = []
    · exact Or.inr hnil
    · refine Or.inl ?_
      have hnil' : (draft.after (draft.accepted calls)).parts ≠ [] := by
        rw [← List.length_pos_iff, ← hparts, List.length_pos_iff]
        exact hnil
      obtain ⟨build, hbuild, hfiles⟩ := exists_compile hnil
      obtain ⟨build', hbuild', hfiles'⟩ := exists_compile hnil'
      rw [hbuild, hbuild'] at h
      cases h
      -- The two builds have equally many files, so none was left behind.
      have hlength := congrArg List.length (hfiles.symm.trans hfiles')
      rw [haccepted, files_applyAll, files_after] at hlength
      simp only [List.length_append, numbered_length, length_kept draft calls] at hlength
      have hnone : calls.flatMap DraftCall.leftover = [] := List.length_eq_zero_iff.mp (by omega)
      exact List.flatMap_eq_nil_iff.mp hnone
  · rintro (hnone | hnil)
    · rw [haccepted, after_eq_applyAll draft calls hnone]
    · have hnil' : (draft.after (draft.accepted calls)).parts = [] := by
        rw [hnil] at hparts
        exact List.length_eq_zero_iff.mp hparts.symm
      simp only [compile, hnil, hnil']

end Draft

/-- A refused call takes back everything, except that it keeps the files of markup whose layout alone is refused. So
a history builds what its accepted calls build exactly if no such markup was refused, or nothing is built. -/
theorem refused_calls_restore_iff (draft : Draft) :
    (∀ (call : DraftCall) (fault : Fault) (after : Draft), call.on draft = (.error fault, after) →
      (after.parts = draft.parts ∧ after.actions = draft.actions ∧ after.output = draft.output) ∧
      (after = draft ↔ call.strands = false) ∧
      (call.strands = true → after = draft.enclose call.sourceFiles)) ∧
    ∀ calls : List DraftCall,
      (draft.after calls).compile = (draft.after (draft.accepted calls)).compile ↔
        (∀ call ∈ calls, call.strands = false) ∨ (draft.after calls).parts = [] := by
  refine ⟨?_, draft.compile_after_accepted_iff⟩
  intro call fault after h
  have hrefusal : call.refusal? = some fault := by
    cases hcall : call.refusal? with
    | none => simp [DraftCall.on_of_accepted hcall] at h
    | some fault' =>
      rw [DraftCall.on_of_refused hcall, Prod.mk.injEq] at h
      rw [Except.error.inj h.1]
  rw [DraftCall.on_of_refused hrefusal, Prod.mk.injEq] at h
  obtain ⟨-, rfl⟩ := h
  refine ⟨⟨rfl, rfl, rfl⟩, ?_, ?_⟩
  · rw [Draft.enclose_eq_self_iff, DraftCall.leftover_eq_nil_iff]
  · intro hstrands
    rw [DraftCall.leftover_eq, if_pos hstrands]

/-- Markup with a text for a layout. -/
def brokenLayout : DraftCall := .addPart ⟨.html (.bytes [120]) [] (.str "A4"), []⟩

/-- A file that is added after markup with a broken layout. -/
def fileAfterBrokenLayout : List DraftCall := [brokenLayout, .addPart ⟨.file (.bytes [121]) none .null .null, []⟩]

/-- The markup is refused with the error of making a mapping of its layout, after its file was enclosed. -/
theorem brokenLayout_on (draft : Draft) :
    ∃ e, brokenLayout.on draft = (.error (.foreign e), draft.enclose [⟨.html, .bytes [120]⟩]) := by
  have hrefusal : ∃ e, brokenLayout.refusal? = some (.foreign e) := ⟨_, rfl⟩
  obtain ⟨e, hrefusal⟩ := hrefusal
  have hleftover : brokenLayout.leftover = [⟨.html, .bytes [120]⟩] := rfl
  refine ⟨e, ?_⟩
  rw [DraftCall.on_of_refused hrefusal, hleftover]

/-- The refused markup leaves its file behind. -/
theorem brokenLayout_strands :
    ∃ fault after, brokenLayout.on {} = (.error fault, after) ∧ brokenLayout.strands = true ∧
      after = Draft.enclose {} [⟨.html, .bytes [120]⟩] := by
  obtain ⟨e, hon⟩ := brokenLayout_on {}
  exact ⟨_, _, hon, rfl, ((refused_calls_restore_iff {}).1 _ _ _ hon).2.2 rfl⟩

/-- Refused markup changes the draft, and the file after it is built under another key than without the markup. -/
theorem brokenLayout_changes_build :
    (∃ fault after, brokenLayout.on {} = (.error fault, after) ∧ after.files ≠ [] ∧ after.nextKey ≠ 0) ∧
    (Draft.after {} fileAfterBrokenLayout).compile ≠
      (Draft.after {} (Draft.accepted {} fileAfterBrokenLayout)).compile := by
  obtain ⟨e, hon⟩ := brokenLayout_on {}
  refine ⟨⟨_, _, hon, by simp [Draft.enclose], by simp [Draft.enclose]⟩, ?_⟩
  intro h
  have hkeys : (Except.map (fun build => build.files.map Prod.fst) (Draft.after {} fileAfterBrokenLayout).compile) =
      .ok ["html0", "file1"] := rfl
  rw [h] at hkeys
  have hkeys' : (Except.map (fun build => build.files.map Prod.fst)
      (Draft.after {} (Draft.accepted {} fileAfterBrokenLayout)).compile) = .ok ["file0"] := rfl
  simp [hkeys'] at hkeys

end DocBuild
