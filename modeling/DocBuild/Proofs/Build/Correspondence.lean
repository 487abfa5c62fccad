import DocBuild.Proofs.Build.Reference

/-!
# Keys and files of a build

In every history in which only errors of the caller are refused, the build has exactly the files of the accepted
calls, numbered from zero in order, and each of their keys stands at the place of its own file and at no other.
-/

namespace DocBuild

/-- At every place where keys are placed stands the key under which the file is numbered. -/
theorem exists_key_of_placed {tree : Json} {n : Nat} {references : List Reference}
    (h : Placed tree n references) :
    ∀ r ∈ references, ∃ key, tree.at? r.path = some (.str key) ∧
      (key, r.enclosure.input) ∈ numbered n (references.map Reference.enclosure) := by
  intro r hr
  obtain ⟨i, hi, rfl⟩ := List.mem_iff_getElem.mp hr
  have hnumbered := (forallFrom_map _ _ _ _).mp (mem_numbered n (references.map Reference.enclosure))
  exact ⟨_, h.getElem i hi, hnumbered.getElem i hi⟩

namespace Draft

/-- The build has the instructions for the parts under `parts`. -/
theorem at?_parts {draft : Draft} {build : Build} (h : draft.compile = .ok build) {i : Nat} {node : Members}
    (hnode : draft.parts[i]? = some node) :
    build.tree.at? [.member "parts", .item i] = some (.obj node) := by
  unfold compile at h
  cases hparts : draft.parts with
  | nil => simp [hparts] at hnode
  | cons first rest =>
    rw [hparts] at hnode
    simp only [hparts, Except.ok.injEq] at h
    subst h
    have hitem : ((first :: rest).map Json.obj)[i]? = some (.obj node) := by
      rw [List.getElem?_map, hnode]
      rfl
    simpa [Build.tree, Json.at?] using hitem

/-- The build has the instructions for the actions of the document under `actions`. -/
theorem at?_actions {draft : Draft} {build : Build} (h : draft.compile = .ok build) {i : Nat} {node : Members}
    (hnode : draft.actions[i]? = some node) :
    build.tree.at? [.member "actions", .item i] = some (.obj node) := by
  unfold compile at h
  cases hparts : draft.parts with
  | nil => simp [hparts] at h
  | cons first rest =>
    cases hactions : draft.actions with
    | nil => simp [hactions] at hnode
    | cons action others =>
      rw [hactions] at hnode
      simp only [hparts, documentActions, hactions, Except.ok.injEq] at h
      subst h
      have hitem : ((action :: others).map Json.obj)[i]? = some (.obj node) := by
        rw [List.getElem?_map, hnode]
        rfl
      simpa [Build.tree, Json.at?] using hitem

/-- An accepted call adds parts behind those that are there. -/
theorem parts_prefix_apply (draft : Draft) (call : DraftCall) : draft.parts <+: (call.apply draft).parts := by
  cases call with
  | addPart part => exact List.prefix_append _ _
  | addAction action scope =>
    simp only [DraftCall.apply]
    split <;> exact List.prefix_rfl
  | setOutput output => exact List.prefix_rfl

/-- An accepted call adds actions of the document behind those that are there. -/
theorem actions_prefix_apply (draft : Draft) (call : DraftCall) : draft.actions <+: (call.apply draft).actions := by
  cases call with
  | addPart part => exact List.prefix_rfl
  | addAction action scope =>
    simp only [DraftCall.apply]
    split
    · exact List.prefix_append _ _
    · exact List.prefix_rfl
  | setOutput output => exact List.prefix_rfl

/-- Calls add parts behind those that are there. -/
theorem parts_prefix_applyAll (draft : Draft) (calls : List DraftCall) :
    draft.parts <+: (draft.applyAll calls).parts := by
  induction calls generalizing draft with
  | nil => exact List.prefix_rfl
  | cons call rest ih => exact (parts_prefix_apply draft call).trans (ih (call.apply draft))

/-- Calls add actions of the document behind those that are there. -/
theorem actions_prefix_applyAll (draft : Draft) (calls : List DraftCall) :
    draft.actions <+: (draft.applyAll calls).actions := by
  induction calls generalizing draft with
  | nil => exact List.prefix_rfl
  | cons call rest ih => exact (actions_prefix_apply draft call).trans (ih (call.apply draft))

/-- In a build whose draft continues an accepted call the keys of the call stand at their places. -/
theorem placed_apply {final : Draft} {build : Build} (hbuild : final.compile = .ok build) (draft : Draft)
    {call : DraftCall} (hdocument : call.isForDocument = true) (hparts : (call.apply draft).parts <+: final.parts)
    (hactions : (call.apply draft).actions <+: final.actions) :
    Placed build.tree draft.nextKey
      (DraftCall.referencesFrom draft.parts.length draft.actions.length [call]) := by
  cases call with
  | addPart part =>
    have hnode : final.parts[draft.parts.length]? = some (part.node draft.nextKey) := by
      obtain ⟨later, hlater⟩ := hparts
      simp [← hlater, DraftCall.apply]
    refine placed_append.mpr ⟨placed_under (at?_parts hbuild hnode) (part.placed_node draft.nextKey), ?_⟩
    trivial
  | addAction action scope =>
    have hscope : scope.isText "document" = true := hdocument
    simp only [DraftCall.apply, if_pos hscope] at hactions
    have hnode : final.actions[draft.actions.length]? = some (action.node draft.nextKey) := by
      obtain ⟨later, hlater⟩ := hactions
      simp [← hlater]
    refine placed_append.mpr ⟨placed_under (at?_actions hbuild hnode) (action.placed_node draft.nextKey), ?_⟩
    trivial
  | setOutput output => trivial

/-- The references of an accepted call come before those of the calls after it. -/
theorem referencesFrom_cons (draft : Draft) {call : DraftCall} (hdocument : call.isForDocument = true)
    (rest : List DraftCall) :
    DraftCall.referencesFrom draft.parts.length draft.actions.length (call :: rest) =
      DraftCall.referencesFrom draft.parts.length draft.actions.length [call] ++
        DraftCall.referencesFrom (call.apply draft).parts.length (call.apply draft).actions.length rest := by
  cases call with
  | addPart part =>
    have happly : (DraftCall.addPart part).apply draft =
        { draft.enclose part.enclosures with parts := draft.parts ++ [part.node draft.nextKey] } := rfl
    simp [DraftCall.referencesFrom, happly, enclose]
  | addAction action scope =>
    have hscope : scope.isText "document" = true := hdocument
    simp [DraftCall.referencesFrom, DraftCall.apply, if_pos hscope, enclose]
  | setOutput output => rfl

/-- In a build whose draft continues a history the keys of its accepted calls stand at their places. -/
theorem placed_applyAll {final : Draft} {build : Build} (hbuild : final.compile = .ok build) (draft : Draft)
    (calls : List DraftCall) (hdocument : ∀ call ∈ calls, call.isForDocument = true)
    (hparts : (draft.applyAll calls).parts <+: final.parts)
    (hactions : (draft.applyAll calls).actions <+: final.actions) :
    Placed build.tree draft.nextKey
      (DraftCall.referencesFrom draft.parts.length draft.actions.length calls) := by
  induction calls generalizing draft with
  | nil => trivial
  | cons call rest ih =>
    have hcall := hdocument call List.mem_cons_self
    have hfirst := placed_apply hbuild draft hcall ((parts_prefix_applyAll _ rest).trans hparts)
      ((actions_prefix_applyAll _ rest).trans hactions)
    have hrest := ih (call.apply draft) (fun c hc => hdocument c (List.mem_cons_of_mem _ hc)) hparts hactions
    rw [(call.apply_files draft).2] at hrest
    rw [referencesFrom_cons draft hcall]
    refine placed_append.mpr ⟨hfirst, ?_⟩
    rw [← List.length_map Reference.enclosure, DraftCall.map_enclosure_referencesFrom, List.flatMap_singleton]
    exact hrest

/-- A draft to which a part was added has a part. -/
theorem parts_applyAll_ne_nil (draft : Draft) (calls : List DraftCall) {part : Part}
    (h : .addPart part ∈ calls) : (draft.applyAll calls).parts ≠ [] := by
  induction calls generalizing draft with
  | nil => simp at h
  | cons call rest ih =>
    rcases List.mem_cons.mp h with rfl | h
    · intro hnil
      have hprefix := parts_prefix_applyAll ((DraftCall.addPart part).apply draft) rest
      change (((DraftCall.addPart part).apply draft).applyAll rest).parts = [] at hnil
      rw [hnil, List.prefix_nil] at hprefix
      simp [DraftCall.apply] at hprefix
    · exact ih (call.apply draft) h

/-- Calls, accepted or not, add parts behind those that are there. -/
theorem parts_prefix_after (draft : Draft) (calls : List DraftCall) : draft.parts <+: (draft.after calls).parts := by
  induction calls generalizing draft with
  | nil => exact List.prefix_rfl
  | cons call rest ih =>
    cases hcall : call.refusal? with
    | none =>
      simp only [after, DraftCall.on_of_accepted hcall]
      exact (parts_prefix_apply draft call).trans (ih _)
    | some fault =>
      simp only [after, DraftCall.on_of_refused hcall]
      exact ih (draft.enclose call.leftover)

/-- Calls, accepted or not, add actions of the document behind those that are there. -/
theorem actions_prefix_after (draft : Draft) (calls : List DraftCall) :
    draft.actions <+: (draft.after calls).actions := by
  induction calls generalizing draft with
  | nil => exact List.prefix_rfl
  | cons call rest ih =>
    cases hcall : call.refusal? with
    | none =>
      simp only [after, DraftCall.on_of_accepted hcall]
      exact (actions_prefix_apply draft call).trans (ih _)
    | some fault =>
      simp only [after, DraftCall.on_of_refused hcall]
      exact ih (draft.enclose call.leftover)

/-- In a build whose draft continues an accepted call every file of the call is under a key that stands at its
place. -/
theorem refers_apply {final : Draft} {build : Build} (hbuild : final.compile = .ok build) (draft : Draft)
    {call : DraftCall} (hdocument : call.isForDocument = true) (hparts : (call.apply draft).parts <+: final.parts)
    (hactions : (call.apply draft).actions <+: final.actions) (hfiles : (call.apply draft).files ⊆ final.files) :
    ∀ r ∈ DraftCall.referencesFrom draft.parts.length draft.actions.length [call],
      ∃ key, build.tree.at? r.path = some (.str key) ∧ (key, r.enclosure.input) ∈ final.files := by
  intro r hr
  obtain ⟨key, hkey, hfile⟩ := exists_key_of_placed (placed_apply hbuild draft hdocument hparts hactions) r hr
  rw [DraftCall.map_enclosure_referencesFrom, List.flatMap_singleton] at hfile
  refine ⟨key, hkey, hfiles ?_⟩
  rw [(call.apply_files draft).1]
  exact List.mem_append_right _ hfile

/-- In a build whose draft continues a history every file of the accepted calls is under a key that stands at its
place, whatever refused calls left behind. -/
theorem refers_after {final : Draft} {build : Build} (hbuild : final.compile = .ok build) (draft : Draft)
    (calls : List DraftCall) (hdocument : ∀ call ∈ calls, call.isForDocument = true)
    (hparts : (draft.after calls).parts <+: final.parts) (hactions : (draft.after calls).actions <+: final.actions)
    (hfiles : (draft.after calls).files ⊆ final.files) :
    ∀ r ∈ DraftCall.referencesFrom draft.parts.length draft.actions.length (draft.accepted calls),
      ∃ key, build.tree.at? r.path = some (.str key) ∧ (key, r.enclosure.input) ∈ final.files := by
  induction calls generalizing draft with
  | nil => exact fun r hr => absurd hr List.not_mem_nil
  | cons call rest ih =>
    have hcall := hdocument call List.mem_cons_self
    have hrest := fun c hc => hdocument c (List.mem_cons_of_mem _ hc)
    cases hrefusal : call.refusal? with
    | some fault =>
      simp only [after, accepted, DraftCall.on_of_refused hrefusal] at hparts hactions hfiles ⊢
      exact ih (draft.enclose call.leftover) hrest hparts hactions hfiles
    | none =>
      simp only [after, accepted, DraftCall.on_of_accepted hrefusal] at hparts hactions hfiles ⊢
      have hkept : (call.apply draft).files ⊆ ((call.apply draft).after rest).files := by
        rw [files_after]
        exact List.subset_append_left _ _
      have hfirst := refers_apply hbuild draft hcall ((parts_prefix_after _ rest).trans hparts)
        ((actions_prefix_after _ rest).trans hactions) (List.Subset.trans hkept hfiles)
      have hothers := ih (call.apply draft) hrest hparts hactions hfiles
      rw [referencesFrom_cons draft hcall]
      exact List.forall_mem_append.mpr ⟨hfirst, hothers⟩

end Draft

/-- Numbering the files that are referred to is numbering the references. -/
theorem numbered_map_enclosure (references : List Reference) :
    numbered 0 (references.map Reference.enclosure) =
      references.mapIdx fun j r => (r.enclosure.tag.text ++ Text.ofNat j, r.enclosure.input) := by
  apply List.ext_getElem
  · simp
  · intro j hj hj'
    simp only [numbered, List.getElem_mapIdx, List.getElem_map, Nat.zero_add]
    rfl

/-- A key that stands at its place stands at no other one. -/
theorem existsUnique_place {tree : Json} {references : List Reference} (hplaced : Placed tree 0 references)
    {key : Text} (h : key ∈ (numbered 0 (references.map Reference.enclosure)).map Prod.fst) :
    ∃! path, path ∈ references.map Reference.path ∧ tree.at? path = some (.str key) := by
  rw [numbered_map_enclosure] at h
  obtain ⟨j, hj, rfl⟩ := List.mem_iff_getElem.mp h
  have hj' : j < references.length := by simpa using hj
  have hkey (i : Nat) (hi : i < references.length) :
      tree.at? references[i].path = some (.str (references[i].enclosure.key i)) := by
    simpa only [Nat.zero_add] using hplaced.getElem i hi
  simp only [List.getElem_map, List.getElem_mapIdx]
  refine ⟨references[j].path, ⟨List.mem_map_of_mem (List.getElem_mem hj'), hkey j hj'⟩, ?_⟩
  rintro path ⟨hpath, hplace⟩
  obtain ⟨r, hr, rfl⟩ := List.mem_map.mp hpath
  obtain ⟨i, hi, rfl⟩ := List.mem_iff_getElem.mp hr
  -- Two places with the same key have the same number.
  have hsame : Enclosure.key references[i].enclosure i = references[j].enclosure.key j := by
    exact Json.str.inj (Option.some.inj ((hkey i hi).symm.trans hplace))
  have hij := Enclosure.key_inj _ _ i j hsame
  subst hij
  rfl

/-- The files of a build are exactly those of the accepted calls in order, each under its tag with its number. Each
key stands at the place that refers to its file, and at no other place of the kind. -/
theorem compile_files_correspond (calls : List DraftCall)
    (hdocument : ∀ call ∈ calls, call.isForDocument = true)
    (hfaults : ∀ fault ∈ Draft.faults {} calls, fault.isValidation = true)
    (hpart : ∃ part, DraftCall.addPart part ∈ Draft.accepted {} calls) :
    let references := DraftCall.references (Draft.accepted {} calls)
    ∃ build, (Draft.after {} calls).compile = .ok build ∧
      build.files = references.mapIdx
        (fun j r => (r.enclosure.tag.text ++ Text.ofNat j, r.enclosure.input)) ∧
      (∀ j (hj : j < references.length), build.tree.at? references[j].path =
        some (.str (references[j].enclosure.tag.text ++ Text.ofNat j))) ∧
      (build.files.map Prod.fst).Nodup ∧
      ∀ key ∈ build.files.map Prod.fst,
        ∃! path, path ∈ references.map Reference.path ∧ build.tree.at? path = some (.str key) := by
  intro references
  obtain ⟨part, hpart⟩ := hpart
  have hafter := Draft.after_eq_applyAll {} calls (Draft.leftover_of_faults hfaults)
  obtain ⟨build, hbuild, hfiles⟩ := Draft.exists_compile (Draft.parts_applyAll_ne_nil {} _ hpart)
  have henclosed : references.map Reference.enclosure =
      (Draft.accepted {} calls).flatMap DraftCall.enclosures :=
    DraftCall.map_enclosure_referencesFrom 0 0 _
  have hnumbered : build.files = numbered 0 (references.map Reference.enclosure) := by
    rw [hfiles, Draft.files_applyAll, henclosed]
    rfl
  have haccepted : ∀ call ∈ Draft.accepted {} calls, call.isForDocument = true := by
    rw [Draft.accepted_eq_filter]
    exact fun call hcall => hdocument call (List.mem_of_mem_filter hcall)
  have hplaced : Placed build.tree 0 references :=
    Draft.placed_applyAll hbuild {} _ haccepted List.prefix_rfl List.prefix_rfl
  rw [← hafter] at hbuild
  refine ⟨build, hbuild, ?_, ?_, ?_, ?_⟩
  · rw [hnumbered, numbered_map_enclosure]
  · intro j hj
    have hkey := hplaced.getElem j hj
    rwa [Nat.zero_add] at hkey
  · rw [hnumbered]
    exact numbered_keys_nodup 0 _
  · intro key hkey
    rw [hnumbered] at hkey
    exact existsUnique_place hplaced hkey

/-- Markup with two assets and an image to stamp, markup whose second asset is no file, an action of the document,
a choice of output and a file. -/
def mixedHistory : List DraftCall :=
  [.addPart ⟨.html (.bytes []) [.bytes [], .text "style.css"] .null, [⟨.watermarkImage, [], some (.bytes [])⟩]⟩,
   .addPart ⟨.html (.bytes []) [.bytes [], .plain .null] .null, []⟩,
   .addAction ⟨.applyXfdf, [], some (.bytes [])⟩ (.str "document"),
   .setOutput (some Output.markdown),
   .addPart ⟨.file (.bytes []) none .null .null, []⟩]

/-- The refused markup leaves no gap among the keys, and the image stands under the action that stamps it. -/
theorem mixedHistory_correspond :
    ((∀ call ∈ mixedHistory, call.isForDocument = true) ∧
      (∀ fault ∈ Draft.faults {} mixedHistory, fault.isValidation = true) ∧
      ∃ part, DraftCall.addPart part ∈ Draft.accepted {} mixedHistory) ∧
    ∃ build, (Draft.after {} mixedHistory).compile = .ok build ∧
      build.files.map Prod.fst = ["html0", "asset1", "asset2", "file3", "file4", "file5"] ∧
      build.tree.at? [.member "parts", .item 0, .member "actions", .item 0, .member "image"] =
        some (.str "file3") := by
  have hdocument : ∀ call ∈ mixedHistory, call.isForDocument = true := by decide
  have hfaults : ∀ fault ∈ Draft.faults {} mixedHistory, fault.isValidation = true := by decide
  have hpart : ∃ part, DraftCall.addPart part ∈ Draft.accepted {} mixedHistory := ⟨_, List.mem_cons_self⟩
  obtain ⟨build, hbuild, hfiles, hplaces, -⟩ := compile_files_correspond mixedHistory hdocument hfaults hpart
  refine ⟨⟨hdocument, hfaults, hpart⟩, build, hbuild, ?_, hplaces 3 (by decide)⟩
  rw [hfiles]
  rfl

end DocBuild
