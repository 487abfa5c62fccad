import DocBuild.Proofs.Build.Options

/-!
# Builds can be read back

Reading the build of a history gives the content of its accepted parts and of the accepted actions of the document,
in order, provided that their options are plain. So histories with the same build asked for the same.
-/

namespace DocBuild

/-- The part that a call adds, if it adds one. -/
def DraftCall.parts : DraftCall → List Part
  | addPart part => [part]
  | addAction _ _ | setOutput _ => []

/-- The action of the document that a call adds, if it adds one. -/
def DraftCall.documentActions : DraftCall → List Action
  | addAction action scope => if scope.isText "document" then [action] else []
  | addPart _ | setOutput _ => []

/-- The actions of a call, those of a part included, have plain options. -/
def DraftCall.isPlain (call : DraftCall) : Prop := ∀ action ∈ call.actions, action.isPlain

instance (call : DraftCall) : Decidable call.isPlain :=
  inferInstanceAs (Decidable (∀ action ∈ call.actions, action.isPlain))

/-- What calls ask for. -/
def BuildContent.of (calls : List DraftCall) : BuildContent where
  parts := (calls.flatMap DraftCall.parts).map Part.content
  actions := (calls.flatMap DraftCall.documentActions).map Action.content

namespace Draft

/-- With the given files the instructions of a draft read as parts and actions of the document. -/
structure Reads (draft : Draft) (files : List (Text × FileInput)) (parts : List Part) (actions : List Action) :
    Prop where
  parts : (draft.parts.map Json.obj).mapM (Reading.part? files) = some (parts.map Part.content)
  actions : (draft.actions.map Json.obj).mapM (Reading.action? files) = some (actions.map Action.content)

/-- One more instruction is read behind the others. -/
theorem mapM_concat {α β : Type} {read : Json → Option β} {content : α → β} {nodes : List Members} {node : Members}
    {values : List α} {value : α} (h : (nodes.map Json.obj).mapM read = some (values.map content))
    (hnode : read (.obj node) = some (content value)) :
    ((nodes ++ [node]).map Json.obj).mapM read = some ((values ++ [value]).map content) := by
  simp only [List.map_append, List.mapM_append, h]
  simp [hnode]

variable {draft : Draft} {files : List (Text × FileInput)} {parts : List Part} {actions : List Action}

/-- An accepted call adds what it asks for to what is read. -/
theorem Reads.apply (h : draft.Reads files parts actions) {call : DraftCall} (hcall : call.refusal? = none)
    (hplain : call.isPlain) (hfiled : Filed files draft.nextKey call.enclosures) :
    (call.apply draft).Reads files (parts ++ call.parts) (actions ++ call.documentActions) := by
  cases call with
  | addPart part =>
    have hread := Reading.part?_node hcall hplain hfiled
    have hparts := mapM_concat h.parts hread
    simp only [DraftCall.apply, DraftCall.parts, DraftCall.documentActions, List.append_nil]
    exact ⟨hparts, h.actions⟩
  | addAction action scope =>
    have hread := Reading.action?_node (hplain action List.mem_cons_self) hfiled
    have hactions := mapM_concat h.actions hread
    by_cases hscope : scope.isText "document" = true
    · simp only [DraftCall.apply, DraftCall.parts, DraftCall.documentActions, if_pos hscope, List.append_nil]
      exact ⟨h.parts, hactions⟩
    · simp only [DraftCall.apply, DraftCall.parts, DraftCall.documentActions, if_neg hscope, List.append_nil]
      exact ⟨h.parts, h.actions⟩
  | setOutput output =>
    simp only [DraftCall.apply, DraftCall.parts, DraftCall.documentActions, List.append_nil]
    exact ⟨h.parts, h.actions⟩

/-- After calls everything is read that the accepted ones ask for. -/
theorem Reads.after (h : draft.Reads files parts actions) {calls : List DraftCall}
    (hplain : ∀ call ∈ draft.accepted calls, call.isPlain)
    (hfiled : Filed files draft.nextKey (calls.flatMap DraftCall.kept)) :
    (draft.after calls).Reads files (parts ++ (draft.accepted calls).flatMap DraftCall.parts)
      (actions ++ (draft.accepted calls).flatMap DraftCall.documentActions) := by
  induction calls generalizing draft parts actions with
  | nil => simpa [Draft.after, accepted] using h
  | cons call rest ih =>
    rw [List.flatMap_cons, filed_append] at hfiled
    have hnext := (call.on_files draft).2
    cases hcall : call.refusal? with
    | none =>
      have hon := DraftCall.on_of_accepted hcall draft
      have hkept : call.kept = call.enclosures := by simp [DraftCall.kept, hcall]
      rw [hkept] at hfiled
      rw [hon, hkept] at hnext
      simp only [accepted, hon] at hplain ⊢
      simp only [Draft.after, hon, List.flatMap_cons, ← List.append_assoc]
      have hstep := h.apply hcall (hplain call List.mem_cons_self) hfiled.1
      exact ih hstep (fun c hc => hplain c (List.mem_cons_of_mem _ hc)) (by rw [hnext]; exact hfiled.2)
    | some fault =>
      have hon := DraftCall.on_of_refused hcall draft
      rw [hon] at hnext
      simp only [accepted, hon] at hplain ⊢
      simp only [Draft.after, hon]
      exact ih ⟨h.parts, h.actions⟩ hplain (by rw [hnext]; exact hfiled.2)

/-- What is read for the parts is there only if parts are. -/
theorem Reads.parts_ne_nil (h : draft.Reads files parts actions) (hparts : parts ≠ []) : draft.parts ≠ [] := by
  intro hnil
  have hread := h.parts
  simp only [hnil, List.map_nil, List.mapM_nil, Option.pure_def, Option.some.injEq] at hread
  exact hparts (List.map_eq_nil_iff.mp hread.symm)

/-- A build is read as its draft is. -/
theorem Reads.read (h : draft.Reads draft.files parts actions) {build : Build}
    (hbuild : draft.compile = .ok build) :
    build.read = some ⟨parts.map Part.content, actions.map Action.content⟩ := by
  have hinstructions : Members.get? "parts" build.instructions = some (.arr (draft.parts.map .obj)) ∧
      Members.get? "actions" build.instructions = Members.get? "actions" draft.documentActions ∧
      build.files = draft.files := by
    unfold compile at hbuild
    split at hbuild
    · contradiction
    · cases hbuild
      simp
  obtain ⟨hparts, hactions, hfiles⟩ := hinstructions
  have hread : Reading.items? (Reading.action? draft.files) (Members.get? "actions" draft.documentActions) =
      some (actions.map Action.content) := by
    have hnodes := h.actions
    cases hlist : draft.actions with
    | nil => simpa [documentActions, hlist, Reading.items?] using hnodes
    | cons node rest =>
      rw [hlist] at hnodes
      simpa only [documentActions, hlist, Members.get?_cons, if_true, Reading.items?] using hnodes
  have hread' : Reading.items? (Reading.part? draft.files) (some (.arr (draft.parts.map .obj))) =
      some (parts.map Part.content) := h.parts
  simp only [Build.read, hparts, hactions, hfiles, hread, hread']
  rfl

end Draft

/-- The build of a history whose accepted actions have plain options reads as what its accepted calls ask for. So
two such histories with the same build ask for the same. All actions that are made by name have plain options. -/
theorem compile_lossless (calls : List DraftCall) (hplain : ∀ call ∈ Draft.accepted {} calls, call.isPlain)
    (hpart : ∃ part, DraftCall.addPart part ∈ Draft.accepted {} calls) :
    (∃ build, (Draft.after {} calls).compile = .ok build ∧
      build.read = some (BuildContent.of (Draft.accepted {} calls))) ∧
    (∀ others : List DraftCall, (∀ call ∈ Draft.accepted {} others, call.isPlain) →
      (Draft.after {} others).compile = (Draft.after {} calls).compile →
      BuildContent.of (Draft.accepted {} others) = BuildContent.of (Draft.accepted {} calls)) ∧
    ∀ factory ∈ Action.calls, ∀ (args : Arguments) (action : Action), factory.meaning args = .ok action →
      action.isPlain ∧ action.content.options = action.options := by
  have hreads (history : List DraftCall) (h : ∀ call ∈ Draft.accepted {} history, call.isPlain) :
      (Draft.after {} history).Reads (Draft.after {} history).files
        ((Draft.accepted {} history).flatMap DraftCall.parts)
        ((Draft.accepted {} history).flatMap DraftCall.documentActions) := by
    have hfiled : Filed (Draft.after {} history).files 0 (history.flatMap DraftCall.kept) := by
      rw [Draft.files_after]
      exact lookup_numbered 0 _
    have hempty : Draft.Reads {} (Draft.after {} history).files [] [] := ⟨rfl, rfl⟩
    exact hempty.after h hfiled
  obtain ⟨part, hpart⟩ := hpart
  have hparts : (Draft.accepted {} calls).flatMap DraftCall.parts ≠ [] := by
    intro hnil
    have hnone := List.flatMap_eq_nil_iff.mp hnil _ hpart
    simp [DraftCall.parts] at hnone
  obtain ⟨build, hbuild, -⟩ := Draft.exists_compile ((hreads calls hplain).parts_ne_nil hparts)
  have hread := (hreads calls hplain).read hbuild
  refine ⟨⟨build, hbuild, hread⟩, ?_, fun factory hfactory args action h =>
    Action.isPlain_of_mem_calls hfactory h⟩
  intro others hothers hsame
  have hread' := (hreads others hothers).read (hsame.trans hbuild)
  exact Option.some.inj (hread'.symm.trans hread)

/-- Markup with a file and with an image to stamp, a document that is stored, and an import of annotations. -/
def annotatedHistory : List DraftCall :=
  [.addPart ⟨.html (.bytes [1]) [.bytes [2]] (.obj [("size", .str "A4")]),
    [⟨.watermarkImage, [("opacity", .int 1)], some (.bytes [3])⟩]⟩,
   .addPart ⟨.stored (.str "d1") (.str "") (some ⟨.int 0, .int 4⟩) (.str "secret"), []⟩,
   .addAction ⟨.applyXfdf, [("richTextEnabled", .bool true)], some (.bytes [4])⟩ (.str "document")]

/-- Each file is read back at its own place, and the empty layer is read as none. -/
theorem annotatedHistory_lossless :
    ((∀ call ∈ Draft.accepted {} annotatedHistory, call.isPlain) ∧
      ∃ part, DraftCall.addPart part ∈ Draft.accepted {} annotatedHistory) ∧
    ∃ build, (Draft.after {} annotatedHistory).compile = .ok build ∧ build.read = some
      ⟨[⟨.html (.bytes [1]) [.bytes [2]] (.obj [("size", .str "A4")]),
          [⟨"watermark", [("opacity", .int 1)], some (.bytes [3])⟩]⟩,
        ⟨.stored (.str "d1") .null (some ⟨.int 0, .int 4⟩) (.str "secret"), []⟩],
       [⟨"applyXfdf", [("richTextEnabled", .bool true)], some (.bytes [4])⟩]⟩ := by
  have hplain : ∀ call ∈ Draft.accepted {} annotatedHistory, call.isPlain := by decide
  have hpart : ∃ part, DraftCall.addPart part ∈ Draft.accepted {} annotatedHistory := ⟨_, List.mem_cons_self⟩
  exact ⟨⟨hplain, hpart⟩, (compile_lossless annotatedHistory hplain hpart).1⟩

end DocBuild
