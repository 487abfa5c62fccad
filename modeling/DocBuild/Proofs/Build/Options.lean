import DocBuild.Call.Factories
import DocBuild.Proofs.Build.Reading

/-!
# The options of actions that are made by name

Every call that makes an action gives it options with pairwise different names, none of which is the name of
another member of its instruction.
-/

namespace DocBuild.Action

open Members

/-- The options of an action have some of the given names, in the given order. -/
def Uses (action : Action) (allowed : List Text) : Prop := action.options.names.Sublist allowed

/-- Options with given names are plain if the names are, and then they are read as they are. -/
theorem Uses.isPlain {action : Action} {allowed : List Text} (h : action.Uses allowed)
    (hallowed : allowed.Nodup ∧ ∀ name ∈ allowed, name ∉ ownNames) :
    action.isPlain ∧ action.content.options = action.options :=
  ⟨fun name hname => hallowed.2 name (h.subset hname), ofPairs_of_nodup (h.nodup hallowed.1)⟩

/-- The names of the options of a redaction. -/
theorem createRedactions_uses (strategy : Text) (search : Members) (content : Json) :
    (createRedactions strategy search content).Uses ["strategy", "strategyOptions", "content"] := by
  unfold Uses createRedactions
  by_cases h : content.isGiven = true
  · simp [h, Members.set, names]
  · simp [h, names]

/-- The names of the options of a text watermark. -/
theorem watermarkText_uses {text : Json} {placement : Placement} {font : Font} {action : Action}
    (h : watermarkText text placement font = .ok action) :
    action.Uses ["text", "width", "height", "opacity", "rotation", "fontSize", "fontColor", "fontFamily",
      "fontStyle", "top", "left", "right", "bottom"] := by
  unfold watermarkText at h
  split at h
  · cases h
    unfold Uses
    simp only [names_append]
    exact List.Sublist.append (List.Sublist.refl _) (names_compacted_sublist _)
  · contradiction

/-- The names of the options of an image watermark. -/
theorem watermarkImage_uses (image : Option FileInput) (placement : Placement) :
    (watermarkImage image placement).Uses
      ["width", "height", "opacity", "rotation", "top", "left", "right", "bottom"] := by
  unfold Uses watermarkImage
  simp only [names_append]
  exact List.Sublist.append (List.Sublist.refl _) (names_compacted_sublist _)

/-- The name of the option of a rotation. -/
theorem rotate_uses {angle : Json} {action : Action} (h : rotate angle = .ok action) :
    action.Uses ["rotateBy"] := by
  unfold rotate at h
  split at h
  · cases h
    exact List.Sublist.refl _
  · contradiction

/-- The name of the option of an action that recognises text. -/
theorem ocr_uses (language : Json) : (ocr language).Uses ["language"] := List.Sublist.refl _

/-- The name of the option of an action that flattens. -/
theorem flatten_uses (ids : Json) : (flatten ids).Uses ["annotationIds"] := names_compacted_sublist _

/-- Applying redactions has no options. -/
theorem applyRedactions_uses : applyRedactions.Uses [] := List.Sublist.refl _

/-- Importing annotations in JSON has no options. -/
theorem applyInstantJson_uses (file : Option FileInput) : (applyInstantJson file).Uses [] := List.Sublist.refl _

/-- The names of the options of an import of annotations in XFDF. -/
theorem applyXfdf_uses (file : Option FileInput) (ignoreRotation richText : Json) :
    (applyXfdf file ignoreRotation richText).Uses ["ignorePageRotation", "richTextEnabled"] :=
  names_compacted_sublist _

/-- Every action that is made by name has plain options, which are read as they are. -/
theorem isPlain_of_mem_calls {factory : NamedCall (Except ActionError Action)} (hfactory : factory ∈ calls)
    {args : Arguments} {action : Action} (h : factory.meaning args = .ok action) :
    action.isPlain ∧ action.content.options = action.options := by
  simp only [calls, List.mem_cons, List.not_mem_nil, or_false] at hfactory
  rcases hfactory with rfl | rfl | rfl | rfl | rfl | rfl | rfl | rfl | rfl | rfl | rfl
  · cases h
    exact (ocr_uses _).isPlain (by decide)
  · exact (watermarkText_uses h).isPlain (by decide)
  · cases h
    exact (watermarkImage_uses _ _).isPlain (by decide)
  · exact (rotate_uses h).isPlain (by decide)
  · cases h
    exact (flatten_uses _).isPlain (by decide)
  · cases h
    exact (createRedactions_uses _ _ _).isPlain (by decide)
  · cases h
    exact (createRedactions_uses _ _ _).isPlain (by decide)
  · cases h
    exact (createRedactions_uses _ _ _).isPlain (by decide)
  · cases h
    exact applyRedactions_uses.isPlain (by decide)
  · cases h
    exact (applyInstantJson_uses _).isPlain (by decide)
  · cases h
    exact (applyXfdf_uses _ _ _).isPlain (by decide)

end DocBuild.Action
