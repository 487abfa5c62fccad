import DocBuild.Proofs.Build.Key

/-!
# Instructions read off what is given

For files, actions, sources and parts: which files are enclosed, which instruction is given if these get the numbers
from `n` on, and why what is given is refused, if it is. None of this looks at a draft.
-/

namespace DocBuild

/-- Why an input is refused as a file, if it is. -/
def FileInput.refusal? (input : FileInput) : Option Fault :=
  if input.isValid then none else some input.invalid

namespace Action

/-- The file that an action of a kind that needs one embeds, with the member that refers to it. -/
def embedded? (action : Action) : Option (Text × FileInput) :=
  match action.kind.fileField?, action.file with
  | some field, some file => some (field, file)
  | _, _ => none

/-- The file that an action encloses, if its kind needs one. -/
def enclosures (action : Action) : List Enclosure :=
  match action.embedded? with
  | some (_, file) => [⟨.file, file⟩]
  | none => []

/-- Why an action is refused, if it is. -/
def refusal? (action : Action) : Option Fault :=
  match action.kind.fileField?, action.file with
  | none, _ => none
  | some _, some file => file.refusal?
  | some _, none => some action.fileless

/-- The instruction for an action whose file, if it encloses one, gets the number `n`. -/
def node (action : Action) (n : Nat) : Members :=
  let node := Members.overlay [("type", .str action.kind.wireType)] action.options
  match action.embedded? with
  | some (field, file) => node.set field (.str (Enclosure.key ⟨.file, file⟩ n))
  | none => node

/-- The instructions for actions whose files get the numbers from `n` on. -/
def nodes (n : Nat) : List Action → List Json
  | [] => []
  | action :: rest => .obj (action.node n) :: nodes (n + action.enclosures.length) rest

/-- The member for actions, if there are any. -/
def member (n : Nat) (actions : List Action) : Members :=
  match actions with
  | [] => []
  | actions => [("actions", .arr (nodes n actions))]

end Action

/-- An input is refused as an error of the caller. -/
theorem FileInput.isValidation_of_refusal? {input : FileInput} {fault : Fault}
    (h : input.refusal? = some fault) : fault.isValidation = true := by
  simp only [FileInput.refusal?, Option.ite_none_left_eq_some, Option.some.injEq] at h
  rw [← h.2]
  rfl

/-- An action is refused as an error of the caller. -/
theorem Action.isValidation_of_refusal? {action : Action} {fault : Fault}
    (h : action.refusal? = some fault) : fault.isValidation = true := by
  simp only [Action.refusal?] at h
  split at h
  · contradiction
  · exact FileInput.isValidation_of_refusal? h
  · cases h
    rfl

namespace Layout

/-- Why a layout is refused, if it is. -/
def refusal? (layout : Json) : Option Fault :=
  if layout.isGiven then
    match mapping layout with
    | .ok _ => none
    | .error e => some (.foreign e)
  else none

/-- The mapping that a layout makes, or null if no layout is given. -/
def meant (layout : Json) : Json :=
  if layout.isGiven then
    match mapping layout with
    | .ok value => value
    | .error _ => .null
  else .null

/-- The member for a layout, if one is given. -/
def member (layout : Json) : Members := if layout.isGiven then [("layout", meant layout)] else []

end Layout

/-- Why a number of blank pages is refused, if it is. -/
def Draft.countRefusal? (count : Json) : Option Fault :=
  match count.number with
  | .error e => some (.foreign e)
  | .ok n => if n.less (.int 1) then some (tooFewPages count) else none

namespace PartSource

/-- The files that a source encloses. -/
def enclosures : PartSource → List Enclosure
  | .file input _ _ _ => [⟨.file, input⟩]
  | .html markup assets _ => ⟨.html, markup⟩ :: assets.map (Enclosure.mk .asset)
  | .blank _ _ | .stored _ _ _ _ | .unsupported _ => []

/-- Why a source is refused, if it is. -/
def refusal? : PartSource → Option Fault
  | .file input _ _ _ => input.refusal?
  | .html markup assets layout =>
    (markup.refusal?.or (assets.findSome? FileInput.refusal?)).or (Layout.refusal? layout)
  | .blank count layout => (Draft.countRefusal? count).or (Layout.refusal? layout)
  | .stored _ _ _ _ => none
  | .unsupported value => some (Draft.unsupported value)

/-- The member for the files that markup refers to, numbered from `n` on, if there are any. -/
def assetsMember (n : Nat) (assets : List FileInput) : Members :=
  match assets with
  | [] => []
  | assets =>
    [("assets", .arr ((numbered n (assets.map (Enclosure.mk .asset))).map fun entry => .str entry.1))]

/-- The instruction for a source whose files get the numbers from `n` on. -/
def node (n : Nat) : PartSource → Members
  | .file input pages password contentType =>
    .single "file" (.str (Enclosure.key ⟨.file, input⟩ n)) ++ Draft.pagesMember pages ++
      Draft.givenMember "password" password ++ Draft.givenMember "content_type" contentType
  | .html markup assets layout =>
    .single "html" (.str (Enclosure.key ⟨.html, markup⟩ n)) ++ assetsMember (n + 1) assets ++
      Layout.member layout
  | .blank count layout =>
    .single "page" (.str "new") ++ .single "pageCount" count ++ Layout.member layout
  | .stored id layer pages password =>
    .single "document" (.obj (Members.single "id" id ++ Draft.givenMember "layer" layer)) ++
      Draft.pagesMember pages ++ Draft.givenMember "password" password
  | .unsupported _ => []

end PartSource

namespace Part

/-- The files that a part encloses: those of its source and then those of its actions. -/
def enclosures (part : Part) : List Enclosure :=
  part.source.enclosures ++ part.actions.flatMap Action.enclosures

/-- Why a part is refused, if it is. -/
def refusal? (part : Part) : Option Fault :=
  part.source.refusal?.or (part.actions.findSome? Action.refusal?)

/-- The instruction for a part whose files get the numbers from `n` on. -/
def node (part : Part) (n : Nat) : Members :=
  part.source.node n ++ Action.member (n + part.source.enclosures.length) part.actions

end Part

end DocBuild
