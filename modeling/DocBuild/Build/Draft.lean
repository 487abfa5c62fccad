import DocBuild.Build.Layout
import DocBuild.Output
import DocBuild.Part

/-!
# Drafts of builds

A build is one tree of instructions together with the files to which the tree refers by keys. A draft
collects parts, actions and an output. Every file gets the next key, a tag followed by a number, at the
moment it is added; so keys follow the order in which files are added.

When a part or an action is refused, the files that were added for it are taken back.
-/

namespace DocBuild

/-- The instructions of a build and the files they refer to. -/
structure Build where
  instructions : Members
  files : List (Text × FileInput)

/-- The instructions as a value. -/
def Build.tree (b : Build) : Json := .obj b.instructions

/-- A build in the making. -/
structure Draft where
  parts : List Members := []
  actions : List Members := []
  output : Option Output := none
  files : List (Text × FileInput) := []
  nextKey : Nat := 0

/-- A step in the making of a build. -/
abbrev Drafting (α : Type) : Type := ExceptT Fault (StateM Draft) α

namespace Drafting

/-- The value of an outcome. -/
def ofExcept {α : Type} : Except ForeignError α → Drafting α
  | .ok a => pure a
  | .error e => throw (.foreign e)

/-- Does `x`, and takes back the files that it added if it refuses what the caller gave. -/
def registration {α : Type} (x : Drafting α) : Drafting α := fun draft =>
  match x draft with
  | (.error fault, after) =>
    if fault.isValidation then (.error fault, { after with files := draft.files, nextKey := draft.nextKey })
    else (.error fault, after)
  | done => done

end Drafting

/-- Where an action applies. -/
inductive ActionScope where
  | document
  | part
deriving DecidableEq

/-- The scope with a name. -/
def ActionScope.ofName (name : Json) : Except Fault ActionScope :=
  if name.isText "document" then .ok .document
  else if name.isText "part" then .ok .part
  else .error (.validation ("Unknown action scope '" ++ name.display ++ "'") (some [("scope", name)]))

/-- The fault of an action that lacks the file it needs. -/
def Action.fileless (action : Action) : Fault :=
  .validation ("Action '" ++ action.kind.wireType ++ "' requires a file")
    (some [("action", .str action.kind.name)])

namespace Draft

/-- The fault of blank pages that are fewer than one. -/
def tooFewPages (count : Json) : Fault :=
  .validation "New page count must be at least 1" (some [("page_count", count)])

/-- The fault of something that is no part. -/
def unsupported (value : Json) : Fault :=
  .validation "Unsupported part" (some [("part_type", .str value.kindName)])

/-- The fault of a draft without parts. -/
def partless : Fault := .validation "At least one part must be added to build a document" none

/-- Adds a file and gives its key. -/
def register (tag : Text) (input : FileInput) : Drafting Text := do
  if !input.isValid then throw input.invalid
  let draft ← get
  let key := tag ++ Text.ofNat draft.nextKey
  set { draft with files := draft.files ++ [(key, input)], nextKey := draft.nextKey + 1 }
  return key

/-- The member for a value that counts as given. -/
def givenMember (name : Text) (value : Json) : Members := if value.isGiven then [(name, value)] else []

/-- The member for a page range, if there is one. -/
def pagesMember (pages : Option PageRange) : Members :=
  match pages with
  | some range => [("pages", range.toJson)]
  | none => []

/-- The member for a layout, if one is given. -/
def layoutMember (layout : Json) : Drafting Members :=
  if layout.isGiven then do
    return [("layout", ← Drafting.ofExcept (Layout.mapping layout))]
  else pure []

/-- The instruction for an action. -/
def actionNode (action : Action) : Drafting Members := do
  let node := Members.overlay [("type", .str action.kind.wireType)] action.options
  match action.kind.fileField?, action.file with
  | none, _ => return node
  | some field, some file => return node.set field (.str (← register "file" file))
  | some _, none => throw action.fileless

/-- The instructions for the actions of a part. -/
def actionNodes : List Action → Drafting (List Json)
  | [] => pure []
  | action :: rest => do
    let node ← Drafting.registration (actionNode action)
    return .obj node :: (← actionNodes rest)

/-- The member for the actions of a part, if there are any. -/
def actionsMember (actions : List Action) : Drafting Members :=
  match actions with
  | [] => pure []
  | actions => do return [("actions", .arr (← actionNodes actions))]

/-- Adds files one after the other and gives their keys. -/
def registerAll (tag : Text) : List FileInput → Drafting (List Json)
  | [] => pure []
  | input :: rest => do
    let key ← register tag input
    return .str key :: (← registerAll tag rest)

/-- The member for the files that markup refers to, if there are any. -/
def assetsMember (assets : List FileInput) : Drafting Members :=
  match assets with
  | [] => pure []
  | assets => do return [("assets", .arr (← registerAll "asset" assets))]

/-- Refuses blank pages that are fewer than one. -/
def checkCount (count : Json) : Drafting Unit := do
  if (← Drafting.ofExcept count.number).less (.int 1) then throw (tooFewPages count)

/-- The instruction for what a part consists of. -/
def sourceNode : PartSource → Drafting Members
  | .file input pages password contentType => do
    let key ← register "file" input
    return .single "file" (.str key) ++ pagesMember pages ++ givenMember "password" password ++
      givenMember "content_type" contentType
  | .html markup assets layout => do
    let key ← register "html" markup
    let assets ← assetsMember assets
    return .single "html" (.str key) ++ assets ++ (← layoutMember layout)
  | .blank count layout => do
    checkCount count
    return .single "page" (.str "new") ++ .single "pageCount" count ++ (← layoutMember layout)
  | .stored id layer pages password =>
    let document := Members.single "id" id
    return .single "document" (.obj (document ++ givenMember "layer" layer)) ++ pagesMember pages ++
      givenMember "password" password
  | .unsupported value => throw (unsupported value)

/-- The instruction for a part. -/
def partNode (part : Part) : Drafting Members := do
  let node ← sourceNode part.source
  return node ++ (← actionsMember part.actions)

/-- Adds a part. -/
def addPart (part : Part) : Drafting Unit := do
  let node ← Drafting.registration (partNode part)
  modify fun draft => { draft with parts := draft.parts ++ [node] }

/-- Makes the instruction for an action; one that applies to the document is added to it. -/
def addAction (action : Action) (scope : Json) : Drafting Members := do
  let scope ← ActionScope.ofName scope
  let node ← Drafting.registration (actionNode action)
  if scope = .document then modify fun draft => { draft with actions := draft.actions ++ [node] }
  return node

/-- Chooses the output; none takes back the choice. -/
def setOutput (output : Option Output) : Drafting Unit := modify fun draft => { draft with output }

/-- The output, a plain PDF unless one was chosen. -/
def chosenOutput (draft : Draft) : Output := draft.output.getD (Output.pdf {})

/-- The member for the actions of the document, if there are any. -/
def documentActions (draft : Draft) : Members :=
  match draft.actions with
  | [] => []
  | actions => [("actions", .arr (actions.map .obj))]

/-- The build as drafted so far; at least one part is needed. -/
def compile (draft : Draft) : Except Fault Build :=
  match draft.parts with
  | [] => .error partless
  | parts =>
    .ok {
      instructions := Members.single "parts" (.arr (parts.map .obj)) ++ draft.documentActions ++
        Members.single "output" draft.chosenOutput.toJson
      files := draft.files }

end Draft

end DocBuild
