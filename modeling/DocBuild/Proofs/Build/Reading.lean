import DocBuild.Proofs.Build.Member

/-!
# Reading instructions

What a build was asked to do can be read off its instructions, with the key of each file looked up among the
files of the build. An instruction is read as the content of the part or action that it was made for. A value
that does not count as given has no member, so it is read as null.

Options that are called like the members of an instruction itself would hide them; options that are not are plain.
-/

namespace DocBuild

open Members

/-- What the service is asked to do with a document: its type, its options and the file that it embeds. -/
structure ActionContent where
  type : Text
  options : Members
  file : Option FileInput

/-- What the service is asked to take for a part, and to do with it. -/
structure PartContent where
  source : PartSource
  actions : List ActionContent

/-- What the service is asked to do: the parts, and the actions of the whole document. -/
structure BuildContent where
  parts : List PartContent := []
  actions : List ActionContent := []

/-- The value if it counts as given, and null otherwise. -/
def Json.given (value : Json) : Json := if value.isGiven then value else .null

/-- The names of the members of an instruction for an action that are no options. -/
def Action.ownNames : List Text := ["type", "file", "image"]

/-- No option is called like a member that is none. -/
def Action.isPlain (action : Action) : Prop := ∀ name ∈ action.options.names, name ∉ ownNames

instance (action : Action) : Decidable action.isPlain :=
  inferInstanceAs (Decidable (∀ name ∈ action.options.names, name ∉ Action.ownNames))

/-- An action as it is read. -/
def Action.content (action : Action) : ActionContent where
  type := action.kind.wireType
  options := ofPairs action.options
  file := action.embedded?.map Prod.snd

/-- A layout that is an object is meant as it is, unless it is empty. -/
theorem Layout.meant_obj (members : Members) : meant (.obj members) = (Json.obj members).given := by
  unfold meant Json.given
  split <;> rfl

/-- A layout that is a table is meant as it is, unless it is empty. -/
theorem Layout.meant_table (entries : List (EntryName × Json)) :
    meant (.table entries) = (Json.table entries).given := by
  unfold meant Json.given
  split <;> rfl

/-- A source as it is read. -/
def PartSource.content : PartSource → PartSource
  | file input pages password contentType => file input pages password.given contentType.given
  | html markup assets layout => html markup assets (Layout.meant layout)
  | blank count layout => blank count (Layout.meant layout)
  | stored id layer pages password => stored id layer.given pages password.given
  | unsupported value => unsupported value

/-- A part as it is read. -/
def Part.content (part : Part) : PartContent := ⟨part.source.content, part.actions.map Action.content⟩

namespace Reading

variable (files : List (Text × FileInput))

/-- The file that a key stands for. -/
def file? : Json → Option FileInput
  | .str key => files.lookup key
  | _ => none

/-- The items of a list, which is empty if it is left out. -/
def items? {α : Type} (read : Json → Option α) : Option Json → Option (List α)
  | none => some []
  | some (.arr items) => items.mapM read
  | some _ => none

/-- The page range, if there is one. -/
def pages? : Option Json → Option (Option PageRange)
  | none => some none
  | some (.obj members) => do return some ⟨← get? "start" members, ← get? "end" members⟩
  | some _ => none

/-- The type of an action. -/
def type? : Option Json → Option Text
  | some (.str type) => some type
  | _ => none

/-- The file of an action, if it has one. -/
def embedded? : Option Json → Option (Option FileInput)
  | none => some none
  | some key => (file? files key).map some

/-- The content of an action. -/
def action? : Json → Option ActionContent
  | .obj members => do
    let type ← type? (get? "type" members)
    let file ← embedded? files ((get? "image" members).or (get? "file" members))
    return ⟨type, members.filter fun m => m.1 ∉ Action.ownNames, file⟩
  | _ => none

/-- The value of a member, or null if it is left out. -/
def optional (name : Text) (members : Members) : Json := (get? name members).getD .null

/-- A document that the service has stored. -/
def stored? (members : Members) : Json → Option PartSource
  | .obj document => do
    let pages ← pages? (get? "pages" members)
    return .stored (← get? "id" document) (optional "layer" document) pages (optional "password" members)
  | _ => none

/-- The source of a part, told by the member that every source of its kind has and no other one. -/
def source? (members : Members) : Option PartSource :=
  match get? "file" members, get? "html" members, get? "document" members with
  | some key, _, _ => do
    let pages ← pages? (get? "pages" members)
    return .file (← file? files key) pages (optional "password" members) (optional "content_type" members)
  | none, some key, _ => do
    let assets ← items? (file? files) (get? "assets" members)
    return .html (← file? files key) assets (optional "layout" members)
  | none, none, some document => stored? members document
  | none, none, none => do return .blank (← get? "pageCount" members) (optional "layout" members)

/-- The content of a part. -/
def part? : Json → Option PartContent
  | .obj members => do
    return ⟨← source? files members, ← items? (action? files) (get? "actions" members)⟩
  | _ => none

end Reading

/-- The content of a build. -/
def Build.read (build : Build) : Option BuildContent := do
  let parts ← Reading.items? (Reading.part? build.files) (get? "parts" build.instructions)
  let actions ← Reading.items? (Reading.action? build.files) (get? "actions" build.instructions)
  return ⟨parts, actions⟩

/-- The files are found under the keys that they get from `n` on. -/
def Filed (files : List (Text × FileInput)) (n : Nat) (enclosed : List Enclosure) : Prop :=
  ForallFrom (fun k e => files.lookup (e.key k) = some e.input) n enclosed

/-- Files are found one after the other. -/
theorem filed_append {files : List (Text × FileInput)} {n : Nat} {left right : List Enclosure} :
    Filed files n (left ++ right) ↔ Filed files n left ∧ Filed files (n + left.length) right :=
  forallFrom_append _ n left right

namespace Reading

variable {files : List (Text × FileInput)}

/-- What is left out or given reads as what counts as given. -/
theorem getD_ite_isGiven (value : Json) :
    (if value.isGiven = true then some value else none).getD .null = value.given := by
  unfold Json.given
  split <;> rfl

/-- A page range is read back, and so is none. -/
theorem pages?_map_toJson (pages : Option PageRange) : pages? (pages.map PageRange.toJson) = some pages := by
  cases pages <;> rfl

/-- The keys of files that are found are read as the files. -/
theorem mapM_file?_numbered (n : Nat) (enclosed : List Enclosure) (h : Filed files n enclosed) :
    ((numbered n enclosed).map fun entry => Json.str entry.1).mapM (file? files) =
      some (enclosed.map Enclosure.input) := by
  induction enclosed generalizing n with
  | nil => rfl
  | cons e rest ih =>
    have hhead : file? files (.str (e.key n)) = some e.input := h.1
    simp only [numbered_cons, List.map_cons, List.mapM_cons, hhead, ih (n + 1) h.2]
    rfl

/-- A layout that is left out reads as none. -/
theorem getD_ite_meant (layout : Json) :
    (if layout.isGiven = true then some (Layout.meant layout) else none).getD .null = Layout.meant layout := by
  by_cases h : layout.isGiven = true
  · simp [h]
  · simp [h, Layout.meant]

/-- The files to which markup refers are read back, and so are none. -/
theorem items?_assetsMember {n : Nat} {assets : List FileInput}
    (h : Filed files n (assets.map (Enclosure.mk .asset))) :
    items? (file? files) (get? "assets" (PartSource.assetsMember n assets)) = some assets := by
  cases assets with
  | nil => rfl
  | cons asset rest =>
    have hread := mapM_file?_numbered n _ h
    rw [List.map_map] at hread
    simpa [items?, Function.comp_def] using hread

/-- A document that is stored is read back, up to members that are left out. -/
theorem stored?_node {members : Members} (id layer : Json) (pages : Option PageRange)
    (hpages : get? "pages" members = pages.map PageRange.toJson) :
    stored? members (.obj (Members.single "id" id ++ Draft.givenMember "layer" layer)) =
      some (.stored id layer.given pages (optional "password" members)) := by
  simp [stored?, hpages, pages?_map_toJson, optional, getD_ite_isGiven]

end Reading

/-- The member of an instruction that refers to the file of the action. -/
def Action.fileMember (action : Action) (n : Nat) : Members :=
  match action.embedded? with
  | some (field, file) => single field (.str (Enclosure.key ⟨.file, file⟩ n))
  | none => []

/-- A file is referred to as an image or as a file. -/
theorem ActionKind.fileField_mem {kind : ActionKind} {field : Text} (h : kind.fileField? = some field) :
    field = "image" ∨ field = "file" := by
  cases kind <;> simp_all [fileField?]

/-- A file that an action embeds is referred to as an image or as a file. -/
theorem Action.field_of_embedded? {action : Action} {field : Text} {file : FileInput}
    (h : action.embedded? = some (field, file)) : field = "image" ∨ field = "file" := by
  unfold embedded? at h
  split at h
  · rename_i hfield hfile
    cases h
    exact ActionKind.fileField_mem hfield
  · contradiction

/-- Plain options, taken as a mapping, have none of the names of other members. -/
theorem Action.notMem_options {action : Action} (h : action.isPlain) {name : Text} (hname : name ∈ ownNames) :
    name ∉ (ofPairs action.options).names := by
  intro hmem
  rcases mem_names_overlay hmem with hnil | hmem
  · simp [names] at hnil
  · exact h name hmem hname

/-- Plain options stand between the type and the file of an action. -/
theorem Action.node_of_isPlain {action : Action} (h : action.isPlain) (n : Nat) :
    action.node n = Members.single "type" (.str action.kind.wireType) ++ ofPairs action.options ++
      action.fileMember n := by
  have htype : ("type" : Text) ∉ action.options.names := fun hmem => h _ hmem (by decide)
  have hnode : overlay [("type", .str action.kind.wireType)] action.options =
      Members.single "type" (.str action.kind.wireType) ++ ofPairs action.options := overlay_cons htype
  unfold node fileMember
  rw [hnode]
  cases hembedded : action.embedded? with
  | none => simp
  | some embedded =>
    obtain ⟨field, file⟩ := embedded
    refine set_of_notMem _ fun hmem => ?_
    simp only [names, List.map_append, List.mem_append] at hmem
    rcases field_of_embedded? hembedded with rfl | rfl
    · rcases hmem with hmem | hmem
      · simp [single] at hmem
      · exact notMem_options h (by decide) hmem
    · rcases hmem with hmem | hmem
      · simp [single] at hmem
      · exact notMem_options h (by decide) hmem

/-- The options are what is left of an instruction without the type and the file. -/
theorem Action.filter_node {action : Action} (h : action.isPlain) (n : Nat) :
    (action.node n).filter (fun m => m.1 ∉ ownNames) = ofPairs action.options := by
  have hfile : (action.fileMember n).filter (fun m => m.1 ∉ ownNames) = [] := by
    unfold fileMember
    cases hembedded : action.embedded? with
    | none => rfl
    | some embedded =>
      obtain ⟨field, file⟩ := embedded
      rcases field_of_embedded? hembedded with rfl | rfl <;> rfl
  have hoptions : (ofPairs action.options).filter (fun m => m.1 ∉ ownNames) = ofPairs action.options := by
    rw [List.filter_eq_self]
    intro m hm
    have hname : m.1 ∈ (ofPairs action.options).names := List.mem_map_of_mem hm
    simpa using fun hown => notMem_options h hown hname
  have htype : (Members.single "type" (.str action.kind.wireType)).filter (fun m => m.1 ∉ ownNames) = [] := rfl
  rw [node_of_isPlain h, List.filter_append, List.filter_append, htype, hoptions, hfile, List.nil_append,
    List.append_nil]

/-- The file of an action stands under one of two names. -/
theorem Action.get?_file {action : Action} (h : action.isPlain) (n : Nat) :
    (get? "image" (action.node n)).or (get? "file" (action.node n)) =
      action.embedded?.map fun embedded => .str (Enclosure.key ⟨.file, embedded.2⟩ n) := by
  have himage := get?_eq_none (notMem_options h (show ("image" : Text) ∈ ownNames by decide))
  have hfile := get?_eq_none (notMem_options h (show ("file" : Text) ∈ ownNames by decide))
  rw [node_of_isPlain h]
  simp only [get?_append, himage, hfile, fileMember]
  cases hembedded : action.embedded? with
  | none => simp
  | some embedded =>
    obtain ⟨field, file⟩ := embedded
    rcases field_of_embedded? hembedded with rfl | rfl <;> simp

/-- An action with plain options is read back if its file is found. -/
theorem Reading.action?_node {files : List (Text × FileInput)} {action : Action} (h : action.isPlain) {n : Nat}
    (hfiled : Filed files n action.enclosures) : action? files (.obj (action.node n)) = some action.content := by
  have htype : type? (get? "type" (action.node n)) = some action.kind.wireType := by
    rw [Action.node_of_isPlain h]
    simp [type?]
  have hembedded : embedded? files (action.embedded?.map fun embedded =>
      .str (Enclosure.key ⟨.file, embedded.2⟩ n)) = some (action.embedded?.map Prod.snd) := by
    cases hfile : action.embedded? with
    | none => rfl
    | some embedded =>
      obtain ⟨field, file⟩ := embedded
      simp only [Action.enclosures, hfile] at hfiled
      have hlookup : files.lookup (Enclosure.key ⟨.file, file⟩ n) = some file := hfiled.1
      simp [embedded?, file?, hlookup]
  simp only [action?, htype, Action.get?_file h, hembedded, Action.filter_node h]
  rfl

/-- Actions with plain options are read back in order. -/
theorem Reading.mapM_action?_nodes {files : List (Text × FileInput)} {actions : List Action}
    (h : ∀ action ∈ actions, action.isPlain) {n : Nat}
    (hfiled : Filed files n (actions.flatMap Action.enclosures)) :
    (Action.nodes n actions).mapM (action? files) = some (actions.map Action.content) := by
  induction actions generalizing n with
  | nil => rfl
  | cons action rest ih =>
    rw [List.flatMap_cons, filed_append] at hfiled
    have hhead := action?_node (h action List.mem_cons_self) hfiled.1
    have htail := ih (fun a ha => h a (List.mem_cons_of_mem _ ha)) hfiled.2
    simp only [Action.nodes, List.mapM_cons, hhead, htail]
    rfl

/-- The actions of a part are not read for its source. -/
theorem Reading.source?_congr (files : List (Text × FileInput)) {members members' : Members}
    (h : ∀ name : Text, "actions" ≠ name → get? name members = get? name members') :
    source? files members = source? files members' := by
  have hstored (document : Json) : stored? members document = stored? members' document := by
    unfold stored? optional
    rw [h "pages" (by decide), h "password" (by decide)]
  unfold source? optional
  rw [h "file" (by decide), h "html" (by decide), h "document" (by decide), h "pages" (by decide),
    h "password" (by decide), h "content_type" (by decide), h "assets" (by decide), h "layout" (by decide),
    h "pageCount" (by decide)]
  simp only [hstored]

/-- A source that is not refused is read back. -/
theorem Reading.source?_node {files : List (Text × FileInput)} {source : PartSource}
    (h : source.refusal? = none) {n : Nat} (hfiled : Filed files n source.enclosures) :
    source? files (source.node n) = some source.content := by
  cases source with
  | file input pages password contentType =>
    have hkey : file? files (.str (Enclosure.key ⟨.file, input⟩ n)) = some input := hfiled.1
    simp [source?, PartSource.node, hkey, pages?_map_toJson, optional, getD_ite_isGiven, PartSource.content]
  | html markup assets layout =>
    have hkey : file? files (.str (Enclosure.key ⟨.html, markup⟩ n)) = some markup := hfiled.1
    have hassets := items?_assetsMember hfiled.2
    have hmember : get? "assets" (PartSource.node n (.html markup assets layout)) =
        get? "assets" (PartSource.assetsMember (n + 1) assets) := by
      simp [PartSource.node]
    simp only [source?, hmember, hassets]
    simp [PartSource.node, hkey, optional, getD_ite_meant, PartSource.content]
  | blank count layout => simp [source?, PartSource.node, optional, getD_ite_meant, PartSource.content]
  | stored id layer pages password =>
    have hpages : get? "pages" (PartSource.node n (.stored id layer pages password)) =
        pages.map PageRange.toJson := by
      simp [PartSource.node]
    have hpassword : optional "password" (PartSource.node n (.stored id layer pages password)) =
        password.given := by
      simp [PartSource.node, optional, getD_ite_isGiven]
    have hread := stored?_node id layer pages hpages
    rw [hpassword] at hread
    unfold source?
    simpa [PartSource.node, PartSource.content] using hread
  | unsupported value => simp [PartSource.refusal?] at h

/-- A part with plain options that is not refused is read back if its files are found. -/
theorem Reading.part?_node {files : List (Text × FileInput)} {part : Part} (h : part.refusal? = none)
    (hplain : ∀ action ∈ part.actions, action.isPlain) {n : Nat} (hfiled : Filed files n part.enclosures) :
    part? files (.obj (part.node n)) = some part.content := by
  simp only [Part.refusal?, Option.or_eq_none_iff] at h
  rw [Part.enclosures, filed_append] at hfiled
  have hsource : source? files (part.node n) = some part.source.content := by
    rw [source?_congr files fun name hname => part.get?_of_ne n hname]
    exact source?_node h.1 hfiled.1
  have hactions : items? (action? files) (get? "actions" (part.node n)) =
      some (part.actions.map Action.content) := by
    rw [Part.get?_actions]
    by_cases hnil : part.actions = []
    · simp [hnil, items?]
    · rw [if_neg hnil]
      exact mapM_action?_nodes hplain hfiled.2
  simp only [part?, hsource, hactions]
  rfl

end DocBuild
