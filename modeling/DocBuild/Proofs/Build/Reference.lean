import DocBuild.Proofs.Build.Member

/-!
# References to files

Every file that a call encloses has a place in the tree of instructions: the member of a source, an item of the
assets, or the member that the kind of an action reserves for its file. The instructions for actions, sources
and parts have the keys of their files, numbered in order, at these places.
-/

namespace DocBuild

/-- A step into a value. -/
inductive PathStep where
  | member (name : Text)
  | item (index : Nat)
deriving DecidableEq

/-- A place in a value. -/
abbrev Path := List PathStep

/-- What stands at a place in a value. -/
def Json.at? : Path → Json → Option Json
  | [], value => some value
  | .member name :: rest, .obj members => (Members.get? name members).bind (at? rest)
  | .item i :: rest, .arr items => items[i]?.bind (at? rest)
  | _ :: _, _ => none

/-- A place in an instruction, and the file whose key stands there. -/
structure Reference where
  path : Path
  enclosure : Enclosure

/-- The reference seen from further outside. -/
def Reference.under (outer : Path) (r : Reference) : Reference := { r with path := outer ++ r.path }

/-- The keys of files, numbered from `n` on, stand at the places that refer to them. -/
def Placed (tree : Json) (n : Nat) (references : List Reference) : Prop :=
  ForallFrom (fun k (r : Reference) => tree.at? r.path = some (.str (r.enclosure.key k))) n references

namespace Action

/-- The reference in the instruction for an action. -/
def references (action : Action) : List Reference :=
  match action.embedded? with
  | some (field, file) => [⟨[.member field], ⟨.file, file⟩⟩]
  | none => []

/-- The references in the instructions for actions, the first of which is the item `i`. -/
def listReferences (i : Nat) : List Action → List Reference
  | [] => []
  | action :: rest => action.references.map (.under [.item i]) ++ listReferences (i + 1) rest

end Action

namespace PartSource

/-- The references to files of markup, the first of which is the item `i`. -/
def assetReferences (i : Nat) : List FileInput → List Reference
  | [] => []
  | asset :: rest => ⟨[.item i], ⟨.asset, asset⟩⟩ :: assetReferences (i + 1) rest

/-- The references in the instruction for a source. -/
def references : PartSource → List Reference
  | .file input _ _ _ => [⟨[.member "file"], ⟨.file, input⟩⟩]
  | .html markup assets _ =>
    ⟨[.member "html"], ⟨.html, markup⟩⟩ :: (assetReferences 0 assets).map (.under [.member "assets"])
  | .blank _ _ | .stored _ _ _ _ | .unsupported _ => []

end PartSource

/-- The references in the instruction for a part: those of its source and then those of its actions. -/
def Part.references (part : Part) : List Reference :=
  part.source.references ++ (Action.listReferences 0 part.actions).map (.under [.member "actions"])

/-- The references that calls make in the tree, where so many parts and actions come before them. -/
def DraftCall.referencesFrom (parts actions : Nat) : List DraftCall → List Reference
  | [] => []
  | .addPart part :: rest =>
    part.references.map (.under [.member "parts", .item parts]) ++ referencesFrom (parts + 1) actions rest
  | .addAction action _ :: rest =>
    action.references.map (.under [.member "actions", .item actions]) ++ referencesFrom parts (actions + 1) rest
  | .setOutput _ :: rest => referencesFrom parts actions rest

/-- The references that calls on an empty draft make in the tree. -/
def DraftCall.references (calls : List DraftCall) : List Reference := referencesFrom 0 0 calls

/-- Following two paths is following one after the other. -/
theorem Json.at?_append (outer inner : Path) (value : Json) :
    value.at? (outer ++ inner) = (value.at? outer).bind (Json.at? inner) := by
  induction outer generalizing value with
  | nil => rfl
  | cons step rest ih =>
    cases step with
    | member name =>
      cases value with
      | obj members =>
        simp only [List.cons_append, Json.at?, Option.bind_assoc]
        exact congrArg _ (funext ih)
      | _ => rfl
    | item i =>
      cases value with
      | arr items =>
        simp only [List.cons_append, Json.at?, Option.bind_assoc]
        exact congrArg _ (funext ih)
      | _ => rfl

/-- Keys are placed for two lists of references if they are for each of them. -/
theorem placed_append {tree : Json} {n : Nat} {left right : List Reference} :
    Placed tree n (left ++ right) ↔ Placed tree n left ∧ Placed tree (n + left.length) right :=
  forallFrom_append _ n left right

/-- What is placed in an inner value is placed in the outer one. -/
theorem placed_under {tree inner : Json} {outer : Path} (h : tree.at? outer = some inner) {n : Nat}
    {references : List Reference} (hplaced : Placed inner n references) :
    Placed tree n (references.map (.under outer)) := by
  refine (forallFrom_map _ _ n references).mpr (hplaced.imp fun k r hr => ?_)
  change tree.at? (outer ++ r.path) = _
  rw [Json.at?_append, h]
  exact hr

/-- Seen from further outside references refer to the same files. -/
theorem map_enclosure_under (outer : Path) (references : List Reference) :
    (references.map (.under outer)).map Reference.enclosure = references.map Reference.enclosure := by
  rw [List.map_map]
  rfl

/-- An action refers to the file that it encloses. -/
theorem Action.map_enclosure_references (action : Action) :
    action.references.map Reference.enclosure = action.enclosures := by
  unfold references enclosures
  cases action.embedded? <;> rfl

/-- Actions refer to the files that they enclose. -/
theorem Action.map_enclosure_listReferences (i : Nat) (actions : List Action) :
    (listReferences i actions).map Reference.enclosure = actions.flatMap Action.enclosures := by
  induction actions generalizing i with
  | nil => rfl
  | cons action rest ih =>
    rw [listReferences, List.map_append, map_enclosure_under, map_enclosure_references, ih, List.flatMap_cons]

/-- Markup refers to the files that are given with it. -/
theorem PartSource.map_enclosure_assetReferences (i : Nat) (assets : List FileInput) :
    (assetReferences i assets).map Reference.enclosure = assets.map (Enclosure.mk .asset) := by
  induction assets generalizing i with
  | nil => rfl
  | cons asset rest ih => rw [assetReferences, List.map_cons, ih, List.map_cons]

/-- A source refers to the files that it encloses. -/
theorem PartSource.map_enclosure_references (source : PartSource) :
    source.references.map Reference.enclosure = source.enclosures := by
  cases source with
  | html markup assets layout =>
    rw [references, List.map_cons, map_enclosure_under, map_enclosure_assetReferences, enclosures]
  | _ => rfl

/-- A part refers to the files that it encloses. -/
theorem Part.map_enclosure_references (part : Part) :
    part.references.map Reference.enclosure = part.enclosures := by
  rw [references, List.map_append, PartSource.map_enclosure_references, map_enclosure_under,
    Action.map_enclosure_listReferences, enclosures]

/-- Calls refer to the files that they enclose. -/
theorem DraftCall.map_enclosure_referencesFrom (parts actions : Nat) (calls : List DraftCall) :
    (referencesFrom parts actions calls).map Reference.enclosure = calls.flatMap enclosures := by
  induction calls generalizing parts actions with
  | nil => rfl
  | cons call rest ih =>
    cases call with
    | addPart part =>
      rw [referencesFrom, List.map_append, map_enclosure_under, Part.map_enclosure_references, ih]
      rfl
    | addAction action scope =>
      rw [referencesFrom, List.map_append, map_enclosure_under, Action.map_enclosure_references, ih]
      rfl
    | setOutput output =>
      rw [referencesFrom, ih]
      rfl

/-- The instruction for an action has the key of its file at the member that its kind reserves. -/
theorem Action.placed_node (action : Action) (n : Nat) : Placed (.obj (action.node n)) n action.references := by
  unfold references node
  cases action.embedded? with
  | none => trivial
  | some embedded => exact ⟨by simp only [Json.at?, Members.get?_set_self, Option.bind_some], trivial⟩

/-- Among instructions for actions each one has the key of its file. -/
theorem Action.placed_nodes (before : List Json) (n : Nat) (actions : List Action) :
    Placed (.arr (before ++ nodes n actions)) n (listReferences before.length actions) := by
  induction actions generalizing before n with
  | nil => trivial
  | cons action rest ih =>
    refine placed_append.mpr ⟨?_, ?_⟩
    · have hitem : (Json.arr (before ++ nodes n (action :: rest))).at? [.item before.length] =
          some (.obj (action.node n)) := by
        simp [Json.at?, nodes]
      exact placed_under hitem (action.placed_node n)
    · have hlength : (action.references.map (Reference.under [.item before.length])).length =
          action.enclosures.length := by
        rw [List.length_map, ← Action.map_enclosure_references, List.length_map]
      have hrest := ih (before ++ [.obj (action.node n)]) (n + action.enclosures.length)
      rw [hlength]
      simpa [nodes] using hrest

/-- The keys of assets are the items of their list. -/
theorem PartSource.placed_assets (before : List Json) (n : Nat) (assets : List FileInput) :
    Placed (.arr (before ++ (numbered n (assets.map (Enclosure.mk .asset))).map fun entry => .str entry.1)) n
      (assetReferences before.length assets) := by
  induction assets generalizing before n with
  | nil => trivial
  | cons asset rest ih =>
    have hrest := ih (before ++ [.str (Enclosure.key ⟨.asset, asset⟩ n)]) (n + 1)
    refine ⟨by simp [Json.at?], ?_⟩
    change Placed _ _ _
    simpa using hrest

/-- The instruction for a source has the keys of its files, whatever members follow. -/
theorem PartSource.placed_node (source : PartSource) (n : Nat) (rest : Members) :
    Placed (.obj (source.node n ++ rest)) n source.references := by
  cases source with
  | file input pages password contentType => exact ⟨by simp [Json.at?, node], trivial⟩
  | html markup assets layout =>
    refine ⟨by simp [Json.at?, node], ?_⟩
    cases assets with
    | nil => trivial
    | cons asset others =>
      exact placed_under (by simp [Json.at?, node]) (placed_assets [] (n + 1) (asset :: others))
  | blank count layout => trivial
  | stored id layer pages password => trivial
  | unsupported value => trivial

/-- The instruction for a part has the keys of its files. -/
theorem Part.placed_node (part : Part) (n : Nat) : Placed (.obj (part.node n)) n part.references := by
  have hlength : part.source.references.length = part.source.enclosures.length := by
    rw [← PartSource.map_enclosure_references, List.length_map]
  refine placed_append.mpr ⟨PartSource.placed_node part.source n _, ?_⟩
  rw [hlength]
  cases hactions : part.actions with
  | nil => trivial
  | cons action rest =>
    have hmember : (Json.obj (part.node n)).at? [.member "actions"] =
        some (.arr (Action.nodes (n + part.source.enclosures.length) part.actions)) := by
      simp [Json.at?, Part.get?_actions, hactions]
    rw [← hactions]
    exact placed_under hmember (Action.placed_nodes [] _ part.actions)

end DocBuild
