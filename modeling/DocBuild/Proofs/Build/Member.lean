import DocBuild.Proofs.Build.History
import DocBuild.Proofs.Json.Members

/-!
# The members of instructions

Which value the instruction for an action or a part has for a name. Members that are left out have no value,
and the members that a source and the actions of a part contribute have different names.
-/

namespace DocBuild

open Members

/-- A value that does not count as given has no member. -/
@[simp] theorem Draft.get?_givenMember (name n : Text) (value : Json) :
    get? name (givenMember n value) = if n = name ∧ value.isGiven = true then some value else none := by
  by_cases h : value.isGiven = true <;> simp [givenMember, h]

/-- A page range has the member `pages`. -/
@[simp] theorem Draft.get?_pagesMember (name : Text) (pages : Option PageRange) :
    get? name (pagesMember pages) = if ("pages" : Text) = name then pages.map PageRange.toJson else none := by
  cases pages <;> simp [pagesMember]

/-- A given layout has the member `layout`. -/
@[simp] theorem Layout.get?_member (name : Text) (layout : Json) :
    get? name (member layout) =
      if ("layout" : Text) = name ∧ layout.isGiven = true then some (meant layout) else none := by
  by_cases h : layout.isGiven = true <;> simp [member, h]

/-- The files to which markup refers have the member `assets`. -/
@[simp] theorem PartSource.get?_assetsMember (name : Text) (n : Nat) (assets : List FileInput) :
    get? name (assetsMember n assets) =
      if ("assets" : Text) = name ∧ assets ≠ [] then
        some (.arr ((numbered n (assets.map (Enclosure.mk .asset))).map fun entry => .str entry.1))
      else none := by
  cases assets <;> simp [assetsMember]

/-- The actions of a part have the member `actions`. -/
@[simp] theorem Action.get?_member (name : Text) (n : Nat) (actions : List Action) :
    get? name (member n actions) =
      if ("actions" : Text) = name ∧ actions ≠ [] then some (.arr (nodes n actions)) else none := by
  cases actions <;> simp [member]

/-- A source contributes no member for the actions of its part. -/
theorem PartSource.get?_actions (source : PartSource) (n : Nat) : get? "actions" (source.node n) = none := by
  cases source <;> simp [node]

/-- The actions of a part contribute no member besides their own. -/
theorem Part.get?_of_ne (part : Part) (n : Nat) {name : Text} (h : ("actions" : Text) ≠ name) :
    get? name (part.node n) = get? name (part.source.node n) := by
  simp [Part.node, h]

/-- The actions of a part stand in the member `actions` of its instruction. -/
theorem Part.get?_actions (part : Part) (n : Nat) :
    get? "actions" (part.node n) =
      if part.actions = [] then none
      else some (.arr (Action.nodes (n + part.source.enclosures.length) part.actions)) := by
  simp [Part.node, PartSource.get?_actions]

end DocBuild
