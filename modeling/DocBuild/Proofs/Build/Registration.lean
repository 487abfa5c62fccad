import DocBuild.Proofs.Build.Drafting
import DocBuild.Proofs.Build.Instruction

/-!
# Registering files, actions and parts

Every step of drafting encloses the files, gives the instruction and has the refusal that are read off what it is
given. A refused step leaves files behind only if the fault is no error of the caller, and then exactly the files of
the source.
-/

namespace DocBuild

namespace Draft

/-- A file of the right shape gets the next key. -/
theorem register_gives (e : Enclosure) (h : e.input.refusal? = none) :
    (register e.tag.text e.input).Gives [e] e.key := by
  have hvalid : e.input.isValid = true := by simpa [FileInput.refusal?] using h
  intro draft
  simp only [register, hvalid]
  rfl

/-- What does not have the shape of a file is refused. -/
theorem register_refuses (tag : Text) (input : FileInput) (fault : Fault) (h : input.refusal? = some fault) :
    (register tag input).Refuses [] fault := by
  simp only [FileInput.refusal?, Option.ite_none_left_eq_some, Option.some.injEq,
    Bool.not_eq_true] at h
  obtain ⟨hvalid, rfl⟩ := h
  intro draft
  rw [enclose_nil]
  simp only [register, hvalid]
  rfl

/-- Files of the right shape get the next keys in order. -/
theorem registerAll_gives (tag : KeyTag) (inputs : List FileInput)
    (h : inputs.findSome? FileInput.refusal? = none) :
    (registerAll tag.text inputs).Gives (inputs.map (Enclosure.mk tag)) fun n =>
      (numbered n (inputs.map (Enclosure.mk tag))).map fun entry => Json.str entry.1 := by
  induction inputs with
  | nil => exact Drafting.gives_pure _
  | cons input rest ih =>
    rw [List.findSome?_cons] at h
    cases hinput : input.refusal? with
    | some fault => simp [hinput] at h
    | none =>
      simp only [hinput] at h
      have hhead := register_gives ⟨tag, input⟩ hinput
      have htail (key : Text) := (ih h).bind_pure fun keys => Json.str key :: keys
      have hboth := hhead.bind (k := fun key => do return .str key :: (← registerAll tag.text rest))
        fun n => htail _
      simpa only [registerAll, List.map_cons, numbered_cons, List.singleton_append,
        List.length_singleton] using hboth

/-- Among several inputs the first one without the shape of a file is what is refused. -/
theorem registerAll_refuses (tag : KeyTag) (inputs : List FileInput) (fault : Fault)
    (h : inputs.findSome? FileInput.refusal? = some fault) :
    ∃ enclosed, (registerAll tag.text inputs).Refuses enclosed fault := by
  induction inputs with
  | nil => simp at h
  | cons input rest ih =>
    rw [List.findSome?_cons] at h
    cases hinput : input.refusal? with
    | some fault' =>
      simp only [hinput, Option.some.injEq] at h
      subst h
      exact ⟨[], (register_refuses tag.text input fault' hinput).bind⟩
    | none =>
      simp only [hinput] at h
      obtain ⟨enclosed, hrest⟩ := ih h
      exact ⟨_, (register_gives ⟨tag, input⟩ hinput).bind_refuses fun _ => hrest.bind⟩

/-- An action that is not refused gives its instruction. -/
theorem actionNode_gives (action : Action) (h : action.refusal? = none) :
    (actionNode action).Gives action.enclosures action.node := by
  unfold actionNode Action.enclosures
  cases hfield : action.kind.fileField? with
  | none =>
    have hembedded : action.embedded? = none := by simp only [Action.embedded?, hfield]
    have hnode : action.node = fun _ => Members.overlay [("type", .str action.kind.wireType)] action.options := by
      funext n
      simp only [Action.node, hembedded]
    rw [hembedded, hnode]
    exact Drafting.gives_pure _
  | some field =>
    cases hfile : action.file with
    | none => simp [Action.refusal?, hfield, hfile] at h
    | some file =>
      have hvalid : file.refusal? = none := by simpa [Action.refusal?, hfield, hfile] using h
      have hembedded : action.embedded? = some (field, file) := by simp only [Action.embedded?, hfield, hfile]
      have hnode : action.node = fun n =>
          (Members.overlay [("type", .str action.kind.wireType)] action.options).set field
            (.str (Enclosure.key ⟨.file, file⟩ n)) := by
        funext n
        simp only [Action.node, hembedded]
      rw [hembedded, hnode]
      exact (register_gives ⟨.file, file⟩ hvalid).bind_pure fun key =>
        Members.set field (.str key) (Members.overlay [("type", .str action.kind.wireType)] action.options)

/-- An action is refused before its file is enclosed. -/
theorem actionNode_refuses (action : Action) (fault : Fault) (h : action.refusal? = some fault) :
    (actionNode action).Refuses [] fault := by
  unfold actionNode
  cases hfield : action.kind.fileField? with
  | none => simp [Action.refusal?, hfield] at h
  | some field =>
    cases hfile : action.file with
    | none =>
      simp only [Action.refusal?, hfield, hfile, Option.some.injEq] at h
      subst h
      exact Drafting.refuses_throw _
    | some file =>
      simp only [Action.refusal?, hfield, hfile] at h
      exact (register_refuses KeyTag.file.text file fault h).bind

/-- Actions that are not refused give their instructions in order. -/
theorem actionNodes_gives (actions : List Action) (h : actions.findSome? Action.refusal? = none) :
    (actionNodes actions).Gives (actions.flatMap Action.enclosures) fun n => Action.nodes n actions := by
  induction actions with
  | nil => exact Drafting.gives_pure _
  | cons action rest ih =>
    rw [List.findSome?_cons] at h
    cases haction : action.refusal? with
    | some fault => simp [haction] at h
    | none =>
      simp only [haction] at h
      have hhead := (actionNode_gives action haction).registration
      have htail (node : Members) := (ih h).bind_pure fun nodes => Json.obj node :: nodes
      exact hhead.bind (k := fun node => do return .obj node :: (← actionNodes rest)) fun n => htail _

/-- Of several actions the first one that is refused is the one reported. -/
theorem actionNodes_refuses (actions : List Action) (fault : Fault)
    (h : actions.findSome? Action.refusal? = some fault) :
    ∃ enclosed, (actionNodes actions).Refuses enclosed fault := by
  induction actions with
  | nil => simp at h
  | cons action rest ih =>
    rw [List.findSome?_cons] at h
    cases haction : action.refusal? with
    | some fault' =>
      simp only [haction, Option.some.injEq] at h
      subst h
      exact ⟨_, (actionNode_refuses action fault' haction).registration.bind⟩
    | none =>
      simp only [haction] at h
      obtain ⟨enclosed, hrest⟩ := ih h
      exact ⟨_, (actionNode_gives action haction).registration.bind_refuses fun _ => hrest.bind⟩

/-- The actions of a part that are not refused give one member, or none if there are no actions. -/
theorem actionsMember_gives (actions : List Action) (h : actions.findSome? Action.refusal? = none) :
    (actionsMember actions).Gives (actions.flatMap Action.enclosures) fun n => Action.member n actions := by
  cases actions with
  | nil => exact Drafting.gives_pure _
  | cons action rest =>
    exact (actionNodes_gives (action :: rest) h).bind_pure fun nodes =>
      ([("actions", .arr nodes)] : Members)

/-- The actions of a part are refused if one of them is. -/
theorem actionsMember_refuses (actions : List Action) (fault : Fault)
    (h : actions.findSome? Action.refusal? = some fault) :
    ∃ enclosed, (actionsMember actions).Refuses enclosed fault := by
  cases actions with
  | nil => simp at h
  | cons action rest =>
    obtain ⟨enclosed, hnodes⟩ := actionNodes_refuses (action :: rest) fault h
    exact ⟨enclosed, hnodes.bind⟩

/-- A layout that is not refused gives its member. -/
theorem layoutMember_gives (layout : Json) (h : Layout.refusal? layout = none) :
    (layoutMember layout).Gives [] fun _ => Layout.member layout := by
  unfold layoutMember Layout.member Layout.meant
  by_cases hgiven : layout.isGiven = true
  · cases hmapping : Layout.mapping layout with
    | error e => simp [Layout.refusal?, hgiven, hmapping] at h
    | ok value =>
      simp only [if_pos hgiven]
      exact (Drafting.gives_ofExcept value).bind_pure fun value => ([("layout", value)] : Members)
  · simp only [if_neg hgiven]
    exact Drafting.gives_pure _

/-- A layout that makes no mapping is refused with the error of making it one. -/
theorem layoutMember_refuses (layout : Json) (fault : Fault) (h : Layout.refusal? layout = some fault) :
    (layoutMember layout).Refuses [] fault := by
  unfold layoutMember
  by_cases hgiven : layout.isGiven = true
  · cases hmapping : Layout.mapping layout with
    | ok value => simp [Layout.refusal?, hgiven, hmapping] at h
    | error e =>
      simp only [Layout.refusal?, if_pos hgiven, hmapping, Option.some.injEq] at h
      subst h
      simp only [if_pos hgiven]
      exact (Drafting.refuses_ofExcept e).bind
  · simp [Layout.refusal?, hgiven] at h

/-- Files to which markup refers give one member, or none if there are none. -/
theorem assetsMember_gives (assets : List FileInput) (h : assets.findSome? FileInput.refusal? = none) :
    (assetsMember assets).Gives (assets.map (Enclosure.mk .asset)) fun n => PartSource.assetsMember n assets := by
  cases assets with
  | nil => exact Drafting.gives_pure _
  | cons asset rest =>
    exact (registerAll_gives .asset (asset :: rest) h).bind_pure fun keys =>
      ([("assets", .arr keys)] : Members)

/-- The files to which markup refers are refused if one of them is. -/
theorem assetsMember_refuses (assets : List FileInput) (fault : Fault)
    (h : assets.findSome? FileInput.refusal? = some fault) :
    ∃ enclosed, (assetsMember assets).Refuses enclosed fault := by
  cases assets with
  | nil => simp at h
  | cons asset rest =>
    obtain ⟨enclosed, hkeys⟩ := registerAll_refuses .asset (asset :: rest) fault h
    exact ⟨enclosed, hkeys.bind⟩

/-- Enough blank pages are no reason to refuse. -/
theorem checkCount_gives (count : Json) (h : countRefusal? count = none) :
    (checkCount count).Gives [] fun _ => () := by
  unfold checkCount
  cases hnumber : count.number with
  | error e => simp [countRefusal?, hnumber] at h
  | ok n =>
    have henough : n.less (.int 1) = false := by simpa [countRefusal?, hnumber] using h
    refine (Drafting.gives_ofExcept n).check ?_
    simp only [henough]
    exact Drafting.gives_pure ()

/-- Too few blank pages are refused, and so is a count that is no number. -/
theorem checkCount_refuses (count : Json) (fault : Fault) (h : countRefusal? count = some fault) :
    (checkCount count).Refuses [] fault := by
  unfold checkCount
  cases hnumber : count.number with
  | error e =>
    simp only [countRefusal?, hnumber, Option.some.injEq] at h
    subst h
    exact (Drafting.refuses_ofExcept e).bind
  | ok n =>
    simp only [countRefusal?, hnumber, Option.ite_none_right_eq_some, Option.some.injEq] at h
    obtain ⟨hfew, rfl⟩ := h
    refine (Drafting.gives_ofExcept n).check_refuses ?_
    simp only [if_pos hfew]
    exact Drafting.refuses_throw _

/-- A source that is not refused gives its instruction. -/
theorem sourceNode_gives (source : PartSource) (h : source.refusal? = none) :
    (sourceNode source).Gives source.enclosures fun n => source.node n := by
  cases source with
  | file input pages password contentType =>
    exact (register_gives ⟨.file, input⟩ h).bind_pure fun key =>
      Members.single "file" (.str key) ++ pagesMember pages ++ givenMember "password" password ++
        givenMember "content_type" contentType
  | html markup assets layout =>
    simp only [PartSource.refusal?, Option.or_eq_none_iff] at h
    obtain ⟨⟨hmarkup, hassets⟩, hlayout⟩ := h
    have hlast (key : Text) (assets : Members) := (layoutMember_gives layout hlayout).bind_pure fun layout =>
      Members.single "html" (.str key) ++ assets ++ layout
    have hrest (key : Text) := (assetsMember_gives assets hassets).bind
      (k := fun assets => do return Members.single "html" (.str key) ++ assets ++ (← layoutMember layout))
      fun n => hlast key _
    simp only [List.append_nil] at hrest
    exact (register_gives ⟨.html, markup⟩ hmarkup).bind
      (k := fun key => do
        let assets ← assetsMember assets
        return Members.single "html" (.str key) ++ assets ++ (← layoutMember layout))
      fun n => hrest _
  | blank count layout =>
    simp only [PartSource.refusal?, Option.or_eq_none_iff] at h
    obtain ⟨hcount, hlayout⟩ := h
    refine (checkCount_gives count hcount).check ?_
    exact (layoutMember_gives layout hlayout).bind_pure fun layout =>
      Members.single "page" (.str "new") ++ Members.single "pageCount" count ++ layout
  | stored id layer pages password => exact Drafting.gives_pure _
  | unsupported value => simp [PartSource.refusal?] at h

/-- A source is refused after some of its files were enclosed, and after all of them if the fault is no error
of the caller. -/
theorem sourceNode_refuses (source : PartSource) (fault : Fault) (h : source.refusal? = some fault) :
    ∃ enclosed, (sourceNode source).Refuses enclosed fault ∧
      (fault.isValidation = false → enclosed = source.enclosures) := by
  cases source with
  | file input pages password contentType =>
    have hvalidation := FileInput.isValidation_of_refusal? h
    exact ⟨[], (register_refuses KeyTag.file.text input fault h).bind, by simp [hvalidation]⟩
  | html markup assets layout =>
    simp only [PartSource.refusal?, Option.or_eq_some_iff, Option.or_eq_none_iff] at h
    rcases h with (hmarkup | ⟨hmarkup, hassets⟩) | ⟨⟨hmarkup, hassets⟩, hlayout⟩
    · have hvalidation := FileInput.isValidation_of_refusal? hmarkup
      exact ⟨[], (register_refuses KeyTag.html.text markup fault hmarkup).bind, by simp [hvalidation]⟩
    · obtain ⟨asset, -, hasset⟩ := List.exists_of_findSome?_eq_some hassets
      have hvalidation := FileInput.isValidation_of_refusal? hasset
      obtain ⟨enclosed, hrefuses⟩ := assetsMember_refuses assets fault hassets
      exact ⟨_, (register_gives ⟨.html, markup⟩ hmarkup).bind_refuses fun _ => hrefuses.bind, by simp [hvalidation]⟩
    · have hrefuses := layoutMember_refuses layout fault hlayout
      have hrest (key : Text) := (assetsMember_gives assets hassets).bind_refuses
        (k := fun assets => do return Members.single "html" (.str key) ++ assets ++ (← layoutMember layout))
        fun _ => hrefuses.bind
      simp only [List.append_nil] at hrest
      exact ⟨_, (register_gives ⟨.html, markup⟩ hmarkup).bind_refuses fun n => hrest _, fun _ => rfl⟩
  | blank count layout =>
    simp only [PartSource.refusal?, Option.or_eq_some_iff] at h
    rcases h with hcount | ⟨hcount, hlayout⟩
    · exact ⟨[], (checkCount_refuses count fault hcount).bind, fun _ => rfl⟩
    · have hrefuses := layoutMember_refuses layout fault hlayout
      exact ⟨[], (checkCount_gives count hcount).check_refuses hrefuses.bind, fun _ => rfl⟩
  | stored id layer pages password => simp [PartSource.refusal?] at h
  | unsupported value =>
    simp only [PartSource.refusal?, Option.some.injEq] at h
    subst h
    exact ⟨[], Drafting.refuses_throw _, fun _ => rfl⟩

/-- A part that is not refused gives its instruction. -/
theorem partNode_gives (part : Part) (h : part.refusal? = none) :
    (partNode part).Gives part.enclosures part.node := by
  simp only [Part.refusal?, Option.or_eq_none_iff] at h
  obtain ⟨hsource, hactions⟩ := h
  have hrest (node : Members) :=
    (actionsMember_gives part.actions hactions).bind_pure fun actions => node ++ actions
  exact (sourceNode_gives part.source hsource).bind
    (k := fun node => do return node ++ (← actionsMember part.actions)) fun n => hrest _

/-- A part that is refused is refused for its source or else for one of its actions. -/
theorem partNode_refuses (part : Part) (fault : Fault) (h : part.refusal? = some fault) :
    ∃ enclosed, (partNode part).Refuses enclosed fault ∧
      (fault.isValidation = false → enclosed = part.source.enclosures) := by
  simp only [Part.refusal?, Option.or_eq_some_iff] at h
  rcases h with hsource | ⟨hsource, hactions⟩
  · obtain ⟨enclosed, hrefuses, hall⟩ := sourceNode_refuses part.source fault hsource
    exact ⟨enclosed, hrefuses.bind, hall⟩
  · obtain ⟨action, -, haction⟩ := List.exists_of_findSome?_eq_some hactions
    have hvalidation := Action.isValidation_of_refusal? haction
    obtain ⟨enclosed, hrefuses⟩ := actionsMember_refuses part.actions fault hactions
    exact ⟨_, (sourceNode_gives part.source hsource).bind_refuses fun _ => hrefuses.bind, by simp [hvalidation]⟩

end Draft

end DocBuild
