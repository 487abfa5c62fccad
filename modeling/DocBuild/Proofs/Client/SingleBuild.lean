import DocBuild.Proofs.Client.PageOperations
import DocBuild.Proofs.Job.Ending

/-!
# Operations that make one build

Most operations of a client make one build: they decide on its parts, the actions on the document and the output, make
it, and give the product. What the caller gave is checked, and the source is loaded if its pages matter, before
anything is handed to the transport. From then on the outcome of the execution decides: the product that the output
asks for, which holds what the transport answered, or the error of the only failure. So the errors that operations keep
for an outcome without either, or for a product of another kind, are never raised.
-/

namespace DocBuild

open Run

variable {around : Surroundings} {session : Session}

/-- What an answer can be made into for an output: extracted content, a text, or a document. -/
theorem Product.cases_of_ofContent {o : Output} {content : Content} {product : Product}
    (h : Product.ofContent o content = .ok product) :
    (o.type = .jsonContent ∧ product = .extraction content) ∨
    (∃ text, o.type.isText = true ∧ textIn content = .ok text ∧
      product = .text text o.mediaType.1 o.mediaType.2) ∨
    ∃ data, o.type ≠ .jsonContent ∧ o.type.isText = false ∧ octetsIn content = .ok data ∧
      product = .document ⟨data, o.mediaType.1, o.mediaType.2⟩ := by
  unfold Product.ofContent at h
  dsimp only at h
  split at h
  · next hjson => exact Or.inl ⟨hjson, (Except.ok.inj h).symm⟩
  · next hjson =>
    split at h
    · next htext =>
      obtain ⟨text, hfound, hproduct⟩ := Client.PageOperation.exists_of_map_eq_ok h
      exact Or.inr (Or.inl ⟨text, htext, hfound, hproduct.symm⟩)
    · next htext =>
      obtain ⟨data, hfound, hproduct⟩ := Client.PageOperation.exists_of_map_eq_ok h
      exact Or.inr (Or.inr ⟨data, hjson, Bool.eq_false_iff.mpr htext, hfound, hproduct.symm⟩)

/-- A product is of the kind that an output asks for. -/
def Output.Fits (o : Output) : Product → Prop
  | .document _ => o.type ≠ .jsonContent ∧ o.type.isText = false
  | .text .. => o.type.isText = true
  | .extraction _ => o.type = .jsonContent

/-- What is made of an answer for an output is of the kind that the output asks for. -/
theorem Output.fits_of_ofContent {o : Output} {content : Content} {product : Product}
    (h : Product.ofContent o content = .ok product) : o.Fits product := by
  rcases Product.cases_of_ofContent h with ⟨hjson, rfl⟩ | ⟨text, htext, -, rfl⟩ | ⟨data, hjson, htext, -, rfl⟩
  · exact hjson
  · exact htext
  · exact ⟨hjson, htext⟩

/-- A product holds what an answer is: extracted content is the answer itself, a text is that of an answer that is text,
and a document has the octets of an answer that is octets. -/
def Product.Holds : Product → Content → Prop
  | .extraction found, content => found = content
  | .text found .., content => ∀ text, content = .value (.str text) → found = text
  | .document made, content => ∀ data, content = .bytes data → made.data = data

/-- What is made of an answer holds what the answer is. -/
theorem Product.holds_of_ofContent {o : Output} {content : Content} {product : Product}
    (h : Product.ofContent o content = .ok product) : product.Holds content := by
  rcases Product.cases_of_ofContent h with ⟨-, rfl⟩ | ⟨found, -, hfound, rfl⟩ | ⟨found, -, -, hfound, rfl⟩
  · exact rfl
  · rintro text rfl
    exact (Except.ok.inj hfound).symm
  · rintro data rfl
    exact (Except.ok.inj hfound).symm

/-- The files of an execution are obtained, and its request, the only one that it hands over, is answered. -/
inductive Execution.Answered (e : Execution) (around : Surroundings) (session : Session) :
    Answer → List (Request Payload) → Prop where
  | intro {files : List (Text × Payload)} {prepared before : Session} {answer : Answer}
      (hfirst : (e.step 1 e.prepare).start around session = (.ok files, prepared)) (hbefore : prepared.Remarks before)
      (hsend : ((e.transport.send (e.request files)).start around before).1 = .ok answer) :
      Answered e around session answer [e.request files]

/-- An execution ends with a product of the kind that its output asks for, which holds the answer to its request, or
with one failure that records a fault. -/
theorem Execution.Ends.fits_or_records {e : Execution} {outcome : Outcome Product} {requests : List (Request Payload)}
    (h : e.Ends around session outcome requests) :
    (∃ answer product, e.Answered around session answer requests ∧ outcome = .success product ∧
      e.output.Fits product ∧ product.Holds answer.content) ∨
      ∃ step fault error, e.Raises around session step fault requests ∧ outcome = .failure step error ∧
        error.Records step fault := by
  cases h with
  | failed hraises => exact Or.inr ⟨_, _, _, hraises, rfl, Fault.records_wrap _ _⟩
  | made hfirst hbefore hsend hproduct =>
    exact Or.inl ⟨_, _, ⟨hfirst, hbefore, hsend⟩, rfl, Output.fits_of_ofContent hproduct,
      Product.holds_of_ofContent hproduct⟩

/-- An execution hands over at most one request. -/
theorem Execution.Ends.length_le_one {e : Execution} {outcome : Outcome Product} {requests : List (Request Payload)}
    (h : e.Ends around session outcome requests) : requests.length ≤ 1 := by
  cases h with
  | failed hraises => cases hraises <;> simp
  | made => simp

namespace Client

/-- What an operation has built: the parts, the actions on the document, and the output. -/
structure Plan where
  parts : List Part
  actions : List Action
  output : Output

/-- The execution of a plan. -/
def Plan.execution (plan : Plan) (c : Client) : Except Fault Execution :=
  c.execution plan.parts plan.actions plan.output

section Build

variable {c : Client} {parts : List Part} {actions : List Action} {output : Output} {fault : Fault} {e : Execution}
  {outcome : Outcome Product} {after : Session}

/-- A build that is refused as it is drafted is not made. -/
theorem start_build_of_error (h : c.execution parts actions output = .error fault) :
    (c.build parts actions output).start around session = (.error fault, session) := by
  unfold build
  rw [h]
  rfl

/-- A build comes to the result of the outcome of its execution, or to its error. -/
theorem start_build_of_ok (h : c.execution parts actions output = .ok e)
    (hrun : e.run.start around session = (.ok outcome, after)) :
    (c.build parts actions output).start around session = (outcome.toExcept, after) := by
  unfold build
  rw [h, ofExcept_ok_bind, start_bind_of_ok hrun, start_ofExcept]

end Build

/-- An operation that makes one build. -/
inductive SingleBuild where
  | convert (file : FileInput) (format : Json)
  | merge (files : List FileInput) (format : Json)
  | ocr (file : FileInput) (language : Json)
  | watermarkText (file : FileInput) (text : Json) (placement : Placement) (font : Font)
  | watermarkImage (file : FileInput) (image : Option FileInput) (placement : Placement)
  | flatten (file : FileInput) (annotationIds : Json)
  | applyInstantJson (file : FileInput) (annotations : Option FileInput)
  | applyXfdf (file : FileInput) (annotations : Option FileInput) (ignorePageRotation richTextEnabled : Json)
  | createRedactionsText (file : FileInput) (text : Json) (scope : RedactionScope)
  | createRedactionsRegex (file : FileInput) (regex : Json) (scope : RedactionScope)
  | createRedactionsPreset (file : FileInput) (preset : Json) (scope : RedactionScope)
  | applyRedactions (file : FileInput)
  | extractText (file : FileInput)
  | compress (file : FileInput) (level : Json)
  | rotate (file : FileInput) (angle : Json) (range : Option PageRange)
  | addPage (file : FileInput) (count index : Json)
  | duplicatePages (file : FileInput) (indices : Json)
  | deletePages (file : FileInput) (indices : Json)

namespace SingleBuild

/-- The operation on a client, with what it gives as a product. -/
def run (c : Client) : SingleBuild → Run Product
  | convert file format => c.convert file format
  | merge files format => c.merge files format
  | ocr file language => .document <$> c.ocr file language
  | watermarkText file text placement font => .document <$> c.watermarkText file text placement font
  | watermarkImage file image placement => .document <$> c.watermarkImage file image placement
  | flatten file annotationIds => .document <$> c.flatten file annotationIds
  | applyInstantJson file annotations => .document <$> c.applyInstantJson file annotations
  | applyXfdf file annotations ignorePageRotation richTextEnabled =>
    .document <$> c.applyXfdf file annotations ignorePageRotation richTextEnabled
  | createRedactionsText file text scope => .document <$> c.createRedactionsText file text scope
  | createRedactionsRegex file regex scope => .document <$> c.createRedactionsRegex file regex scope
  | createRedactionsPreset file preset scope => .document <$> c.createRedactionsPreset file preset scope
  | applyRedactions file => .document <$> c.applyRedactions file
  | extractText file => .extraction <$> c.extractText file
  | compress file level => .document <$> c.compress file level
  | rotate file angle range => .document <$> c.rotate file angle range
  | addPage file count index => .document <$> c.addPage file count index
  | duplicatePages file indices => .document <$> c.duplicatePages file indices
  | deletePages file indices => .document <$> c.deletePages file indices

/-- A file and an action on the document. -/
def acting (file : FileInput) (action : Except ActionError Action) : Run (List Part × List Action) := do
  let action ← Run.ofExcept (action.mapError ActionError.toFault)
  return ([.ofFile file], [action])

/-- There are files to put one after the other. -/
def checkFiles (files : List FileInput) : Except Fault Unit :=
  if files.length < 2 then .error (.validation "At least 2 files are required for merge operation" none) else .ok ()

/-- There is at least one blank page. -/
def checkCount (count : Json) : Except Fault Unit := do
  if (← Pages.numberOf count).less (.int 1) then
    throw (.validation "Page count must be at least 1" (some [("count", count)]))

/-- The parts of the build and the actions on the document, if the arguments and the pages allow for them. -/
def content (c : Client) : SingleBuild → Run (List Part × List Action)
  | convert file _ | extractText file | compress file _ => return ([.ofFile file], [])
  | merge files _ => do
    Run.ofExcept (checkFiles files)
    return (files.map .ofFile, [])
  | ocr file language => acting file (.ok (Action.ocr language))
  | watermarkText file text placement font => acting file (Action.watermarkText text placement font)
  | watermarkImage file image placement => acting file (.ok (Action.watermarkImage image placement))
  | flatten file annotationIds => acting file (.ok (Action.flatten annotationIds))
  | applyInstantJson file annotations => acting file (.ok (Action.applyInstantJson annotations))
  | applyXfdf file annotations ignorePageRotation richTextEnabled =>
    acting file (.ok (Action.applyXfdf annotations ignorePageRotation richTextEnabled))
  | createRedactionsText file text scope => acting file (.ok (Action.createRedactionsText text scope))
  | createRedactionsRegex file regex scope => acting file (.ok (Action.createRedactionsRegex regex scope))
  | createRedactionsPreset file preset scope => acting file (.ok (Action.createRedactionsPreset preset scope))
  | applyRedactions file => acting file (.ok Action.applyRedactions)
  | rotate file angle range => do
    let action ← Run.ofExcept ((Action.rotate angle).mapError ActionError.toFault)
    match range with
    | none => return ([(Part.ofFile file).withActions [action]], [])
    | some range =>
      let source ← c.load file
      let (first, last) ← Run.ofExcept (Pages.resolveRange range source.count)
      return (rotatedParts source first last action, [])
  | addPage file count index => do
    Run.ofExcept (checkCount count)
    if index.isNull then return ([.ofFile file, .blank count], [])
    else
      let source ← c.load file
      let place ← Run.ofExcept (PageOperation.placeOf source index)
      return (insertedParts source count place, [])
  | duplicatePages file indices => do
    Run.ofExcept (PageOperation.duplicatePages indices).check
    let source ← c.load file
    let pages ← Run.ofExcept (PageOperation.pagesOf source indices)
    return (pages.map fun page => source.pages page page, [])
  | deletePages file indices => do
    Run.ofExcept (PageOperation.deletePages indices).check
    let source ← c.load file
    let pages ← Run.ofExcept (PageOperation.pagesOf source indices)
    let parts ← Run.ofExcept (keptParts source pages)
    return (parts, [])

/-- The output of the build. -/
def output : SingleBuild → Except Fault Output
  | convert _ format | merge _ format => (Output.ofTargetFormat format).mapError OutputError.toFault
  | extractText _ => .ok (Output.jsonContent { plainText := .bool true })
  | compress _ level => (compressionOf level).map fun optimize => Output.pdf { optimize := .obj optimize }
  | _ => .ok (Output.pdf {})

/-- All that is decided before the build is drafted. -/
def plan (c : Client) (op : SingleBuild) : Run Plan := do
  let (parts, actions) ← op.content c
  return ⟨parts, actions, ← Run.ofExcept op.output⟩

/-- What an operation gives for the product of its build. -/
def give : SingleBuild → Product → Except Fault Product
  | convert _ _ | merge _ _ => .ok
  | extractText _ => fun
    | .extraction content => .ok (.extraction content)
    | _ => .error notExtracted
  | _ => fun product => (expectBinary (some product)).map .document

variable {c : Client} {op : SingleBuild}

/-- A document is taken out of the product of a build. -/
theorem map_expectBinary (c : Client) (parts : List Part) (actions : List Action) (output : Output) :
    (Product.document <$> do
        let product ← c.build parts actions output
        Run.ofExcept (expectBinary (some product))) = (do
      let product ← c.build parts actions output
      Run.ofExcept ((expectBinary (some product)).map .document)) := by
  rw [map_bind]
  refine congrArg _ (funext fun product => ?_)
  cases expectBinary (some product) <;> rfl

/-- A PDF is taken out of the product of its build. -/
theorem map_buildPdf (c : Client) (parts : List Part) (actions : List Action) :
    Product.document <$> c.buildPdf parts actions = (do
      let product ← c.build parts actions (Output.pdf {})
      Run.ofExcept ((expectBinary (some product)).map .document)) :=
  map_expectBinary c parts actions (Output.pdf {})

/-- An action on a file is applied to the document of its build. -/
theorem map_applyAction (c : Client) (file : FileInput) (action : Except ActionError Action) :
    Product.document <$> c.applyAction file action = (do
      let (parts, actions) ← acting file action
      let product ← c.build parts actions (Output.pdf {})
      Run.ofExcept ((expectBinary (some product)).map .document)) := by
  simp only [applyAction, acting, map_bind, map_buildPdf, bind_assoc, pure_bind]

/-- Blank pages are inserted in the document of its build. -/
theorem map_addPage (c : Client) (file : FileInput) (count index : Json) :
    Product.document <$> c.addPage file count index = (do
      let (parts, actions) ← (addPage file count index).content c
      let product ← c.build parts actions (Output.pdf {})
      Run.ofExcept ((expectBinary (some product)).map .document)) := by
  simp only [Client.addPage, content, checkCount]
  cases Pages.numberOf count with
  | error fault => rfl
  | ok number =>
    simp only [ofExcept_ok_bind, PageOperation.ok_bind]
    split
    · rfl
    · split
      · exact map_buildPdf c _ _
      · simp only [map_bind, bind_assoc, pure_bind, PageOperation.make_at_place, map_buildPdf]
        rfl

/-- An operation plans its build, makes it, and gives the product. -/
theorem run_eq_planned (c : Client) (op : SingleBuild) : op.run c = (do
    let plan ← op.plan c
    let product ← c.build plan.parts plan.actions plan.output
    Run.ofExcept (op.give product)) := by
  have hok {α : Type} (a : α) : Run.ofExcept (.ok a) = (pure a : Run α) := rfl
  simp only [plan, bind_assoc, pure_bind]
  cases op with
  | convert file format => simp only [run, content, output, give, Client.convert, pure_bind, hok, bind_pure]
  | merge files format =>
    simp only [run, content, output, give, Client.merge, checkFiles, hok, bind_pure]
    split <;> rfl
  | extractText file =>
    simp only [run, content, output, give, Client.extractText, map_bind, pure_bind]
    refine congrArg _ (funext fun product => ?_)
    cases product <;> rfl
  | compress file level =>
    simp only [run, content, output, give, Client.compress, pure_bind]
    cases compressionOf level with
    | error fault => rfl
    | ok optimize => exact map_expectBinary c _ _ _
  | rotate file angle range =>
    simp only [run, content, output, give, Client.rotate, map_bind, bind_assoc, hok, pure_bind]
    refine congrArg _ (funext fun action => ?_)
    cases range with
    | none => exact map_buildPdf c _ _
    | some range => simp only [map_bind, bind_assoc, pure_bind, map_buildPdf]
  | addPage file count index => exact map_addPage c file count index
  | duplicatePages file indices =>
    simp only [run, content, output, give, Client.duplicatePages, PageOperation.check, PageOperation.resolveIndices_eq]
    cases indices.isGiven with
    | false => rfl
    | true =>
      simp only [Bool.not_true, Bool.false_eq_true, reduceIte, hok, map_bind, bind_assoc, pure_bind, map_buildPdf]
  | deletePages file indices =>
    simp only [run, content, output, give, Client.deletePages, PageOperation.check, PageOperation.resolveIndices_eq]
    cases indices.isGiven with
    | false => rfl
    | true =>
      simp only [Bool.not_true, Bool.false_eq_true, reduceIte, hok, map_bind, bind_assoc, pure_bind, map_buildPdf]
  | _ => exact map_applyAction c _ _

/-- A product is of the kind that an operation declares. A conversion declares the kind of its format. -/
def Declares : SingleBuild → Product → Prop
  | convert _ format | merge _ format => fun product =>
    ∃ output, Output.ofTargetFormat format = .ok output ∧ output.Fits product
  | extractText _ => fun product => ∃ content, product = .extraction content
  | _ => fun product => ∃ document, product = .document document

/-- A PDF is a document. -/
theorem exists_document_of_fits {options : DocumentOptions} {product : Product}
    (h : (Output.pdf options).Fits product) : ∃ document, product = .document document := by
  cases product with
  | document document => exact ⟨document, rfl⟩
  | text => cases h
  | extraction => cases h

/-- What is of the kind that the output asks for is given as it is, and is of the kind that the operation declares. -/
theorem give_of_fits {o : Output} (houtput : op.output = .ok o) {product : Product} (h : o.Fits product) :
    op.give product = .ok product ∧ op.Declares product := by
  have hpdf {options : DocumentOptions} (hfits : (Output.pdf options).Fits product) :
      (expectBinary (some product)).map Product.document = .ok product ∧ ∃ document, product = .document document := by
    obtain ⟨document, rfl⟩ := exists_document_of_fits hfits
    exact ⟨rfl, document, rfl⟩
  cases op with
  | convert file format | merge files format =>
    refine ⟨rfl, o, ?_, h⟩
    cases hformat : Output.ofTargetFormat format with
    | ok output =>
      cases (congrArg (Except.mapError OutputError.toFault) hformat).symm.trans houtput
      rfl
    | error e => cases (congrArg (Except.mapError OutputError.toFault) hformat).symm.trans houtput
  | extractText file =>
    cases houtput
    cases product with
    | extraction content => exact ⟨rfl, content, rfl⟩
    | document => exact absurd rfl h.1
    | text => cases h
  | compress file level =>
    obtain ⟨optimize, -, rfl⟩ := PageOperation.exists_of_map_eq_ok houtput
    exact hpdf h
  | _ =>
    cases houtput
    exact hpdf h

/-- Planning is quiet. -/
theorem quiet_plan (c : Client) (op : SingleBuild) : (op.plan c).Quiet := by
  have hacting (file : FileInput) (action : Except ActionError Action) : (acting file action).Quiet :=
    (keeps_ofExcept _).bind fun _ => keeps_pure _
  refine Keeps.bind ?_ fun content => (keeps_ofExcept _).bind fun _ => keeps_pure _
  cases op with
  | convert | extractText | compress => exact keeps_pure _
  | merge files format => exact (keeps_ofExcept _).bind fun _ => keeps_pure _
  | rotate file angle range =>
    refine (keeps_ofExcept _).bind fun action => ?_
    cases range with
    | none => exact keeps_pure _
    | some range => exact (c.quiet_load file).bind fun source => (keeps_ofExcept _).bind fun span => keeps_pure _
  | addPage file count index =>
    refine (keeps_ofExcept _).bind fun _ => ?_
    split
    · exact keeps_pure _
    · exact (c.quiet_load file).bind fun source => (keeps_ofExcept _).bind fun place => keeps_pure _
  | duplicatePages file indices =>
    exact (keeps_ofExcept _).bind fun _ => (c.quiet_load file).bind fun source =>
      (keeps_ofExcept _).bind fun pages => keeps_pure _
  | deletePages file indices =>
    exact (keeps_ofExcept _).bind fun _ => (c.quiet_load file).bind fun source =>
      (keeps_ofExcept _).bind fun pages => (keeps_ofExcept _).bind fun parts => keeps_pure _
  | _ => exact hacting _ _

/-- A plan has the output of its operation. -/
theorem output_of_plan {planned : Session} {plan : Plan}
    (h : (op.plan c).start around session = (.ok plan, planned)) : op.output = .ok plan.output := by
  obtain ⟨content, reached, -, h⟩ := exists_of_start_bind h
  obtain ⟨o, middle, houtput, h⟩ := exists_of_start_bind h
  rw [start_ofExcept] at houtput
  cases h
  exact congrArg Prod.fst houtput

end SingleBuild

/-- **An operation that makes one build gives what it declares, or the error of the execution.** What is refused
before the build is drafted, or as it is drafted, is raised as it is, and nothing is handed to the transport.
Otherwise the execution over the transport of the client decides, and at most one request is handed over: either it is
answered and its product is given, which is of the kind that the operation declares and holds the answer, or a step has
raised a fault, and the error of this only failure is raised. It is the fault itself if this is one of the client's own,
and otherwise says which one it was. -/
theorem single_build_gives_product_or_own_error (c : Client) (op : SingleBuild) (around : Surroundings)
    (session : Session) :
    let planned := (op.plan c).start around session
    let result := (op.run c).start around session
    planned.2.dispatched = session.dispatched ∧
    (∀ fault, planned.1 = .error fault → result = (.error fault, planned.2)) ∧
    ∀ plan, planned.1 = .ok plan →
      (∀ fault, plan.execution c = .error fault → result = (.error fault, planned.2)) ∧
      ∀ e, plan.execution c = .ok e → e.transport = c.transport ∧ e.connection = c.connection ∧
        ∃ outcome requests, e.run.start around planned.2 = (.ok outcome, result.2) ∧
          result.2.dispatched = session.dispatched ++ requests ∧ requests.length ≤ 1 ∧
          ((∃ answer product, e.Answered around planned.2 answer requests ∧ outcome = .success product ∧
              op.Declares product ∧ product.Holds answer.content ∧ result.1 = .ok product) ∨
            ∃ step fault error, e.Raises around planned.2 step fault requests ∧ outcome = .failure step error ∧
              error.Records step fault ∧ result.1 = .error (.client error)) := by
  intro planned result
  have hquiet : planned.2.dispatched = session.dispatched := (op.quiet_plan c).dispatched around session
  have hresult : result = _ := congrFun (congrFun (SingleBuild.run_eq_planned c op) around) session
  refine ⟨hquiet, fun fault hfault => ?_, fun plan hplan => ?_⟩
  · exact hresult.trans (start_bind_of_error (Prod.ext hfault rfl) _)
  · have hplanned : (op.plan c).start around session = (.ok plan, planned.2) := Prod.ext hplan rfl
    replace hresult := hresult.trans (start_bind_of_ok hplanned _)
    have houtput := SingleBuild.output_of_plan hplanned
    refine ⟨fun fault hfault => ?_, fun e he => ?_⟩
    · exact hresult.trans (start_bind_of_error (start_build_of_error hfault) _)
    · obtain ⟨hcallback, htransport, hconnection, hexecuted⟩ := of_execution he
      obtain ⟨outcome, requests, houtcome, hdispatched, hends⟩ :=
        Execution.run_ends (Execution.isCalm_of_callback hcallback) around planned.2
      have hrun : e.run.start around planned.2 = (.ok outcome, (e.run.start around planned.2).2) :=
        Prod.ext houtcome rfl
      have hbuild := start_build_of_ok he hrun
      rcases hends.fits_or_records with ⟨answer, product, hanswered, rfl, hfits, hholds⟩ |
        ⟨step, fault, error, hraises, rfl, hrecords⟩
      · obtain ⟨hgive, hdeclares⟩ := SingleBuild.give_of_fits houtput (hexecuted ▸ hfits)
        replace hresult := hresult.trans (start_bind_of_ok hbuild _)
        rw [hgive, start_ofExcept] at hresult
        rw [hresult]
        exact ⟨htransport, hconnection, _, requests, hrun, hquiet ▸ hdispatched, hends.length_le_one,
          Or.inl ⟨answer, product, hanswered, rfl, hdeclares, hholds, rfl⟩⟩
      · replace hresult := hresult.trans (start_bind_of_error hbuild _)
        rw [hresult]
        exact ⟨htransport, hconnection, _, requests, hrun, hquiet ▸ hdispatched, hends.length_le_one,
          Or.inr ⟨step, fault, error, hraises, rfl, hrecords, rfl⟩⟩

/-- The fault of a transport that breaks down. -/
def broken : Fault := .ofForeign .runtime "broken"

/-- A client over a transport that breaks down. -/
def brokenClient : Client := ⟨⟨fun _ => throw broken⟩, .own, .null⟩

/-- A client over a transport that gives the same answer to every request. -/
def repeatingClient (content : Content) : Client := ⟨⟨fun _ => pure ⟨content, 200, []⟩⟩, .own, .null⟩

/-- A compressed file is the document in the answer, and an extraction of text gives the answer as it is. If the
transport breaks down, this is what the error says. -/
theorem builds_give_answer_or_own_error :
    let compressed : SingleBuild := .compress (.bytes [1]) (.str "high")
    let extracted : SingleBuild := .extractText (.bytes [1])
    let words : Content := .value (.arr [.str "one", .str "two"])
    (∃ plan e document, ((compressed.plan (repeatingClient (.bytes [7]))).start .empty {}).1 = .ok plan ∧
      plan.execution (repeatingClient (.bytes [7])) = .ok e ∧ document.data = [7] ∧
      ((compressed.run (repeatingClient (.bytes [7]))).start .empty {}).1 = .ok (.document document)) ∧
    (∃ plan e, ((extracted.plan (repeatingClient words)).start .empty {}).1 = .ok plan ∧
      plan.execution (repeatingClient words) = .ok e ∧
      ((extracted.run (repeatingClient words)).start .empty {}).1 = .ok (.extraction words)) ∧
    ∃ plan e error, ((compressed.plan brokenClient).start .empty {}).1 = .ok plan ∧
      plan.execution brokenClient = .ok e ∧
      ((compressed.run brokenClient).start .empty {}).1 = .error (.client error) ∧
      ClientError.Records error 2 broken := by
  intro compressed extracted words
  refine ⟨?_, ?_, ?_⟩
  · obtain ⟨-, -, hplanned⟩ :=
      single_build_gives_product_or_own_error (repeatingClient (.bytes [7])) compressed .empty {}
    obtain ⟨-, hexecuted⟩ := hplanned _ rfl
    obtain ⟨-, -, _, _, -, -, -, hends⟩ := hexecuted _ rfl
    rcases hends with ⟨answer, _, hanswered, -, ⟨document, rfl⟩, hholds, hresult⟩ | ⟨_, _, _, -, -, -, hresult⟩
    · cases hanswered with
      | intro _ _ hsend =>
        cases hsend
        exact ⟨_, _, document, rfl, rfl, hholds [7] rfl, hresult⟩
    · cases hresult
  · obtain ⟨-, -, hplanned⟩ := single_build_gives_product_or_own_error (repeatingClient words) extracted .empty {}
    obtain ⟨-, hexecuted⟩ := hplanned _ rfl
    obtain ⟨-, -, _, _, -, -, -, hends⟩ := hexecuted _ rfl
    rcases hends with ⟨answer, _, hanswered, -, ⟨content, rfl⟩, hholds, hresult⟩ | ⟨_, _, _, -, -, -, hresult⟩
    · cases hanswered with
      | intro _ _ hsend =>
        cases hsend
        cases hholds
        exact ⟨_, _, rfl, rfl, hresult⟩
    · cases hresult
  · obtain ⟨-, -, hplanned⟩ := single_build_gives_product_or_own_error brokenClient compressed .empty {}
    obtain ⟨-, hexecuted⟩ := hplanned _ rfl
    obtain ⟨-, -, _, _, -, -, -, hends⟩ := hexecuted _ rfl
    rcases hends with ⟨_, _, _, -, -, -, hresult⟩ | ⟨_, _, error, hraises, -, hrecords, hresult⟩
    · cases hresult
    · cases hraises with
      | unobtained _ _ hfirst => cases hfirst
      | unanswered _ _ hsend =>
        cases hsend
        exact ⟨_, _, error, rfl, rfl, hresult, hrecords⟩
      | unfit _ _ hsend _ => cases hsend

end Client

end DocBuild
