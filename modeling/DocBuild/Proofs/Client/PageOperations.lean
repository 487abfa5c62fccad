import DocBuild.Proofs.Client.Source
import DocBuild.Proofs.Client.Splitting
import DocBuild.Proofs.Client.Uploading

/-!
# Operations on pages

Every operation that addresses pages goes the same way: it checks what it can without the pages, loads the source,
looks for the pages in it, and makes documents of parts of what was loaded. So the source is used up once, the pages are
those that the octets declare, and what is uploaded are these octets, whatever comes of the operation.
-/

namespace DocBuild

open Run

namespace Client

/-- An operation that addresses pages of a source. -/
inductive PageOperation where
  | rotate (angle : Json) (range : PageRange)
  /-- Blank pages before the page with an index, which is not null. -/
  | addPage (count index : Json) (given : index.isNull = false)
  | split (ranges : List PageRange)
  | duplicatePages (indices : Json)
  | deletePages (indices : Json)

namespace PageOperation

/-- The operation on a file, with the documents that it makes. -/
def run (c : Client) (file : FileInput) : PageOperation → Run (List Document)
  | rotate angle range => (fun document => [document]) <$> c.rotate file angle (some range)
  | addPage count index _ => (fun document => [document]) <$> c.addPage file count index
  | split ranges => c.split file ranges
  | duplicatePages indices => (fun document => [document]) <$> c.duplicatePages file indices
  | deletePages indices => (fun document => [document]) <$> c.deletePages file indices

/-- What is checked without the pages of the source. -/
def check : PageOperation → Except Fault Unit
  | rotate angle _ => ((Action.rotate angle).mapError ActionError.toFault).map fun _ => ()
  | addPage count _ _ => do
    if (← Pages.numberOf count).less (.int 1) then
      throw (.validation "Page count must be at least 1" (some [("count", count)]))
  | split ranges =>
    if ranges.isEmpty then .error (.validation "At least one page range is required for splitting" none) else .ok ()
  | duplicatePages indices | deletePages indices => if indices.isGiven then .ok () else .error noIndex

/-- The pages of a source that indices mean. -/
def pagesOf (source : Source) (indices : Json) : Except Fault (List Number) := do
  (← indices.items.mapError .foreign).mapM (Pages.resolveIndex · source.count)

/-- The place in a source that an index means. -/
def placeOf (source : Source) (index : Json) : Except Fault Number := do
  let place ← Pages.numberOf index
  if place.less (.int 0) || (Number.int source.pageCount).less place then throw (noSuchPlace index source.count)
  return place

/-- The parts of each document that is made of a source, if the pages are there. -/
def documents (source : Source) : PageOperation → Except Fault (List (List Part))
  | rotate angle range => do
    let action ← (Action.rotate angle).mapError ActionError.toFault
    (Pages.resolveRange range source.count).map fun span => [rotatedParts source span.1 span.2 action]
  | addPage count index _ => (placeOf source index).map fun place => [insertedParts source count place]
  | split ranges =>
    (ranges.mapM (Pages.resolveRange · source.count)).map fun spans =>
      spans.map fun span => [source.pages span.1 span.2]
  | duplicatePages indices => (pagesOf source indices).map fun pages => [pages.map fun page => source.pages page page]
  | deletePages indices => ((pagesOf source indices).bind (keptParts source)).map fun parts => [parts]

/-- Makes the documents of a split, side by side. -/
def makeAll (c : Client) (ranges : List PageRange) (source : Source) (documents : List (List Part)) :
    Run (List Document) := do
  let executions ← each (fun parts => Run.ofExcept (c.execution parts [] (Output.pdf {}))) documents
  Run.log .info
    ("Splitting " ++ Text.ofNat source.pageCount ++ "-page document into " ++
      Text.ofNat executions.length ++ " range(s)")
    [("page_count", .int source.pageCount), ("ranges", .int executions.length)]
  let outcomes ← Execution.runAll executions
  match splitFailures ranges outcomes with
  | [] => each (fun outcome => Run.ofExcept (expectBinary outcome.result)) outcomes
  | failures => throw (.client (splitError outcomes.length failures))

/-- Makes the documents of parts of a source. -/
def make (c : Client) (source : Source) (documents : List (List Part)) : PageOperation → Run (List Document)
  | split ranges => makeAll c ranges source documents
  | _ => each (fun parts => c.buildPdf parts []) documents

/-- The way that all operations go. -/
def staged (c : Client) (file : FileInput) (op : PageOperation) : Run (List Document) := do
  Run.ofExcept op.check
  let source ← c.load file
  let documents ← Run.ofExcept (op.documents source)
  op.make c source documents

variable {c : Client} {file : FileInput} {around : Surroundings} {session loaded : Session} {source : Source}

/-- What follows a value goes on with it. -/
theorem ok_bind {α β : Type} (a : α) (k : α → Except Fault β) : (Except.ok a >>= k) = k a := rfl

/-- Outcomes of items come out in order, up to the first failure. -/
theorem each_ofExcept {α β : Type} (f : α → Except Fault β) (items : List α) :
    each (fun item => Run.ofExcept (f item)) items = Run.ofExcept (items.mapM f) := by
  refine funext fun around => funext fun session => ?_
  exact (start_each f items).trans (start_ofExcept _).symm

/-- One document is made by itself. -/
theorem make_one {α : Type} (c : Client) (outcome : Except Fault α) (parts : α → List Part) :
    ((fun document => [document]) <$> do
        let a ← Run.ofExcept outcome
        c.buildPdf (parts a) []) =
      (do
        let documents ← Run.ofExcept (outcome.map fun a => [parts a])
        each (fun parts => c.buildPdf parts []) documents) := by
  cases outcome with
  | error fault => rfl
  | ok a =>
    simp only [Except.map, Run.ofExcept, pure_bind, each]
    simp

/-- One document is made of a source that was loaded. -/
theorem staged_one {α : Type} (c : Client) (file : FileInput) (outcome : Source → Except Fault α)
    (parts : Source → α → List Part) :
    ((fun document => [document]) <$> do
        let source ← c.load file
        let a ← Run.ofExcept (outcome source)
        c.buildPdf (parts source a) []) =
      (do
        let source ← c.load file
        let documents ← Run.ofExcept ((outcome source).map fun a => [parts source a])
        each (fun parts => c.buildPdf parts []) documents) := by
  rw [map_bind]
  exact congrArg _ (funext fun source => make_one c (outcome source) (parts source))

/-- The pages that indices mean, as an operation. -/
theorem resolveIndices_eq (source : Source) (indices : Json) :
    resolveIndices source.count indices = Run.ofExcept (pagesOf source indices) := by
  unfold resolveIndices pagesOf
  cases indices.items.mapError Fault.foreign with
  | error fault => rfl
  | ok items => exact each_ofExcept _ items

/-- Looking for a place and making a document of the parts around it. -/
theorem make_at_place (c : Client) (source : Source) (count index : Json) :
    (do
        let place ← Run.ofExcept (Pages.numberOf index)
        if place.less (.int 0) || (Number.int source.pageCount).less place then throw (noSuchPlace index source.count)
        c.buildPdf (insertedParts source count place) []) =
      (do
        let place ← Run.ofExcept (placeOf source index)
        c.buildPdf (insertedParts source count place) []) := by
  unfold placeOf
  cases Pages.numberOf index with
  | error fault => rfl
  | ok place =>
    rw [ofExcept_ok_bind, ok_bind]
    cases place.less (.int 0) || (Number.int source.pageCount).less place with
    | true => rfl
    | false => rfl

/-- Blank pages at an index. -/
theorem addPage_eq (c : Client) (file : FileInput) {count index : Json} (given : index.isNull = false) :
    c.addPage file count index = (do
      Run.ofExcept (addPage count index given).check
      let source ← c.load file
      let place ← Run.ofExcept (placeOf source index)
      c.buildPdf (insertedParts source count place) []) := by
  simp only [Client.addPage, check, given]
  cases Pages.numberOf count with
  | error fault => rfl
  | ok number =>
    rw [ofExcept_ok_bind, ok_bind]
    cases number.less (.int 1) with
    | true => rfl
    | false =>
      have hmake := funext fun source => make_at_place c source count index
      exact congrArg (bind (c.load file)) hmake

/-- All operations go the same way. -/
theorem run_eq_staged (c : Client) (file : FileInput) (op : PageOperation) : op.run c file = op.staged c file := by
  cases op with
  | rotate angle range =>
    simp only [run, staged, check, documents, make, Client.rotate]
    cases (Action.rotate angle).mapError ActionError.toFault with
    | error fault => rfl
    | ok action =>
      exact staged_one c file (fun source => Pages.resolveRange range source.count) fun source span =>
        rotatedParts source span.1 span.2 action
  | addPage count index given =>
    have hone := staged_one c file (fun source => placeOf source index) fun source place =>
      insertedParts source count place
    simp only [run, staged, documents, make]
    rw [addPage_eq c file given, map_bind, hone]
  | split ranges =>
    simp only [run, staged, check, documents, make, Client.split, each_ofExcept]
    cases ranges.isEmpty with
    | true => rfl
    | false =>
      refine congrArg (bind (c.load file)) (funext fun source => ?_)
      cases ranges.mapM (Pages.resolveRange · source.count) with
      | error fault => rfl
      | ok spans =>
        rw [ofExcept_ok_bind, Except.map, ofExcept_ok_bind]
        simp only [makeAll, each_ofExcept, List.mapM_map]
        rfl
  | duplicatePages indices =>
    simp only [run, staged, check, documents, make, Client.duplicatePages, resolveIndices_eq]
    cases hgiven : indices.isGiven with
    | false => rfl
    | true =>
      exact staged_one c file (fun source => pagesOf source indices) fun source pages =>
        pages.map fun page => source.pages page page
  | deletePages indices =>
    simp only [run, staged, check, documents, make, Client.deletePages, resolveIndices_eq]
    cases hgiven : indices.isGiven with
    | false => rfl
    | true =>
      rw [← staged_one c file (fun source => (pagesOf source indices).bind (keptParts source)) fun source parts => parts]
      refine congrArg _ (congrArg (bind (c.load file)) (funext fun source => ?_))
      cases pagesOf source indices with
      | error fault => rfl
      | ok pages => rfl

/-- What is made of an outcome without a fault is made of its value. -/
theorem exists_of_map_eq_ok {ε α β : Type} {f : α → β} {outcome : Except ε α} {b : β} (h : outcome.map f = .ok b) :
    ∃ a, outcome = .ok a ∧ f a = b := by
  cases outcome with
  | error e => contradiction
  | ok a =>
    cases h
    exact ⟨a, rfl, rfl⟩

/-- A part of a source, with actions that need no file, encloses only the octets of the source. -/
theorem enclosesOnly_file (source : Source) (pages : Option PageRange) {actions : List Action}
    (h : actions.flatMap Action.enclosures = []) :
    Part.EnclosesOnly ⟨.file source.input pages .null .null, actions⟩ source.data := by
  intro enclosure henclosure
  have hmem : enclosure ∈ [⟨.file, source.input⟩] ++ actions.flatMap Action.enclosures := henclosure
  rw [h, List.append_nil] at hmem
  cases List.mem_singleton.mp hmem
  exact ⟨_, _, rfl⟩

/-- A rotation needs no file. -/
theorem enclosures_of_rotate {angle : Json} {action : Action} (h : Action.rotate angle = .ok action) :
    action.enclosures = [] := by
  unfold Action.rotate at h
  split at h
  · cases h
    rfl
  · contradiction

/-- The parts around rotated pages enclose only the octets of the source. -/
theorem enclosesOnly_rotatedParts {action : Action} (haction : action.enclosures = []) (source : Source)
    (first last : Number) : ∀ part ∈ rotatedParts source first last action, part.EnclosesOnly source.data := by
  intro part hpart
  unfold rotatedParts at hpart
  rw [List.mem_append, List.mem_append] at hpart
  rcases hpart with (hbefore | hrange) | hafter
  · split at hbefore
    · cases List.mem_singleton.mp hbefore
      exact enclosesOnly_file source _ rfl
    · contradiction
  · cases List.mem_singleton.mp hrange
    exact enclosesOnly_file source _ (by simp [haction])
  · split at hafter
    · cases List.mem_singleton.mp hafter
      exact enclosesOnly_file source _ rfl
    · contradiction

/-- The parts around blank pages enclose only the octets of the source. -/
theorem enclosesOnly_insertedParts (source : Source) (count : Json) (place : Number) :
    ∀ part ∈ insertedParts source count place, part.EnclosesOnly source.data := by
  have hblank : (Part.blank count).EnclosesOnly source.data := fun enclosure henclosure => by
    exact absurd henclosure List.not_mem_nil
  have hwhole : source.whole.EnclosesOnly source.data := enclosesOnly_file source none rfl
  have hpages (first last : Number) : (source.pages first last).EnclosesOnly source.data :=
    enclosesOnly_file source _ rfl
  unfold insertedParts
  split
  · simp [hblank, hwhole]
  · split <;> simp [hblank, hwhole, hpages]

/-- The parts that are kept enclose only the octets of the source. -/
theorem enclosesOnly_keptParts {pages : List Number} {parts : List Part} (h : keptParts source pages = .ok parts) :
    ∀ part ∈ parts, part.EnclosesOnly source.data := by
  unfold keptParts at h
  simp only at h
  split at h
  · contradiction
  · split at h
    · contradiction
    · cases h
      exact List.forall_mem_map.mpr fun r _ => enclosesOnly_file source _ rfl

/-- Whatever pages are addressed, only the octets of the source are enclosed. -/
theorem enclosesOnly_documents {op : PageOperation} {documents : List (List Part)}
    (h : op.documents source = .ok documents) :
    ∀ parts ∈ documents, ∀ part ∈ parts, part.EnclosesOnly source.data := by
  have hpages (first last : Number) : (source.pages first last).EnclosesOnly source.data :=
    enclosesOnly_file source _ rfl
  cases op with
  | rotate angle range =>
    simp only [PageOperation.documents] at h
    cases haction : Action.rotate angle with
    | error e =>
      rw [haction] at h
      contradiction
    | ok action =>
      rw [haction] at h
      obtain ⟨span, -, rfl⟩ := exists_of_map_eq_ok h
      exact List.forall_mem_singleton.mpr (enclosesOnly_rotatedParts (enclosures_of_rotate haction) source _ _)
  | addPage count index given =>
    obtain ⟨place, -, rfl⟩ := exists_of_map_eq_ok h
    exact List.forall_mem_singleton.mpr (enclosesOnly_insertedParts source count place)
  | split ranges =>
    obtain ⟨spans, -, rfl⟩ := exists_of_map_eq_ok h
    refine List.forall_mem_map.mpr fun span _ => List.forall_mem_singleton.mpr (hpages _ _)
  | duplicatePages indices =>
    obtain ⟨pages, -, rfl⟩ := exists_of_map_eq_ok h
    exact List.forall_mem_singleton.mpr (List.forall_mem_map.mpr fun page _ => hpages _ _)
  | deletePages indices =>
    obtain ⟨parts, hparts, rfl⟩ := exists_of_map_eq_ok h
    refine List.forall_mem_singleton.mpr ?_
    cases hindices : pagesOf source indices with
    | error fault =>
      rw [hindices] at hparts
      contradiction
    | ok pages =>
      rw [hindices] at hparts
      exact enclosesOnly_keptParts hparts

/-- Making documents of a source uploads only the octets of the source. -/
theorem uploadsOnly_make {op : PageOperation} {documents : List (List Part)}
    (h : op.documents source = .ok documents) :
    (op.make c source documents).UploadsOnly c.transport source.data := by
  have hparts := enclosesOnly_documents h
  have heach : (each (fun parts => c.buildPdf parts []) documents).UploadsOnly c.transport source.data :=
    uploadsOnly_each fun parts hmem => uploadsOnly_buildPdf (hparts parts hmem)
  cases op with
  | split ranges =>
    simp only [make, makeAll]
    rw [each_ofExcept]
    cases hexecutions : documents.mapM fun parts => c.execution parts [] (Output.pdf {}) with
    | error fault => exact uploadsOnly_of_keeps (keeps_throw fault)
    | ok executions =>
      have hmade : ∀ e ∈ executions, ∃ parts, c.execution parts [] (Output.pdf {}) = .ok e ∧
          ∀ part ∈ parts, part.EnclosesOnly source.data := by
        intro e he
        obtain ⟨parts, hmem, hexecution⟩ := exists_of_mem_mapM hexecutions e he
        exact ⟨parts, hexecution, hparts parts hmem⟩
      rw [ofExcept_ok_bind]
      refine (uploadsOnly_log _ _ _).bind fun _ => (uploadsOnly_runAll hmade).bind fun outcomes => ?_
      split
      · rw [each_ofExcept]
        exact uploadsOnly_ofExcept _
      · exact uploadsOnly_of_keeps (keeps_throw _)
  | rotate angle range => exact heach
  | addPage count index given => exact heach
  | duplicatePages indices => exact heach
  | deletePages indices => exact heach

end PageOperation

/-- Every operation that addresses pages of a file counts and uploads the same octets, obtained once.

* If the arguments are refused without looking at the file, nothing is done.
* Otherwise the file is used up once, whatever comes of it: there is one fetch if it is remote, one stream is opened,
  read and closed if it is a file at a path, and a stream that was given is read and closed. The streams are closed even
  if the octets cannot be obtained or their pages cannot be counted; then nothing else is done.
* The pages that are addressed are looked for among those that the obtained octets declare. If some are not there,
  nothing else is done. If all are, what follows are requests to the transport alone, each of which carries no file but
  the obtained octets. Over HTTP no stream is touched and nothing is fetched for them, and every file of every form that
  is sent has these octets. -/
theorem page_operations_upload_what_was_counted (c : Client) (file : FileInput) (op : PageOperation)
    (around : Surroundings) (session : Session) :
    let read := (c.load file).start around session
    let result := (op.run c file).start around session
    (∀ fault, op.check = .error fault → result = (.error fault, session)) ∧
    (op.check = .ok () →
      file.SpentOnce c.connection around session read.2 ∧
      (∀ id, (∃ name, file = .stream id name) ∨ session.streams.length ≤ id → (read.2.streamAt id).closed = true) ∧
      (∀ fault, read.1 = .error fault → result = (.error fault, read.2)) ∧
      ∀ source, read.1 = .ok source →
        ((Payload.sample c.connection file).start around session).1 =
          .ok ⟨source.filename, source.contentType, source.data⟩ ∧
        Pdf.pageCount source.data = .ok source.pageCount ∧
        (∀ fault, op.documents source = .error fault → result = (.error fault, read.2)) ∧
        ∀ documents, op.documents source = .ok documents → ∃ sent, c.transport.Exchanges around read.2 sent result.2 ∧
          (∀ exchange ∈ sent, exchange.request.UploadsOnly source.data) ∧
          ∀ t : HttpTransport, c.transport = t.transport → read.2.PostsOnly result.2 source.data) := by
  intro read result
  have hresult : result = (op.staged c file).start around session := by rw [← op.run_eq_staged]
  have hspent : file.SpentOnce c.connection around session read.2 := c.load_spends file around session
  unfold PageOperation.staged at hresult
  refine ⟨fun fault hcheck => ?_, fun hcheck => ?_⟩
  · rw [hresult, hcheck]
    rfl
  · rw [hcheck, start_bind_of_ok (start_ofExcept _)] at hresult
    refine ⟨hspent, fun id hid => hspent.closed hid, fun fault hfault => ?_, fun source hsource => ?_⟩
    · rw [hresult]
      exact start_bind_of_error (Prod.ext hfault rfl) _
    · have hload : (c.load file).start around session = (.ok source, read.2) := Prod.ext hsource rfl
      obtain ⟨-, -, -, -, -, -, hpages⟩ := start_load_ok hload
      rw [start_bind_of_ok hload] at hresult
      refine ⟨sample_of_load hload, hpages, fun fault hdocuments => ?_, fun documents hdocuments => ?_⟩
      · rw [hresult, hdocuments]
        rfl
      · rw [hdocuments, start_bind_of_ok (start_ofExcept _)] at hresult
        obtain ⟨sent, hsent, hall⟩ := (op.uploadsOnly_make hdocuments) around read.2
        rw [← hresult] at hsent
        refine ⟨sent, hsent, hall, fun t ht => ?_⟩
        rw [ht] at hsent
        exact hsent.postsOnly hall

/-- A client over HTTP. -/
def pagesClient : Client :=
  ⟨HttpTransport.transport ⟨.literal "key", .str HttpTransport.defaultBaseUrl, .null, .own⟩, .own, .null⟩

/-- A session with a stream of three pages. -/
def pagesSession : Session := { streams := [{ content := threePages }] }

/-- The stream of three pages is loaded. -/
theorem load_pagesSession : ∃ source loaded,
    (pagesClient.load (.stream 0 none)).start .empty pagesSession = (.ok source, loaded) ∧
      source.data = threePages ∧ source.pageCount = 3 :=
  ⟨_, _, rfl, rfl, by decide⟩

/-- A stream of three pages is split into the first page and the others. It is read once and closed, and every form that
is sent for it has what was read. A split into nothing leaves the stream alone. -/
theorem pagesSession_uploads_what_was_counted :
    let inTwo : PageOperation := .split ([(0, 0), (-2, 2)].map Pages.intRange)
    let result := (inTwo.run pagesClient (.stream 0 none)).start .empty pagesSession
    (∃ loaded : Session, (loaded.streamAt 0).closed = true ∧ loaded.sent = [] ∧
      loaded.PostsOnly result.2 threePages) ∧
    (((PageOperation.split []).run pagesClient (.stream 0 none)).start .empty pagesSession).2 = pagesSession := by
  intro inTwo result
  have hread := page_operations_upload_what_was_counted pagesClient (.stream 0 none)
  obtain ⟨source, loaded, hload, hdata, hcount⟩ := load_pagesSession
  obtain ⟨-, hcounted⟩ := hread inTwo .empty pagesSession
  rw [hload] at hcounted
  obtain ⟨hspent, hclosed, -, hloaded⟩ := hcounted rfl
  obtain ⟨-, -, -, hmade⟩ := hloaded source rfl
  have hfits : ∀ range ∈ [((0 : Int), (0 : Int)), (-2, 2)], Pages.Resolvable source.pageCount range := by
    rw [hcount]
    decide
  have hdocuments := congrArg (Except.map fun spans => spans.map fun span => [source.pages span.1 span.2])
    (Pages.mapM_resolveRange hfits)
  obtain ⟨sent, -, -, hposts⟩ := hmade _ hdocuments
  refine ⟨⟨loaded, hclosed 0 (Or.inl ⟨none, rfl⟩), hspent.sent, ?_⟩, ?_⟩
  · rw [← hdata]
    exact hposts _ rfl
  · exact congrArg Prod.snd ((hread (.split []) .empty pagesSession).1 _ rfl)

end Client

end DocBuild
