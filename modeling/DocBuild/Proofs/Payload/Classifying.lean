import DocBuild.Build.Draft
import DocBuild.Proofs.Payload.Escaping
import DocBuild.Proofs.Payload.Ignoring
import DocBuild.Proofs.Payload.Naming

/-!
# How inputs are told apart

An input is looked at three times: for its shape when it is registered, for whether it is remote, and when it is
obtained. The three agree. What is registered is not rejected for its shape later, and what is not could not have been
obtained. Exactly the remote inputs are fetched, each once and from the address that was given, without a look at the
files; for all others nothing is sent.
-/

namespace DocBuild

open Run

variable {around : Surroundings} {session : Session} {connection : Connection} {fault : Fault} {address : Json}

/-- Whether a fault rejects an input for its shape. -/
def Fault.rejectsShape : Fault → Bool
  | client e => e.kind = .validation && e.message.isText "Invalid file input provided"
  | foreign _ => false

/-- What makes a fetch fail does not reject an input for its shape. -/
def Surroundings.FetchesRejectNoShape (around : Surroundings) : Prop :=
  ∀ address fault, around.web address = .error fault → fault.rejectsShape = false

section Rejecting

/-- What rejects an input for its shape is an error about what the caller gave. -/
theorem rejectsShape_of_not_isValidation (h : fault.isValidation = false) : fault.rejectsShape = false := by
  cases fault with
  | foreign e => rfl
  | client e =>
    have hkind : decide (e.kind = .validation) = false := h
    rw [Fault.rejectsShape, hkind, Bool.false_and]

/-- An error whose words begin differently does not reject an input for its shape. -/
theorem rejectsShape_of_head {message : Text} {details : Option Members} {status : Option Int} {cause : Option Fault}
    (h : message.head? = some (CodePoint.ofChar 'F')) :
    (Fault.client (ClientError.ofKind .validation message details status cause)).rejectsShape = false := by
  have hwords : message ≠ "Invalid file input provided" := by
    rintro rfl
    exact absurd h (by decide)
  simpa [Fault.rejectsShape, ClientError.ofKind, Json.isText] using hwords

end Rejecting

namespace FileInput

/-- The address that an input is given as, if it is given as one or may be one. -/
def address? : FileInput → Option Json
  | text value => some (.str value)
  | remote address => some address
  | _ => none

/-- What the classifiers of an input say agrees with what comes of it, if it is remote or not. -/
structure Agrees (input : FileInput) (remote : Bool) (connection : Connection) (around : Surroundings)
    (session : Session) (result : Except Fault Payload × Session) : Prop where
  /-- It can be registered exactly if it has the shape of a file. -/
  registers : ∀ tag draft, (Draft.register tag input draft).1.isOk = input.isValid
  /-- It is rejected for its shape exactly if it has not the shape of a file, unless it is the empty text. -/
  rejects : (∃ fault, result.1 = .error fault ∧ fault.rejectsShape = true) ↔ input.isValid = false ∧ input ≠ .text []
  /-- If it has not the shape of a file it is not obtained, the empty text included. -/
  fails : input.isValid = false → ∃ fault, result.1 = .error fault
  /-- If it is remote it is fetched once, from the address that it is given as, whatever the files are. -/
  fetches : remote = true → ∃ address, input.address? = some address ∧
    result.2.sent = session.sent ++ [.fetch ⟨address, connection⟩] ∧ result.2.streams = session.streams ∧
    ∀ entry, (Payload.obtain connection input).start { around with entry } session = result
  /-- If it is not remote nothing is sent. -/
  sendsNothing : remote = false → result.2.sent = session.sent

/-- An input can be registered exactly if it has the shape of a file. -/
theorem isOk_register (input : FileInput) (tag : Text) (draft : Draft) :
    (Draft.register tag input draft).1.isOk = input.isValid := by
  cases hvalid : input.isValid <;> simp only [Draft.register, hvalid] <;> rfl

end FileInput

namespace Payload

/-- A remote input is fetched from the address that it is given as. -/
theorem obtain_of_isRemote (connection : Connection) {input : FileInput} (h : input.isRemote = .ok true) :
    ∃ address, input.address? = some address ∧ obtain connection input = fetch connection address := by
  cases input with
  | remote address => exact ⟨address, rfl, rfl⟩
  | text value =>
    have hurl : isUrl value = .ok true := h
    refine ⟨.str value, rfl, ?_⟩
    rw [obtain, hurl]
    rfl
  | _ => cases h

/-- An input that is not remote is not fetched. -/
theorem fetched_of_isRemote {input : FileInput} (h : input.isRemote = .ok false) : input.fetched = [] := by
  cases input with
  | remote address => cases h
  | text value =>
    have hurl : isUrl value = .ok false := h
    simp only [FileInput.fetched, hurl]
  | _ => rfl

/-- What makes the opening of a file fail does not reject an input for its shape. -/
theorem rejectsShape_of_openFile {path : FilePath} {lock : Option Text}
    (h : ((openFile path lock).start around session).1 = .error fault) : fault.rejectsShape = false := by
  unfold openFile at h
  rw [start_bind_of_ok start_surroundings] at h
  split at h
  · cases h
    exact rejectsShape_of_head rfl
  · cases h
    rfl
  · cases h
    exact rejectsShape_of_head rfl
  · cases h
    exact rejectsShape_of_head rfl
  · cases h

/-- What makes a fetch fail does not reject an input for its shape, even if it is not what was found at the address. -/
theorem rejectsShape_of_fetch (hweb : around.FetchesRejectNoShape)
    (h : ((fetch connection address).start around session).1 = .error fault) : fault.rejectsShape = false := by
  cases hanswer : around.web address with
  | error cause =>
    have hcause := hweb address cause hanswer
    rw [start_fetch_of_error hanswer] at h
    cases h
    cases cause with
    | client e => exact hcause
    | foreign e =>
      unfold faultOfFetch
      dsimp only
      split
      · exact rejectsShape_of_head rfl
      · rfl
  | ok response =>
    rw [start_fetch_of_ok hanswer] at h
    split at h
    · cases hname : nameIn address with
      | ok name =>
        rw [hname] at h
        cases h
      | error cause =>
        rw [hname] at h
        cases h
        exact rejectsShape_of_not_isValidation (isValidation_of_nameIn hname)
    · cases h
      exact rejectsShape_of_head rfl

/-- A place that is no file cannot be opened. -/
theorem openFile_of_no_file {path : FilePath} (lock : Option Text) (h : ∀ content, around.entry path ≠ .file content) :
    ∃ fault, ((openFile path lock).start around session).1 = .error fault := by
  unfold openFile
  rw [start_bind_of_ok start_surroundings]
  cases hentry : around.entry path with
  | noFile => exact ⟨_, rfl⟩
  | unreachable reason => exact ⟨_, rfl⟩
  | locked reason => exact ⟨_, rfl⟩
  | file content => exact absurd hentry (h content)

/-- An input is rejected for its shape exactly if it has not the shape of a file, unless it is the empty text. -/
theorem rejectsShape_obtain_iff (hweb : around.FetchesRejectNoShape) {input : FileInput} :
    (∃ fault, ((obtain connection input).start around session).1 = .error fault ∧ fault.rejectsShape = true) ↔
      input.isValid = false ∧ input ≠ .text [] := by
  have hkept (h : ∀ fault, ((obtain connection input).start around session).1 = .error fault →
      fault.rejectsShape = false) (hvalid : input.isValid = true ∨ input = .text []) :
      (∃ fault, ((obtain connection input).start around session).1 = .error fault ∧ fault.rejectsShape = true) ↔
        input.isValid = false ∧ input ≠ .text [] := by
    refine iff_of_false ?_ ?_
    · rintro ⟨fault, hfault, hrejects⟩
      cases hrejects.symm.trans (h fault hfault)
    · rintro ⟨hinvalid, hne⟩
      exact hvalid.elim (fun hvalid => Bool.noConfusion (hvalid.symm.trans hinvalid)) hne
  cases input with
  | text value =>
    refine hkept (fun fault hfault => ?_) ?_
    · rw [obtain] at hfault
      cases hurl : isUrl value with
      | error e =>
        rw [hurl] at hfault
        cases hfault
        rfl
      | ok remote =>
        rw [hurl] at hfault
        cases remote with
        | true => exact rejectsShape_of_fetch hweb hfault
        | false => exact rejectsShape_of_openFile hfault
    · cases value with
      | nil => exact Or.inr rfl
      | cons => exact Or.inl rfl
  | path place => exact hkept (fun _ => rejectsShape_of_openFile) (Or.inl rfl)
  | locked place reason => exact hkept (fun _ => rejectsShape_of_openFile) (Or.inl rfl)
  | localFile value =>
    refine hkept (fun fault hfault => ?_) (Or.inl rfl)
    rw [obtain] at hfault
    cases hpath : pathOf value with
    | error cause =>
      rw [hpath] at hfault
      cases hfault
      exact rejectsShape_of_not_isValidation (isValidation_of_pathOf hpath)
    | ok place =>
      rw [hpath] at hfault
      exact rejectsShape_of_openFile hfault
  | remote address => exact hkept (fun _ => rejectsShape_of_fetch hweb) (Or.inl rfl)
  | inert => exact iff_of_true ⟨_, rfl, rfl⟩ ⟨rfl, by simp⟩
  | plain value => exact iff_of_true ⟨_, rfl, rfl⟩ ⟨rfl, by simp⟩
  | _ => exact hkept (fun _ hfault => by cases hfault) (Or.inl rfl)

/-- An input that has not the shape of a file is not obtained. -/
theorem obtain_of_not_isValid (hfiles : around.FilesAreNamed) {input : FileInput} (h : input.isValid = false) :
    ∃ fault, ((obtain connection input).start around session).1 = .error fault := by
  cases input with
  | text value =>
    have hempty : value = [] := by simpa [FileInput.isValid] using h
    subst hempty
    exact openFile_of_no_file none fun content hentry => hfiles _ _ hentry rfl
  | inert => exact ⟨_, rfl⟩
  | plain value => exact ⟨_, rfl⟩
  | _ => cases h

/-- **The classifiers of inputs agree**: an input can be registered exactly if it has the shape of a file, it is
rejected for its shape later exactly if it has not, and it is fetched, once and from the address that was given, exactly
if it is remote. -/
theorem classifiers_agree {input : FileInput} {remote : Bool} (hfiles : around.FilesAreNamed)
    (hweb : around.FetchesRejectNoShape) (hremote : input.isRemote = .ok remote) (connection : Connection)
    (session : Session) :
    input.Agrees remote connection around session ((obtain connection input).start around session) where
  registers := input.isOk_register
  rejects := rejectsShape_obtain_iff hweb
  fails := obtain_of_not_isValid hfiles
  fetches := by
    rintro rfl
    obtain ⟨address, haddress, hobtain⟩ := obtain_of_isRemote connection hremote
    have hignores (entry : FilePath → PathEntry) : (fetch connection address).Ignores ({ · with entry }) := by
      apply ignores_fetch
      exact fun _ => rfl
    rw [hobtain]
    exact ⟨address, haddress, sent_fetch connection address, keeps_streams_fetch connection address around session,
      fun entry => hignores entry around session⟩
  sendsNothing := by
    rintro rfl
    have hsent := (spends_obtain connection input around session).1
    rwa [fetched_of_isRemote hremote, List.map_nil, List.append_nil] at hsent

/-- What looks like an address is fetched once if it is given as a text, and not at all if it is given as a path. -/
theorem address_agrees :
    (oneFile.FilesAreNamed ∧ oneFile.FetchesRejectNoShape ∧ (FileInput.text "https://h/a.pdf").isRemote = .ok true ∧
      (FileInput.localFile (.str "https://h/a.pdf")).isRemote = .ok false) ∧
    ((obtain .own (.text "https://h/a.pdf")).start oneFile {}).2.sent = [.fetch ⟨.str "https://h/a.pdf", .own⟩] ∧
    ((obtain .own (.localFile (.str "https://h/a.pdf"))).start oneFile {}).2.sent = [] := by
  have hweb : oneFile.FetchesRejectNoShape := by
    rintro address fault h
    cases h
    rfl
  have htext : (FileInput.text "https://h/a.pdf").isRemote = .ok true := rfl
  have hpath : (FileInput.localFile (.str "https://h/a.pdf")).isRemote = .ok false := rfl
  refine ⟨⟨filesAreNamed_oneFile, hweb, htext, hpath⟩, ?_, ?_⟩
  · obtain ⟨address, haddress, hsent, -⟩ := (classifiers_agree filesAreNamed_oneFile hweb htext .own {}).fetches rfl
    cases haddress
    exact hsent
  · exact (classifiers_agree filesAreNamed_oneFile hweb hpath .own {}).sendsNothing rfl

end Payload

end DocBuild
