import DocBuild.Proofs.Client.Source
import DocBuild.Proofs.Service.Escaping

/-!
# Faults that leave the obtaining of a file

Obtaining a file is documented to fail only with errors about what the caller gave: an input that is no file, a file
that is missing or cannot be read, an address that cannot be fetched. Faults of other kinds leave it as well, in six
ways: a text cannot be split as an address, a path cannot even be looked at, a path is no text, a fetch fails for a
reason that is no failure of the exchange, and after a fetch that succeeded the address has no name or is no text.
-/

namespace DocBuild

open Run

variable {around : Surroundings} {session : Session} {connection : Connection} {fault : Fault} {address : Json}
  {response : HttpResponse}

namespace Url

/-- The authority of a text, as it is when the text is split. -/
def authorityOf (t : Text) : Text := (splitAuthority (splitScheme (cleaned t)).2).1

/-- A text cannot be split exactly if something is wrong with its authority. -/
theorem split_eq_error_iff {t : Text} {e : UrlError} :
    split t = .error e ↔ checkAuthority (authorityOf t) = .error e := by
  change ((checkAuthority (authorityOf t)).bind fun _ => .ok _) = .error e ↔ _
  cases checkAuthority (authorityOf t) with
  | error cause =>
    constructor <;> intro h
    · cases h
      rfl
    · cases h
      rfl
  | ok =>
    constructor <;> intro h
    · cases h
    · cases h

end Url

/-- Whether a text is an address is not told exactly if something is wrong with its authority. -/
theorem isUrl_eq_error_iff {t : Text} {e : UrlError} :
    isUrl t = .error e ↔ Url.checkAuthority (Url.authorityOf t) = .error e := by
  rw [← Url.split_eq_error_iff, isUrl]
  cases Url.split t <;> simp [Except.map]

/-- A path may be such a text: nothing but half of a bracketed host is wrong with it. -/
example : isUrl "http://[" = .error .misplacedBracket := rfl

/-- The file name in an address is not told exactly if something is wrong with its authority. -/
theorem fileNameOfUrl_eq_error_iff {t : Text} {e : UrlError} :
    fileNameOfUrl t = .error e ↔ Url.checkAuthority (Url.authorityOf t) = .error e := by
  rw [← Url.split_eq_error_iff, fileNameOfUrl]
  cases Url.split t <;> simp [Except.map]

/-- Whether the fault of a fetch leaves the obtaining of a file, as it is and undocumented: it is no failure of an HTTP
exchange and no error about what the caller gave. -/
def Fault.leavesFetch : Fault → Bool
  | client e => e.kind ≠ .validation
  | foreign e => !e.kind.isHttp

namespace FileInput

/-- The path that is looked at for an input. -/
def place? : FileInput → Option FilePath
  | text value =>
    match isUrl value with
    | .ok false => some (.ofText value)
    | _ => none
  | path place | locked place _ => some place
  | localFile value => (Payload.pathOf value).toOption
  | _ => none

/-- Nothing is fetched for an input that is a path. -/
theorem fetched_eq_nil_of_place {input : FileInput} {place : FilePath} (h : input.place? = some place) :
    input.fetched = [] := by
  cases input with
  | text value =>
    cases hurl : isUrl value with
    | error e => simp only [fetched, hurl]
    | ok remote =>
      cases remote with
      | false => simp only [fetched, hurl]
      | true => simp [place?, hurl] at h
  | remote address => contradiction
  | _ => rfl

/-- Why a fault that is no error about what the caller gave comes of obtaining an input. -/
inductive Escapes (around : Surroundings) : FileInput → Fault → Prop where
  /-- It is a text, and something is wrong with its authority as an address. -/
  | unsplit {value : Text} {e : UrlError} (h : Url.checkAuthority (Url.authorityOf value) = .error e) :
      Escapes around (.text value) (.ofForeign .value e.message)
  /-- It is a path that cannot be looked at. -/
  | unreachable {input : FileInput} {place : FilePath} {reason : Text} (hplace : input.place? = some place)
      (h : around.entry place = .unreachable reason) : Escapes around input (.ofForeign .os reason)
  /-- It is given as a path and is no text. -/
  | pathless {value : Json} {fault : Fault} (h : Payload.pathOf value = .error fault) :
      Escapes around (.localFile value) fault
  /-- It is fetched, and the fetch fails for a reason that is no failure of the exchange. -/
  | unanswered {input : FileInput} {address : Json} {fault : Fault} (hfetched : address ∈ input.fetched)
      (h : around.web address = .error fault) (hleaves : fault.leavesFetch = true) : Escapes around input fault
  /-- It is given as an address and fetched, and something is wrong with its authority. -/
  | unnamed {t : Text} {e : UrlError} {response : HttpResponse} (h : around.web (.str t) = .ok response)
      (hsuccess : response.isSuccess = true) (hsplit : Url.checkAuthority (Url.authorityOf t) = .error e) :
      Escapes around (.remote (.str t)) (.ofForeign .value e.message)
  /-- It is given as an address and fetched, and is no text. -/
  | unaddressed {address : Json} {fault : Fault} {response : HttpResponse} (h : around.web address = .ok response)
      (hsuccess : response.isSuccess = true) (haddress : addressOf address = .error fault) :
      Escapes around (.remote address) fault

end FileInput

namespace Payload

/-- A path that is no text is no error about what the caller gave. -/
theorem isValidation_of_pathOf {value : Json} (h : pathOf value = .error fault) : fault.isValidation = false := by
  unfold pathOf at h
  split at h
  · contradiction
  · cases h
    rfl

/-- A fault that is no error about what the caller gave comes of opening a file exactly if it cannot be looked at. -/
theorem openFile_escapes_iff (path : FilePath) (lock : Option Text) :
    ((openFile path lock).start around session).1 = .error fault ∧ fault.isValidation = false ↔
      ∃ reason, around.entry path = .unreachable reason ∧ fault = .ofForeign .os reason := by
  unfold openFile
  rw [start_bind_of_ok start_surroundings]
  constructor
  · rintro ⟨hstart, hkind⟩
    split at hstart
    · cases hstart
      contradiction
    · next reason hentry =>
      cases hstart
      exact ⟨reason, hentry, rfl⟩
    · cases hstart
      contradiction
    · cases hstart
      contradiction
    · contradiction
  · rintro ⟨reason, hentry, rfl⟩
    rw [hentry]
    exact ⟨rfl, rfl⟩

/-- What becomes of the fault of a fetch. -/
def faultOfFetch (address : Json) : Fault → Fault
  | .foreign cause => if cause.kind.isHttp then unanswered address cause else .foreign cause
  | .client e => .client e

/-- What becomes of the fault of a fetch is an error about what the caller gave, unless the fault leaves as it is. -/
theorem faultOfFetch_escapes_iff {cause : Fault} :
    faultOfFetch address cause = fault ∧ fault.isValidation = false ↔ cause = fault ∧ cause.leavesFetch = true := by
  cases cause with
  | client e =>
    constructor
    · rintro ⟨rfl, hkind⟩
      exact ⟨rfl, by simpa [Fault.isValidation, Fault.leavesFetch, faultOfFetch] using hkind⟩
    · rintro ⟨rfl, hleaves⟩
      exact ⟨rfl, by simpa [Fault.isValidation, Fault.leavesFetch] using hleaves⟩
  | foreign e =>
    unfold faultOfFetch
    dsimp only
    split
    · next hhttp =>
      constructor
      · rintro ⟨rfl, hkind⟩
        contradiction
      · rintro ⟨-, hleaves⟩
        simp [Fault.leavesFetch, hhttp] at hleaves
    · next hhttp =>
      constructor
      · rintro ⟨rfl, -⟩
        exact ⟨rfl, by simpa [Fault.leavesFetch] using hhttp⟩
      · rintro ⟨rfl, -⟩
        exact ⟨rfl, rfl⟩

/-- A fetch comes to what is found at the address. -/
theorem start_exchange (connection : Connection) (address : Json) :
    ((exchange connection address).start around session).1 = (around.web address).mapError (faultOfFetch address) := by
  unfold exchange record
  rw [start_bind_of_ok (start_modify _), start_bind_of_ok start_surroundings]
  cases around.web address with
  | ok response => rfl
  | error fault =>
    cases fault with
    | client e => rfl
    | foreign cause => rfl

/-- A fetch without an answer comes to what becomes of the fault. -/
theorem start_fetch_of_error {cause : Fault} (h : around.web address = .error cause) :
    ((fetch connection address).start around session).1 = .error (faultOfFetch address cause) := by
  obtain ⟨logged, hlog, -⟩ :=
    Session.remarks_log .debug ("Fetching remote file " ++ address.display) [] around session
  have hexchange := @start_exchange around logged connection address
  rw [h] at hexchange
  unfold fetch
  rw [start_bind_of_ok hlog, start_bind_of_error (Prod.ext hexchange rfl)]

/-- A fetch with an answer comes to a refusal or to a file, if the address has a name. -/
theorem start_fetch_of_ok (h : around.web address = .ok response) :
    ((fetch connection address).start around session).1 =
      if response.isSuccess then
        (nameIn address).map fun name => {
          source := .owned response.body
          filename := nameOr downloadName (Json.ofText? name)
          contentType := Json.ofText? (response.header? "content-type") }
      else .error (refused address response) := by
  obtain ⟨logged, hlog, -⟩ :=
    Session.remarks_log .debug ("Fetching remote file " ++ address.display) [] around session
  have hexchange := @start_exchange around logged connection address
  rw [h] at hexchange
  unfold fetch
  rw [start_bind_of_ok hlog, start_bind_of_ok (Prod.ext hexchange rfl)]
  cases response.isSuccess with
  | false => rfl
  | true =>
    obtain ⟨fetched, hfetched, -⟩ := Session.remarks_log .debug
      ("Fetched " ++ Text.ofNat response.body.length ++ " bytes from " ++ address.display) [] around
      ((exchange connection address).start around logged).2
    change (((log .debug _ []) >>= fun _ => _).start around _).1 = _
    rw [start_bind_of_ok hfetched, start_bind_pure, start_ofExcept]
    rfl

/-- A value is the text of an address, or it does not count as given. -/
theorem addressOf_eq_ok {t : Text} (h : FileInput.addressOf address = .ok t) : address = .str t ∨ t = [] := by
  unfold FileInput.addressOf at h
  split at h
  · cases h
    exact Or.inl rfl
  · split at h
    · contradiction
    · cases h
      exact Or.inr rfl

/-- The name in an address is not told exactly if the address is no text, or something is wrong with its authority. -/
theorem nameIn_eq_error_iff :
    nameIn address = .error fault ↔
      FileInput.addressOf address = .error fault ∨
        ∃ t e, address = .str t ∧ Url.checkAuthority (Url.authorityOf t) = .error e ∧
          fault = .ofForeign .value e.message := by
  unfold nameIn
  constructor
  · intro h
    cases haddress : FileInput.addressOf address with
    | error cause =>
      rw [haddress] at h
      cases h
      exact Or.inl rfl
    | ok t =>
      rw [haddress] at h
      change (fileNameOfUrl t).mapError _ = _ at h
      cases hname : fileNameOfUrl t with
      | ok name =>
        rw [hname] at h
        contradiction
      | error e =>
        rw [hname] at h
        cases h
        have hsplit := fileNameOfUrl_eq_error_iff.mp hname
        rcases addressOf_eq_ok haddress with rfl | rfl
        · exact Or.inr ⟨t, e, rfl, hsplit, rfl⟩
        · -- The empty address can be split.
          contradiction
  · rintro (haddress | ⟨t, e, rfl, hsplit, rfl⟩)
    · rw [haddress]
      rfl
    · change (fileNameOfUrl t).mapError _ = _
      rw [fileNameOfUrl_eq_error_iff.mpr hsplit]
      rfl

/-- An address that is no text is no error about what the caller gave. -/
theorem isValidation_of_addressOf (h : FileInput.addressOf address = .error fault) : fault.isValidation = false := by
  unfold FileInput.addressOf at h
  split at h
  · contradiction
  · split at h
    · cases h
      rfl
    · contradiction

/-- An address without a name is no error about what the caller gave. -/
theorem isValidation_of_nameIn (h : nameIn address = .error fault) : fault.isValidation = false := by
  rcases nameIn_eq_error_iff.mp h with haddress | ⟨t, e, -, -, rfl⟩
  · exact isValidation_of_addressOf haddress
  · rfl

/-- A fault that is no error about what the caller gave comes of a fetch exactly if there is no answer and the reason
leaves as it is, or there is a file without a name. -/
theorem fetch_escapes_iff (connection : Connection) (address : Json) :
    ((fetch connection address).start around session).1 = .error fault ∧ fault.isValidation = false ↔
      around.web address = .error fault ∧ fault.leavesFetch = true ∨
        ∃ response, around.web address = .ok response ∧ response.isSuccess = true ∧ nameIn address = .error fault := by
  cases hweb : around.web address with
  | error cause =>
    rw [start_fetch_of_error hweb]
    simp only [Except.error.injEq, faultOfFetch_escapes_iff, reduceCtorEq, false_and, exists_false, or_false]
    exact and_congr_right fun heq => by rw [heq]
  | ok response =>
    rw [start_fetch_of_ok hweb]
    cases hsuccess : response.isSuccess with
    | false =>
      constructor
      · rintro ⟨hrefused, hkind⟩
        cases hrefused
        contradiction
      · rintro (⟨habsurd, -⟩ | ⟨other, hother, hok, -⟩)
        · contradiction
        · cases hother
          cases hsuccess.symm.trans hok
    | true =>
      constructor
      · rintro ⟨hname, -⟩
        cases hin : nameIn address with
        | ok name =>
          rw [hin] at hname
          contradiction
        | error cause =>
          rw [hin] at hname
          cases hname
          exact Or.inr ⟨response, rfl, hsuccess, rfl⟩
      · rintro (⟨habsurd, -⟩ | ⟨other, -, -, hname⟩)
        · contradiction
        · rw [hname]
          exact ⟨rfl, isValidation_of_nameIn hname⟩

/-- What escapes from an address that is given as one escapes from the fetch. -/
theorem escapes_remote_iff :
    (FileInput.remote address).Escapes around fault ↔
      around.web address = .error fault ∧ fault.leavesFetch = true ∨
        ∃ response, around.web address = .ok response ∧ response.isSuccess = true ∧ nameIn address = .error fault := by
  constructor
  · rintro (_ | ⟨hplace, -⟩ | _ | ⟨hfetched, h, hleaves⟩ | ⟨h, hsuccess, hsplit⟩ | ⟨h, hsuccess, haddress⟩)
    · contradiction
    · cases List.mem_singleton.mp hfetched
      exact Or.inl ⟨h, hleaves⟩
    · exact Or.inr ⟨_, h, hsuccess, nameIn_eq_error_iff.mpr (Or.inr ⟨_, _, rfl, hsplit, rfl⟩)⟩
    · exact Or.inr ⟨_, h, hsuccess, nameIn_eq_error_iff.mpr (Or.inl haddress)⟩
  · rintro (⟨h, hleaves⟩ | ⟨response, h, hsuccess, hname⟩)
    · exact .unanswered (List.mem_singleton_self address) h hleaves
    · rcases nameIn_eq_error_iff.mp hname with haddress | ⟨t, e, rfl, hsplit, rfl⟩
      · exact .unaddressed h hsuccess haddress
      · exact .unnamed h hsuccess hsplit

/-- What escapes from an input that is a path escapes from the opening of the file. -/
theorem escapes_place_iff {input : FileInput} {place : FilePath} (hplace : input.place? = some place) :
    input.Escapes around fault ↔ ∃ reason, around.entry place = .unreachable reason ∧ fault = .ofForeign .os reason := by
  constructor
  · rintro (hsplit | ⟨hother, hentry⟩ | hpath | ⟨hfetched, -, -⟩ | _ | _)
    · simp [FileInput.place?, isUrl_eq_error_iff.mpr hsplit] at hplace
    · cases hplace.symm.trans hother
      exact ⟨_, hentry, rfl⟩
    · simp [FileInput.place?, hpath, Except.toOption] at hplace
    · rw [FileInput.fetched_eq_nil_of_place hplace] at hfetched
      contradiction
    · contradiction
    · contradiction
  · rintro ⟨reason, hentry, rfl⟩
    exact .unreachable hplace hentry

/-- What escapes from a text that is an address escapes from the fetch, and then the fetch failed: an address that was
told from a path can be split again for its name. -/
theorem escapes_text_iff {value : Text} (hurl : isUrl value = .ok true) :
    (FileInput.text value).Escapes around fault ↔
      around.web (.str value) = .error fault ∧ fault.leavesFetch = true ∨
        ∃ response, around.web (.str value) = .ok response ∧ response.isSuccess = true ∧
          nameIn (.str value) = .error fault := by
  have hsplits {e : UrlError} : Url.checkAuthority (Url.authorityOf value) ≠ .error e := by
    rw [← isUrl_eq_error_iff.ne, hurl]
    simp
  have hfetched : (FileInput.text value).fetched = [.str value] := by simp only [FileInput.fetched, hurl]
  constructor
  · rintro (hsplit | ⟨hplace, -⟩ | _ | ⟨hin, h, hleaves⟩ | _ | _)
    · exact absurd hsplit hsplits
    · rw [FileInput.fetched_eq_nil_of_place hplace] at hfetched
      contradiction
    · rw [hfetched] at hin
      cases List.mem_singleton.mp hin
      exact Or.inl ⟨h, hleaves⟩
  · rintro (⟨h, hleaves⟩ | ⟨response, -, -, hname⟩)
    · exact .unanswered (hfetched ▸ List.mem_singleton_self _) h hleaves
    · rcases nameIn_eq_error_iff.mp hname with haddress | ⟨t, e, heq, hsplit, -⟩
      · contradiction
      · cases heq
        exact absurd hsplit hsplits

/-- Nothing but its own fault escapes from a text that cannot be split. -/
theorem escapes_unsplit_iff {value : Text} {e : UrlError} (hurl : isUrl value = .error e) :
    (FileInput.text value).Escapes around fault ↔ fault = .ofForeign .value e.message := by
  have hsplit := isUrl_eq_error_iff.mp hurl
  constructor
  · rintro (hother | ⟨hplace, -⟩ | _ | ⟨hfetched, -, -⟩ | _ | _)
    · cases hsplit.symm.trans hother
      rfl
    · simp [FileInput.place?, hurl] at hplace
    · simp [FileInput.fetched, hurl] at hfetched
  · rintro rfl
    exact .unsplit hsplit

/-- Nothing but its own fault escapes from a path that is no text. -/
theorem escapes_pathless_iff {value : Json} {cause : Fault} (hpath : pathOf value = .error cause) :
    (FileInput.localFile value).Escapes around fault ↔ fault = cause := by
  constructor
  · rintro (_ | ⟨hplace, -⟩ | hother | ⟨hfetched, -, -⟩ | _ | _)
    · simp [FileInput.place?, hpath, Except.toOption] at hplace
    · cases hpath.symm.trans hother
      rfl
    · contradiction
  · rintro rfl
    exact .pathless hpath

/-- Nothing escapes from an input that is neither looked at nor fetched. -/
theorem not_escapes_of_held {input : FileInput} (hplace : input.place? = none) (hfetched : input.fetched = [])
    (htext : ∀ value, input ≠ .text value) (hpath : ∀ value, input ≠ .localFile value) :
    ¬ input.Escapes around fault := by
  rintro (_ | ⟨hother, -⟩ | _ | ⟨hin, -, -⟩ | _ | _)
  · exact htext _ rfl
  · cases hplace.symm.trans hother
  · exact hpath _ rfl
  · rw [hfetched] at hin
    contradiction
  · contradiction
  · contradiction

/-- If one fault comes of an operation and it is no error about what the caller gave, it is the one that escapes. -/
theorem error_escapes_iff {α : Type} {cause : Fault} (hkind : cause.isValidation = false) :
    (.error cause : Except Fault α) = .error fault ∧ fault.isValidation = false ↔ fault = cause := by
  constructor
  · rintro ⟨heq, -⟩
    cases heq
    rfl
  · rintro rfl
    exact ⟨rfl, hkind⟩

/-- **What the obtaining of a file is documented to fail with is all it fails with, unless a fault escapes**:
obtaining an input ends in a fault that is no error about what the caller gave exactly if the input is a text that
cannot be split as an address, a path that cannot be looked at or is no text, or is fetched, and the fetch fails for a
reason that is no failure of the exchange, or it succeeds and the address cannot be split or is no text. -/
theorem obtain_escapes_iff (connection : Connection) (input : FileInput) (around : Surroundings) (session : Session)
    (fault : Fault) :
    ((obtain connection input).start around session).1 = .error fault ∧ fault.isValidation = false ↔
      input.Escapes around fault := by
  have hinvalid (h : obtain connection input = throw input.invalid) (hno : ¬ input.Escapes around fault) :
      ((obtain connection input).start around session).1 = .error fault ∧ fault.isValidation = false ↔
        input.Escapes around fault := by
    rw [h]
    refine iff_of_false (fun hfault => ?_) hno
    obtain rfl := Except.error.inj hfault.1
    exact Bool.noConfusion hfault.2
  cases input with
  | text value =>
    rw [obtain]
    cases hurl : isUrl value with
    | error e =>
      rw [escapes_unsplit_iff hurl]
      exact error_escapes_iff rfl
    | ok remote =>
      cases remote with
      | true => exact (fetch_escapes_iff connection (.str value)).trans (escapes_text_iff hurl).symm
      | false =>
        exact (openFile_escapes_iff (.ofText value) none).trans
          (escapes_place_iff (by simp only [FileInput.place?, hurl])).symm
  | path place => exact (openFile_escapes_iff place none).trans (escapes_place_iff rfl).symm
  | locked place reason => exact (openFile_escapes_iff place (some reason)).trans (escapes_place_iff rfl).symm
  | localFile value =>
    rw [obtain]
    cases hpath : pathOf value with
    | error cause =>
      rw [escapes_pathless_iff hpath]
      exact error_escapes_iff (isValidation_of_pathOf hpath)
    | ok place =>
      exact (openFile_escapes_iff place none).trans
        (escapes_place_iff (by simp only [FileInput.place?, hpath, Except.toOption])).symm
  | remote address => exact (fetch_escapes_iff connection address).trans escapes_remote_iff.symm
  | inert => exact hinvalid rfl (not_escapes_of_held rfl rfl (by simp) (by simp))
  | plain value => exact hinvalid rfl (not_escapes_of_held rfl rfl (by simp) (by simp))
  | _ =>
    -- What the caller holds becomes a payload at once.
    refine iff_of_false (fun hfault => ?_) (not_escapes_of_held rfl rfl (by simp) (by simp))
    have hstart := hfault.1
    contradiction

/-- An address that is not valid leaves the obtaining of a file as it is. -/
theorem invalidPort_leaves_obtain :
    ((obtain .own (.text "https://h:x/f.pdf")).start HttpTransport.nowhere {}).1 = .error HttpTransport.invalidPort ∧
      HttpTransport.invalidPort.isValidation = false :=
  ⟨rfl, rfl⟩

end Payload

end DocBuild
