import DocBuild.Proofs.Json.Members
import DocBuild.Proofs.Service.Carrying

/-!
# Refusals of the service

A message that is answered with a status of 400 or more ends in an error of the client whose kind follows from the
status alone, which loses nothing of the body and whose message is never empty. This takes a body that can be read:
one that is JSON, or else a text. One that nests too deep is neither, and leaves the transport as a foreign error.
-/

namespace DocBuild

open Run

/-- What the body of an answer is read as: the JSON that it is, or its text if it is no JSON. -/
inductive HttpResponse.ReadsAs (response : HttpResponse) : Json → Prop where
  | json {body : Json} (h : response.json = .ok body) : ReadsAs response body
  | text {t : Text} (hjson : response.json.isOk = false) (hdeep : response.nestsTooDeep = false)
      (h : response.text = .ok t) : ReadsAs response (.str t)

/-- A member holds a text that is not empty. -/
def Members.Holds (members : Members) (name t : Text) : Prop := members.get? name = some (.str t) ∧ t ≠ []

/-- The members that a body amounts to: its own, or itself as the only one. -/
def Json.asMembers : Json → Members
  | .obj members => members
  | body => .single "response" body

/-- What was asked for, as members. -/
def Request.asMembers (request : Request Payload) : Members :=
  [("endpoint", request.endpoint), ("method", request.method)]

/-- The names under which a service says what is wrong, the first one first. -/
def HttpResponse.reasonNames : List Text := ["message", "error", "detail", "error_description"]

/-- What an answer says with a body: the first text that is not empty under one of the names, or else its status. -/
inductive HttpResponse.Says (response : HttpResponse) (body : Json) : Text → Prop where
  | member {members : Members} {before after : List Text} {name t : Text} (hbody : body = .obj members)
      (hnames : reasonNames = before ++ name :: after)
      (hbefore : ∀ earlier ∈ before, ∀ other, ¬ members.Holds earlier other) (h : members.Holds name t) :
      Says response body t
  | status (h : ∀ members : Members, body = .obj members → ∀ name ∈ reasonNames, ∀ t, ¬ members.Holds name t) :
      Says response body ("HTTP " ++ Text.ofInt response.status ++ ": " ++ response.reason)

/-- An error reports an answer to a request with a body. -/
structure ClientError.Reports (e : ClientError) (request : Request Payload) (response : HttpResponse) (body : Json) :
    Prop where
  authentication_iff : e.kind = .authentication ↔ response.status = 401 ∨ response.status = 403
  validation_iff : e.kind = .validation ↔ response.status ≠ 401 ∧ response.status ≠ 403 ∧ response.status < 500
  service_iff : e.kind = .service ↔ 500 ≤ response.status
  status : e.status = .int response.status
  /-- Nothing of the body is lost, and what was asked for is added under names that it does not have. -/
  details : e.details = .obj (body.asMembers ++ request.asMembers.filter (·.1 ∉ body.asMembers.names))
  message : ∃ said, e.message = .str said ∧ said ≠ [] ∧ response.Says body said

/-- What an answer says is not empty. -/
theorem HttpResponse.Says.ne_nil {response : HttpResponse} {body : Json} {said : Text} (h : response.Says body said) :
    said ≠ [] := by
  cases h with
  | member _ _ _ hholds => exact hholds.2
  | status => exact List.cons_ne_nil _ _

namespace Service

variable {response : HttpResponse} {body : Json}

/-- A body of a refusal is what the answer is read as. -/
theorem bodyOf_eq_ok_iff : bodyOf response = .ok body ↔ response.ReadsAs body := by
  constructor
  · intro h
    unfold bodyOf at h
    split at h
    · next hjson =>
      cases h
      exact .json hjson
    · next e hjson =>
      split at h
      · contradiction
      · next hkind =>
        have hdeep : response.nestsTooDeep = false := by simpa [HttpResponse.nestsTooDeep, hjson] using hkind
        cases htext : response.text with
        | error fault => simp [htext, Except.map] at h
        | ok t =>
          rw [htext] at h
          cases h
          exact .text (by rw [hjson]; rfl) hdeep htext
  · intro h
    unfold bodyOf
    cases h with
    | json h => rw [h]
    | text hjson hdeep htext =>
      cases hfound : response.json with
      | ok value => simp [hfound, Except.isOk, Except.toBool] at hjson
      | error e =>
        have hkind : ¬ e.toForeign.kind = .recursion := by simpa [HttpResponse.nestsTooDeep, hfound] using hdeep
        dsimp only
        rw [if_neg hkind, htext]
        rfl

/-- A member gives the message exactly if it holds a text that is not empty. -/
theorem messageAt?_eq_some_iff {members : Members} {name t : Text} :
    messageAt? members name = some t ↔ members.Holds name t := by
  unfold messageAt? Members.Holds
  split
  · next c rest hget =>
    rw [hget, Option.some.injEq, Option.some.injEq, Json.str.injEq]
    exact ⟨fun h => ⟨h, h ▸ List.cons_ne_nil c rest⟩, fun h => h.1⟩
  · next hother =>
    refine iff_of_false (by simp) ?_
    rintro ⟨hget, hne⟩
    obtain ⟨c, rest, rfl⟩ := List.exists_cons_of_ne_nil hne
    exact hother c rest hget

/-- A member gives no message exactly if it holds no text that is not empty. -/
theorem messageAt?_eq_none_iff {members : Members} {name : Text} :
    messageAt? members name = none ↔ ∀ t, ¬ members.Holds name t := by
  simp only [Option.eq_none_iff_forall_ne_some, ne_eq, messageAt?_eq_some_iff]

/-- The message of a refusal is what the answer says. -/
theorem says_refusalMessage (response : HttpResponse) (body : Json) :
    response.Says body (refusalMessage response body) := by
  unfold refusalMessage
  cases hsaid : messageIn? body with
  | some t =>
    cases body with
    | obj members =>
      obtain ⟨before, name, after, hnames, hname, hbefore⟩ := List.findSome?_eq_some_iff.mp hsaid
      exact .member rfl hnames (fun earlier hearlier => messageAt?_eq_none_iff.mp (hbefore earlier hearlier))
        (messageAt?_eq_some_iff.mp hname)
    | _ => contradiction
  | none =>
    refine .status fun members hbody name hname => ?_
    subst hbody
    exact messageAt?_eq_none_iff.mp (List.findSome?_eq_none_iff.mp hsaid name hname)

/-- The details of a refusal are the body with what was asked for, where the body does not have it. -/
theorem refusalDetails_eq (request : Request Payload) (body : Json) :
    refusalDetails request body =
      body.asMembers ++ request.asMembers.filter (·.1 ∉ body.asMembers.names) := by
  have hne : Text.ofString "method" ≠ Text.ofString "endpoint" := by decide
  have hdetails : refusalDetails request body =
      (body.asMembers.setDefault "endpoint" request.endpoint).setDefault "method" request.method := rfl
  rw [hdetails, Members.setDefault_setDefault hne, Request.asMembers]

/-- The kind of a refusal follows from the status. -/
theorem kindOfStatus_spec {status : Int} (h : 400 ≤ status) :
    (kindOfStatus status = .authentication ↔ status = 401 ∨ status = 403) ∧
    (kindOfStatus status = .validation ↔ status ≠ 401 ∧ status ≠ 403 ∧ status < 500) ∧
    (kindOfStatus status = .service ↔ 500 ≤ status) := by
  unfold kindOfStatus
  split
  · simp only [reduceCtorEq, false_iff, true_iff]
    omega
  · split <;> simp only [reduceCtorEq, false_iff, true_iff] <;> omega

/-- A refusal whose body is read reports the answer. -/
theorem start_refusal_of_readsAs {around : Surroundings} {session : Session} (request : Request Payload)
    (hbody : response.ReadsAs body) (hstatus : 400 ≤ response.status) :
    ∃ e, ((refusal request response).start around session).1 = .ok e ∧ e.Reports request response body := by
  obtain ⟨hauthentication, hvalidation, hservice⟩ := kindOfStatus_spec hstatus
  have hsays := says_refusalMessage response body
  unfold refusal
  rw [bodyOf_eq_ok_iff.mpr hbody]
  exact ⟨_, rfl, hauthentication, hvalidation, hservice, rfl, congrArg Json.obj (refusalDetails_eq request body), _, rfl,
    hsays.ne_nil, hsays⟩

end Service

/-- A body is read unless it nests too deep, or is neither JSON nor a text. -/
theorem HttpResponse.exists_readsAs_iff (response : HttpResponse) :
    (∃ body, response.ReadsAs body) ↔
      ¬ (response.nestsTooDeep = true ∨ response.json.isOk = false ∧ response.text.isOk = false) := by
  constructor
  · rintro ⟨body, hbody⟩ hunreadable
    obtain ⟨fault, hfault, -⟩ := (HttpTransport.bodyOf_escapes_iff response).mpr hunreadable
    cases hfault.symm.trans (Service.bodyOf_eq_ok_iff.mpr hbody)
  · intro h
    simp only [not_or, not_and, Bool.not_eq_true, Bool.not_eq_false] at h
    obtain ⟨hdeep, htext⟩ := h
    cases hjson : response.json with
    | ok body => exact ⟨body, .json hjson⟩
    | error e =>
      have hno : response.json.isOk = false := by rw [hjson]; rfl
      cases hfound : response.text with
      | ok t => exact ⟨.str t, .text hno hdeep hfound⟩
      | error fault =>
        have hyes := htext hno
        rw [hfound] at hyes
        contradiction

namespace HttpTransport

variable {around : Surroundings} {session : Session} {t : HttpTransport} {request : Request Payload}
  {message : HttpRequest} {response : HttpResponse}

/-- A message that is answered with a status of 400 or more ends in the error that reports the answer if the body can
be read, and in a foreign error if not. -/
theorem send_reports_refusal (h : t.Posts request around session message)
    (hanswer : around.service (session.sent.filterMap Sent.request?) message = .ok response)
    (hstatus : 400 ≤ response.status) :
    (∀ body, response.ReadsAs body → ∃ e : ClientError,
      ((t.send request).start around session).1 = .error (.client e) ∧ e.Reports request response body) ∧
    ((¬ ∃ body, response.ReadsAs body) → ∃ fault, ((t.send request).start around session).1 = .error fault ∧
      fault.isDocumented = false) ∧
    ((∃ body, response.ReadsAs body) ↔
      ¬ (response.nestsTooDeep = true ∨ response.json.isOk = false ∧ response.text.isOk = false)) := by
  obtain ⟨logged, hsend⟩ := start_send_of_ok (h.start_exchange.trans hanswer)
  rw [if_pos hstatus] at hsend
  refine ⟨fun body hbody => ?_, fun hnone => ?_, response.exists_readsAs_iff⟩
  · obtain ⟨e, hrefusal, hreports⟩ := Service.start_refusal_of_readsAs request hbody hstatus
    rw [hrefusal] at hsend
    exact ⟨e, hsend, hreports⟩
  · have hunreadable := not_not.mp ((not_congr response.exists_readsAs_iff).mp hnone)
    obtain ⟨fault, hfault, hdocumented⟩ := (bodyOf_escapes_iff response).mpr hunreadable
    have hrefusal := start_refusal request response around logged
    rw [hfault] at hrefusal
    rw [hrefusal] at hsend
    exact ⟨fault, hsend, hdocumented⟩

/-- Surroundings with no files, where the service gives one answer. -/
def always (response : HttpResponse) : Surroundings := { nowhere with service := fun _ _ => .ok response }

/-- The message for what the service says about an account. -/
theorem posts_always (response : HttpResponse) :
    plain.Posts accountRequest (always response) {}
      (plain.message "key" "https://api.nutrient.io/account/info" accountRequest .empty) :=
  ⟨_, _, _, rfl, rfl, rfl, rfl⟩

/-- A refusal with the body `{"error":"no","method":1}`. -/
def oddRefusal : HttpResponse where
  status := 422
  headers := []
  body := [0x7B, 0x22, 0x65, 0x72, 0x72, 0x6F, 0x72, 0x22, 0x3A, 0x22, 0x6E, 0x6F, 0x22, 0x2C,
    0x22, 0x6D, 0x65, 0x74, 0x68, 0x6F, 0x64, 0x22, 0x3A, 0x31, 0x7D]

/-- The refusal is an error about what the caller gave, with the members of the body and the endpoint. -/
theorem oddRefusal_reported :
    400 ≤ oddRefusal.status ∧ ∃ (message : HttpRequest) (e : ClientError),
      plain.Posts accountRequest (always oddRefusal) {} message ∧
      (always oddRefusal).service [] message = .ok oddRefusal ∧
      ((plain.send accountRequest).start (always oddRefusal) {}).1 = .error (.client e) ∧ e.kind = .validation ∧
      e.details = .obj [("error", .str "no"), ("method", .int 1), ("endpoint", .str "/account/info")] := by
  have hposts := posts_always oddRefusal
  have hjson : oddRefusal.json = .ok (.obj [("error", .str "no"), ("method", .int 1)]) := rfl
  obtain ⟨hread, -⟩ := send_reports_refusal hposts rfl (show 400 ≤ oddRefusal.status by decide)
  obtain ⟨e, hsend, hreports⟩ := hread _ (.json hjson)
  exact ⟨by decide, _, e, hposts, rfl, hsend, hreports.validation_iff.mpr (by decide), hreports.details⟩

/-- A refusal whose body is nothing but opening brackets, one more than may be nested. -/
def deepRefusal : HttpResponse := ⟨500, [], List.replicate (Json.maxDepth + 1) 0x5B, none⟩

/-- A refusal that nests too deep leaves the transport as a foreign error, and is reported as no error of the
client. -/
theorem deepRefusal_unreported :
    400 ≤ deepRefusal.status ∧ ∃ (message : HttpRequest) (fault : Fault),
      plain.Posts accountRequest (always deepRefusal) {} message ∧
      (always deepRefusal).service [] message = .ok deepRefusal ∧
      ((plain.send accountRequest).start (always deepRefusal) {}).1 = .error fault ∧ fault.isDocumented = false := by
  have hdeep : deepRefusal.nestsTooDeep = true := by decide +kernel
  have hposts := posts_always deepRefusal
  have hanswer : ((plain.exchange accountRequest).start (always deepRefusal) {}).1 = .ok deepRefusal :=
    hposts.start_exchange
  have hcannot : accountRequest.CannotRead deepRefusal := Or.inl hdeep
  obtain ⟨fault, hsend, hdocumented⟩ := (send_escapes_iff_of_ok hanswer).mpr hcannot
  exact ⟨by decide, _, fault, hposts, rfl, hsend, hdocumented⟩

end HttpTransport

end DocBuild
