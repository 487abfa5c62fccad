import DocBuild.Proofs.Service.Form

/-!
# Faults that leave the transport

Sending over HTTP is documented to fail with errors about the key, about what the caller gave, of the service and of the
network. Faults of other kinds leave it as well, in four ways: the address cannot be made, the body cannot be made, there
is no answer for a reason that is no trouble with the request, or the answer cannot be read. Whatever comes of the key is
always an error about the key.
-/

namespace DocBuild

open Run

variable {around : Surroundings} {session later : Session} {α β : Type}

namespace Fault

/-- Whether sending is documented to fail with a fault: with one of the client's own errors, of any kind but the general
one. -/
def isDocumented : Fault → Bool
  | client e => e.kind ≠ .general
  | foreign _ => false

/-- Whether a fault that is raised by an exchange leaves the transport as it is, without being documented: it is none of
the client's own errors of the documented kinds, and no trouble with the request. -/
def passes : Fault → Bool
  | client e => e.kind = .general
  | foreign ⟨.request _, _⟩ => false
  | foreign _ => true

/-- A foreign error is not documented. -/
theorem isDocumented_of_mapError {outcome : Except ForeignError α} {fault : Fault}
    (h : outcome.mapError foreign = .error fault) : fault.isDocumented = false := by
  cases outcome with
  | ok a => contradiction
  | error e =>
    cases h
    rfl

end Fault

/-- An outcome hinges on a condition: it is a value if the condition holds, and a fault that passes if not. -/
def Hinges (outcome : Except Fault α) (condition : Prop) : Prop :=
  match outcome with
  | .ok _ => condition
  | .error fault => fault.passes = true ∧ ¬ condition

/-- What is made of an outcome hinges on the same. -/
theorem Hinges.map {outcome : Except Fault α} {condition : Prop} (h : Hinges outcome condition) (f : α → β) :
    Hinges (outcome.map f) condition := by
  cases outcome <;> exact h

/-- What hinges on a condition hinges on an equivalent one. -/
theorem Hinges.congr {outcome : Except Fault α} {condition other : Prop} (h : Hinges outcome condition)
    (heq : condition ↔ other) : Hinges outcome other := by
  rwa [← propext heq]

/-- An error about the key is all that can come of a key that is not resolved. -/
theorem ApiKey.kind_of_resolve {key : ApiKey} {e : ClientError} (h : key.resolve = .error e) :
    e.kind = .authentication := by
  have hvalue {value : Json} (h : ofValue value = .error e) : e.kind = .authentication := by
    unfold ofValue at h
    split at h
    · contradiction
    · cases h
      rfl
  unfold resolve at h
  split at h
  · cases h
    rfl
  · contradiction
  · exact hvalue h
  · split at h
    · next hkind =>
      cases h
      exact hkind
    · cases h
      rfl
  all_goals
    cases h
    rfl

/-- Whether a stream can be read. -/
def Stream.isReadable (s : Stream) : Bool := s.failure.isNone && !s.closed

/-- Whether a stream is read hinges on whether it can be. -/
theorem Stream.hinges_read (s : Stream) : Hinges s.read (s.isReadable = true) := by
  unfold read isReadable
  cases s.failure with
  | some reason => exact ⟨rfl, Bool.false_ne_true⟩
  | none =>
    cases s.closed with
    | true => exact ⟨rfl, Bool.false_ne_true⟩
    | false => exact rfl

/-- Reading a stream does not make it unreadable. -/
theorem Stream.isReadable_of_read {s left : Stream} {content : Bytes} (h : s.read = .ok (content, left)) :
    left.isReadable = s.isReadable := by
  unfold read at h
  split at h
  · contradiction
  · split at h
    · contradiction
    · cases h
      rfl

/-- A payload can be read: its octets are its own, or the stream that it comes from can be read. -/
def Payload.IsReadable (p : Payload) (session : Session) : Prop :=
  ∀ id, p.source = .stream id → (session.streamAt id).isReadable = true

/-- A body can be made of a request: it carries no files, or the files can be read and the data are members or not
given. -/
def Request.HasBody (request : Request Payload) (session : Session) : Prop :=
  request.attached = [] ∨ ((∃ members, request.data = .obj members) ∨ request.data.isGiven = false) ∧
    ∀ file ∈ request.attached, file.2.IsReadable session

/-- Whether the body of an answer is JSON that nests too deep to be read. -/
def HttpResponse.nestsTooDeep (response : HttpResponse) : Bool :=
  match response.json with
  | .ok _ => false
  | .error e => e.toForeign.kind = .recursion

/-- A body that is no text is no documented fault. -/
theorem HttpResponse.isDocumented_of_text {response : HttpResponse} {fault : Fault} (h : response.text = .error fault) :
    fault.isDocumented = false := by
  unfold text at h
  split at h
  · contradiction
  · exact Fault.isDocumented_of_mapError h

/-- An answer cannot be read as it was asked for; or it is a refusal, and its body neither as JSON nor as text. -/
def Request.CannotRead (request : Request Payload) (response : HttpResponse) : Prop :=
  if 400 ≤ response.status then
    response.nestsTooDeep = true ∨ response.json.isOk = false ∧ response.text.isOk = false
  else
    request.format = .json ∧ response.nestsTooDeep = true ∨ request.format = .text ∧ response.text.isOk = false

namespace Payload

/-- What a payload holds, and what is left of its stream, depends on the streams alone. -/
theorem peek_congr (p : Payload) (h : later.streams = session.streams) :
    (p.peek.start around later).1 = (p.peek.start around session).1 ∧
      (p.peek.start around later).2.streams = (p.peek.start around session).2.streams := by
  unfold peek
  cases p.source with
  | owned data => exact ⟨rfl, h⟩
  | stream id =>
    have hsame : later.streamAt id = session.streamAt id := by rw [Session.streamAt_eq, Session.streamAt_eq, h]
    dsimp only
    cases hread : (session.streamAt id).read with
    | error fault =>
      rw [start_readStream_of_error hread, start_readStream_of_error (hsame ▸ hread)]
      exact ⟨rfl, h⟩
    | ok found =>
      rw [start_readStream_of_ok hread, start_readStream_of_ok (hsame ▸ hread), h]
      exact ⟨rfl, rfl⟩

/-- Whether it can be seen what a payload holds hinges on whether it can be read. -/
theorem hinges_peek (p : Payload) : Hinges (p.peek.start around session).1 (p.IsReadable session) := by
  unfold peek IsReadable
  cases p.source with
  | owned data =>
    intro id hid
    contradiction
  | stream id =>
    have hread := (session.streamAt id).hinges_read
    dsimp only
    cases hstream : (session.streamAt id).read with
    | error fault =>
      rw [hstream] at hread
      rw [start_readStream_of_error hstream]
      exact ⟨hread.1, fun hall => hread.2 (hall id rfl)⟩
    | ok found =>
      rw [hstream] at hread
      rw [start_readStream_of_ok hstream]
      intro other hother
      cases hother
      exact hread

/-- Looking at what a payload holds makes no payload unreadable. -/
theorem isReadable_after_peek (p q : Payload) :
    q.IsReadable (p.peek.start around session).2 ↔ q.IsReadable session := by
  have hsame (id : StreamId) :
      ((p.peek.start around session).2.streamAt id).isReadable = (session.streamAt id).isReadable := by
    unfold peek
    cases p.source with
    | owned data => rfl
    | stream own =>
      dsimp only
      cases hread : (session.streamAt own).read with
      | error fault => rw [start_readStream_of_error hread]
      | ok found =>
        obtain ⟨content, left⟩ := found
        have hleft := Stream.isReadable_of_read hread
        rw [start_readStream_of_ok hread, Session.streamAt_eq, Session.streamAt_eq, List.getElem?_set]
        rw [Session.streamAt_eq] at hleft
        split
        · next heq =>
          subst heq
          split
          · exact hleft
          · next hout => rw [List.getElem?_eq_none (Nat.le_of_not_lt hout)]
        · rfl
  unfold IsReadable
  simp only [hsame]

end Payload

namespace HttpTransport

variable {t : HttpTransport} {request : Request Payload}

/-- What becomes of a fault is documented unless the fault passes. -/
theorem isDocumented_networkFault (request : Request Payload) (fault : Fault) :
    (networkFault request fault).isDocumented = !fault.passes := by
  cases fault with
  | client e => simp [networkFault, Fault.isDocumented, Fault.passes]
  | foreign e =>
    obtain ⟨kind, text⟩ := e
    cases kind <;> rfl

/-- The address of the service and the endpoint are texts. -/
def Addresses (t : HttpTransport) (request : Request Payload) : Prop :=
  (∃ base, t.baseUrl = .str base) ∧ ∃ path, request.endpoint = .str path

/-- Whether there is an address hinges on its parts. -/
theorem hinges_address (t : HttpTransport) (request : Request Payload) :
    Hinges ((t.address request.endpoint).mapError Fault.foreign) (t.Addresses request) := by
  unfold address Addresses
  cases t.baseUrl with
  | str base =>
    cases request.endpoint with
    | str path => exact ⟨⟨base, rfl⟩, path, rfl⟩
    | _ => exact ⟨rfl, by simp⟩
  | _ => exact ⟨rfl, by simp⟩

/-- What goes into a form depends on the streams alone. -/
theorem attachments_congr (files : List (Text × Payload)) (h : later.streams = session.streams) :
    ((attachments files).start around later).1 = ((attachments files).start around session).1 := by
  induction files generalizing later session with
  | nil => rfl
  | cons file rest ih =>
    obtain ⟨hsame, hstreams⟩ := @Payload.peek_congr around session later file.2 h
    unfold attachments
    rcases hlater : file.2.peek.start around later with ⟨outcome, reached⟩
    rcases hpeek : file.2.peek.start around session with ⟨outcome', reached'⟩
    rw [hlater, hpeek] at hsame hstreams
    subst hsame
    cases outcome with
    | error fault => rw [start_bind_of_error hlater, start_bind_of_error hpeek]
    | ok data =>
      rw [start_bind_of_ok hlater, start_bind_of_ok hpeek, start_bind_pure, start_bind_pure, ih hstreams]

/-- Whether files go into a form hinges on whether all of them can be read. -/
theorem hinges_attachments (files : List (Text × Payload)) :
    Hinges ((attachments files).start around session).1 (∀ file ∈ files, file.2.IsReadable session) := by
  induction files generalizing session with
  | nil => exact fun file hfile => absurd hfile List.not_mem_nil
  | cons file rest ih =>
    have hfirst := @Payload.hinges_peek around session file.2
    have hstill (q : Payload) := @Payload.isReadable_after_peek around session file.2 q
    rw [List.forall_mem_cons]
    unfold attachments
    rcases hpeek : file.2.peek.start around session with ⟨fault | data, reached⟩
    · rw [hpeek] at hfirst
      rw [start_bind_of_error hpeek]
      exact ⟨hfirst.1, fun hall => hfirst.2 hall.1⟩
    · rw [hpeek] at hfirst hstill
      have hrest : (∀ other ∈ rest, other.2.IsReadable reached) ↔ ∀ other ∈ rest, other.2.IsReadable session :=
        forall₂_congr fun other _ => hstill other.2
      have hall : (file.2.IsReadable session ∧ ∀ other ∈ rest, other.2.IsReadable session) ↔
          ∀ other ∈ rest, other.2.IsReadable reached := by
        rw [hrest]
        exact and_iff_right hfirst
      rw [start_bind_of_ok hpeek, start_bind_pure, hall]
      exact ih.map _

/-- Whether data go into a form hinges on whether they are members or not given. -/
theorem hinges_formMembers (data : Json) :
    Hinges ((formMembers data).mapError Fault.foreign) ((∃ members, data = .obj members) ∨ data.isGiven = false) := by
  unfold formMembers
  cases data with
  | obj members => exact Or.inl ⟨members, rfl⟩
  | _ =>
    dsimp only
    split
    · next hgiven => exact ⟨rfl, by simp [hgiven]⟩
    · next hgiven => exact Or.inr (by simpa using hgiven)

/-- Whether a body is made hinges on whether it can be. -/
theorem hinges_body (request : Request Payload) :
    Hinges ((body request).start around session).1 (request.HasBody session) := by
  unfold body Request.HasBody
  cases request.attached with
  | nil => cases request.data <;> exact Or.inl rfl
  | cons file rest =>
    have hmembers := hinges_formMembers request.data
    dsimp only
    cases hdata : (formMembers request.data).mapError Fault.foreign with
    | error fault =>
      rw [hdata] at hmembers
      rw [start_bind_of_error (start_ofExcept _)]
      exact ⟨hmembers.1, by simp [hmembers.2]⟩
    | ok members =>
      rw [hdata] at hmembers
      rw [start_bind_of_ok (start_ofExcept _), start_bind_pure]
      refine ((@hinges_attachments around session (file :: rest)).map _).congr ?_
      simp only [reduceCtorEq, false_or]
      exact (and_iff_right hmembers).symm

/-- What body is made depends on the streams alone. -/
theorem body_congr (request : Request Payload) (h : later.streams = session.streams) :
    ((body request).start around later).1 = ((body request).start around session).1 := by
  unfold body
  cases request.attached with
  | nil => cases request.data <;> rfl
  | cons file rest =>
    dsimp only
    cases (formMembers request.data).mapError Fault.foreign with
    | error fault => rfl
    | ok members =>
      rw [start_bind_of_ok (start_ofExcept _), start_bind_of_ok (start_ofExcept _), start_bind_pure, start_bind_pure,
        attachments_congr _ h]

/-- Nothing is sent while a body is made. -/
theorem keeps_sent_body (request : Request Payload) : (body request).Keeps Session.sent := by
  have hattachments (files : List (Text × Payload)) : (attachments files).Keeps Session.sent := by
    induction files with
    | nil => exact keeps_pure _
    | cons file rest ih => exact file.2.keeps_sent_peek.bind fun data => ih.bind fun others => keeps_pure _
  unfold body
  split
  · exact keeps_pure _
  · exact keeps_pure _
  · exact (keeps_ofExcept _).bind fun members => (hattachments _).bind fun attached => keeps_pure _

/-- The message that is sent for a request, if it is sent. -/
def Posts (t : HttpTransport) (request : Request Payload) (around : Surroundings) (session : Session)
    (message : HttpRequest) : Prop :=
  ∃ key url form, t.key.resolve = .ok key ∧ t.address request.endpoint = .ok url ∧
    ((body request).start around session).1 = .ok form ∧ message = t.message key url request form

/-- An exchange comes to what the service makes of the message, or to what came of the key, of the address or of the
body. -/
theorem start_exchange (t : HttpTransport) (request : Request Payload) (around : Surroundings) (session : Session) :
    ((t.exchange request).start around session).1 =
      (t.key.resolve.mapError Fault.client).bind fun key =>
        ((t.address request.endpoint).mapError Fault.foreign).bind fun url =>
          ((body request).start around session).1.bind fun form =>
            around.service (session.sent.filterMap Sent.request?) (t.message key url request form) := by
  unfold exchange
  cases t.key.resolve.mapError Fault.client with
  | error fault => rfl
  | ok key =>
    cases (t.address request.endpoint).mapError Fault.foreign with
    | error fault => rfl
    | ok url =>
      obtain ⟨logged, hlog, log, progress, rfl⟩ := Session.remarks_log .debug
        ("Sending " ++ request.method.display ++ " " ++ request.endpoint.display) [] around session
      have hsame := @body_congr around session { session with log, progress } request rfl
      have hsent := keeps_sent_body request around { session with log, progress }
      rw [start_bind_of_ok (start_ofExcept _), start_bind_of_ok (start_ofExcept _), start_bind_of_ok hlog]
      rcases hbody : (body request).start around { session with log, progress } with ⟨fault | form, reached⟩
      · rw [hbody] at hsame
        rw [start_bind_of_error hbody, ← hsame]
        rfl
      · rw [hbody] at hsame hsent
        rw [start_bind_of_ok hbody, start_bind_of_ok start_get, ← hsame]
        unfold record
        rw [start_bind_of_ok (start_modify _), start_bind_of_ok start_surroundings, start_ofExcept, hsent]
        rfl

/-- Why a fault that is not documented leaves the transport: the request is not sent, or in vain, or its answer is of no
use. -/
inductive Escapes (t : HttpTransport) (request : Request Payload) (around : Surroundings) (session : Session) : Prop where
  /-- The key is known, and the address of the service or the endpoint is no text. -/
  | unaddressed {key : Text} (hkey : t.key.resolve = .ok key) (h : ¬ t.Addresses request)
  /-- The key is known, and there are files that go into no form: one of them cannot be read, or the data are not
  members. -/
  | bodiless {key : Text} (hkey : t.key.resolve = .ok key) (h : ¬ request.HasBody session)
  /-- The message gets no answer, and the fault is neither trouble with the request nor documented. -/
  | unanswered {message : HttpRequest} {fault : Fault} (hmessage : t.Posts request around session message)
      (h : around.service (session.sent.filterMap Sent.request?) message = .error fault) (hpasses : fault.passes = true)
  /-- The message gets an answer that cannot be read. -/
  | unreadable {message : HttpRequest} {response : HttpResponse} (hmessage : t.Posts request around session message)
      (h : around.service (session.sent.filterMap Sent.request?) message = .ok response)
      (hread : request.CannotRead response)

/-- What comes of sending if there is no answer. -/
theorem start_send_of_error {fault : Fault} (h : ((t.exchange request).start around session).1 = .error fault) :
    ((t.send request).start around session).1 = .error (networkFault request fault) := by
  have hdeliver := t.start_deliver request around session
  rw [h] at hdeliver
  exact congrArg Prod.fst (start_bind_of_error hdeliver _)

/-- What comes of sending if there is an answer: the refusal that it is, or what is read from it. -/
theorem start_send_of_ok {response : HttpResponse} (h : ((t.exchange request).start around session).1 = .ok response) :
    ∃ logged, ((t.send request).start around session).1 =
      if 400 ≤ response.status then
        ((Service.refusal request response).start around logged).1.bind fun e => .error (.client e)
      else (decode request response).map fun content => ⟨content, response.status, response.headers⟩ := by
  have hdeliver := t.start_deliver request around session
  rw [h] at hdeliver
  obtain ⟨logged, hlog, -⟩ := Session.remarks_log .debug
    (request.method.display ++ " " ++ request.endpoint.display ++ " -> HTTP " ++ Text.ofInt response.status) [] around
    ((Payload.closeAll (request.attached.map Prod.snd)).start around ((t.exchange request).start around session).2).2
  refine ⟨logged, ?_⟩
  unfold send
  rw [start_bind_of_ok hdeliver, start_bind_of_ok hlog]
  dsimp only
  split
  · rcases hrefusal : (Service.refusal request response).start around logged with ⟨fault | e, reached⟩
    · rw [start_bind_of_error hrefusal]
      rfl
    · rw [start_bind_of_ok hrefusal]
      rfl
  · rw [start_bind_pure, start_ofExcept]

/-- If there is no answer, a fault escapes exactly if the reason passes. -/
theorem send_escapes_iff_of_error {fault : Fault} (h : ((t.exchange request).start around session).1 = .error fault) :
    (∃ left, ((t.send request).start around session).1 = .error left ∧ left.isDocumented = false) ↔
      fault.passes = true := by
  simp [start_send_of_error h, isDocumented_networkFault]

/-- A fault escapes from the reading of an answer that is no refusal if it is wanted as JSON and nests too deep, or is
wanted as text and is none. -/
theorem decode_escapes_iff (request : Request Payload) (response : HttpResponse) :
    (∃ fault, decode request response = .error fault ∧ fault.isDocumented = false) ↔
      request.format = .json ∧ response.nestsTooDeep = true ∨ request.format = .text ∧ response.text.isOk = false := by
  unfold decode
  cases request.format with
  | bytes => simp
  | text =>
    cases htext : response.text with
    | ok t => simp [Except.map, Except.isOk, Except.toBool]
    | error fault => simp [Except.map, Except.isOk, Except.toBool, response.isDocumented_of_text htext]
  | json =>
    unfold HttpResponse.nestsTooDeep
    cases response.json with
    | ok value => simp [Except.map, Except.mapError]
    | error e =>
      have hbad : (badJson request response e).isDocumented = false ↔ e.toForeign.kind = .recursion := by
        unfold badJson
        dsimp only
        split
        · next hdeep => simp [Fault.isDocumented, hdeep]
        · next hdeep => simp [Fault.isDocumented, ClientError.ofKind, hdeep]
      simp [Except.map, Except.mapError, hbad]

/-- A fault escapes from the reading of a refusal if its body nests too deep, or is neither JSON nor text. -/
theorem bodyOf_escapes_iff (response : HttpResponse) :
    (∃ fault, Service.bodyOf response = .error fault ∧ fault.isDocumented = false) ↔
      response.nestsTooDeep = true ∨ response.json.isOk = false ∧ response.text.isOk = false := by
  unfold Service.bodyOf HttpResponse.nestsTooDeep
  cases response.json with
  | ok value => simp [Except.isOk, Except.toBool]
  | error e =>
    by_cases hdeep : e.toForeign.kind = .recursion
    · simp [hdeep, Fault.isDocumented]
    · cases htext : response.text with
      | ok t => simp [hdeep, Except.map, Except.isOk, Except.toBool]
      | error fault => simp [hdeep, Except.map, Except.isOk, Except.toBool, response.isDocumented_of_text htext]

/-- A refusal whose body is read is a documented error. -/
theorem start_refusal (request : Request Payload) (response : HttpResponse) (around : Surroundings)
    (session : Session) :
    match Service.bodyOf response with
    | .error fault => ((Service.refusal request response).start around session).1 = .error fault
    | .ok _ => ∃ e, ((Service.refusal request response).start around session).1 = .ok e ∧ e.kind ≠ .general := by
  unfold Service.refusal
  cases Service.bodyOf response with
  | error fault => rfl
  | ok body =>
    have hkind : Service.kindOfStatus response.status ≠ .general := by
      unfold Service.kindOfStatus
      split
      · decide
      · split <;> decide
    exact ⟨_, rfl, hkind⟩

/-- If there is an answer, a fault escapes exactly if it cannot be read. -/
theorem send_escapes_iff_of_ok {response : HttpResponse}
    (h : ((t.exchange request).start around session).1 = .ok response) :
    (∃ fault, ((t.send request).start around session).1 = .error fault ∧ fault.isDocumented = false) ↔
      request.CannotRead response := by
  obtain ⟨logged, hsend⟩ := start_send_of_ok h
  unfold Request.CannotRead
  rw [hsend]
  by_cases hstatus : 400 ≤ response.status
  · rw [if_pos hstatus, if_pos hstatus, ← bodyOf_escapes_iff]
    have hrefusal := start_refusal request response around logged
    cases hbody : Service.bodyOf response with
    | error fault =>
      rw [hbody] at hrefusal
      simp [hrefusal, Except.bind]
    | ok body =>
      rw [hbody] at hrefusal
      obtain ⟨e, he, hkind⟩ := hrefusal
      simp [he, Except.bind, Fault.isDocumented, hkind]
  · rw [if_neg hstatus, if_neg hstatus, ← decode_escapes_iff]
    cases decode request response <;> simp [Except.map]

/-- A request is sent as one message at most. -/
theorem Posts.eq {message other : HttpRequest} (h : t.Posts request around session message)
    (hother : t.Posts request around session other) : other = message := by
  obtain ⟨key, url, form, hkey, hurl, hform, rfl⟩ := h
  obtain ⟨key', url', form', hkey', hurl', hform', rfl⟩ := hother
  cases hkey.symm.trans hkey'
  cases hurl.symm.trans hurl'
  cases hform.symm.trans hform'
  rfl

/-- An exchange comes to what the service makes of the message. -/
theorem Posts.start_exchange {message : HttpRequest} (h : t.Posts request around session message) :
    ((t.exchange request).start around session).1 =
      around.service (session.sent.filterMap Sent.request?) message := by
  obtain ⟨key, url, form, hkey, hurl, hform, rfl⟩ := h
  rw [HttpTransport.start_exchange, hkey, hurl, hform]
  rfl

/-- What escapes if the request is sent escapes because of what the service makes of the message. -/
theorem Posts.escapes_iff {message : HttpRequest} (h : t.Posts request around session message) :
    t.Escapes request around session ↔
      match around.service (session.sent.filterMap Sent.request?) message with
      | .ok response => request.CannotRead response
      | .error fault => fault.passes = true := by
  constructor
  · rintro (⟨hkey, hno⟩ | ⟨hkey, hno⟩ | ⟨hmessage, hservice, hpasses⟩ | ⟨hmessage, hservice, hread⟩)
    · obtain ⟨key, url, form, -, hurl, -⟩ := h
      have haddress := t.hinges_address request
      rw [hurl] at haddress
      exact absurd haddress hno
    · obtain ⟨key, url, form, -, -, hform, -⟩ := h
      have hbody := @hinges_body around session request
      rw [hform] at hbody
      exact absurd hbody hno
    · rw [h.eq hmessage] at hservice
      rw [hservice]
      exact hpasses
    · rw [h.eq hmessage] at hservice
      rw [hservice]
      exact hread
  · intro houtcome
    cases hservice : around.service (session.sent.filterMap Sent.request?) message with
    | ok response =>
      rw [hservice] at houtcome
      exact .unreadable h hservice houtcome
    | error fault =>
      rw [hservice] at houtcome
      exact .unanswered h hservice houtcome

/-- Nothing escapes if the key is not known. -/
theorem not_escapes_of_key {e : ClientError} (hkey : t.key.resolve = .error e) :
    ¬ t.Escapes request around session := by
  rintro (⟨hknown, -⟩ | ⟨hknown, -⟩ | ⟨⟨_, _, _, hknown, -⟩, -, -⟩ | ⟨⟨_, _, _, hknown, -⟩, -, -⟩) <;>
    cases hkey.symm.trans hknown

/-- **What sending is documented to fail with is all it fails with, unless a fault escapes**: the exchange ends in a
fault of another kind exactly if the key is known and there is no address or no body, or the service gives no answer
for a reason that is no trouble with the request, or it gives one that cannot be read. -/
theorem send_escapes_iff (t : HttpTransport) (request : Request Payload) (around : Surroundings) (session : Session) :
    (∃ fault, ((t.send request).start around session).1 = .error fault ∧ fault.isDocumented = false) ↔
      t.Escapes request around session := by
  have hexchange := t.start_exchange request around session
  cases hkey : t.key.resolve with
  | error e =>
    have hkind := ApiKey.kind_of_resolve hkey
    rw [hkey] at hexchange
    rw [send_escapes_iff_of_error hexchange]
    exact iff_of_false (by simp [Fault.passes, hkind]) (not_escapes_of_key hkey)
  | ok key =>
    rw [hkey] at hexchange
    have haddress := t.hinges_address request
    cases hurl : t.address request.endpoint with
    | error e =>
      rw [hurl] at hexchange haddress
      rw [send_escapes_iff_of_error hexchange]
      exact iff_of_true haddress.1 (.unaddressed hkey haddress.2)
    | ok url =>
      rw [hurl] at hexchange
      have hbody := @hinges_body around session request
      cases hform : ((body request).start around session).1 with
      | error fault =>
        rw [hform] at hexchange hbody
        rw [send_escapes_iff_of_error hexchange]
        exact iff_of_true hbody.1 (.bodiless hkey hbody.2)
      | ok form =>
        -- From here on the message is sent, and only the service decides.
        have hposts : t.Posts request around session (t.message key url request form) :=
          ⟨key, url, form, hkey, hurl, hform, rfl⟩
        rw [hposts.escapes_iff]
        cases hservice : around.service (session.sent.filterMap Sent.request?) (t.message key url request form) with
        | error fault => exact send_escapes_iff_of_error (hposts.start_exchange.trans hservice)
        | ok response => exact send_escapes_iff_of_ok (hposts.start_exchange.trans hservice)

/-- A transport with a key and the address of the service. -/
def plain : HttpTransport := ⟨.literal "key", .str defaultBaseUrl, .null, .own⟩

/-- The request of what the service says about an account. -/
def accountRequest : Request Payload := { endpoint := .str "/account/info", method := .str "GET", format := .json }

/-- That an address is not valid, which is no trouble with a request. -/
def invalidPort : Fault := .ofForeign .invalidUrl "Invalid port: 'x'"

/-- Surroundings with no files, where no address is valid. -/
def nowhere : Surroundings where
  entry _ := .noFile
  web _ := .error invalidPort
  service _ _ := .error invalidPort

/-- An address that is not valid leaves the transport as it is. -/
theorem invalidPort_escapes :
    ((plain.send accountRequest).start nowhere {}).1 = .error invalidPort ∧ invalidPort.isDocumented = false :=
  ⟨rfl, rfl⟩

end HttpTransport

end DocBuild
