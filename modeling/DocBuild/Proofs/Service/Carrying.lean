import DocBuild.Proofs.Service.Escaping

/-!
# Messages with instructions

A request whose data are instructions alone is sent over HTTP as JSON if it carries no files, and otherwise as a form
in which the JSON text of the instructions is the only field. So the same instructions can be read from either
message. What comes back for a message that is answered, and not refused, is the body of the answer, read as it was
asked for.
-/

namespace DocBuild

open Run

variable {around : Surroundings} {session later : Session}

/-- A body brings instructions, and nothing else but files. -/
inductive RequestBody.Brings (instructions : Members) : RequestBody → Prop where
  | json : Brings instructions (.json (.obj (Members.single "instructions" (.obj instructions))))
  | form (files : List (Text × Attachment)) :
      Brings instructions (.form files [("instructions", (Json.obj instructions).compact)])

/-- The instructions that are read from a body: a member of its JSON, or a field that is JSON text. -/
def RequestBody.instructions? : RequestBody → Option Json
  | json (.obj members) => Members.get? "instructions" members
  | form _ fields => (fields.lookup (Text.ofString "instructions")).bind fun t => (Json.parse t).toOption
  | _ => none

/-- The instructions that a body brings are read from it, if their JSON text is read as them. -/
theorem RequestBody.Brings.instructions?_eq {instructions : Members} {body : RequestBody} (h : body.Brings instructions)
    (hparse : Json.parse (Json.obj instructions).compact = .ok (.obj instructions)) :
    body.instructions? = some (.obj instructions) := by
  cases h with
  | json => rfl
  | form files =>
    change (Json.parse (Json.obj instructions).compact).toOption = _
    rw [hparse]
    rfl

namespace HttpTransport

variable {t : HttpTransport} {request : Request Payload} {message : HttpRequest} {response : HttpResponse}
  {instructions : Members}

/-- The body of a request without files is its data as JSON. -/
theorem start_body_of_unattached (hdata : request.data = .obj instructions) (hfiles : request.attached = []) :
    (body request).start around session = (.ok (.json (.obj instructions)), session) := by
  unfold body
  rw [hfiles, hdata]
  rfl

/-- The body of a request with instructions and files is a form with the instructions as its only field. -/
theorem start_body_of_attached
    (hdata : request.data = .obj (Members.single "instructions" (.obj instructions))) (hfiles : request.attached ≠ []) :
    ((body request).start around session).1 = ((attachments request.attached).start around session).1.map fun sent =>
      .form sent [("instructions", (Json.obj instructions).compact)] := by
  unfold body
  rw [hdata]
  cases hattached : request.attached with
  | nil => exact absurd hattached hfiles
  | cons file rest =>
    change (((Run.ofExcept (.ok (Members.single "instructions" (.obj instructions)))) >>= fun members => _).start
      around session).1 = _
    rw [ofExcept_ok_bind, start_bind_pure]
    rfl

/-- A message for a request with instructions brings them. -/
theorem Posts.brings (h : t.Posts request around session message)
    (hdata : request.data = .obj (Members.single "instructions" (.obj instructions))) :
    message.body.Brings instructions := by
  obtain ⟨key, url, form, -, -, hform, rfl⟩ := h
  by_cases hfiles : request.attached = []
  · rw [start_body_of_unattached hdata hfiles] at hform
    cases hform
    exact .json
  · rw [start_body_of_attached hdata hfiles] at hform
    cases hsent : ((attachments request.attached).start around session).1 with
    | error fault =>
      rw [hsent] at hform
      contradiction
    | ok sent =>
      rw [hsent] at hform
      cases hform
      exact .form sent

/-- A change of the log and the progress does not change the message for a request. -/
theorem Posts.of_remarks (h : t.Posts request around session message) (hremarks : session.Remarks later) :
    t.Posts request around later message := by
  obtain ⟨key, url, form, hkey, hurl, hform, rfl⟩ := h
  obtain ⟨log, progress, rfl⟩ := hremarks
  have hsame := @body_congr around session { session with log, progress } request rfl
  exact ⟨key, url, form, hkey, hurl, hsame.trans hform, rfl⟩

/-- The message for a request is sent last. -/
theorem Posts.sent (h : t.Posts request around session message) :
    ((t.send request).start around session).2.sent = session.sent ++ [.request message] := by
  obtain ⟨key, url, form, hkey, hurl, hform, rfl⟩ := h
  obtain ⟨logged, hlog, log, progress, rfl⟩ := Session.remarks_log .debug
    ("Sending " ++ request.method.display ++ " " ++ request.endpoint.display) [] around session
  have hsame := (@body_congr around session { session with log, progress } request rfl).trans hform
  have hkept := keeps_sent_body request around { session with log, progress }
  rcases hbody : (body request).start around { session with log, progress } with ⟨fault | made, reached⟩
  · rw [hbody] at hsame
    contradiction
  · rw [hbody] at hsame hkept
    cases hsame
    rw [sent_send]
    unfold exchange
    rw [hkey, hurl]
    change ((Run.ofExcept (.ok key) >>= fun key => Run.ofExcept (.ok url) >>= fun url => _).start around
      session).2.sent = _
    rw [ofExcept_ok_bind, ofExcept_ok_bind, start_bind_of_ok hlog, start_bind_of_ok hbody, start_bind_of_ok start_get]
    unfold record
    rw [start_bind_of_ok (start_modify _), start_bind_of_ok start_surroundings, start_ofExcept]
    change reached.sent ++ _ = _
    rw [hkept]
    rfl

/-- What comes of a message that is answered and not refused is the body of the answer, read as it was asked for. -/
theorem Posts.start_send (h : t.Posts request around session message)
    (hanswer : around.service (session.sent.filterMap Sent.request?) message = .ok response)
    (hstatus : response.status < 400) :
    ((t.send request).start around session).1 =
      (decode request response).map fun content => ⟨content, response.status, response.headers⟩ := by
  obtain ⟨logged, hsend⟩ := start_send_of_ok (h.start_exchange.trans hanswer)
  rw [hsend, if_neg (Int.not_le.mpr hstatus)]

end HttpTransport

end DocBuild
