import DocBuild.Client.Pages
import DocBuild.Proofs.Client.SideBySide
import DocBuild.Proofs.Job.Release
import DocBuild.Proofs.Service.Form

/-!
# Uploading octets that were loaded

Executions of parts whose files are all the same octets upload these octets and nothing else, one after the other or
side by side. Over HTTP no stream is read for it, nothing is fetched, and every file in a form has these octets.
-/

namespace DocBuild

open Run

variable {around : Surroundings} {session middle after : Session} {data : Bytes}

/-- Every file that a request carries has the octets, as its own. -/
def Request.UploadsOnly (request : Request Payload) (data : Bytes) : Prop :=
  ∀ file ∈ request.attached, file.2.source = .owned data

/-- An input is the octets, under some name. -/
def FileInput.IsBuffer (input : FileInput) (data : Bytes) : Prop :=
  ∃ filename contentType, input = .buffer data filename contentType

/-- All files of a part are the octets. -/
def Part.EnclosesOnly (part : Part) (data : Bytes) : Prop :=
  ∀ enclosure ∈ part.enclosures, enclosure.input.IsBuffer data

/-- Octets are obtained as they are. -/
theorem FileInput.IsBuffer.source_of_attempt {input : FileInput} (h : input.IsBuffer data) {connection : Connection}
    {p : Payload} (hattempt : Payload.IsAttempt connection around input (.ok p)) : p.source = .owned data := by
  obtain ⟨filename, contentType, rfl⟩ := h
  obtain ⟨before, hp⟩ := hattempt
  cases hp
  rfl

/-- A request that carries a build whose files are all the octets uploads only these. -/
theorem Request.Carries.uploadsOnly {request : Request Payload} {connection : Connection} {build : Build}
    (h : request.Carries connection around build) (hfiles : ∀ entry ∈ build.files, entry.2.IsBuffer data) :
    request.UploadsOnly data := by
  obtain ⟨files, hrequest, hall⟩ := h.files
  intro file hfile
  rw [Request.attached, hrequest, Option.getD_some] at hfile
  obtain ⟨place, hplace, rfl⟩ := List.getElem_of_mem hfile
  have hentry : place < build.files.length := hall.length_eq ▸ hplace
  exact (hfiles _ (List.getElem_mem hentry)).source_of_attempt (hall.get hentry hplace).2

namespace Client

variable {c : Client} {parts : List Part} {output : Output} {e : Execution}

/-- If parts are added to a job, none of them is refused. -/
theorem accepted_of_perform_addParts {job after : Job} (hunused : job.executed = false)
    (h : job.perform (addParts parts) = (.ok (), after)) : ∀ part ∈ parts, part.refusal? = none := by
  induction parts generalizing job after with
  | nil => simp
  | cons part rest ih =>
    unfold addParts at h
    cases hpart : part.refusal? with
    | some fault =>
      rw [Job.perform_bind_of_error (Job.perform_addPart_of_refused hunused hpart)] at h
      cases h
    | none =>
      rw [Job.perform_bind_of_ok (Job.perform_addPart hunused hpart)] at h
      refine List.forall_mem_cons.mpr ⟨hpart, ih ?_ h⟩
      exact hunused

/-- An execution of parts encloses their files, over the transport and the connection of the client, and tells nobody
of its progress. -/
theorem of_execution_ok (h : c.execution parts [] output = .ok e) :
    e.build.files = numbered 0 (parts.flatMap Part.enclosures) ∧ e.callback = none ∧ e.transport = c.transport ∧
      e.connection = c.connection ∧ e.output = output := by
  refine ⟨?_, of_execution h⟩
  have haccepted : ∀ part ∈ parts, part.refusal? = none := by
    rcases hadd : (c.newJob .null).perform (addParts parts) with ⟨fault | _, added⟩
    · unfold execution at h
      dsimp only at h
      rw [Job.perform_bind_of_error hadd] at h
      contradiction
    · exact accepted_of_perform_addParts rfl hadd
  rw [execution_eq haccepted] at h
  let ready : Job := { c.newJob .null with draft := Draft.ofParts parts output }
  have hready : ready.executed = false := rfl
  cases hbuild : (Draft.ofParts parts output).compile with
  | error fault =>
    have hstart := Job.perform_start hready
    rw [show ready.draft.compile = .error fault from hbuild] at hstart
    rw [show ready.perform (Job.execute .null none) = _ from Job.perform_bind_of_error hstart _] at h
    contradiction
  | ok build =>
    obtain ⟨e', hexecute, he, -⟩ := Job.perform_execute hready hbuild .null none
    rw [show ready.perform (Job.execute .null none) = _ from hexecute] at h
    cases h
    rw [he, Draft.files_of_compile hbuild, Draft.files_ofParts]

/-- Files of parts that are all the octets are the octets. -/
theorem isBuffer_of_execution (h : c.execution parts [] output = .ok e)
    (hparts : ∀ part ∈ parts, part.EnclosesOnly data) : ∀ entry ∈ e.build.files, entry.2.IsBuffer data := by
  intro entry hentry
  rw [(of_execution_ok h).1] at hentry
  obtain ⟨n, enclosure, henclosure, -, rfl⟩ := exists_key_of_mem_numbered 0 _ entry hentry
  obtain ⟨part, hpart, henclosure⟩ := List.mem_flatMap.mp henclosure
  exact hparts part hpart enclosure henclosure

/-- Nothing interrupts an execution of parts whose files are all the octets. -/
theorem uneventful_of_execution (h : c.execution parts [] output = .ok e)
    (hparts : ∀ part ∈ parts, part.EnclosesOnly data) (around : Surroundings) : e.Uneventful around := by
  have hbuffers := isBuffer_of_execution h hparts
  refine ⟨(of_execution_ok h).2.1, fun entry hentry => ?_, fun entry hentry => ?_⟩
  · obtain ⟨filename, contentType, heq⟩ := hbuffers entry hentry
    rw [heq]
    exact Payload.obtainable_buffer _ _ _ _ _
  · obtain ⟨filename, contentType, heq⟩ := hbuffers entry hentry
    rw [heq]
    exact keeps_pure _

end Client

/-- Whatever comes of an operation, it exchanges requests over a transport, and all of them upload only the octets;
nothing else changes but the log and the progress. -/
def Run.UploadsOnly {α : Type} (x : Run α) (t : Transport) (data : Bytes) : Prop :=
  ∀ around session, ∃ sent, t.Exchanges around session sent (x.start around session).2 ∧
    ∀ exchange ∈ sent, exchange.request.UploadsOnly data

namespace Run

variable {α β : Type} {t : Transport}

/-- What changes nothing uploads nothing. -/
theorem uploadsOnly_of_keeps {x : Run α} (h : x.Keeps id) : x.UploadsOnly t data := by
  intro around session
  have hsame : (x.start around session).2 = session := h around session
  rw [hsame]
  exact ⟨[], .none (.refl session), by simp⟩

/-- Logging uploads nothing. -/
theorem uploadsOnly_log (level : LogLevel) (message : Text) (fields : Members) :
    (log level message fields).UploadsOnly t data := by
  intro around session
  obtain ⟨logged, hlog, hremarks⟩ := Session.remarks_log level message fields around session
  rw [hlog]
  exact ⟨[], .none hremarks, by simp⟩

/-- What two operations upload is uploaded by one after the other. -/
theorem UploadsOnly.bind {x : Run α} {k : α → Run β} (hx : x.UploadsOnly t data)
    (hk : ∀ a, (k a).UploadsOnly t data) : (x >>= k).UploadsOnly t data := by
  intro around session
  obtain ⟨sent, hsent, hall⟩ := hx around session
  rcases h : x.start around session with ⟨fault | a, after⟩
  · rw [h] at hsent
    rw [start_bind_of_error h]
    exact ⟨sent, hsent, hall⟩
  · rw [h] at hsent
    rw [start_bind_of_ok h]
    obtain ⟨more, hmore, hrest⟩ := hk a around after
    exact ⟨sent ++ more, hsent.append hmore, List.forall_mem_append.mpr ⟨hall, hrest⟩⟩

/-- An outcome alone uploads nothing. -/
theorem uploadsOnly_ofExcept (outcome : Except Fault α) : (ofExcept outcome).UploadsOnly t data :=
  uploadsOnly_of_keeps (keeps_ofExcept outcome)

end Run

namespace Client

variable {α β : Type} {c : Client} {t : Transport} {parts : List Part}

/-- Operations that upload only the octets do so one after the other. -/
theorem uploadsOnly_each {f : α → Run β} {items : List α} (h : ∀ item ∈ items, (f item).UploadsOnly t data) :
    (each f items).UploadsOnly t data := by
  induction items with
  | nil => exact uploadsOnly_of_keeps (keeps_pure _)
  | cons item rest ih =>
    unfold each
    refine (h item List.mem_cons_self).bind fun b => ?_
    exact (ih fun other hother => h other (List.mem_cons_of_mem _ hother)).bind fun others =>
      uploadsOnly_of_keeps (keeps_pure _)

/-- An execution of parts whose files are all the octets uploads these once. -/
theorem uploadsOnly_run {output : Output} {e : Execution} (h : c.execution parts [] output = .ok e)
    (hparts : ∀ part ∈ parts, part.EnclosesOnly data) : e.run.UploadsOnly c.transport data := by
  intro around session
  obtain ⟨-, hcallback, htransport, -, -⟩ := of_execution_ok h
  have huneventful := uneventful_of_execution h hparts around
  obtain ⟨files, prepared, hfirst, hcarries, hkept⟩ := Execution.start_first
    (Execution.isCompleted_of_callback hcallback 1) huneventful.obtainable session
  obtain ⟨reply, hexchanges⟩ := Execution.exchanges_run hfirst (Execution.isCompleted_of_callback hcallback 2)
  rw [hkept huneventful.keeps, htransport] at hexchanges
  refine ⟨_, hexchanges.after_remarks ⟨_, _, rfl⟩, List.forall_mem_singleton.mpr ?_⟩
  exact hcarries.uploadsOnly (isBuffer_of_execution h hparts)

/-- Executions of parts whose files are all the octets upload only these, side by side. -/
theorem uploadsOnly_runAll {output : Output} {executions : List Execution}
    (h : ∀ e ∈ executions, ∃ parts, c.execution parts [] output = .ok e ∧ ∀ part ∈ parts, part.EnclosesOnly data) :
    (Execution.runAll executions).UploadsOnly c.transport data := by
  intro around session
  have hall : ∀ e ∈ executions, e.Uneventful around ∧ e.transport = c.transport := by
    intro e he
    obtain ⟨parts, hexecution, hparts⟩ := h e he
    exact ⟨uneventful_of_execution hexecution hparts around, (of_execution_ok hexecution).2.2.1⟩
  have houtput : ∀ e ∈ executions, e.output = output := by
    intro e he
    obtain ⟨parts, hexecution, -⟩ := h e he
    exact (of_execution_ok hexecution).2.2.2.2
  obtain ⟨after, sent, exchanges, hrun, hsent, hperm, hcarries⟩ := Execution.runAll_exchanges hall houtput session
  rw [hrun]
  refine ⟨sent, hsent, fun exchange hexchange => ?_⟩
  obtain ⟨place, hplace, rfl⟩ := List.getElem_of_mem (hperm.mem_iff.mp hexchange)
  have hin : place < executions.length := hcarries.length_eq ▸ hplace
  obtain ⟨parts, hexecution, hparts⟩ := h _ (List.getElem_mem hin)
  exact (hcarries.get hin hplace).uploadsOnly (isBuffer_of_execution hexecution hparts)

/-- A document that is made of parts whose files are all the octets takes an upload of these alone. -/
theorem uploadsOnly_buildPdf (hparts : ∀ part ∈ parts, part.EnclosesOnly data) :
    (c.buildPdf parts []).UploadsOnly c.transport data := by
  unfold buildPdf
  refine Run.UploadsOnly.bind ?_ fun product => uploadsOnly_ofExcept _
  unfold build
  cases hexecution : c.execution parts [] (Output.pdf {}) with
  | error fault => exact uploadsOnly_of_keeps (keeps_throw fault)
  | ok e =>
    change (e.run >>= fun outcome => Run.ofExcept outcome.toExcept).UploadsOnly c.transport data
    exact (uploadsOnly_run hexecution hparts).bind fun outcome => uploadsOnly_ofExcept _

end Client

/-- From one session to the other requests were sent to the service, and every file in them has the octets. No stream
was touched, and nothing was fetched. -/
def Session.PostsOnly (session after : Session) (data : Bytes) : Prop :=
  after.streams = session.streams ∧ ∃ messages : List HttpRequest,
    after.sent = session.sent ++ messages.map .request ∧
    ∀ message ∈ messages, ∀ file ∈ message.body.files, file.2.content = data

/-- A change of the log and the progress posts nothing. -/
theorem Session.Remarks.postsOnly (h : session.Remarks after) : session.PostsOnly after data := by
  obtain ⟨log, progress, rfl⟩ := h
  exact ⟨rfl, [], (List.append_nil _).symm, by simp⟩

/-- What is posted and then posted is posted. -/
theorem Session.PostsOnly.trans (h : session.PostsOnly middle data) (h' : middle.PostsOnly after data) :
    session.PostsOnly after data := by
  obtain ⟨hstreams, messages, hsent, hall⟩ := h
  obtain ⟨hstreams', messages', hsent', hall'⟩ := h'
  refine ⟨hstreams'.trans hstreams, messages ++ messages', ?_, List.forall_mem_append.mpr ⟨hall, hall'⟩⟩
  rw [hsent', hsent, List.append_assoc, List.map_append]

namespace HttpTransport

variable {t : HttpTransport} {request : Request Payload}

/-- Files with octets of their own go into a form as they are. -/
theorem start_attachments_owned {files : List (Text × Payload)} (h : ∀ file ∈ files, file.2.source = .owned data) :
    (attachments files).start around session =
      (.ok (files.map fun file => (file.1, file.2.attachment data)), session) := by
  induction files with
  | nil => rfl
  | cons file rest ih =>
    have hpeek : file.2.peek.start around session = (.ok data, session) := by
      unfold Payload.peek
      rw [h file List.mem_cons_self]
      rfl
    unfold attachments
    rw [start_bind_of_ok hpeek, start_bind_pure, ih fun other hother => h other (List.mem_cons_of_mem _ hother)]
    rfl

/-- The body of a request that uploads only the octets is made without any change, and its files have the octets. -/
theorem start_body_owned (h : request.UploadsOnly data) :
    ∃ outcome, (body request).start around session = (outcome, session) ∧
      ∀ form, outcome = .ok form → ∀ file ∈ form.files, file.2.content = data := by
  unfold body
  cases hfiles : request.attached with
  | nil =>
    cases request.data with
    | null => exact ⟨.ok .empty, rfl, fun form hform => by cases hform; simp [RequestBody.files]⟩
    | _ => exact ⟨.ok (.json _), rfl, fun form hform => by cases hform; simp [RequestBody.files]⟩
  | cons file rest =>
    have hattached := @start_attachments_owned around session data (file :: rest) fun file hfile =>
      h file (hfiles ▸ hfile)
    dsimp only
    cases hmembers : (formMembers request.data).mapError Fault.foreign with
    | error fault => exact ⟨.error fault, rfl, fun form hform => by cases hform⟩
    | ok members =>
      rw [start_bind_of_ok (start_ofExcept _), start_bind_of_ok hattached]
      refine ⟨_, rfl, fun form hform attachment hattachment => ?_⟩
      cases hform
      obtain ⟨file, -, rfl⟩ := List.mem_map.mp hattachment
      rfl

/-- What is exchanged for a request that uploads only the octets is posted with these. -/
theorem postsOnly_exchange (t : HttpTransport) (h : request.UploadsOnly data) (around : Surroundings)
    (session : Session) : session.PostsOnly ((t.exchange request).start around session).2 data := by
  unfold exchange
  cases t.key.resolve.mapError Fault.client with
  | error fault => exact (Session.Remarks.refl session).postsOnly
  | ok key =>
    rw [start_bind_of_ok (start_ofExcept _)]
    cases (t.address request.endpoint).mapError Fault.foreign with
    | error fault => exact (Session.Remarks.refl session).postsOnly
    | ok url =>
      obtain ⟨logged, hlog, hremarks⟩ := Session.remarks_log .debug
        ("Sending " ++ request.method.display ++ " " ++ request.endpoint.display) [] around session
      obtain ⟨outcome, hbody, hfiles⟩ := @start_body_owned around logged data request h
      rw [start_bind_of_ok (start_ofExcept _), start_bind_of_ok hlog]
      refine hremarks.postsOnly.trans ?_
      cases outcome with
      | error fault =>
        rw [start_bind_of_error hbody]
        exact (Session.Remarks.refl logged).postsOnly
      | ok form =>
        rw [start_bind_of_ok hbody, start_bind_of_ok start_get]
        unfold record
        rw [start_bind_of_ok (start_modify _), start_bind_of_ok start_surroundings, start_ofExcept]
        exact ⟨rfl, [t.message key url request form], rfl, List.forall_mem_singleton.mpr (hfiles form rfl)⟩

/-- What follows the exchange touches no stream if the files have octets of their own. -/
theorem streams_send (t : HttpTransport) (h : request.UploadsOnly data) (around : Surroundings) (session : Session) :
    ((t.send request).start around session).2.streams = ((t.exchange request).start around session).2.streams := by
  have hcloseAll (payloads : List Payload) (howned : ∀ p ∈ payloads, p.source = .owned data) :
      (Payload.closeAll payloads).Keeps Session.streams := by
    induction payloads with
    | nil => exact keeps_pure _
    | cons p rest ih =>
      unfold Payload.closeAll Payload.close
      rw [howned p List.mem_cons_self]
      exact (keeps_pure ()).bind fun _ => ih fun q hq => howned q (List.mem_cons_of_mem _ hq)
  refine (@view_send _ Session.streams (fun _ _ => rfl) t request around session).trans ?_
  rw [start_deliver]
  exact hcloseAll _ (List.forall_mem_map.mpr h) around _

/-- A request that uploads only the octets is posted with these. -/
theorem postsOnly_send (t : HttpTransport) (h : request.UploadsOnly data) (around : Surroundings) (session : Session) :
    session.PostsOnly ((t.send request).start around session).2 data := by
  obtain ⟨hstreams, messages, hsent, hall⟩ := t.postsOnly_exchange h around session
  exact ⟨(t.streams_send h around session).trans hstreams, messages, (t.sent_send request around session).trans hsent,
    hall⟩

end HttpTransport

/-- Requests that upload only the octets are posted over HTTP with these, one after the other. -/
theorem Transport.Exchanges.postsOnly {t : HttpTransport} {exchanges : List Exchange}
    (h : t.transport.Exchanges around session exchanges after)
    (hall : ∀ exchange ∈ exchanges, exchange.request.UploadsOnly data) : session.PostsOnly after data := by
  induction h with
  | none hlast => exact hlast.postsOnly
  | @send session before reached after request reply rest hfirst hsend _ ih =>
    obtain ⟨huploads, hrest⟩ := List.forall_mem_cons.mp hall
    have hposts := t.postsOnly_send huploads around before
    rw [Transport.start_send, Prod.mk.injEq] at hsend
    have hreached : before.PostsOnly reached data := by
      rw [← hsend.2]
      exact hposts
    exact (hfirst.postsOnly.trans hreached).trans (ih hrest)

end DocBuild
