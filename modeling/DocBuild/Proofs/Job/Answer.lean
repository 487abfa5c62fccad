import DocBuild.Proofs.Client.Sending
import DocBuild.Proofs.Job.Ending
import DocBuild.Proofs.Job.Offers
import DocBuild.Proofs.Service.Carrying

/-!
# What an answer means

The output says in which form the answer is asked for, how its body is read, which kind of product is made of it, and
under which media type and name. These agree for every output: an answer that is no refusal becomes the product that is
meant, from the whole body, or the execution ends in a failure of the second step since the body cannot be read. The
output that counts is the one that the instructions in the message name.
-/

namespace DocBuild

open Run

variable {around : Surroundings} {session : Session}

/-- A type of outputs is found by its name. -/
theorem OutputType.ofName?_name (type : OutputType) : ofName? type.name = some type := by
  cases type <;> decide

namespace Output

/-- The output that members name: its type, and the other members as its options. -/
def ofMembers? (members : Members) : Option Output :=
  match Members.get? "type" members with
  | some (.str name) => (OutputType.ofName? name).map fun type => ⟨type, members.filter (·.1 ≠ "type")⟩
  | _ => none

/-- The output that instructions name. -/
def namedIn? (instructions : Members) : Option Output :=
  match Members.get? "output" instructions with
  | some (.obj members) => ofMembers? members
  | _ => none

variable {o : Output}

/-- An output whose options have different names, none of them that of its type, is named by its members. -/
theorem ofMembers?_members (htype : Text.ofString "type" ∉ Members.names o.options)
    (hnodup : (Members.names o.options).Nodup) : ofMembers? o.members = some o := by
  have hmembers : o.members = (Text.ofString "type", .str o.type.name) :: o.options := by
    unfold members
    exact Members.overlay_of_nodup hnodup fun name hname hin => by
      cases List.mem_singleton.mp hin
      exact htype hname
  have hothers : (((Text.ofString "type", .str o.type.name) :: o.options : Members).filter
      (·.1 ≠ Text.ofString "type")) = o.options := by
    rw [List.filter_cons_of_neg (by simp)]
    refine List.filter_eq_self.mpr fun member hmember => decide_eq_true fun heq => htype ?_
    exact heq ▸ List.mem_map_of_mem hmember
  unfold ofMembers?
  rw [hmembers, hothers, Members.get?_cons, if_pos rfl]
  dsimp only
  rw [OutputType.ofName?_name]
  rfl

/-- What an execution comes to for an output if there is an answer that is no refusal. -/
inductive Means (o : Output) (response : HttpResponse) : Outcome Product → Prop where
  /-- Extracted content is the body as JSON. -/
  | value {value : Json} (htype : o.type = .jsonContent) (h : response.json = .ok value) :
      Means o response (.success (.extraction (.value value)))
  /-- Content that is no JSON is an error of the service, with what was wrong as its cause. -/
  | misread {e : Json.OctetsError} {error : ClientError} (htype : o.type = .jsonContent) (h : response.json = .error e)
      (hdeep : response.nestsTooDeep = false) (hkind : error.kind = .service)
      (hcause : error.cause = some (.foreign e.toForeign)) : Means o response (.failure 2 error)
  /-- Content that nests too deep is a foreign error, and no error of the service. -/
  | tooDeep {e : Json.OctetsError} {error : ClientError} (htype : o.type = .jsonContent) (h : response.json = .error e)
      (hdeep : response.nestsTooDeep = true) (hrecords : error.Records 2 (.foreign e.toForeign)) :
      Means o response (.failure 2 error)
  /-- HTML and Markdown are the body as text. -/
  | text {content : Text} (htype : o.type.isText = true) (h : response.text = .ok content) :
      Means o response (.success (.text content o.mediaType.1 o.mediaType.2))
  /-- A body that is no text is a foreign error. -/
  | textless {fault : Fault} {error : ClientError} (htype : o.type.isText = true) (h : response.text = .error fault)
      (hrecords : error.Records 2 fault) : Means o response (.failure 2 error)
  /-- Everything else is the body as it is. -/
  | document (hjson : o.type ≠ .jsonContent) (htext : o.type.isText = false) :
      Means o response (.success (.document ⟨response.body, o.mediaType.1, o.mediaType.2⟩))

/-- Whatever an answer means, no failure is one of the last step. -/
theorem Means.step_eq {response : HttpResponse} {outcome : Outcome Product} (h : o.Means response outcome) :
    ∀ failure ∈ outcome.failures, failure.step = 2 := by
  cases h with
  | value | text | document => exact fun failure hfailure => absurd hfailure List.not_mem_nil
  | misread | tooDeep | textless => exact List.forall_mem_singleton.mpr rfl

end Output

namespace HttpTransport

/-- Something else than JSON is an error of the service, unless it nests too deep. -/
theorem badJson_eq (request : Request Payload) {response : HttpResponse} {e : Json.OctetsError}
    (h : response.json = .error e) :
    response.nestsTooDeep = true ∧ badJson request response e = .foreign e.toForeign ∨
    response.nestsTooDeep = false ∧ ∃ error : ClientError, badJson request response e = .client error ∧
      error.kind = .service ∧ error.cause = some (.foreign e.toForeign) := by
  unfold HttpResponse.nestsTooDeep badJson
  rw [h]
  dsimp only
  split
  · next hdeep => exact Or.inl ⟨decide_eq_true hdeep, rfl⟩
  · next hdeep => exact Or.inr ⟨decide_eq_false hdeep, _, rfl, rfl, rfl⟩

end HttpTransport

namespace Execution

variable {e : Execution}

/-- The body of an answer is read and made into what it means for the output. -/
theorem means_decode (e : Execution) (files : List (Text × Payload)) (response : HttpResponse) :
    e.output.Means response (outcomeOf e.output
      ((HttpTransport.decode (e.request files) response).map fun content =>
        ⟨content, response.status, response.headers⟩)) := by
  by_cases hjson : e.output.type = .jsonContent
  · have hformat : (e.request files).format = .json := if_pos hjson
    unfold HttpTransport.decode
    rw [hformat]
    cases hbody : response.json with
    | ok value =>
      have hproduct : Product.ofContent e.output (.value value) = .ok (.extraction (.value value)) := if_pos hjson
      simp only [Except.map, Except.mapError, outcomeOf, hproduct]
      exact .value hjson hbody
    | error cause =>
      simp only [Except.map, Except.mapError, outcomeOf]
      rcases HttpTransport.badJson_eq (e.request files) hbody with ⟨hdeep, hfault⟩ |
        ⟨hdeep, error, hfault, hkind, hcause⟩
      · rw [hfault]
        exact .tooDeep hjson hbody hdeep (Fault.records_wrap _ 2)
      · rw [hfault]
        exact .misread hjson hbody hdeep hkind hcause
  · cases htext : e.output.type.isText with
    | true =>
      have hformat : (e.request files).format = .text := (if_neg hjson).trans (if_pos htext)
      unfold HttpTransport.decode
      rw [hformat]
      cases hbody : response.text with
      | ok content =>
        have hproduct : Product.ofContent e.output (.value (.str content)) =
            .ok (.text content e.output.mediaType.1 e.output.mediaType.2) := (if_neg hjson).trans (if_pos htext)
        simp only [Except.map, outcomeOf, hproduct]
        exact .text htext hbody
      | error fault =>
        exact .textless htext hbody (Fault.records_wrap fault 2)
    | false =>
      have hnot : ¬ e.output.type.isText = true := by simp [htext]
      have hformat : (e.request files).format = .bytes := (if_neg hjson).trans (if_neg hnot)
      have hproduct : Product.ofContent e.output (.bytes response.body) =
          .ok (.document ⟨response.body, e.output.mediaType.1, e.output.mediaType.2⟩) :=
        (if_neg hjson).trans (if_neg hnot)
      unfold HttpTransport.decode
      rw [hformat]
      simp only [Except.map, outcomeOf, hproduct]
      exact .document hjson htext

/-- An execution over HTTP whose files are obtained and whose message is answered and not refused comes to what the
answer means for its output. -/
theorem start_run_of_answer {t : HttpTransport} (htransport : e.transport = t.transport) (hcalm : e.IsCalm)
    {files : List (Text × Payload)} {prepared : Session}
    (hfirst : (e.step 1 e.prepare).start around session = (.ok files, prepared)) {message : HttpRequest}
    (hposts : t.Posts (e.request files) around prepared message) {response : HttpResponse}
    (hanswer : around.service (prepared.sent.filterMap Sent.request?) message = .ok response)
    (hstatus : response.status < 400) :
    ∃ outcome, (e.run.start around session).1 = .ok outcome ∧ e.output.Means response outcome := by
  have hreply : ∀ before, prepared.Remarks before → ((e.transport.send (e.request files)).start around before).1 =
      (HttpTransport.decode (e.request files) response).map fun content =>
        ⟨content, response.status, response.headers⟩ := by
    rintro _ ⟨log, progress, rfl⟩
    rw [htransport, Transport.start_send]
    exact (hposts.of_remarks ⟨log, progress, rfl⟩).start_send hanswer hstatus
  exact ⟨_, start_run_of_reply hcalm hfirst hreply, e.means_decode files response⟩

end Execution

/-- The instructions of a build name the output that the draft has chosen. -/
theorem Draft.namedIn?_compile {draft : Draft} {build : Build} (h : draft.compile = .ok build)
    (htype : Text.ofString "type" ∉ Members.names draft.chosenOutput.options)
    (hnodup : (Members.names draft.chosenOutput.options).Nodup) :
    Output.namedIn? build.instructions = some draft.chosenOutput := by
  unfold Output.namedIn?
  rw [get?_output_of_compile h]
  exact Output.ofMembers?_members htype hnodup

/-- A message that is exchanged is sent last. -/
theorem HttpTransport.Posts.sent_of_exchanges {t : HttpTransport} {request : Request Payload} {message : HttpRequest}
    {prepared after : Session} {reply : Except Fault Answer} (h : t.Posts request around prepared message)
    (hexchanges : t.transport.Exchanges around prepared [⟨request, reply⟩] after) :
    after.sent = prepared.sent ++ [.request message] := by
  cases hexchanges with
  | send hbefore hsend hrest =>
    cases hrest with
    | none hlast =>
      have hsent := (h.of_remarks hbefore).sent
      obtain ⟨log, progress, rfl⟩ := hbefore
      obtain ⟨log', progress', rfl⟩ := hlast
      rw [Transport.start_send, Prod.mk.injEq] at hsend
      rw [← hsend.2]
      exact hsent

/-- **What an answer means follows from the output that was sent.** An execution over HTTP whose files can be obtained
and whose caller does not fail sends one message with the instructions, which name the output that was chosen. If the
service answers and does not refuse, the outcome is what the answer means for this output, and no failure is one of
the last step. -/
theorem execution_means_answer {t : HttpTransport} {job : Job} (htransport : job.transport = t.transport)
    (hunused : job.executed = false) (hparts : job.draft.parts ≠ [])
    (htype : Text.ofString "type" ∉ Members.names job.draft.chosenOutput.options)
    (hnodup : (Members.names job.draft.chosenOutput.options).Nodup) (timeout : Json)
    {callback : Option ProgressCallback} (htold : ∀ told, callback = some told → ∀ number, told number = .ok ())
    (hobtain : ∀ entry ∈ job.draft.files, ∃ session payload after,
      (Payload.obtain job.connection entry.2).start around session = (.ok payload, after)) (session : Session) :
    ∃ e files prepared, job.perform (Job.execute timeout callback) = (.ok e, { job with executed := true }) ∧
      (e.step 1 e.prepare).start around session = (.ok files, prepared) ∧
      ∀ message response, t.Posts (e.request files) around prepared message →
        around.service (prepared.sent.filterMap Sent.request?) message = .ok response → response.status < 400 →
        ∃ instructions outcome, message.body.Brings instructions ∧
          Output.namedIn? instructions = some job.draft.chosenOutput ∧
          (e.run.start around session).2.sent = prepared.sent ++ [.request message] ∧
          (e.run.start around session).1 = .ok outcome ∧ job.draft.chosenOutput.Means response outcome ∧
          ∀ failure ∈ outcome.failures, failure.step = 2 := by
  obtain ⟨build, hbuild, hfiles⟩ := Draft.exists_compile hparts
  obtain ⟨e, hexecute, hserves, hcallback, htransport', hconnection, houtput⟩ :=
    Job.perform_execute hunused hbuild timeout callback
  have hcalm : e.IsCalm := fun told h => htold told (hcallback ▸ h)
  have hobtainable : ∀ entry ∈ e.build.files, Payload.Obtainable e.connection around entry.2 := by
    rw [hserves, hfiles, hconnection]
    intro entry hentry
    obtain ⟨_, _, _, hstart⟩ := hobtain entry hentry
    exact Payload.obtainable_of_start hstart
  obtain ⟨files, prepared, hfirst, -, -⟩ := Execution.start_first (hcalm.isCompleted 1) hobtainable session
  refine ⟨e, files, prepared, hexecute, hfirst, fun message response hposts hanswer hstatus => ?_⟩
  rw [htransport] at htransport'
  obtain ⟨outcome, hrun, hmeans⟩ := Execution.start_run_of_answer htransport' hcalm hfirst hposts hanswer hstatus
  obtain ⟨reply, hexchanges⟩ := Execution.exchanges_run hfirst (hcalm.isCompleted 2)
  rw [htransport'] at hexchanges
  have hdata : (e.request files).data = .obj (Members.single "instructions" (.obj build.instructions)) := by
    rw [← hserves]
    rfl
  rw [houtput] at hmeans
  exact ⟨build.instructions, outcome, hposts.brings hdata, Draft.namedIn?_compile hbuild htype hnodup,
    hposts.sent_of_exchanges hexchanges, hrun, hmeans, hmeans.step_eq⟩

/-- A job that sends a blank page over HTTP. -/
def blankJob (output : Output) : Job where
  transport := HttpTransport.plain.transport
  connection := .own
  draft := { (Draft.addPart (.blank (.int 1)) {}).2 with output := some output }

/-- Surroundings in which the service gives one answer to everything. -/
def Surroundings.answering (response : HttpResponse) : Surroundings :=
  { Surroundings.empty with service := fun _ _ => .ok response }

/-- Page images in a given format. -/
def pngOutput : Output := ⟨.image, [("format", .str "png"), ("dpi", .int 300)]⟩

/-- Page images are the body of the answer, under the media type and the name of the format in the message. -/
theorem blankJob_means_answer :
    ((blankJob pngOutput).executed = false ∧ (blankJob pngOutput).draft.parts ≠ [] ∧
      Text.ofString "type" ∉ Members.names pngOutput.options ∧ (Members.names pngOutput.options).Nodup) ∧
    ∃ e instructions message, (blankJob pngOutput).perform (Job.execute .null none) =
        (.ok e, { blankJob pngOutput with executed := true }) ∧
      (e.run.start (.answering ⟨200, [], [1, 2], none⟩) {}).2.sent = [.request message] ∧
      message.body.Brings instructions ∧ Output.namedIn? instructions = some pngOutput ∧
      (e.run.start (.answering ⟨200, [], [1, 2], none⟩) {}).1 =
        .ok (.success (.document ⟨[1, 2], "image/png", "output.png"⟩)) := by
  have hparts : (blankJob pngOutput).draft.parts ≠ [] := by decide
  have htype : Text.ofString "type" ∉ Members.names pngOutput.options := by decide
  have hnodup : (Members.names pngOutput.options).Nodup := by decide
  obtain ⟨e, files, prepared, hexecute, hfirst, hmeans⟩ :=
    @execution_means_answer (.answering ⟨200, [], [1, 2], none⟩) .plain (blankJob pngOutput) rfl rfl hparts htype hnodup
      .null none (fun told htold => by cases htold)
      (fun entry hentry => absurd hentry List.not_mem_nil) {}
  cases hexecute
  cases hfirst
  obtain ⟨instructions, outcome, hbrings, hnamed, hsent, hrun, houtcome, -⟩ :=
    hmeans _ ⟨200, [], [1, 2], none⟩ ⟨_, _, _, rfl, rfl, rfl, rfl⟩ rfl (by decide)
  refine ⟨⟨rfl, hparts, htype, hnodup⟩, _, instructions, _, rfl, hsent, hbrings, hnamed, hrun.trans ?_⟩
  cases houtcome with
  | document => rfl
  | _ => contradiction

/-- A body of nothing but opening brackets, one more than may be nested. -/
def deeplyNested : HttpResponse := ⟨200, [], List.replicate (Json.maxDepth + 1) 0x5B, none⟩

/-- Extracted content that nests too deep is a failure, but no error of the service. -/
theorem deeplyNested_is_no_service_error :
    ∃ e error, (blankJob (Output.jsonContent {})).perform (Job.execute .null none) =
        (.ok e, { blankJob (Output.jsonContent {}) with executed := true }) ∧
      (e.run.start (.answering deeplyNested) {}).1 = .ok (.failure 2 error) ∧ error.kind = .general := by
  have hdeep : deeplyNested.nestsTooDeep = true := by decide +kernel
  obtain ⟨build, hbuild, -⟩ := Draft.exists_compile
    (show (blankJob (Output.jsonContent {})).draft.parts ≠ [] by decide)
  obtain ⟨e, hexecute, -, hcallback, -⟩ := Job.perform_execute rfl hbuild .null none
  cases hexecute
  obtain ⟨outcome, hrun, hmeans⟩ := @Execution.start_run_of_answer (.answering deeplyNested) {} _ .plain rfl
    (Execution.isCalm_of_callback hcallback) _ _ rfl _ ⟨_, _, _, rfl, rfl, rfl, rfl⟩ deeplyNested rfl (by decide)
  cases hmeans with
  | tooDeep _ _ _ hrecords => exact ⟨_, _, rfl, hrun, hrecords.1⟩
  | value _ h => simp [HttpResponse.nestsTooDeep, h] at hdeep
  | misread _ _ hshallow => cases hdeep.symm.trans hshallow
  | text htype => exact Bool.noConfusion htype
  | textless htype => exact Bool.noConfusion htype
  | document htype => exact absurd rfl htype

end DocBuild
