import DocBuild.Proofs.Build.Rollback
import DocBuild.Proofs.Job.Answer

/-!
# What an analysis sends

An analysis sends the instructions of the build that an execution of the same job would send, as JSON and without
files. The execution sends them as JSON as well if the build has no files, and otherwise as the JSON text in the only
field of a form; so the service reads the same instructions from either message. The build has no files exactly if no
accepted call refers to a file and no refused one has left files behind.
-/

namespace DocBuild

open Run

variable {around : Surroundings} {session prepared after : Session}

/-- The requests that were sent to the service. -/
def Session.requests (session : Session) : List HttpRequest := session.sent.filterMap Sent.request?

/-- What is sent last is the last request, if it is one to the service. -/
theorem Session.requests_of_sent {message : HttpRequest} (h : after.sent = prepared.sent ++ [.request message]) :
    after.requests = prepared.requests ++ [message] := by
  rw [requests, h, List.filterMap_append]
  rfl

/-- Obtaining files sends no request to the service. -/
theorem Execution.keeps_requests_first (e : Execution) : (e.step 1 e.prepare).Keeps Session.requests := by
  have hrecord (fetch : Fetch) : (record (.fetch fetch)).Keeps Session.requests :=
    keeps_modify fun session => by simp [Session.requests, Sent.request?]
  have hobtain (input : FileInput) : (Payload.obtain e.connection input).Keeps Session.requests :=
    Payload.keeps_obtain hrecord (keeps_log fun _ _ => rfl) (fun _ _ _ => rfl) e.connection input
  have hreport : (e.report 1).Keeps Session.requests := by
    intro around session
    rw [e.start_report_eq]
    rfl
  exact hreport.bind fun _ => (Payload.keeps_obtainAll (fun _ _ _ => rfl) fun input _ => hobtain input).map _

/-- The files of calls are none exactly if the accepted ones refer to none and no call strands any. -/
theorem Draft.files_after_eq_nil_iff (calls : List DraftCall) :
    (Draft.after {} calls).files = [] ↔
      DraftCall.references (Draft.accepted {} calls) = [] ∧ ∀ call ∈ calls, call.strands = false := by
  have hreferences : (DraftCall.references (Draft.accepted {} calls)).length =
      ((Draft.accepted {} calls).flatMap DraftCall.enclosures).length := by
    rw [← DraftCall.map_enclosure_referencesFrom 0 0, List.length_map]
    rfl
  have hkept := Draft.length_kept {} calls
  simp only [← DraftCall.leftover_eq_nil_iff]
  rw [← List.flatMap_eq_nil_iff, files_after, List.nil_append, ← List.length_eq_zero_iff, ← List.length_eq_zero_iff,
    ← List.length_eq_zero_iff, numbered_length]
  omega

namespace HttpTransport

variable {t : HttpTransport} {request : Request Payload} {key url : Text} {instructions : Members}

/-- What goes into a form is under the keys of the files. -/
theorem keys_attachments {files : List (Text × Payload)} {sent : List (Text × Attachment)}
    (h : ((attachments files).start around session).1 = .ok sent) : sent.map Prod.fst = files.map Prod.fst := by
  induction files generalizing session sent with
  | nil =>
    cases h
    rfl
  | cons file rest ih =>
    unfold attachments at h
    rcases hpeek : file.2.peek.start around session with ⟨fault | data, reached⟩
    · rw [start_bind_of_error hpeek] at h
      contradiction
    · rw [start_bind_of_ok hpeek, start_bind_pure] at h
      cases hrest : ((attachments rest).start around reached).1 with
      | error fault =>
        rw [hrest] at h
        contradiction
      | ok others =>
        rw [hrest] at h
        cases h
        rw [List.map_cons, List.map_cons, ih hrest]

/-- If the key and the address are known, a message is sent for a request exactly if it has a body. -/
theorem exists_posts_iff (hkey : t.key.resolve = .ok key) (haddress : t.address request.endpoint = .ok url) :
    (∃ message, t.Posts request around session message) ↔ request.HasBody session := by
  have hbody := @hinges_body around session request
  constructor
  · rintro ⟨_, _, _, form, -, -, hform, -⟩
    rw [hform] at hbody
    exact hbody
  · intro hhas
    cases hform : ((body request).start around session).1 with
    | ok form => exact ⟨_, key, url, form, hkey, haddress, hform, rfl⟩
    | error fault =>
      rw [hform] at hbody
      exact absurd hhas hbody.2

/-- The message for a request without files has its data as JSON. -/
theorem Posts.body_of_unattached {message : HttpRequest} (h : t.Posts request around session message)
    (hdata : request.data = .obj instructions) (hfiles : request.attached = []) :
    message.body = .json (.obj instructions) := by
  obtain ⟨_, _, form, -, -, hform, rfl⟩ := h
  rw [start_body_of_unattached hdata hfiles] at hform
  cases hform
  rfl

/-- The message for a request with instructions and files is a form with the instructions as its only field. -/
theorem Posts.body_of_attached {message : HttpRequest} (h : t.Posts request around session message)
    (hdata : request.data = .obj (Members.single "instructions" (.obj instructions))) (hfiles : request.attached ≠ []) :
    ∃ sent, message.body = .form sent [("instructions", (Json.obj instructions).compact)] ∧
      sent.map Prod.fst = request.attached.map Prod.fst := by
  obtain ⟨_, _, form, -, -, hform, rfl⟩ := h
  rw [start_body_of_attached hdata hfiles] at hform
  cases hsent : ((attachments request.attached).start around session).1 with
  | error fault =>
    rw [hsent] at hform
    contradiction
  | ok sent =>
    rw [hsent] at hform
    cases hform
    exact ⟨sent, rfl, keys_attachments hsent⟩

/-- The message for a request goes to the address of its endpoint. -/
theorem Posts.address_eq {message : HttpRequest} (h : t.Posts request around session message) :
    t.address request.endpoint = .ok message.url := by
  obtain ⟨_, _, _, -, haddress, -, rfl⟩ := h
  exact haddress

end HttpTransport

/-- An analysis over HTTP sends the message for its request, and nothing else. -/
theorem Analysis.sent_run {t : HttpTransport} {a : Analysis} (htransport : a.transport = t.transport)
    {message : HttpRequest} (h : t.Posts a.request around session message) :
    (a.run.start around session).2.sent = session.sent ++ [.request message] := by
  have hsent : ((a.transport.send a.request).start around session).2.sent = session.sent ++ [.request message] := by
    rw [htransport, Transport.start_send]
    exact h.sent
  have hlog (message : Text) : (log .error message []).Keeps Session.sent := keeps_log (fun _ _ => rfl) _ _ _
  unfold run
  rw [start_bind_attempt]
  rcases hreply : (a.transport.send a.request).start around session with ⟨fault | answer, reached⟩
  · rw [hreply] at hsent
    exact (view_bind (fun _ => keeps_pure _) around reached).trans ((hlog _ around reached).trans hsent)
  · rw [hreply] at hsent
    exact hsent

/-- **An analysis sends the build that an execution would send.** For a job over HTTP that was not started and has
parts, whose files can be obtained and whose caller does not fail before the build is sent: an analysis sends one
request, and an execution sends one exactly if all files can be read. The former has the instructions of the build as
JSON, the latter as JSON if the build has no files and otherwise as the JSON text in the only field of a form with the
files; and if this text is read as what was written, the service reads the instructions of the build from both. The
key of every file that an accepted call refers to stands at its place in them. There are no files exactly if there are
no such references and no refused call has left files behind. -/
theorem analysis_sends_build_of_execution {t : HttpTransport} {calls : List DraftCall}
    (hdocument : ∀ call ∈ calls, call.isForDocument = true) {job : Job} (htransport : job.transport = t.transport)
    (hdraft : job.draft = Draft.after {} calls) (hunused : job.executed = false) (hparts : job.draft.parts ≠ [])
    {key base : Text} (hkey : t.key.resolve = .ok key) (hbase : t.baseUrl = .str base) (timeout : Json)
    {callback : Option ProgressCallback} (htold : ∀ told, callback = some told → told 1 = .ok () ∧ told 2 = .ok ())
    (hobtain : ∀ entry ∈ job.draft.files, ∃ session payload after,
      (Payload.obtain job.connection entry.2).start around session = (.ok payload, after)) (session : Session) :
    ∃ build a e files prepared analysed, job.draft.compile = .ok build ∧
      job.perform (Job.analyse timeout) = (.ok a, { job with executed := true }) ∧
      job.perform (Job.execute timeout callback) = (.ok e, { job with executed := true }) ∧
      (e.step 1 e.prepare).start around session = (.ok files, prepared) ∧
      (a.run.start around session).2.requests = session.requests ++ [analysed] ∧
      t.address (.str Analysis.endpoint) = .ok analysed.url ∧
      analysed.body = .json (.obj (Members.single "instructions" build.tree)) ∧
      ((∃ executed, t.Posts (e.request files) around prepared executed) ↔
        ∀ file ∈ files, file.2.IsReadable prepared) ∧
      (∀ executed, t.Posts (e.request files) around prepared executed →
        (e.run.start around session).2.requests = session.requests ++ [executed] ∧
        t.address (.str Execution.endpoint) = .ok executed.url ∧
        (build.files = [] → executed.body = .json (.obj (Members.single "instructions" build.tree))) ∧
        (build.files ≠ [] → ∃ sent, executed.body = .form sent [("instructions", build.tree.compact)] ∧
          sent.map Prod.fst = build.files.map Prod.fst) ∧
        (Json.parse build.tree.compact = .ok build.tree →
          analysed.body.instructions? = some build.tree ∧ executed.body.instructions? = some build.tree)) ∧
      (∀ r ∈ DraftCall.references (Draft.accepted {} calls), ∃ key,
        build.tree.at? r.path = some (.str key) ∧ (key, r.enclosure.input) ∈ build.files) ∧
      (build.files = [] ↔
        DraftCall.references (Draft.accepted {} calls) = [] ∧ ∀ call ∈ calls, call.strands = false) := by
  obtain ⟨build, hbuild, hfiles⟩ := Draft.exists_compile hparts
  obtain ⟨a, hanalyse, hshown, hover⟩ := Job.perform_analyse hunused hbuild timeout
  obtain ⟨e, hexecute, hserves, hcallback, htransport', hconnection, -⟩ :=
    Job.perform_execute hunused hbuild timeout callback
  have hone : (e.progressReport 1).isCompleted = true :=
    Execution.isCompleted_of_told fun told h => (htold told (hcallback ▸ h)).1
  have htwo : (e.progressReport 2).isCompleted = true :=
    Execution.isCompleted_of_told fun told h => (htold told (hcallback ▸ h)).2
  have hobtainable : ∀ entry ∈ e.build.files, Payload.Obtainable e.connection around entry.2 := by
    rw [hserves, hfiles, hconnection]
    intro entry hentry
    obtain ⟨_, _, _, hstart⟩ := hobtain entry hentry
    exact Payload.obtainable_of_start hstart
  obtain ⟨files, prepared, hfirst, -, -⟩ := Execution.start_first hone hobtainable session
  have hkeys : files.map Prod.fst = build.files.map Prod.fst := by
    rw [← hserves]
    rw [Execution.start_step hone] at hfirst
    exact Execution.keys_prepare hfirst
  have haddress (path : Text) : ∃ url, t.address (.str path) = .ok url := by
    unfold HttpTransport.address
    rw [hbase]
    exact ⟨_, rfl⟩
  obtain ⟨analysisUrl, hanalysisUrl⟩ := haddress Analysis.endpoint
  obtain ⟨executionUrl, hexecutionUrl⟩ := haddress Execution.endpoint
  -- Both requests have the instructions of the build for their data.
  have hdata : a.request.data = .obj (Members.single "instructions" (.obj build.instructions)) := by
    rw [← hshown]
    rfl
  have hdata' : (e.request files).data = .obj (Members.single "instructions" (.obj build.instructions)) := by
    rw [← hserves]
    rfl
  obtain ⟨analysed, hanalysed⟩ : ∃ message, t.Posts a.request around session message :=
    (HttpTransport.exists_posts_iff hkey hanalysisUrl).mpr (Or.inl rfl)
  have hbody : (e.request files).HasBody prepared ↔ ∀ file ∈ files, file.2.IsReadable prepared := by
    constructor
    · rintro (hnil | ⟨-, hall⟩)
      · obtain rfl : files = [] := hnil
        exact fun file hfile => absurd hfile List.not_mem_nil
      · exact hall
    · exact fun hall => Or.inr ⟨Or.inl ⟨_, hdata'⟩, hall⟩
  refine ⟨build, a, e, files, prepared, analysed, hbuild, hanalyse, hexecute, hfirst,
    Session.requests_of_sent (Analysis.sent_run (hover.trans htransport) hanalysed), hanalysed.address_eq,
    hanalysed.body_of_unattached hdata rfl, (HttpTransport.exists_posts_iff hkey hexecutionUrl).trans hbody,
    fun executed hexecuted => ?_, ?_, ?_⟩
  · obtain ⟨reply, hexchanges⟩ := Execution.exchanges_run hfirst htwo
    rw [htransport', htransport] at hexchanges
    have hkept := e.keeps_requests_first around session
    rw [hfirst] at hkept
    refine ⟨?_, hexecuted.address_eq, fun hnone => ?_, fun hsome => ?_, fun hparse => ?_⟩
    · rw [Session.requests_of_sent (hexecuted.sent_of_exchanges hexchanges), hkept]
    · rw [hnone] at hkeys
      exact hexecuted.body_of_unattached hdata' (List.map_eq_nil_iff.mp hkeys)
    · have hattached : (e.request files).attached ≠ [] := by
        rintro hnil
        obtain rfl : files = [] := hnil
        exact hsome (List.map_eq_nil_iff.mp hkeys.symm)
      obtain ⟨sent, hform, hsent⟩ := hexecuted.body_of_attached hdata' hattached
      exact ⟨sent, hform, hsent.trans hkeys⟩
    · exact ⟨(hanalysed.brings hdata).instructions?_eq hparse, (hexecuted.brings hdata').instructions?_eq hparse⟩
  · intro r hr
    rw [hfiles, hdraft]
    rw [hdraft] at hbuild
    exact Draft.refers_after hbuild {} calls hdocument List.prefix_rfl List.prefix_rfl (List.Subset.refl _) r hr
  · rw [hfiles, hdraft]
    exact Draft.files_after_eq_nil_iff calls

/-- A file and a blank page behind it. -/
def fileAndBlank : List DraftCall :=
  [.addPart ⟨.file (.bytes [120]) none .null .null, []⟩, .addPart (.blank (.int 1))]

/-- A job over HTTP with what calls have made. -/
def calledJob (calls : List DraftCall) : Job :=
  { transport := HttpTransport.plain.transport, connection := .own, draft := Draft.after {} calls }

/-- The instructions for a file and a blank page are read from the message of the analysis and from that of the
execution, which is a form with the file. -/
theorem fileAndBlank_sends_same_build :
    ((∀ call ∈ fileAndBlank, call.isForDocument = true) ∧ (calledJob fileAndBlank).executed = false ∧
      (calledJob fileAndBlank).draft.parts ≠ []) ∧
    ∃ build a e analysed executed, (calledJob fileAndBlank).draft.compile = .ok build ∧
      (calledJob fileAndBlank).perform (Job.analyse .null) =
        (.ok a, { calledJob fileAndBlank with executed := true }) ∧
      (calledJob fileAndBlank).perform (Job.execute .null none) =
        (.ok e, { calledJob fileAndBlank with executed := true }) ∧
      (a.run.start .empty {}).2.requests = [analysed] ∧ (e.run.start .empty {}).2.requests = [executed] ∧
      executed.body = .form [("file0", ⟨.str Payload.bufferName, .null, [120]⟩)]
        [("instructions", build.tree.compact)] ∧
      analysed.body.instructions? = some build.tree ∧ executed.body.instructions? = some build.tree := by
  have hdocument : ∀ call ∈ fileAndBlank, call.isForDocument = true := by decide
  have hparts : (calledJob fileAndBlank).draft.parts ≠ [] := by decide
  have hobtain : ∀ entry ∈ (calledJob fileAndBlank).draft.files, ∃ session payload after,
      (Payload.obtain .own entry.2).start .empty session = (.ok payload, after) :=
    List.forall_mem_singleton.mpr ⟨{}, _, _, rfl⟩
  obtain ⟨build, a, e, files, prepared, analysed, hbuild, hanalyse, hexecute, hfirst, hsent, -, -, hposts, hexecuted,
      -, -⟩ := @analysis_sends_build_of_execution .empty .plain fileAndBlank hdocument (calledJob fileAndBlank) rfl rfl
    rfl hparts _ _ rfl rfl .null none (fun told htold => by cases htold) hobtain {}
  cases hbuild
  cases hexecute
  cases hfirst
  obtain ⟨hrequests, -, -, -, hparse⟩ := hexecuted _ ⟨_, _, _, rfl, rfl, rfl, rfl⟩
  exact ⟨⟨hdocument, rfl, hparts⟩, _, a, _, analysed, _, rfl, hanalyse, rfl, hsent, hrequests, rfl, hparse rfl⟩

/-- A blank page that is added after markup with a broken layout. -/
def blankAfterBrokenLayout : List DraftCall := [brokenLayout, .addPart (.blank (.int 1))]

/-- The instructions refer to no file, but the file of the refused markup is sent with them as a form. -/
theorem blankAfterBrokenLayout_sends_form :
    ∃ build e executed, (calledJob blankAfterBrokenLayout).draft.compile = .ok build ∧
      build.tree = .obj
        [("parts", .arr [.obj [("page", .str "new"), ("pageCount", .int 1)]]), ("output", .obj [("type", .str "pdf")])] ∧
      build.files = [(Text.ofString "html0", .bytes [120])] ∧
      (calledJob blankAfterBrokenLayout).perform (Job.execute .null none) =
        (.ok e, { calledJob blankAfterBrokenLayout with executed := true }) ∧
      (e.run.start .empty {}).2.requests = [executed] ∧
      executed.body = .form [("html0", ⟨.str Payload.bufferName, .null, [120]⟩)]
        [("instructions", build.tree.compact)] :=
  ⟨_, _, _, rfl, rfl, rfl, rfl, rfl, rfl⟩

end DocBuild
