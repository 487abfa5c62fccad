import DocBuild.Proofs.Client.Splitting
import DocBuild.Proofs.Job.Answer
import DocBuild.Proofs.Secrecy.Client
import DocBuild.Proofs.Status.Running

/-!
# Success means answers below 400

Whatever a caller asks of a job or of a client over HTTP, if the reply is no failure, every file that was fetched was
answered with a status from 200 to 299, and every request to the service with a status below 400. For the service this
is all that is looked at: an answer below 400 makes the product that its body means, be it a continuation, a redirect
or a success.
-/

namespace DocBuild

open Run

variable {around : Surroundings} {session : Session}

/-- Whether a reply of a job is no failure of a run. -/
def JobReply.succeeds : JobReply → Bool
  | executed outcome => outcome.succeeded
  | analysed outcome => outcome.succeeded
  | done | stage _ | build _ => true

/-- What a job begins goes through the transport of the job. -/
theorem Demand.through_of_begin {demand : Demand} {job left : Job} {begun : Begun}
    (h : job.perform demand.begin = (.ok begun, left)) : begun.through job.transport = begun := by
  have hcarries := demand.carries_begin (t := job.transport) job
  have hsame : job.through job.transport = job := rfl
  rw [hsame, h] at hcarries
  exact (Except.ok.inj (congrArg Prod.fst hcarries)).symm

namespace JobCall

/-- A reply that is no failure heeds all answers. -/
theorem heeds_reply (call : JobCall) {t : Transport} (h : t.Heeds) (begun : Begun) :
    (call.reply (begun.through t)).Heeds fun reply => reply.succeeds = true := by
  cases begun with
  | done =>
    change (call.reply .done).Heeds _
    unfold reply
    dsimp only
    split <;> exact heeds_pure _
  | build shown => exact heeds_pure _
  | execution e =>
    refine (Execution.heeds_run (e := e.through t) h).bind_of (fun _ => heeds_pure _) ?_
    rintro _ _ outcome _ _ hstart hsucceeds
    cases hstart
    exact hsucceeds
  | analysis a =>
    refine (Analysis.heeds_run (a := a.through t) h).bind_of (fun _ => heeds_pure _) ?_
    rintro _ _ outcome _ _ hstart hsucceeds
    cases hstart
    exact hsucceeds

/-- A call on a job heeds all answers if its reply is no failure. -/
theorem heeds_on (call : JobCall) {job : Job} (h : job.transport.Heeds) :
    (call.on job).Heeds fun found => ∃ reply, found.1 = .ok reply ∧ reply.succeeds = true := by
  unfold on
  rcases hbegin : job.perform call.demand.begin with ⟨fault | begun, left⟩
  · exact heeds_pure _
  · have hreply := call.heeds_reply h begun
    rw [Demand.through_of_begin hbegin] at hreply
    refine hreply.bind_of (fun _ => heeds_pure _) ?_
    rintro _ _ reply _ _ hstart ⟨found, hfound, hsucceeds⟩
    cases hstart
    cases hfound
    exact hsucceeds

end JobCall

namespace Client

variable {c : Client}

/-- What is done to each item heeds all answers if it does for each of them. -/
theorem heeds_each {α β : Type} {f : α → Run β} (h : ∀ a, (f a).Heeds fun _ => True) (items : List α) :
    (each f items).Heeds fun _ => True := by
  induction items with
  | nil => exact heeds_pure _
  | cons a rest ih => exact (h a).bind fun b => ih.bind fun others => heeds_pure _

/-- If something is made of each item without anything being sent, it is what each of them gives. -/
theorem forall₂_of_start_each {α β : Type} {f : α → Except Fault β} {items : List α} {values : List β}
    {after : Session}
    (h : (each (fun a => Run.ofExcept (f a)) items).start around session = (.ok values, after)) :
    List.Forall₂ (fun item value => f item = .ok value) items values ∧ after = session := by
  induction items generalizing values with
  | nil =>
    cases h
    exact ⟨.nil, rfl⟩
  | cons item rest ih =>
    obtain ⟨value, reached, hvalue, h⟩ := exists_of_start_bind h
    rw [start_ofExcept] at hvalue
    obtain ⟨hitem, rfl⟩ := Prod.mk.inj hvalue
    obtain ⟨others, _, hothers, h⟩ := exists_of_start_bind h
    cases h
    obtain ⟨hall, rfl⟩ := ih hothers
    exact ⟨.cons hitem hall, rfl⟩

/-- If a split has no failures, all of its outcomes are successes. -/
theorem succeeded_of_splitFailures {ranges : List PageRange} {outcomes : List (Outcome Product)}
    (hlength : outcomes.length = ranges.length) (h : splitFailures ranges outcomes = []) :
    ∀ outcome ∈ outcomes, outcome.succeeded = true := by
  intro outcome houtcome
  obtain ⟨i, hi, rfl⟩ := List.getElem_of_mem houtcome
  refine Bool.of_not_eq_false fun hfailed => ?_
  have hmem := mem_splitFailures.mpr ⟨outcomes[i], List.getElem?_eq_getElem (hlength ▸ hi),
    List.getElem?_eq_getElem hi, hfailed, rfl⟩
  rw [h] at hmem
  exact absurd hmem List.not_mem_nil

/-- Loading a source heeds all answers. -/
theorem heeds_load (c : Client) (file : FileInput) : (c.load file).Heeds fun _ => True := by
  have hcount (payload : Payload) : payload.countPages.Heeds fun _ => True :=
    (heeds_of_keeps payload.keeps_sent_read).bind fun read => (heeds_ofExcept _).bind fun count => heeds_pure _
  exact (Payload.heeds_obtain _ _).bind fun payload => (hcount payload).bind fun counted =>
    (heeds_of_keeps counted.2.keeps_sent_read).bind fun read => (heeds_log _ _ _).bind fun _ => heeds_pure _

/-- The pages that indices mean are found without anything being sent. -/
theorem heeds_resolveIndices (count indices : Json) : (resolveIndices count indices).Heeds fun _ => True :=
  (heeds_ofExcept _).bind fun items => heeds_each (fun _ => heeds_ofExcept _) items

section Operations

variable (h : c.transport.Heeds)

include h

/-- A build heeds all answers. -/
theorem heeds_build (parts : List Part) (actions : List Action) (output : Output) :
    (c.build parts actions output).Heeds fun _ => True := by
  unfold build
  cases hexecution : c.execution parts actions output with
  | error fault => exact heeds_throw fault
  | ok e =>
    rw [ofExcept_ok_bind]
    have htransport : e.transport.Heeds := by
      rw [(of_execution hexecution).2.1]
      exact h
    refine (Execution.heeds_run htransport).bind_of (fun outcome => heeds_ofExcept _) ?_
    rintro _ _ outcome product _ hstart -
    rw [start_ofExcept] at hstart
    have hproduct := congrArg Prod.fst hstart
    unfold Outcome.toExcept at hproduct
    split at hproduct
    · next hsucceeded _ => exact hsucceeded
    · cases hproduct

/-- A build of a PDF heeds all answers. -/
theorem heeds_buildPdf (parts : List Part) (actions : List Action) :
    (c.buildPdf parts actions).Heeds fun _ => True :=
  (heeds_build h _ _ _).bind fun _ => heeds_ofExcept _

/-- An action on a file heeds all answers. -/
theorem heeds_applyAction (file : FileInput) (action : Except ActionError Action) :
    (c.applyAction file action).Heeds fun _ => True :=
  (heeds_ofExcept _).bind fun _ => heeds_buildPdf h _ _

/-- Account information heeds the answer. -/
theorem heeds_accountInfo : c.accountInfo.Heeds fun _ => True := (h _).bind fun _ => heeds_pure _

/-- A conversion heeds all answers. -/
theorem heeds_convert (file : FileInput) (format : Json) : (c.convert file format).Heeds fun _ => True :=
  (heeds_ofExcept _).bind fun output => heeds_build h _ _ output

/-- An extraction of text heeds all answers. -/
theorem heeds_extractText (file : FileInput) : (c.extractText file).Heeds fun _ => True := by
  refine (heeds_build h _ _ _).bind fun product => ?_
  cases product with
  | extraction content => exact heeds_pure _
  | _ => exact heeds_throw _

/-- A merge heeds all answers. -/
theorem heeds_merge (files : List FileInput) (format : Json) : (c.merge files format).Heeds fun _ => True :=
  Heeds.guarded (fun _ => (heeds_ofExcept _).bind fun output => heeds_build h _ _ output) _ _

/-- A compression heeds all answers. -/
theorem heeds_compress (file : FileInput) (level : Json) : (c.compress file level).Heeds fun _ => True :=
  (heeds_ofExcept _).bind fun _ => (heeds_build h _ _ _).bind fun _ => heeds_ofExcept _

/-- A rotation heeds all answers. -/
theorem heeds_rotate (file : FileInput) (angle : Json) (range : Option PageRange) :
    (c.rotate file angle range).Heeds fun _ => True := by
  refine (heeds_ofExcept _).bind fun action => ?_
  cases range with
  | none => exact heeds_buildPdf h _ _
  | some range =>
    exact (heeds_load c file).bind fun source => (heeds_ofExcept _).bind fun span => heeds_buildPdf h _ _

/-- An insertion heeds all answers. -/
theorem heeds_addPage (file : FileInput) (count index : Json) : (c.addPage file count index).Heeds fun _ => True := by
  refine (heeds_ofExcept _).bind fun number => Heeds.guarded (fun _ => ?_) _ _
  split
  · exact heeds_buildPdf h _ _
  · exact (heeds_load c file).bind fun source => (heeds_ofExcept _).bind fun place =>
      Heeds.guarded (fun _ => heeds_buildPdf h _ _) _ _

/-- A duplication heeds all answers. -/
theorem heeds_duplicatePages (file : FileInput) (indices : Json) :
    (c.duplicatePages file indices).Heeds fun _ => True := by
  unfold duplicatePages
  refine Heeds.guarded (fun _ => ?_) _ _
  exact (heeds_load c file).bind fun source => (heeds_resolveIndices source.count indices).bind fun pages =>
    heeds_buildPdf h _ _

/-- A deletion heeds all answers. -/
theorem heeds_deletePages (file : FileInput) (indices : Json) :
    (c.deletePages file indices).Heeds fun _ => True := by
  unfold deletePages
  refine Heeds.guarded (fun _ => ?_) _ _
  exact (heeds_load c file).bind fun source => (heeds_resolveIndices source.count indices).bind fun pages =>
    (heeds_ofExcept _).bind fun parts => heeds_buildPdf h _ _

/-- A split heeds all answers: none of its executions has failed. -/
theorem heeds_split (file : FileInput) (ranges : List PageRange) : (c.split file ranges).Heeds fun _ => True := by
  refine Heeds.guarded (fun _ => (heeds_load c file).bind fun source => ?_) _ _
  intro around session documents after hstart _
  obtain ⟨spans, _, hspans, hspanned⟩ := exists_of_start_bind hstart
  obtain ⟨hresolved, rfl⟩ := forall₂_of_start_each hspans
  obtain ⟨executions, _, hexecutions, hbegun⟩ := exists_of_start_bind hspanned
  obtain ⟨hexecuted, rfl⟩ := forall₂_of_start_each hexecutions
  obtain ⟨_, logged, hlog, hannounced⟩ := exists_of_start_bind hbegun
  obtain ⟨outcomes, ran, hrun, hdone⟩ := exists_of_start_bind hannounced
  have htransports : ∀ e ∈ executions, e.transport.Heeds := by
    intro e he
    obtain ⟨i, hi, rfl⟩ := List.getElem_of_mem he
    have hexecution := hexecuted.get (hexecuted.length_eq ▸ hi) hi
    exact (of_execution hexecution).2.1 ▸ h
  have hlength : outcomes.length = ranges.length := by
    rw [Execution.length_runAll hrun, ← hexecuted.length_eq, ← hresolved.length_eq]
  split at hdone
  · next hnone =>
    have hsucceeded := succeeded_of_splitFailures hlength hnone
    have hlogged := @heeds_log _ _ _ (fun _ => True) around _ _ _ hlog trivial
    have hran := Execution.heeds_runAll htransports around _ _ _ hrun hsucceeded
    have hfitted := heeds_each (fun _ => heeds_ofExcept _) _ around _ _ _ hdone trivial
    exact (hlogged.trans hran).trans hfitted
  · cases hdone

/-- Every operation that a client offers heeds all answers, whatever its arguments are. -/
theorem heeds_meaning (args : Arguments) : ∀ call ∈ calls, (call.meaning args c).Heeds fun _ => True := by
  have hof {α : Type} {x : Run α} (hx : x.Heeds fun _ => True) (f : α → ClientReply) :
      (f <$> x).Heeds fun _ => True := hx.map f fun _ _ => trivial
  have happly (file : FileInput) (action : Except ActionError Action) :
      (ClientReply.document <$> c.applyAction file action).Heeds fun _ => True :=
    hof (heeds_applyAction h file action) _
  simp only [calls, giving, List.forall_mem_cons]
  refine ⟨heeds_throw _, heeds_pure _, hof (heeds_accountInfo h) _, hof (heeds_convert h _ _) _, happly _ _,
    happly _ _, happly _ _, happly _ _, happly _ _, happly _ _, happly _ _, happly _ _, happly _ _, happly _ _,
    hof (heeds_extractText h _) _, ?_, hof (heeds_compress h _ _) _, hof (heeds_rotate h _ _ _) _,
    hof (heeds_addPage h _ _ _) _, hof (heeds_split h _ _) _, hof (heeds_duplicatePages h _ _) _,
    hof (heeds_deletePages h _ _) _, by simp⟩
  exact (heeds_ofExcept _).bind fun files => (heeds_merge h files _).bind fun _ => heeds_pure _

/-- An operation that is called by name heeds all answers. -/
theorem heeds_call (operation : Text) (args : Arguments) : (c.call operation args).Heeds fun _ => True := by
  unfold call
  cases hmake : NamedCall.make calls (.notOffered name operation) operation args with
  | error fault => exact heeds_throw fault
  | ok meaning =>
    obtain ⟨found, hfound, rfl⟩ := NamedCall.mem_of_make hmake
    exact heeds_meaning h args found hfound

end Operations

end Client

/-- **Success means that every answer was accepted, which for the service means a status below 400.** If a job or a
client over HTTP gives a reply that is no failure, every file that was fetched for it was answered with a status of
success, and every request to the service with a status below 400. This is all that is asked of a status: whichever
status below 400 the answer to an execution or to an analysis has, what the body means is the result, and only then. -/
theorem success_heeds_answers (t : HttpTransport) (around : Surroundings) :
    (∀ (call : JobCall) (job : Job), job.transport = t.transport → ∀ session reply left after,
      (call.on job).start around session = (.ok (.ok reply, left), after) → reply.succeeds = true →
        around.AcceptsAll session.sent after.sent) ∧
    (∀ c : Client, c.transport = t.transport → ∀ operation args session reply after,
      (c.call operation args).start around session = (.ok reply, after) →
        around.AcceptsAll session.sent after.sent) ∧
    (∀ e : Execution, e.transport = t.transport → e.IsCalm → ∀ session files prepared message response,
      (e.step 1 e.prepare).start around session = (.ok files, prepared) →
      t.Posts (e.request files) around prepared message →
      around.service (prepared.sent.filterMap Sent.request?) message = .ok response →
        ∃ outcome, (e.run.start around session).1 = .ok outcome ∧
          outcome.SucceedsWith fun product =>
            response.status < 400 ∧ e.output.Means response (.success product)) ∧
    ∀ a : Analysis, a.transport = t.transport → ∀ session message response,
      t.Posts a.request around session message →
      around.service (session.sent.filterMap Sent.request?) message = .ok response →
        ∃ outcome, (a.run.start around session).1 = .ok outcome ∧
          outcome.SucceedsWith fun content =>
            response.status < 400 ∧ ∃ value, response.json = .ok value ∧ content = .value value := by
  refine ⟨fun call job hjob session reply left after hstart hsucceeds => ?_,
    fun c hc operation args session reply after hstart => ?_,
    fun e he hcalm session files prepared message response hfirst hposts hanswer => ?_,
    fun a ha session message response hposts hanswer => ?_⟩
  · have hheeds : job.transport.Heeds := hjob ▸ t.heeds_transport
    exact call.heeds_on hheeds around session _ after hstart ⟨reply, rfl, hsucceeds⟩
  · have hheeds : c.transport.Heeds := hc ▸ t.heeds_transport
    exact Client.heeds_call hheeds operation args around session reply after hstart trivial
  · exact Execution.run_succeedsWith he hcalm hfirst hposts hanswer
  · exact Analysis.run_succeedsWith ha hposts hanswer

/-- An answer that sends the caller elsewhere. -/
def redirect : HttpResponse := ⟨302, [], [0x7B, 0x7D], none⟩

/-- A redirect is accepted for a build, for its analysis and for account information. -/
theorem redirect_is_accepted :
    (∃ product left after, (JobCall.on ⟨.execute .null none, none⟩ (blankJob (Output.pdf {}))).start
        (.answering redirect) {} = (.ok (.ok (.executed (.success product)), left), after) ∧
      (Surroundings.answering redirect).AcceptsAll [] after.sent) ∧
    (∃ reply after, (Client.call ⟨HttpTransport.plain.transport, .own, .null⟩ "get_account_info" []).start
        (.answering redirect) {} = (.ok reply, after) ∧
      (Surroundings.answering redirect).AcceptsAll [] after.sent) ∧
    (∃ e left, (blankJob (Output.pdf {})).perform (Job.execute .null none) = (.ok e, left) ∧
      ∃ outcome, (e.run.start (.answering redirect) {}).1 = .ok outcome ∧
        outcome.SucceedsWith fun product =>
          redirect.status < 400 ∧ e.output.Means redirect (.success product)) ∧
    ∃ a left, (blankJob (Output.pdf {})).perform (Job.analyse .null) = (.ok a, left) ∧
      ∃ outcome, (a.run.start (.answering redirect) {}).1 = .ok outcome ∧
        outcome.SucceedsWith fun content =>
          redirect.status < 400 ∧ ∃ value, redirect.json = .ok value ∧ content = .value value := by
  obtain ⟨hjob, hclient, hexecution, hanalysis⟩ := success_heeds_answers .plain (.answering redirect)
  refine ⟨⟨_, _, _, rfl, ?_⟩, ⟨_, _, rfl, ?_⟩, ⟨_, _, rfl, ?_⟩, ⟨_, _, rfl, ?_⟩⟩
  · exact hjob ⟨.execute .null none, none⟩ (blankJob (Output.pdf {})) rfl {} _ _ _ rfl rfl
  · exact hclient ⟨HttpTransport.plain.transport, .own, .null⟩ rfl "get_account_info" [] {} _ _ rfl
  · exact hexecution _ rfl (Execution.isCalm_of_callback rfl) {} [] _ _ redirect rfl ⟨_, _, _, rfl, rfl, rfl, rfl⟩ rfl
  · exact hanalysis _ rfl {} _ redirect ⟨_, _, _, rfl, rfl, rfl, rfl⟩ rfl

/-- A redirect counts as a document, although its status is none of success: the file would not have been fetched. -/
theorem redirect_counts_as_document :
    ∃ left after message, (JobCall.on ⟨.execute .null none, none⟩ (blankJob (Output.pdf {}))).start
        (.answering redirect) {} =
          (.ok (.ok (.executed (.success (.document ⟨redirect.body, "application/pdf", "output.pdf"⟩))), left), after) ∧
      after.sent = [.request message] ∧ (Surroundings.answering redirect).service [] message = .ok redirect ∧
      redirect.isSuccess = false :=
  ⟨_, _, _, rfl, rfl, rfl, rfl⟩

end DocBuild
