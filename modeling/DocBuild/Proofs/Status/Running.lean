import DocBuild.Proofs.Job.Answer
import DocBuild.Proofs.Status.Accepting

/-!
# Runs that succeed

If an execution or an analysis succeeds, all that it has sent was accepted. An execution that fails stays failed, so
executions side by side have all succeeded only if all that they have sent between them was accepted. Conversely a
message that is answered leads to success exactly if the status of the answer is below 400 and its body can be read as
it was asked for: beyond that nothing looks at the status.
-/

namespace DocBuild

open Run

variable {around : Surroundings} {session after : Session}

/-- Whether a phase is that of an execution that has failed. -/
def Phase.isFailed : Phase → Bool
  | finished outcome => !outcome.succeeded
  | _ => false

/-- A phase with an outcome of success is not that of an execution that has failed. -/
theorem Phase.isFailed_of_succeeded {phase : Phase} (h : phase.outcome.succeeded = true) : phase.isFailed = false := by
  cases phase with
  | finished outcome =>
    have hsucceeded : outcome.succeeded = true := h
    simp [isFailed, hsucceeded]
  | _ => rfl

/-- An outcome reports a success exactly with the results that are good. -/
def Outcome.SucceedsWith {α : Type} (good : α → Prop) (outcome : Outcome α) : Prop :=
  (outcome.succeeded = true → ∃ a, outcome = .success a) ∧ ∀ a, outcome = .success a ↔ good a

/-- An outcome that reports no success is none with any result. -/
theorem Outcome.SucceedsWith.of_failed {α : Type} {good : α → Prop} {outcome : Outcome α}
    (h : outcome.succeeded = false) (hgood : ∀ a, ¬ good a) : outcome.SucceedsWith good := by
  refine ⟨fun hsucceeded => ?_, fun a => iff_of_false ?_ (hgood a)⟩
  · cases h.symm.trans hsucceeded
  · rintro rfl
    cases h

/-- What an answer means for an output succeeds only with a product. -/
theorem Output.Means.eq_success_of_succeeded {o : Output} {response : HttpResponse} {outcome : Outcome Product}
    (h : o.Means response outcome) (hsucceeded : outcome.succeeded = true) :
    ∃ product, outcome = .success product := by
  cases h with
  | value | text | document => exact ⟨_, rfl⟩
  | misread | tooDeep | textless => contradiction

/-- An answer that means a product for an output means nothing else. -/
theorem Output.Means.eq_of_success {o : Output} {response : HttpResponse} {outcome : Outcome Product}
    {product : Product} (h : o.Means response outcome) (hproduct : o.Means response (.success product)) :
    outcome = .success product := by
  have hsame : o.type = .jsonContent → o.type.isText = false := fun htype => by rw [htype]; rfl
  cases hproduct with
  | value htype hbody =>
    cases h with
    | value _ hvalue =>
      cases hbody.symm.trans hvalue
      rfl
    | misread _ hbad | tooDeep _ hbad => cases hbody.symm.trans hbad
    | text htext | textless htext => cases htext.symm.trans (hsame htype)
    | document hjson => exact absurd htype hjson
  | text htext hbody =>
    cases h with
    | text _ hcontent =>
      cases hbody.symm.trans hcontent
      rfl
    | textless _ hbad => cases hbody.symm.trans hbad
    | value htype | misread htype | tooDeep htype => cases htext.symm.trans (hsame htype)
    | document _ hbinary => cases htext.symm.trans hbinary
  | document hjson hbinary =>
    cases h with
    | document => rfl
    | text htext | textless htext => cases htext.symm.trans hbinary
    | value htype | misread htype | tooDeep htype => exact absurd htype hjson

namespace Execution

variable {e : Execution}

/-- A step that fails leaves an execution that has failed. -/
theorem isFailed_of_fail {number : Nat} {fault : Fault} {phase : Phase}
    (h : (fail number fault).start around session = (.ok phase, after)) : phase.isFailed = true := by
  obtain ⟨log, hfail⟩ := @start_fail_eq around session number fault
  cases h.symm.trans hfail
  rfl

/-- A turn that leads on heeds all answers if its work does. -/
theorem heeds_stretch (number : Nat) {work : Run Phase} (h : work.Heeds fun phase => phase.isFailed = false) :
    (e.stretch number work).Heeds fun phase => phase.isFailed = false := by
  have hreport : (attempt (e.report number)).Keeps Session.sent := by
    refine Keeps.attempt fun around session => ?_
    rw [e.start_report_eq]
    rfl
  have hfail (number : Nat) (fault : Fault) : (fail number fault).Heeds fun phase => phase.isFailed = false :=
    (heeds_log _ _ _).bind fun _ => heeds_pure _
  refine (heeds_of_keeps hreport).bind fun reported => ?_
  cases reported with
  | error fault => exact hfail _ _
  | ok _ =>
    refine h.attempt.bind_of (fun outcome => ?_) fun around session outcome phase after hstart hphase => ?_
    · cases outcome with
      | error fault => exact hfail _ _
      | ok phase => exact heeds_pure _
    · cases outcome with
      | error fault => cases hphase.symm.trans (isFailed_of_fail hstart)
      | ok reached =>
        cases hstart
        exact ⟨_, rfl, hphase⟩

/-- A turn that leads on heeds all answers. -/
theorem heeds_turn (h : e.transport.Heeds) (phase : Phase) :
    (e.turn phase).Heeds fun next => next.isFailed = false := by
  cases phase with
  | started =>
    have hprepare : e.prepare.Heeds fun _ => True := (Payload.heeds_obtainAll _ _).bind fun _ => heeds_pure _
    exact heeds_stretch 1 (hprepare.map _ fun _ _ => trivial)
  | prepared files =>
    have hdispatch : (e.dispatch files).Heeds fun _ => True :=
      (heeds_log _ _ _).bind fun _ => (h _).bind fun _ => heeds_pure _
    exact heeds_stretch 2 (hdispatch.map _ fun _ _ => trivial)
  | answered content =>
    have hconclude : (e.conclude content).Heeds fun _ => True := heeds_ofExcept _
    exact heeds_stretch 3 (hconclude.map _ fun _ _ => trivial)
  | finished outcome => exact heeds_pure _

/-- An execution that has failed has no further turns. -/
theorem turn_of_isFailed {phase : Phase} (h : phase.isFailed = true) : e.turn phase = pure phase := by
  cases phase with
  | finished outcome => rfl
  | _ => contradiction

/-- An execution that has failed stays failed. -/
theorem advance_of_isFailed {phase : Phase} (h : phase.isFailed = true) (n : Nat) : e.advance n phase = pure phase := by
  induction n with
  | zero => rfl
  | succ n ih =>
    unfold advance
    rw [turn_of_isFailed h, pure_bind, ih]

/-- Turns that lead on heed all answers. -/
theorem heeds_advance (h : e.transport.Heeds) (n : Nat) (phase : Phase) :
    (e.advance n phase).Heeds fun last => last.isFailed = false := by
  induction n generalizing phase with
  | zero => exact heeds_pure _
  | succ n ih =>
    refine (heeds_turn h phase).bind_of ih fun around session next last after hstart hlast => ?_
    refine Bool.eq_false_iff.mpr fun hnext => ?_
    rw [advance_of_isFailed hnext] at hstart
    cases hstart
    cases hlast.symm.trans hnext

/-- An execution that succeeds heeds all answers. -/
theorem heeds_run (h : e.transport.Heeds) : e.run.Heeds fun outcome => outcome.succeeded = true := by
  refine (heeds_advance h _ _).bind_of (fun _ => heeds_pure _) fun _ _ phase outcome _ hstart hsucceeded => ?_
  cases hstart
  exact Phase.isFailed_of_succeeded hsucceeded

/-- An execution that has failed stays failed while others have their turns. -/
theorem getElem?_takeTurns_of_isFailed {executions : List Execution} {turns : List Nat} {phases last : List Phase}
    {place : Nat} {phase : Phase} (hphase : phases[place]? = some phase) (hfailed : phase.isFailed = true)
    (h : (takeTurns executions turns phases).start around session = (.ok last, after)) :
    last[place]? = some phase := by
  induction turns generalizing session phases with
  | nil =>
    cases h
    exact hphase
  | cons i rest ih =>
    unfold takeTurns at h
    split at h
    · next e current he hcurrent =>
      obtain ⟨next, reached, hturn, hrest⟩ := exists_of_start_bind h
      refine ih ?_ hrest
      by_cases hplace : i = place
      · subst hplace
        cases hphase.symm.trans hcurrent
        rw [turn_of_isFailed hfailed] at hturn
        cases hturn
        exact List.getElem?_set_self (List.getElem?_eq_some_iff.mp hphase).1
      · rw [List.getElem?_set_ne hplace]
        exact hphase
    · exact ih hphase h

/-- Executions that all lead on side by side heed all answers. -/
theorem heeds_takeTurns {executions : List Execution} (h : ∀ e ∈ executions, e.transport.Heeds) (turns : List Nat)
    (phases : List Phase) :
    (takeTurns executions turns phases).Heeds fun last => ∀ phase ∈ last, phase.isFailed = false := by
  induction turns generalizing phases with
  | nil => exact heeds_pure _
  | cons i rest ih =>
    unfold takeTurns
    split
    · next e current he hcurrent =>
      refine (heeds_turn (h e (List.mem_of_getElem? he)) current).bind_of (fun next => ih _)
        fun around session next last after hstart hlast => ?_
      refine Bool.eq_false_iff.mpr fun hnext => ?_
      have hset : (phases.set i next)[i]? = some next :=
        List.getElem?_set_self (List.getElem?_eq_some_iff.mp hcurrent).1
      have hstays := getElem?_takeTurns_of_isFailed hset hnext hstart
      cases (hlast next (List.mem_of_getElem? hstays)).symm.trans hnext
    · exact ih phases

/-- Every execution has a phase after the turns. -/
theorem length_takeTurns {executions : List Execution} {turns : List Nat} {phases last : List Phase}
    (h : (takeTurns executions turns phases).start around session = (.ok last, after)) :
    last.length = phases.length := by
  induction turns generalizing session phases with
  | nil =>
    cases h
    rfl
  | cons i rest ih =>
    unfold takeTurns at h
    split at h
    · obtain ⟨next, reached, -, hrest⟩ := exists_of_start_bind h
      rw [ih hrest, List.length_set]
    · exact ih h

/-- Every execution has an outcome. -/
theorem length_runAll {executions : List Execution} {outcomes : List (Outcome Product)}
    (h : (runAll executions).start around session = (.ok outcomes, after)) : outcomes.length = executions.length := by
  obtain ⟨_, _, hsurroundings, h⟩ := exists_of_start_bind h
  cases hsurroundings
  obtain ⟨last, reached, hturns, hlast⟩ := exists_of_start_bind h
  cases hlast
  rw [List.length_map, length_takeTurns hturns, List.length_map]

/-- Executions that all succeed side by side heed all answers. -/
theorem heeds_runAll {executions : List Execution} (h : ∀ e ∈ executions, e.transport.Heeds) :
    (runAll executions).Heeds fun outcomes => ∀ outcome ∈ outcomes, outcome.succeeded = true := by
  refine (heeds_of_keeps keeps_surroundings).bind fun around => ?_
  refine (heeds_takeTurns h _ _).bind_of (fun _ => heeds_pure _) fun _ _ phases outcomes _ hstart hall => ?_
  cases hstart
  exact fun phase hphase => Phase.isFailed_of_succeeded (hall _ (List.mem_map_of_mem hphase))

/-- An execution over HTTP whose files are obtained and whose message is answered succeeds with a product exactly if the
status of the answer is below 400 and its body means the product for the output. -/
theorem run_succeedsWith {t : HttpTransport} (htransport : e.transport = t.transport) (hcalm : e.IsCalm)
    {files : List (Text × Payload)} {prepared : Session}
    (hfirst : (e.step 1 e.prepare).start around session = (.ok files, prepared)) {message : HttpRequest}
    (hposts : t.Posts (e.request files) around prepared message) {response : HttpResponse}
    (hanswer : around.service (prepared.sent.filterMap Sent.request?) message = .ok response) :
    ∃ outcome, (e.run.start around session).1 = .ok outcome ∧
      outcome.SucceedsWith fun product => response.status < 400 ∧ e.output.Means response (.success product) := by
  by_cases hstatus : response.status < 400
  · obtain ⟨outcome, hrun, hmeans⟩ := start_run_of_answer htransport hcalm hfirst hposts hanswer hstatus
    refine ⟨outcome, hrun, hmeans.eq_success_of_succeeded, fun product => ⟨fun houtcome => ?_, fun h => ?_⟩⟩
    · exact ⟨hstatus, houtcome ▸ hmeans⟩
    · exact hmeans.eq_of_success h.2
  · obtain ⟨outcome, requests, hrun, -, hends⟩ := run_ends hcalm around session
    refine ⟨outcome, hrun, .of_failed ?_ fun product h => hstatus h.1⟩
    cases hends with
    | failed => rfl
    | made hfirst' hbefore hsend =>
      cases hfirst.symm.trans hfirst'
      rw [htransport, Transport.start_send] at hsend
      have hlater := (hposts.of_remarks hbefore).start_exchange
      obtain ⟨log, progress, rfl⟩ := hbefore
      exact absurd (HttpTransport.status_of_send (hlater.trans hanswer) hsend) hstatus

end Execution

/-- An analysis that succeeds heeds all answers. -/
theorem Analysis.heeds_run {a : Analysis} (h : a.transport.Heeds) :
    a.run.Heeds fun outcome => outcome.succeeded = true := by
  refine (h a.request).attempt.bind_of (fun outcome => ?_) fun around session outcome last after hstart hlast => ?_
  · cases outcome with
    | error fault => exact (heeds_log _ _ _).bind fun _ => heeds_pure _
    | ok answer => exact heeds_pure _
  · cases outcome with
    | error fault =>
      obtain ⟨_, logged, -, hfailure⟩ := exists_of_start_bind hstart
      cases hfailure
      contradiction
    | ok answer => exact ⟨answer, rfl, trivial⟩

/-- An analysis over HTTP whose message is answered succeeds with some content exactly if the status of the answer is
below 400 and the content is its body as JSON. -/
theorem Analysis.run_succeedsWith {a : Analysis} {t : HttpTransport} (htransport : a.transport = t.transport)
    {message : HttpRequest} (hposts : t.Posts a.request around session message) {response : HttpResponse}
    (hanswer : around.service (session.sent.filterMap Sent.request?) message = .ok response) :
    ∃ outcome, (a.run.start around session).1 = .ok outcome ∧
      outcome.SucceedsWith fun content =>
        response.status < 400 ∧ ∃ value, response.json = .ok value ∧ content = .value value := by
  have hsend : ((a.transport.send a.request).start around session).1 =
      ((t.send a.request).start around session).1 := by
    rw [htransport, Transport.start_send]
    rfl
  unfold run
  rw [start_bind_attempt, hsend]
  by_cases hstatus : response.status < 400
  · have hdecode : HttpTransport.decode a.request response =
        (response.json.map .value).mapError (HttpTransport.badJson a.request response) := rfl
    rw [hposts.start_send hanswer hstatus, hdecode]
    cases hbody : response.json with
    | ok value =>
      refine ⟨_, rfl, fun _ => ⟨_, rfl⟩, fun content => ⟨fun h => ?_, ?_⟩⟩
      · cases h
        exact ⟨hstatus, value, rfl, rfl⟩
      · rintro ⟨-, _, hvalue, rfl⟩
        cases hvalue
        rfl
    | error e =>
      refine ⟨_, rfl, .of_failed rfl ?_⟩
      rintro content ⟨-, _, hvalue, -⟩
      cases hvalue
  · cases hgiven : ((t.send a.request).start around session).1 with
    | error fault => exact ⟨_, rfl, .of_failed rfl fun content h => hstatus h.1⟩
    | ok answer => exact absurd (HttpTransport.status_of_send (hposts.start_exchange.trans hanswer) hgiven) hstatus

end DocBuild
