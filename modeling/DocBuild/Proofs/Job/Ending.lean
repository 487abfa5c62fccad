import DocBuild.Proofs.Job.Account
import DocBuild.Proofs.Job.Exchange

/-!
# How an execution ends

An execution of which nobody is told, or nobody who is told fails, ends in one of four ways, and which one it is follows
from what its parts come to: a file is not obtained; the transport gives no answer; the answer makes no product; or it
makes the product. The request is handed over in all but the first.
-/

namespace DocBuild

open Run

variable {around : Surroundings} {session middle after : Session}

/-- A change of the log and the progress hands nothing over. -/
theorem Session.Remarks.dispatched (h : session.Remarks after) : after.dispatched = session.dispatched := by
  obtain ⟨log, progress, rfl⟩ := h
  rfl

namespace Execution

/-- Nobody who is told of the progress of an execution fails. -/
def IsCalm (e : Execution) : Prop := ∀ told, e.callback = some told → ∀ number, told number = .ok ()

/-- The faults that the steps of an execution raise if nobody who is told of its progress fails: a file is not
obtained, the transport gives no answer, or the answer makes no product. Each has the number of its step and the
requests that were handed over by then. -/
inductive Raises (e : Execution) (around : Surroundings) (session : Session) :
    Nat → Fault → List (Request Payload) → Prop where
  | unobtained {entry : Text × FileInput} {fault : Fault} {after : Session} (hentry : entry ∈ e.build.files)
      (hattempt : Payload.IsAttempt e.connection around entry.2 (.error fault))
      (hfirst : (e.step 1 e.prepare).start around session = (.error fault, after)) :
      Raises e around session 1 fault []
  | unanswered {files : List (Text × Payload)} {prepared before : Session} {fault : Fault}
      (hfirst : (e.step 1 e.prepare).start around session = (.ok files, prepared)) (hbefore : prepared.Remarks before)
      (hsend : ((e.transport.send (e.request files)).start around before).1 = .error fault) :
      Raises e around session 2 fault [e.request files]
  | unfit {files : List (Text × Payload)} {prepared before : Session} {answer : Answer} {cause : ForeignError}
      (hfirst : (e.step 1 e.prepare).start around session = (.ok files, prepared)) (hbefore : prepared.Remarks before)
      (hsend : ((e.transport.send (e.request files)).start around before).1 = .ok answer)
      (hproduct : Product.ofContent e.output answer.content = .error cause) :
      Raises e around session 3 (.foreign cause) [e.request files]

/-- The ways in which an execution ends if nobody who is told of its progress fails, with the requests that it hands
over: a step has raised a fault, or the answer makes the product. -/
inductive Ends (e : Execution) (around : Surroundings) (session : Session) :
    Outcome Product → List (Request Payload) → Prop where
  | failed {number : Nat} {fault : Fault} {requests : List (Request Payload)}
      (h : e.Raises around session number fault requests) :
      Ends e around session (.failure number (fault.wrap (failureMessage number))) requests
  | made {files : List (Text × Payload)} {prepared before : Session} {answer : Answer} {product : Product}
      (hfirst : (e.step 1 e.prepare).start around session = (.ok files, prepared)) (hbefore : prepared.Remarks before)
      (hsend : ((e.transport.send (e.request files)).start around before).1 = .ok answer)
      (hproduct : Product.ofContent e.output answer.content = .ok product) :
      Ends e around session (.success product) [e.request files]

variable {e : Execution}

/-- Every report of an execution is completed if nobody who is told of the progress fails. -/
theorem IsCalm.isCompleted (h : e.IsCalm) (number : Nat) : (e.progressReport number).isCompleted = true :=
  isCompleted_of_told fun told htold => h told htold number

/-- Nobody who is told fails if nobody is told. -/
theorem isCalm_of_callback (h : e.callback = none) : e.IsCalm := fun told htold => by cases h.symm.trans htold

/-- If the steps raise a fault after some completed reports, the outcome is the failure of the last one of them. -/
theorem start_run_of_error {fault : Fault} {reports : List ProgressReport} {handed : List (Request Payload)}
    (h : e.unguarded.start around session = (.error fault, after)) (hadds : session.Adds after reports handed)
    (hcompleted : ∀ report ∈ reports, report.isCompleted = true) :
    (e.run.start around session).1 = .ok (.failure reports.length (fault.wrap (failureMessage reports.length))) := by
  rcases e.start_run around session with ⟨_, _, hgives, -⟩ | ⟨fault', after', log, reached, hraises, hreached, hrun⟩
  · cases h.symm.trans hgives
  · cases h.symm.trans hraises
    have hcount := hadds.completed
    rw [List.countP_eq_length.mpr hcompleted] at hcount
    obtain rfl : reached = reports.length := by omega
    rw [hrun]

/-- If the steps give the product, it is the outcome. -/
theorem start_run_of_ok {product : Product} (h : e.unguarded.start around session = (.ok product, after)) :
    (e.run.start around session).1 = .ok (.success product) := by
  rcases e.start_run around session with ⟨_, _, hgives, hrun⟩ | ⟨_, _, _, _, hraises, -, -⟩
  · cases h.symm.trans hgives
    rw [hrun]
  · cases h.symm.trans hraises

/-- If the first report is completed and the first step raises a fault, a file was not obtained because of it. -/
theorem exists_attempt_of_first {fault : Fault} (hcompleted : (e.progressReport 1).isCompleted = true)
    (h : (e.step 1 e.prepare).start around session = (.error fault, after)) :
    ∃ entry ∈ e.build.files, Payload.IsAttempt e.connection around entry.2 (.error fault) := by
  rw [start_step hcompleted] at h
  unfold prepare at h
  rcases hobtain : (Payload.obtainAll e.connection (e.build.files.map Prod.snd)).start around
      (session.reporting (e.progressReport 1)) with ⟨raised | payloads, reached⟩
  · rw [start_bind_of_error hobtain] at h
    cases h
    obtain ⟨input, hinput, hattempt⟩ := Payload.exists_attempt_of_start_obtainAll hobtain
    obtain ⟨entry, hentry, rfl⟩ := List.mem_map.mp hinput
    exact ⟨entry, hentry, hattempt⟩
  · rw [start_bind_of_ok hobtain] at h
    cases h

/-- If the reports of two steps are completed, the second one comes to what sending the request comes to. -/
theorem start_second (hcalm : e.IsCalm) (files : List (Text × Payload)) (around : Surroundings) (prepared : Session) :
    ∃ before, prepared.Remarks before ∧ (e.step 2 (e.dispatch files)).start around prepared =
      (((e.transport.send (e.request files)).start around before).1.map Answer.content,
        ((e.transport.send (e.request files)).start around before).2) := by
  obtain ⟨before, hremarks, hdispatch⟩ := e.start_dispatch files around (prepared.reporting (e.progressReport 2))
  exact ⟨before, Session.Remarks.trans ⟨_, _, rfl⟩ hremarks, (start_step (hcalm.isCompleted 2) _).trans hdispatch⟩

/-- The outcome of an execution is one of the ways to end, and exactly its requests are handed over. -/
theorem run_ends (hcalm : e.IsCalm) (around : Surroundings) (session : Session) :
    ∃ outcome requests, (e.run.start around session).1 = .ok outcome ∧
      (e.run.start around session).2.dispatched = session.dispatched ++ requests ∧
      e.Ends around session outcome requests := by
  have hdispatched := (e.remarks_run around session).dispatched
  have hcompleted (numbers : List Nat) : ∀ report ∈ numbers.map e.progressReport, report.isCompleted = true :=
    List.forall_mem_map.mpr fun number _ => hcalm.isCompleted number
  rcases hfirst : (e.step 1 e.prepare).start around session with ⟨fault | files, prepared⟩
  · have hall : e.unguarded.start around session = (.error fault, prepared) := start_bind_of_error hfirst _
    have hadds := adds_first hfirst
    rw [hall] at hdispatched
    obtain ⟨entry, hentry, hattempt⟩ := exists_attempt_of_first (hcalm.isCompleted 1) hfirst
    exact ⟨_, [], start_run_of_error hall hadds (hcompleted [1]), hdispatched.trans hadds.dispatched,
      .failed (.unobtained hentry hattempt hfirst)⟩
  · obtain ⟨before, hbefore, hsecond⟩ := start_second hcalm files around prepared
    have hadds := (adds_first hfirst).trans (adds_second hsecond)
    rw [hcalm.isCompleted 2] at hadds
    have hrest : e.unguarded.start around session = _ := start_bind_of_ok hfirst _
    rcases hreply : (e.transport.send (e.request files)).start around before with ⟨fault | answer, reached⟩
    · rw [hreply] at hsecond hadds
      have hall := hrest.trans (start_bind_of_error hsecond _)
      rw [hall] at hdispatched
      exact ⟨_, _, start_run_of_error hall hadds (hcompleted [1, 2]), hdispatched.trans hadds.dispatched,
        .failed (.unanswered hfirst hbefore (congrArg Prod.fst hreply))⟩
    · rw [hreply] at hsecond hadds
      have hthird : (e.step 3 (e.conclude answer.content)).start around reached =
          ((Product.ofContent e.output answer.content).mapError .foreign, reached.reporting (e.progressReport 3)) :=
        (start_step (hcalm.isCompleted 3) _).trans (start_ofExcept _)
      have hall := (hrest.trans (start_bind_of_ok hsecond _)).trans hthird
      have hadds := hadds.trans (adds_last hthird)
      rw [hall] at hdispatched
      cases hproduct : Product.ofContent e.output answer.content with
      | error cause =>
        rw [hproduct] at hall
        exact ⟨_, _, start_run_of_error hall hadds (hcompleted [1, 2, 3]), hdispatched.trans hadds.dispatched,
          .failed (.unfit hfirst hbefore (congrArg Prod.fst hreply) hproduct)⟩
      | ok product =>
        rw [hproduct] at hall
        exact ⟨_, _, start_run_of_ok hall, hdispatched.trans hadds.dispatched,
          .made hfirst hbefore (congrArg Prod.fst hreply) hproduct⟩

/-- What an execution into an output comes to with the reply to its request. -/
def outcomeOf (output : Output) : Except Fault Answer → Outcome Product
  | .error fault => .failure 2 (fault.wrap (failureMessage 2))
  | .ok answer =>
    match Product.ofContent output answer.content with
    | .ok product => .success product
    | .error cause => .failure 3 ((Fault.foreign cause).wrap (failureMessage 3))

/-- If the files are obtained, the reply to the request decides the outcome. -/
theorem start_run_of_reply (hcalm : e.IsCalm) {files : List (Text × Payload)} {prepared : Session}
    (hfirst : (e.step 1 e.prepare).start around session = (.ok files, prepared)) {reply : Except Fault Answer}
    (hreply : ∀ before, prepared.Remarks before →
      ((e.transport.send (e.request files)).start around before).1 = reply) :
    (e.run.start around session).1 = .ok (outcomeOf e.output reply) := by
  obtain ⟨outcome, requests, hrun, -, hends⟩ := run_ends hcalm around session
  rw [hrun]
  cases hends with
  | failed hraises =>
    cases hraises with
    | unobtained _ _ hfirst' => cases hfirst.symm.trans hfirst'
    | unanswered hfirst' hbefore hsend =>
      cases hfirst.symm.trans hfirst'
      rw [← hreply _ hbefore, hsend]
      rfl
    | unfit hfirst' hbefore hsend hproduct =>
      cases hfirst.symm.trans hfirst'
      rw [← hreply _ hbefore, hsend]
      simp only [outcomeOf, hproduct]
  | made hfirst' hbefore hsend hproduct =>
    cases hfirst.symm.trans hfirst'
    rw [← hreply _ hbefore, hsend]
    simp only [outcomeOf, hproduct]

end Execution

end DocBuild
