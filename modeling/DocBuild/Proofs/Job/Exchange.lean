import DocBuild.Proofs.Job.Steps

/-!
# Requests with their replies

What was handed to a transport, with what came of it, in the order in which it was sent. Between two requests nothing
may change but the log and the progress. An execution whose files are obtained and whose second report is completed
sends one request, from the session in which its files were obtained.
-/

namespace DocBuild

open Run

/-- A request that was sent, and what came of it. -/
structure Exchange where
  request : Request Payload
  reply : Except Fault Answer

/-- The requests that a transport was given one after the other, with what came of each. Between them nothing but the
log and the progress changed. -/
inductive Transport.Exchanges (t : Transport) (around : Surroundings) : Session → List Exchange → Session → Prop where
  | none {session after : Session} (h : session.Remarks after) : Exchanges t around session [] after
  | send {session before reached after : Session} {request : Request Payload} {reply : Except Fault Answer}
      {rest : List Exchange} (h : session.Remarks before)
      (hsend : (t.send request).start around before = (reply, reached))
      (hrest : Exchanges t around reached rest after) :
      Exchanges t around session (⟨request, reply⟩ :: rest) after

variable {around : Surroundings} {session middle after : Session}

namespace Transport.Exchanges

variable {t : Transport} {exchanges others : List Exchange}

/-- A change of the log and the progress may come first. -/
theorem after_remarks (h : session.Remarks middle) (hexchanges : t.Exchanges around middle exchanges after) :
    t.Exchanges around session exchanges after := by
  cases hexchanges with
  | none hlast => exact .none (h.trans hlast)
  | send hfirst hsend hrest => exact .send (h.trans hfirst) hsend hrest

/-- Requests one after the other and then some more. -/
theorem append (h : t.Exchanges around session exchanges middle) (h' : t.Exchanges around middle others after) :
    t.Exchanges around session (exchanges ++ others) after := by
  induction h with
  | none hlast => exact h'.after_remarks hlast
  | send hfirst hsend _ ih => exact .send hfirst hsend (ih h')

/-- A change of the log and the progress may come last. -/
theorem then_remarks (h : t.Exchanges around session exchanges middle) (hremarks : middle.Remarks after) :
    t.Exchanges around session exchanges after := by
  have hlast := h.append (.none hremarks)
  rwa [List.append_nil] at hlast

/-- What was handed over are the requests, in the order in which they were sent. -/
theorem dispatched (h : t.Exchanges around session exchanges after) :
    after.dispatched = session.dispatched ++ exchanges.map Exchange.request := by
  induction h with
  | none hlast =>
    obtain ⟨log, progress, rfl⟩ := hlast
    simp
  | @send session before reached after request reply rest hfirst hsend _ ih =>
    obtain ⟨log, progress, rfl⟩ := hfirst
    have hhands := t.hands_send request around { session with log, progress }
    rw [hsend] at hhands
    rw [ih, hhands, List.map_cons, List.append_assoc]
    rfl

end Transport.Exchanges

namespace Execution

variable {e : Execution}

/-- Dispatching files comes to sending the request with them, after a change of the log. -/
theorem start_dispatch (e : Execution) (files : List (Text × Payload)) (around : Surroundings) (session : Session) :
    ∃ before, session.Remarks before ∧ (e.dispatch files).start around session =
      (((e.transport.send (e.request files)).start around before).1.map Answer.content,
        ((e.transport.send (e.request files)).start around before).2) := by
  obtain ⟨logged, hlog, hremarks⟩ := Session.remarks_log .info _ _ around session
  refine ⟨logged, hremarks, ?_⟩
  unfold dispatch
  exact (start_bind_of_ok hlog _).trans (start_bind_pure _ _)

/-- A step whose work changes nothing changes only the progress. -/
theorem remarks_step {α : Type} {number : Nat} {work : Run α} (hwork : work.Keeps id) :
    session.Remarks ((e.step number work).start around session).2 := by
  cases hcompleted : (e.progressReport number).isCompleted with
  | true =>
    have hkept : (work.start around (session.reporting (e.progressReport number))).2 =
        session.reporting (e.progressReport number) := hwork around _
    rw [start_step hcompleted, hkept]
    exact ⟨_, _, rfl⟩
  | false =>
    obtain ⟨fault, -, hstep⟩ := start_step_of_not_completed hcompleted work
    rw [hstep]
    exact ⟨_, _, rfl⟩

/-- The turns of an execution leave what its steps leave, but for the log. -/
theorem remarks_run (e : Execution) (around : Surroundings) (session : Session) :
    (e.unguarded.start around session).2.Remarks (e.run.start around session).2 := by
  rcases e.start_run around session with ⟨product, after, hsteps, hrun⟩ |
    ⟨fault, after, log, reached, hsteps, -, hrun⟩
  · rw [hsteps, hrun]
    exact .refl after
  · rw [hsteps, hrun]
    exact ⟨log, _, rfl⟩

/-- An execution whose files are obtained and whose second report is completed sends the request with the files, and
nothing else. -/
theorem exchanges_run {files : List (Text × Payload)} {prepared : Session}
    (hfirst : (e.step 1 e.prepare).start around session = (.ok files, prepared))
    (hsecond : (e.progressReport 2).isCompleted = true) :
    ∃ reply, e.transport.Exchanges around prepared [⟨e.request files, reply⟩] (e.run.start around session).2 := by
  obtain ⟨before, hremarks, hdispatch⟩ := e.start_dispatch files around (prepared.reporting (e.progressReport 2))
  have hbefore : prepared.Remarks before := Session.Remarks.trans ⟨_, _, rfl⟩ hremarks
  rw [← start_step hsecond] at hdispatch
  have hsteps : e.unguarded.start around session =
      (e.step 2 (e.dispatch files) >>= fun content => e.step 3 (e.conclude content)).start around prepared :=
    start_bind_of_ok hfirst _
  rcases hreply : (e.transport.send (e.request files)).start around before with ⟨reply, reached⟩
  have hsent : e.transport.Exchanges around prepared [⟨e.request files, reply⟩] reached :=
    .send hbefore hreply (.none (.refl reached))
  rw [hreply] at hdispatch
  refine ⟨reply, Transport.Exchanges.then_remarks ?_ (e.remarks_run around session)⟩
  rw [hsteps]
  cases reply with
  | error fault =>
    rw [start_bind_of_error hdispatch]
    exact hsent
  | ok answer =>
    rw [start_bind_of_ok hdispatch]
    exact hsent.then_remarks (remarks_step (e.keeps_conclude answer.content))

end Execution

end DocBuild
