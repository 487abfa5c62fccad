import DocBuild.Job.Execution
import DocBuild.Proofs.Payload.Obtained

/-!
# What a turn hands over

A turn never fails: whatever goes wrong in it makes the execution finish. The first turn obtains a file for each
key of the build, the second one hands the request with these files over, and nothing else is handed over.
-/

namespace DocBuild

open Run

variable {around : Surroundings} {session : Session}

namespace Execution

/-- Reporting a step hands nothing over. -/
theorem keeps_dispatched_report (e : Execution) (step : Nat) : (e.report step).Keeps Session.dispatched :=
  (Run.keeps_dispatched_report _).bind fun _ => keeps_ofExcept _

/-- A failure makes the execution finish, and hands nothing over. -/
theorem start_fail (step : Nat) (fault : Fault) :
    ∃ outcome after, (fail step fault).start around session = (.ok (.finished outcome), after) ∧
      after.dispatched = session.dispatched := by
  exact ⟨_, _, rfl, (quiet_log .error _ []).dispatched around session⟩

/-- A turn either finishes the execution at once, or does its work: it gives what the work gives, and finishes the
execution if the work fails. -/
theorem start_stretch (e : Execution) (step : Nat) (work : Run Phase) :
    (∃ outcome after, (e.stretch step work).start around session = (.ok (.finished outcome), after) ∧
      after.dispatched = session.dispatched) ∨
    ∃ before : Session, before.dispatched = session.dispatched ∧
      ((∃ phase after, work.start around before = (.ok phase, after) ∧
        (e.stretch step work).start around session = (.ok phase, after)) ∨
      ∃ fault failed outcome after, work.start around before = (.error fault, failed) ∧
        (e.stretch step work).start around session = (.ok (.finished outcome), after) ∧
        after.dispatched = failed.dispatched) := by
  have hquiet := e.keeps_dispatched_report step around session
  unfold stretch
  rw [start_bind_attempt]
  rcases hreport : (e.report step).start around session with ⟨fault | _, before⟩
  · rw [hreport] at hquiet
    obtain ⟨outcome, after, hfail, hafter⟩ := @start_fail around before (step - 1) fault
    exact Or.inl ⟨outcome, after, hfail, hafter.trans hquiet⟩
  · rw [hreport] at hquiet
    refine Or.inr ⟨before, hquiet, ?_⟩
    dsimp only
    rw [start_bind_attempt]
    rcases hwork : work.start around before with ⟨fault | phase, after⟩
    · obtain ⟨outcome, after', hfail, hafter⟩ := @start_fail around after step fault
      exact Or.inr ⟨fault, after, outcome, after', rfl, hfail, hafter⟩
    · exact Or.inl ⟨phase, after, rfl, rfl⟩

/-- Obtaining the files is quiet. -/
theorem quiet_prepare (e : Execution) : e.prepare.Quiet := Keeps.map (Payload.quiet_obtainAll _ _) _

/-- The files that are obtained have the keys of the build. -/
theorem keys_prepare {e : Execution} {files : List (Text × Payload)} {after : Session}
    (h : e.prepare.start around session = (.ok files, after)) :
    files.map Prod.fst = e.build.files.map Prod.fst := by
  unfold prepare at h
  rw [start_bind_pure] at h
  rcases hobtain : (Payload.obtainAll e.connection (e.build.files.map Prod.snd)).start around session with
    ⟨fault | payloads, obtained⟩
  · simp [hobtain, Except.map] at h
  · have hlength := Payload.length_obtainAll hobtain
    simp only [hobtain, Except.map, Prod.mk.injEq, Except.ok.injEq] at h
    rw [← h.1, List.map_fst_zip]
    simp [hlength]

/-- Dispatching files hands over exactly the request with them. -/
theorem hands_dispatch (e : Execution) (files : List (Text × Payload)) :
    (e.dispatch files).Hands [e.request files] :=
  ((e.transport.hands_send (e.request files)).bind_pure Answer.content).after_log _ _ _

/-- Concluding keeps everything. -/
theorem keeps_conclude {γ : Type} {view : Session → γ} (e : Execution) (content : Content) :
    (e.conclude content).Keeps view := keeps_ofExcept _

/-- The first turn obtains a file for each key of the build, unless it finishes the execution. -/
theorem turn_started (e : Execution) (around : Surroundings) (session : Session) :
    ∃ phase after, (e.turn .started).start around session = (.ok phase, after) ∧
      after.dispatched = session.dispatched ∧
      ((∃ outcome, phase = .finished outcome) ∨
        ∃ files, phase = .prepared files ∧ files.map Prod.fst = e.build.files.map Prod.fst) := by
  have hwork := e.quiet_prepare.dispatched.map Phase.prepared
  rcases @start_stretch around session e 1 (.prepared <$> e.prepare) with ⟨outcome, after, hturn, hafter⟩ |
    ⟨before, hbefore, ⟨phase, after, hprepare, hturn⟩ | ⟨fault, failed, outcome, after, hprepare, hturn, hafter⟩⟩
  · exact ⟨_, after, hturn, hafter, Or.inl ⟨outcome, rfl⟩⟩
  · have hdispatched := hwork around before
    rw [hprepare] at hdispatched
    refine ⟨phase, after, hturn, hdispatched.trans hbefore, Or.inr ?_⟩
    rw [start_map] at hprepare
    rcases hfiles : e.prepare.start around before with ⟨fault | files, obtained⟩
    · simp [hfiles, Except.map] at hprepare
    · simp only [hfiles, Except.map, Prod.mk.injEq, Except.ok.injEq] at hprepare
      exact ⟨files, hprepare.1.symm, keys_prepare hfiles⟩
  · have hdispatched := hwork around before
    rw [hprepare] at hdispatched
    exact ⟨_, after, hturn, hafter.trans (hdispatched.trans hbefore), Or.inl ⟨outcome, rfl⟩⟩

/-- The second turn hands over the request with the files, unless it finishes the execution before. -/
theorem turn_prepared (e : Execution) (files : List (Text × Payload)) (around : Surroundings) (session : Session) :
    ∃ phase after, (e.turn (.prepared files)).start around session = (.ok phase, after) ∧
      ((∃ outcome, phase = .finished outcome) ∧ after.dispatched = session.dispatched ∨
        ((∃ outcome, phase = .finished outcome) ∨ ∃ content, phase = .answered content) ∧
          after.dispatched = session.dispatched ++ [e.request files]) := by
  have hwork := (e.hands_dispatch files).map Phase.answered
  rcases @start_stretch around session e 2 (.answered <$> e.dispatch files) with ⟨outcome, after, hturn, hafter⟩ |
    ⟨before, hbefore, ⟨phase, after, hdispatch, hturn⟩ | ⟨fault, failed, outcome, after, hdispatch, hturn, hafter⟩⟩
  · exact ⟨_, after, hturn, Or.inl ⟨⟨outcome, rfl⟩, hafter⟩⟩
  · have hdispatched := hwork around before
    rw [hdispatch, hbefore] at hdispatched
    refine ⟨phase, after, hturn, Or.inr ⟨Or.inr ?_, hdispatched⟩⟩
    rw [start_map] at hdispatch
    rcases hcontent : (e.dispatch files).start around before with ⟨fault | content, answered⟩
    · simp [hcontent, Except.map] at hdispatch
    · simp only [hcontent, Except.map, Prod.mk.injEq, Except.ok.injEq] at hdispatch
      exact ⟨content, hdispatch.1.symm⟩
  · have hdispatched := hwork around before
    rw [hdispatch, hbefore] at hdispatched
    exact ⟨_, after, hturn, Or.inr ⟨Or.inl ⟨outcome, rfl⟩, hafter.trans hdispatched⟩⟩

/-- The last turn finishes the execution and hands nothing over. -/
theorem turn_answered (e : Execution) (content : Content) (around : Surroundings) (session : Session) :
    ∃ outcome after, (e.turn (.answered content)).start around session = (.ok (.finished outcome), after) ∧
      after.dispatched = session.dispatched := by
  have hquiet : (e.conclude content).Keeps Session.dispatched := e.keeps_conclude content
  have hwork := hquiet.map (Phase.finished ∘ Outcome.success)
  rcases @start_stretch around session e 3 ((.finished ∘ .success) <$> e.conclude content) with
    ⟨outcome, after, hturn, hafter⟩ |
    ⟨before, hbefore, ⟨phase, after, hconclude, hturn⟩ | ⟨fault, failed, outcome, after, hconclude, hturn, hafter⟩⟩
  · exact ⟨outcome, after, hturn, hafter⟩
  · have hdispatched := hwork around before
    rw [hconclude, hbefore] at hdispatched
    rw [start_map] at hconclude
    rcases hproduct : (e.conclude content).start around before with ⟨fault | product, concluded⟩
    · simp [hproduct, Except.map] at hconclude
    · simp only [hproduct, Except.map, Prod.mk.injEq, Except.ok.injEq] at hconclude
      refine ⟨.success product, after, ?_, hdispatched⟩
      rw [turn, hturn, ← hconclude.1]
      rfl
  · have hdispatched := hwork around before
    rw [hconclude, hbefore] at hdispatched
    exact ⟨outcome, after, hturn, hafter.trans hdispatched⟩

end Execution

/-- An analysis has an outcome, and hands over exactly its request. -/
theorem Analysis.start_run (a : Analysis) (around : Surroundings) (session : Session) :
    ∃ outcome after, a.run.start around session = (.ok outcome, after) ∧
      after.dispatched = session.dispatched ++ [a.request] := by
  have hsend := a.transport.hands_send a.request around session
  unfold run
  rw [start_bind_attempt]
  rcases hanswer : (a.transport.send a.request).start around session with ⟨fault | answer, sent⟩
  · rw [hanswer] at hsend
    have hlog := (quiet_log .error ("Dry run failed: " ++ fault.text) []).dispatched around sent
    exact ⟨.failure 0 (fault.wrap "Dry run failed"), _, rfl, hlog.trans hsend⟩
  · rw [hanswer] at hsend
    exact ⟨.success answer.content, sent, rfl, hsend⟩

end DocBuild
