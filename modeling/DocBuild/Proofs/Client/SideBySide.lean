import DocBuild.Proofs.Client.Sending
import DocBuild.Proofs.Job.Ending

/-!
# Executions side by side

Executions that take their turns in any order send one request each over the transport that they share. Between two
requests nothing changes but the log and the progress, if nobody is told of the progress and obtaining the files
changes nothing. What an execution comes to is made of the reply to its own request, whenever it was sent and
whatever came of the others.
-/

namespace DocBuild

open Run

variable {around : Surroundings} {session : Session}

/-- The number of turns that are left at a phase. -/
def Phase.left : Phase → Nat
  | started => 3
  | prepared _ => 2
  | answered _ => 1
  | finished _ => 0

namespace Execution

variable {e : Execution} {executions : List Execution} {phases : List Phase} {t : Transport} {output : Output}

/-- Nobody is told of the progress of an execution, its files can be obtained, and obtaining them changes nothing. -/
structure Uneventful (e : Execution) (around : Surroundings) : Prop where
  callback : e.callback = none
  obtainable : ∀ entry ∈ e.build.files, Payload.Obtainable e.connection around entry.2
  keeps : ∀ entry ∈ e.build.files, (Payload.obtain e.connection entry.2).Keeps id

/-- What an execution has exchanged at each phase. -/
def HasExchanged (e : Execution) (around : Surroundings) (exchanged : Option Exchange) : Phase → Prop
  | .started => exchanged = none
  | .prepared files => exchanged = none ∧ (e.request files).Carries e.connection around e.build
  | .answered content => ∃ request answer, exchanged = some ⟨request, .ok answer⟩ ∧
      request.Carries e.connection around e.build ∧ answer.content = content
  | .finished outcome => ∃ exchange, exchanged = some exchange ∧
      exchange.request.Carries e.connection around e.build ∧ outcome = outcomeOf e.output exchange.reply

/-- The first turn of an uneventful execution makes its request ready. -/
theorem turn_started_exchanges (he : e.Uneventful around) (session : Session) :
    ∃ files after, (e.turn .started).start around session = (.ok (.prepared files), after) ∧
      session.Remarks after ∧ (e.request files).Carries e.connection around e.build := by
  obtain ⟨files, prepared, hfirst, hcarries, hkept⟩ := start_first
    (isCompleted_of_callback he.callback 1) he.obtainable session
  exact ⟨files, prepared, start_stretch_of_ok hfirst Phase.prepared, hkept he.keeps ▸ ⟨_, _, rfl⟩, hcarries⟩

/-- The second turn of an uneventful execution sends its request. A fault finishes it. -/
theorem turn_prepared_exchanges (he : e.Uneventful around) {files : List (Text × Payload)}
    (hcarries : (e.request files).Carries e.connection around e.build) (session : Session) :
    ∃ next after exchange, (e.turn (.prepared files)).start around session = (.ok next, after) ∧
      e.transport.Exchanges around session [exchange] after ∧ e.HasExchanged around (some exchange) next ∧
      next.left ≤ 1 := by
  have hcompleted := isCompleted_of_callback he.callback 2
  obtain ⟨before, hremarks, hdispatch⟩ :=
    e.start_dispatch files around (session.reporting (e.progressReport 2))
  have hbefore : session.Remarks before := Session.Remarks.trans ⟨_, _, rfl⟩ hremarks
  rw [← start_step hcompleted] at hdispatch
  rcases hsend : (e.transport.send (e.request files)).start around before with ⟨fault | answer, reached⟩
  · rw [hsend] at hdispatch
    obtain ⟨log, hturn⟩ := start_stretch_of_fault hcompleted hdispatch Phase.answered
    exact ⟨_, _, ⟨e.request files, .error fault⟩, hturn, .send hbefore hsend (.none ⟨_, _, rfl⟩),
      ⟨_, rfl, hcarries, rfl⟩, Nat.zero_le 1⟩
  · rw [hsend] at hdispatch
    exact ⟨_, _, ⟨e.request files, .ok answer⟩, start_stretch_of_ok hdispatch Phase.answered,
      .send hbefore hsend (.none (.refl _)), ⟨_, answer, rfl, hcarries, rfl⟩, Nat.le_refl 1⟩

/-- The last turn of an uneventful execution finishes it with what the reply comes to. -/
theorem turn_answered_exchanges (he : e.Uneventful around) (answer : Answer) (session : Session) :
    ∃ after, (e.turn (.answered answer.content)).start around session =
        (.ok (.finished (outcomeOf e.output (.ok answer))), after) ∧
      session.Remarks after := by
  have hcompleted := isCompleted_of_callback he.callback 3
  have hconclude : (e.step 3 (e.conclude answer.content)).start around session =
      ((Product.ofContent e.output answer.content).mapError .foreign,
        session.reporting (e.progressReport 3)) := by
    rw [start_step hcompleted, conclude, start_ofExcept]
  rcases hproduct : Product.ofContent e.output answer.content with cause | product
  · rw [hproduct] at hconclude
    obtain ⟨log, hturn⟩ := start_stretch_of_fault hcompleted hconclude (Phase.finished ∘ Outcome.success)
    refine ⟨{ session.reporting (e.progressReport 3) with log }, ?_, ⟨log, _, rfl⟩⟩
    rw [outcomeOf, hproduct]
    exact hturn
  · rw [hproduct] at hconclude
    refine ⟨session.reporting (e.progressReport 3), ?_, ⟨_, _, rfl⟩⟩
    rw [outcomeOf, hproduct]
    exact start_stretch_of_ok hconclude (Phase.finished ∘ Outcome.success)

/-- A turn of an uneventful execution sends a request at most if none was sent before, and keeps what is known of the
exchanges. -/
theorem turn_exchanges (he : e.Uneventful around) {exchanged : Option Exchange} {phase : Phase}
    (h : e.HasExchanged around exchanged phase) (session : Session) :
    ∃ (next : Phase) (after : Session) (more : Option Exchange),
      (e.turn phase).start around session = (.ok next, after) ∧
      e.transport.Exchanges around session more.toList after ∧ e.HasExchanged around (exchanged.or more) next ∧
      (exchanged = none ∨ more = none) ∧ next.left ≤ phase.left - 1 := by
  cases phase with
  | started =>
    obtain ⟨files, after, hturn, hremarks, hcarries⟩ := turn_started_exchanges he session
    have hnone : exchanged = none := h
    subst hnone
    exact ⟨_, after, none, hturn, .none hremarks, ⟨rfl, hcarries⟩, Or.inl rfl, Nat.le_refl 2⟩
  | prepared files =>
    obtain ⟨rfl, hcarries⟩ := h
    obtain ⟨next, after, exchange, hturn, hexchanges, hnext, hleft⟩ := turn_prepared_exchanges he hcarries session
    exact ⟨next, after, some exchange, hturn, hexchanges, hnext, Or.inl rfl, hleft⟩
  | answered content =>
    obtain ⟨request, answer, rfl, hcarries, rfl⟩ := h
    obtain ⟨after, hturn, hremarks⟩ := turn_answered_exchanges he answer session
    exact ⟨_, after, none, hturn, .none hremarks, ⟨_, rfl, hcarries, rfl⟩, Or.inr rfl, Nat.le_refl 0⟩
  | finished outcome =>
    exact ⟨_, session, none, rfl, .none (.refl session), by rwa [Option.or_none], Or.inr rfl, Nat.le_refl 0⟩

/-- Executions have come to phases, and what each of them has exchanged is noted under its place. -/
structure Stand (around : Surroundings) (executions : List Execution) (phases : List Phase)
    (sent : List (Nat × Exchange)) : Prop where
  length : phases.length = executions.length
  places : ∀ place ∈ sent.map Prod.fst, place < executions.length
  nodup : (sent.map Prod.fst).Nodup
  exchanged : ∀ (place : Nat) (e : Execution) (phase : Phase), executions[place]? = some e →
    phases[place]? = some phase → e.HasExchanged around (sent.lookup place) phase

/-- What is noted for one place more is found there, and nothing else changes. -/
theorem lookup_append_place (sent : List (Nat × Exchange)) (place : Nat) (more : Option Exchange) (other : Nat) :
    (sent ++ more.toList.map (place, ·)).lookup other =
      (sent.lookup other).or (if other = place then more else none) := by
  rw [List.lookup_append]
  cases more with
  | none => simp
  | some exchange =>
    by_cases h : other = place
    · simp [h]
    · simp [List.lookup_cons, beq_false_of_ne h, h]

/-- After a turn of one of the executions they stand where they stood, but for the one that had the turn. -/
theorem Stand.turn {sent : List (Nat × Exchange)} (h : Stand around executions phases sent)
    (hall : ∀ e ∈ executions, e.Uneventful around ∧ e.transport = t) {place : Nat} {phase : Phase}
    (he : executions[place]? = some e) (hphase : phases[place]? = some phase) (session : Session) :
    ∃ (next : Phase) (after : Session) (more : List (Nat × Exchange)),
      (e.turn phase).start around session = (.ok next, after) ∧
      t.Exchanges around session (more.map Prod.snd) after ∧
      Stand around executions (phases.set place next) (sent ++ more) ∧ next.left ≤ phase.left - 1 := by
  obtain ⟨huneventful, htransport⟩ := hall e (List.mem_of_getElem? he)
  have hplace : place < phases.length := (List.getElem?_eq_some_iff.mp hphase).1
  obtain ⟨next, after, more, hturn, hexchanges, hnext, hfresh, hleft⟩ :=
    turn_exchanges huneventful (h.exchanged place e phase he hphase) session
  have hmore : ∀ other ∈ (more.toList.map (place, ·)).map Prod.fst, other = place ∧ more ≠ none := by
    cases more <;> simp
  refine ⟨next, after, more.toList.map (place, ·), hturn, ?_, ⟨?_, ?_, ?_, ?_⟩, hleft⟩
  · rw [List.map_map, ← htransport]
    simpa [Function.comp_def] using hexchanges
  · rw [List.length_set, h.length]
  · intro other hother
    rw [List.map_append, List.mem_append] at hother
    rcases hother with hother | hother
    · exact h.places other hother
    · exact (hmore other hother).1 ▸ h.length ▸ hplace
  · rw [List.map_append, List.nodup_append]
    refine ⟨h.nodup, by cases more <;> simp, fun earlier hearlier other hother heq => ?_⟩
    obtain ⟨rfl, hsome⟩ := hmore other hother
    subst heq
    obtain ⟨entry, hentry, hfst⟩ := List.mem_map.mp hearlier
    have hnone := List.lookup_eq_none_iff.mp (hfresh.resolve_right hsome) entry hentry
    simp [hfst] at hnone
  · intro other e' phase' he' hphase'
    rw [lookup_append_place]
    by_cases hother : other = place
    · subst hother
      rw [List.getElem?_set_self hplace, Option.some.injEq] at hphase'
      cases he.symm.trans he'
      subst hphase'
      rwa [if_pos rfl]
    · rw [List.getElem?_set_ne (Ne.symm hother)] at hphase'
      rw [if_neg hother, Option.or_none]
      exact h.exchanged other e' phase' he' hphase'

/-- However executions take turns, what they have exchanged stays noted under their places; for every turn that an
execution has, one turn less is left. -/
theorem Stand.takeTurns {sent : List (Nat × Exchange)} (h : Stand around executions phases sent)
    (hall : ∀ e ∈ executions, e.Uneventful around ∧ e.transport = t) (turns : List Nat) (session : Session) :
    ∃ (last : List Phase) (after : Session) (more : List (Nat × Exchange)),
      (takeTurns executions turns phases).start around session = (.ok last, after) ∧
      t.Exchanges around session (more.map Prod.snd) after ∧ Stand around executions last (sent ++ more) ∧
      ∀ place phase, phases[place]? = some phase →
        ∃ next, last[place]? = some next ∧ next.left ≤ phase.left - turns.count place := by
  induction turns generalizing phases sent session with
  | nil =>
    exact ⟨phases, session, [], rfl, .none (.refl session), by simpa using h, fun _ phase hphase =>
      ⟨phase, hphase, Nat.le_refl _⟩⟩
  | cons place rest ih =>
    unfold Execution.takeTurns
    cases he : executions[place]? with
    | none =>
      obtain ⟨last, after, more, hrest, hexchanges, hstand, hleft⟩ := ih h session
      refine ⟨last, after, more, hrest, hexchanges, hstand, fun other phase hphase => ?_⟩
      have hin : other < executions.length := h.length ▸ (List.getElem?_eq_some_iff.mp hphase).1
      have hout : executions.length ≤ place := List.getElem?_eq_none_iff.mp he
      rw [List.count_cons_of_ne (by omega)]
      exact hleft other phase hphase
    | some e =>
      have hin : place < phases.length := h.length ▸ (List.getElem?_eq_some_iff.mp he).1
      have hphase : phases[place]? = some phases[place] := List.getElem?_eq_getElem hin
      obtain ⟨next, reached, first, hturn, hfirst, hnext, hless⟩ := h.turn hall he hphase session
      obtain ⟨last, after, more, hrest, hexchanges, hstand, hleft⟩ := ih hnext reached
      rw [hphase]
      refine ⟨last, after, first ++ more, (start_bind_of_ok hturn _).trans hrest, ?_, ?_, fun other phase hother => ?_⟩
      · rw [List.map_append]
        exact hfirst.append hexchanges
      · rwa [← List.append_assoc]
      · by_cases hsame : other = place
        · subst hsame
          cases hphase.symm.trans hother
          obtain ⟨final, hfinal, hcount⟩ := hleft other next (List.getElem?_set_self hin)
          refine ⟨final, hfinal, ?_⟩
          rw [List.count_cons_self]
          omega
        · rw [List.count_cons_of_ne (Ne.symm hsame)]
          exact hleft other phase (by rwa [List.getElem?_set_ne (Ne.symm hsame)])

/-- Every execution has all its turns. -/
theorem le_count_turns (schedule : Schedule) {count place : Nat} (h : place < count) :
    executionTurns ≤ (schedule.turns count).count place := by
  have hmem : List.replicate executionTurns place ∈ (List.range count).map (List.replicate executionTurns) :=
    List.mem_map_of_mem (List.mem_range.mpr h)
  rw [(schedule.turns_perm count).count_eq, List.flatMap_def]
  calc executionTurns = (List.replicate executionTurns place).count place := List.count_replicate_self.symm
    _ ≤ _ := (List.sublist_flatten_of_mem hmem).count_le place

/-- Before any turn nothing was exchanged. -/
theorem stand_started (around : Surroundings) (executions : List Execution) :
    Stand around executions (executions.map fun _ => .started) [] where
  length := List.length_map _
  places := by simp
  nodup := List.nodup_nil
  exchanged place e phase he hphase := by
    rw [List.getElem?_map, he, Option.map_some, Option.some.injEq] at hphase
    subst hphase
    rfl

/-- Executions that stand at their ends have exchanged one request each, and their outcomes are those of the
replies. -/
theorem Stand.exchanges {sent : List (Nat × Exchange)} (h : Stand around executions phases sent)
    (houtput : ∀ e ∈ executions, e.output = output) (hleft : ∀ phase ∈ phases, phase.left = 0) :
    ∃ exchanges : List Exchange, (sent.map Prod.snd).Perm exchanges ∧
      List.Forall₂ (fun e exchange => exchange.request.Carries e.connection around e.build) executions exchanges ∧
      phases.map Phase.outcome = exchanges.map fun exchange => outcomeOf output exchange.reply := by
  have hfound : ∀ (place : Nat) e, executions[place]? = some e → ∃ phase exchange, phases[place]? = some phase ∧
      sent.lookup place = some exchange ∧ exchange.request.Carries e.connection around e.build ∧
      phase.outcome = outcomeOf output exchange.reply := by
    intro place e he
    have hin : place < phases.length := h.length ▸ (List.getElem?_eq_some_iff.mp he).1
    have hphase : phases[place]? = some phases[place] := List.getElem?_eq_getElem hin
    have hstands := h.exchanged place e _ he hphase
    have hlast := hleft phases[place] (List.getElem_mem hin)
    cases hcase : phases[place] with
    | finished outcome =>
      rw [hcase] at hstands hphase
      obtain ⟨exchange, hexchange, hcarries, rfl⟩ := hstands
      refine ⟨_, exchange, hphase, hexchange, hcarries, ?_⟩
      rw [houtput e (List.mem_of_getElem? he)]
      rfl
    | _ => simp [hcase, Phase.left] at hlast
  refine ⟨(List.range executions.length).filterMap (sent.lookup ·), ?_, ?_, ?_⟩
  · refine (filterMap_lookup_perm h.nodup ?_).symm
    refine (List.perm_ext_iff_of_nodup List.nodup_range h.nodup).mpr fun place => ?_
    rw [List.mem_range]
    refine ⟨fun hin => ?_, h.places place⟩
    obtain ⟨-, exchange, -, hexchange, -⟩ := hfound place _ (List.getElem?_eq_getElem hin)
    exact List.mem_map.mpr ⟨_, mem_of_lookup hexchange, rfl⟩
  · refine forall₂_filterMap_lookup fun place e he => ?_
    obtain ⟨-, exchange, -, hexchange, hcarries, -⟩ := hfound place e he
    exact ⟨exchange, hexchange, hcarries⟩
  · rw [← h.length]
    refine List.forall₂_eq_eq_eq ▸ List.forall₂_map_left_iff.mpr (List.forall₂_map_right_iff.mpr ?_)
    refine forall₂_filterMap_lookup fun place phase hphase => ?_
    have hin : place < executions.length := h.length ▸ (List.getElem?_eq_some_iff.mp hphase).1
    obtain ⟨phase', exchange, hphase', hexchange, -, houtcome⟩ := hfound place _ (List.getElem?_eq_getElem hin)
    cases hphase.symm.trans hphase'
    exact ⟨exchange, hexchange, houtcome⟩

/-- Executions that run side by side over one transport send one request each, in some order; each request carries
the build of its execution, and each outcome is that of the reply to the request of the same place. -/
theorem runAll_exchanges (hall : ∀ e ∈ executions, e.Uneventful around ∧ e.transport = t)
    (houtput : ∀ e ∈ executions, e.output = output) (session : Session) :
    ∃ (after : Session) (sent exchanges : List Exchange),
      (runAll executions).start around session =
        (.ok (exchanges.map fun exchange => outcomeOf output exchange.reply), after) ∧
      t.Exchanges around session sent after ∧ sent.Perm exchanges ∧
      List.Forall₂ (fun e exchange => exchange.request.Carries e.connection around e.build) executions
        exchanges := by
  obtain ⟨last, after, more, hturns, hexchanges, hstand, hleft⟩ :=
    (stand_started around executions).takeTurns hall (around.schedule.turns executions.length) session
  have hdone : ∀ phase ∈ last, phase.left = 0 := by
    intro phase hphase
    obtain ⟨place, hplace, rfl⟩ := List.getElem_of_mem hphase
    have hin : place < executions.length := hstand.length ▸ hplace
    have hstarted : (executions.map fun _ => Phase.started)[place]? = some .started := by
      rw [List.getElem?_map, List.getElem?_eq_getElem hin]
      rfl
    obtain ⟨next, hnext, hcount⟩ := hleft place .started hstarted
    have hturns := le_count_turns around.schedule hin
    rw [List.getElem?_eq_getElem hplace, Option.some.injEq] at hnext
    rw [hnext]
    rw [show Phase.started.left = executionTurns from rfl] at hcount
    omega
  obtain ⟨exchanges, hperm, hcarries, houtcomes⟩ := hstand.exchanges houtput hdone
  refine ⟨after, more.map Prod.snd, exchanges, ?_, hexchanges, hperm, hcarries⟩
  unfold runAll
  rw [start_bind_of_ok start_surroundings]
  dsimp only
  rw [start_bind_of_ok hturns, start_pure, houtcomes]

end Execution

end DocBuild
