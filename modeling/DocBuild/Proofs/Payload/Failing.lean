import DocBuild.Proofs.Client.Source
import DocBuild.Proofs.Payload.Ignoring
import DocBuild.Proofs.Payload.Released

/-!
# Inputs of which some cannot be obtained

What an input comes to depends neither on the session nor on the schedule: it can be obtained, or it fails with the
same fault whenever it is attempted. So it does not matter in which order inputs are attempted. All of them are, the
fault that is raised is the one of the first input, in the order of the inputs, that cannot be obtained, and what was
obtained of the others is closed again.
-/

namespace DocBuild

open Run

variable {around : Surroundings} {session later after : Session} {connection : Connection} {inputs : List FileInput}
  {fault : Fault}

namespace Payload

/-- What comes of an attempt does not depend on the schedule. -/
theorem isAttempt_schedule {input : FileInput} {outcome : Except Fault Payload} (schedule : Schedule) :
    IsAttempt connection { around with schedule } input outcome ↔ IsAttempt connection around input outcome := by
  have hignores : (obtain connection input).Ignores ({ · with schedule }) := by
    apply ignores_obtain <;> exact fun _ => rfl
  exact exists_congr fun before => by rw [hignores around before]

/-- Whenever it is attempted to obtain an input, the attempt fails with the fault. -/
def Fails (connection : Connection) (around : Surroundings) (input : FileInput) (fault : Fault) : Prop :=
  ∀ outcome, IsAttempt connection around input outcome → outcome = .error fault

/-- An input can be obtained, or it fails with one fault. -/
theorem obtainable_or_fails (connection : Connection) (input : FileInput) (around : Surroundings) :
    Obtainable connection around input ∨ ∃ fault, Fails connection around input fault := by
  rcases stream_or_yields connection input around with
    ⟨id, name, rfl⟩ | ⟨fault, hfault⟩ | ⟨p, data, hsource, hp⟩ | ⟨filename, content, hopened⟩
  · have hstart : (obtain connection (.stream id name)).start around {} =
        (.ok { source := .stream id, filename := .str (nameOfStream name) }, {}) := rfl
    exact Or.inl (obtainable_of_start hstart)
  · refine Or.inr ⟨fault, ?_⟩
    rintro _ ⟨before, rfl⟩
    obtain ⟨_, hstart, -⟩ := hfault before
    rw [hstart]
  · obtain ⟨_, hstart, -⟩ := hp {}
    exact Or.inl (obtainable_of_start hstart)
  · obtain ⟨_, hstart, -⟩ := hopened {}
    exact Or.inl (obtainable_of_start hstart)

/-- The fault is the one of the first input that cannot be obtained: those before it can be, and this one fails with
the fault whenever it is attempted. -/
def FirstFails (connection : Connection) (around : Surroundings) (inputs : List FileInput) (fault : Fault) : Prop :=
  ∃ before input rest, inputs = before ++ input :: rest ∧
    (∀ earlier ∈ before, Obtainable connection around earlier) ∧ Fails connection around input fault

/-- If some input cannot be obtained, there is a first one that cannot be. -/
theorem exists_firstFails (h : ∃ input ∈ inputs, ¬ Obtainable connection around input) :
    ∃ fault, FirstFails connection around inputs fault := by
  induction inputs with
  | nil => simp at h
  | cons first others ih =>
    rcases obtainable_or_fails connection first around with hfirst | ⟨fault, hfails⟩
    · obtain ⟨input, hinput, hnot⟩ := h
      rcases List.mem_cons.mp hinput with rfl | hinput
      · exact absurd hfirst hnot
      · obtain ⟨fault, before, input, rest, rfl, hbefore, hfails⟩ := ih ⟨input, hinput, hnot⟩
        exact ⟨fault, first :: before, input, rest, rfl, List.forall_mem_cons.mpr ⟨hfirst, hbefore⟩, hfails⟩
    · exact ⟨fault, [], first, others, rfl, by simp, hfails⟩

/-- The first input that cannot be obtained is the same one under every schedule. -/
theorem FirstFails.of_schedule (h : FirstFails connection around inputs fault) (schedule : Schedule) :
    FirstFails connection { around with schedule } inputs fault := by
  obtain ⟨before, input, rest, hinputs, hbefore, hfails⟩ := h
  exact ⟨before, input, rest, hinputs,
    fun earlier hearlier outcome h => hbefore earlier hearlier outcome ((isAttempt_schedule schedule).mp h),
    fun outcome h => hfails outcome ((isAttempt_schedule schedule).mp h)⟩

/-- The first failure among the outcomes of all inputs is the one of the first input that cannot be obtained. -/
theorem FirstFails.firstFailure? (h : FirstFails connection around inputs fault)
    {outcomes : List (Except Fault Payload)} (houtcomes : List.Forall₂ (IsAttempt connection around) inputs outcomes) :
    firstFailure? outcomes = some fault := by
  obtain ⟨before, input, rest, rfl, hbefore, hfails⟩ := h
  induction before generalizing outcomes with
  | nil =>
    cases houtcomes with
    | cons hattempt _ =>
      cases hfails _ hattempt
      rfl
  | cons first before ih =>
    cases houtcomes with
    | cons hattempt hrest =>
      obtain ⟨payload, rfl⟩ := hbefore first List.mem_cons_self _ hattempt
      have hothers := ih hrest fun earlier hearlier => hbefore earlier (List.mem_cons_of_mem _ hearlier)
      exact hothers

/-- What is sent to obtain an input. -/
def fetches (connection : Connection) (input : FileInput) : List Sent :=
  input.fetched.map fun address => .fetch ⟨address, connection⟩

/-- Attempting inputs sends what is sent to obtain each of them, in the order of the attempts. -/
theorem sent_attemptInOrder (connection : Connection) (inputs : List FileInput) (order : List Nat)
    (around : Surroundings) (session : Session) :
    ((attemptInOrder connection inputs order).start around session).2.sent =
      session.sent ++ (order.filterMap (inputs[·]?)).flatMap (fetches connection) := by
  induction order generalizing session with
  | nil => exact (List.append_nil _).symm
  | cons place rest ih =>
    unfold attemptInOrder
    cases hinput : inputs[place]? with
    | none =>
      rw [List.filterMap_cons_none hinput]
      exact ih session
    | some input =>
      rw [List.filterMap_cons_some hinput, List.flatMap_cons, ← List.append_assoc]
      dsimp only
      rw [start_bind_attempt, start_bind_pure, ih]
      exact congrArg (· ++ _) (spends_obtain connection input around session).1

/-- A stream that is open once an input was attempted was open before, or the payload that was obtained comes from
it. -/
theorem hasOpen_obtain (connection : Connection) (input : FileInput) (around : Surroundings) (session : Session)
    {id : StreamId} (h : ((obtain connection input).start around session).2.HasOpen id) :
    session.HasOpen id ∨
      ∃ p, ((obtain connection input).start around session).1 = .ok p ∧ p.source = .stream id := by
  rcases stream_or_yields connection input around with
    ⟨id', name, rfl⟩ | ⟨fault, hfault⟩ | ⟨p, data, hsource, hp⟩ | ⟨filename, content, hopened⟩
  · exact Or.inl h
  · obtain ⟨after, hstart, hafter⟩ := hfault session
    rw [hstart] at h
    exact Or.inl (Session.OpensNothing.of_streams hafter id h)
  · obtain ⟨after, hstart, hafter⟩ := hp session
    rw [hstart] at h
    exact Or.inl (Session.OpensNothing.of_streams hafter id h)
  · obtain ⟨after, hstart, hafter⟩ := hopened session
    rw [hstart] at h ⊢
    obtain ⟨stream, hthere, hopen⟩ := h
    by_cases hold : id < session.streams.length
    · rw [hafter, List.getElem?_append_left hold] at hthere
      exact Or.inl ⟨stream, hthere, hopen⟩
    · -- The only new place is the one behind all that were there.
      have hplace := (List.getElem?_eq_some_iff.mp hthere).1
      rw [hafter, List.length_append, List.length_singleton] at hplace
      exact Or.inr ⟨_, rfl, congrArg _ (Nat.eq_of_lt_succ_of_not_lt hplace hold).symm⟩

/-- A stream that is open once inputs were attempted was open before, or one of the payloads that were obtained comes
from it. -/
theorem hasOpen_attemptInOrder {order : List Nat} {attempts : List (Nat × Except Fault Payload)}
    (h : (attemptInOrder connection inputs order).start around session = (.ok attempts, after)) {id : StreamId}
    (hopen : after.HasOpen id) :
    session.HasOpen id ∨ ∃ place p, (place, .ok p) ∈ attempts ∧ p.source = .stream id := by
  induction order generalizing session attempts with
  | nil =>
    cases h
    exact Or.inl hopen
  | cons place rest ih =>
    unfold attemptInOrder at h
    cases hinput : inputs[place]? with
    | none =>
      rw [hinput] at h
      exact ih h
    | some input =>
      rw [hinput] at h
      dsimp only at h
      rw [start_bind_attempt] at h
      obtain ⟨others, reached, hothers, h⟩ := exists_of_start_bind h
      cases h
      rcases ih hothers with hbefore | ⟨place', p, hmem, hsource⟩
      · rcases hasOpen_obtain connection input around session hbefore with hsession | ⟨p, hp, hsource⟩
        · exact Or.inl hsession
        · exact Or.inr ⟨place, p, hp ▸ List.mem_cons_self, hsource⟩
      · exact Or.inr ⟨place', p, List.mem_cons_of_mem _ hmem, hsource⟩

/-- From one session to the other every input was attempted once, in the order of the schedule, and every payload that
was obtained was closed after all attempts. -/
def GivesUp (connection : Connection) (inputs : List FileInput) (around : Surroundings) (session after : Session) :
    Prop :=
  ∃ attempts attempted payloads,
    (attemptInOrder connection inputs (around.schedule.inputs inputs.length)).start around session =
      (.ok attempts, attempted) ∧
    (attempts.map Prod.fst).Perm (List.range inputs.length) ∧
    (∀ place outcome, (place, outcome) ∈ attempts → ∃ input, inputs[place]? = some input ∧
      IsAttempt connection around input outcome) ∧
    (∀ p, p ∈ payloads ↔ ∃ place, (place, .ok p) ∈ attempts) ∧
    (closeAll payloads).start around attempted = (.ok (), after)

/-- If some input cannot be obtained, the fault of the first one is raised, and all inputs are given up. -/
theorem start_obtainAll_of_firstFails (h : FirstFails connection around inputs fault) (session : Session) :
    ∃ after, (obtainAll connection inputs).start around session = (.error fault, after) ∧
      GivesUp connection inputs around session after := by
  obtain ⟨attempts, outcomes, attempted, hstart, hperm, houtcomes, -, hall⟩ :=
    start_obtainAll connection inputs around session
  obtain ⟨_, _, hstart', hplaces, hattempts⟩ :=
    start_attemptInOrder connection inputs (around.schedule.inputs inputs.length) around session
  cases hstart.symm.trans hstart'
  have horder := around.schedule.inputs_perm inputs.length
  rw [List.filter_eq_self.mpr fun place hplace => by simpa using horder.mem_iff.mp hplace] at hplaces
  rw [h.firstFailure? houtcomes] at hall
  refine ⟨_, hall, attempts, attempted, _, hstart, hplaces ▸ horder, hattempts, fun p => ?_, start_closeAll _ _ _⟩
  rw [mem_obtained, hperm.mem_iff, List.mem_map]
  exact ⟨fun ⟨⟨place, _⟩, hmem, heq⟩ => ⟨place, heq ▸ hmem⟩, fun ⟨place, hmem⟩ => ⟨_, hmem, rfl⟩⟩

/-- From one session to the other inputs left nothing behind: what is sent to obtain each of them was sent once, a
stream that is open was open before and is not one of the inputs, and nothing was handed over. -/
structure LeavesNothing (connection : Connection) (inputs : List FileInput) (session after : Session) : Prop where
  sent : ∃ messages, messages.Perm (inputs.flatMap (fetches connection)) ∧ after.sent = session.sent ++ messages
  closed : ∀ id, after.HasOpen id → session.HasOpen id ∧ ∀ name, FileInput.stream id name ∉ inputs
  dispatched : after.dispatched = session.dispatched

/-- Attempting all inputs sends what is sent to obtain each of them, in some order. -/
theorem sent_of_schedule (connection : Connection) (inputs : List FileInput) (around : Surroundings)
    (session : Session) :
    ∃ messages, messages.Perm (inputs.flatMap (fetches connection)) ∧
      ((attemptInOrder connection inputs (around.schedule.inputs inputs.length)).start around session).2.sent =
        session.sent ++ messages := by
  have horder := (around.schedule.inputs_perm inputs.length).filterMap (inputs[·]?)
  rw [filterMap_getElem?_range] at horder
  exact ⟨_, horder.flatMap_right _, sent_attemptInOrder connection inputs _ around session⟩

/-- A stream that is open once inputs were given up was open before and is not one of them. -/
theorem GivesUp.closed (h : GivesUp connection inputs around session after) {id : StreamId} (hopen : after.HasOpen id) :
    session.HasOpen id ∧ ∀ name, FileInput.stream id name ∉ inputs := by
  obtain ⟨attempts, attempted, payloads, hstart, hplaces, hattempts, hpayloads, hclose⟩ := h
  obtain ⟨hreleased, hopens⟩ := releases_closeAll payloads around attempted
  rw [hclose] at hreleased hopens
  have hnone (place : Nat) (p : Payload) (hmem : (place, .ok p) ∈ attempts) : p.source ≠ .stream id :=
    fun hsource => hreleased p ((hpayloads p).mpr ⟨place, hmem⟩) id hsource hopen
  constructor
  · rcases hasOpen_attemptInOrder hstart (hopens id hopen) with hsession | ⟨place, p, hmem, hsource⟩
    · exact hsession
    · exact absurd hsource (hnone place p hmem)
  · intro name hinput
    -- The attempt at the stream gave a payload that comes from it.
    obtain ⟨place, hplace⟩ := List.mem_iff_getElem?.mp hinput
    have hin := List.mem_range.mpr (List.getElem?_eq_some_iff.mp hplace).1
    obtain ⟨⟨_, outcome⟩, hmem, rfl⟩ := List.mem_map.mp (hplaces.mem_iff.mpr hin)
    obtain ⟨input, hinput', before, rfl⟩ := hattempts _ _ hmem
    cases hplace.symm.trans hinput'
    exact hnone _ _ hmem rfl

/-- Inputs that were given up left nothing behind. -/
theorem GivesUp.leavesNothing (h : GivesUp connection inputs around session after) :
    LeavesNothing connection inputs session after := by
  have hclosed {id : StreamId} (hopen : after.HasOpen id) := h.closed hopen
  obtain ⟨attempts, attempted, payloads, hstart, -, -, -, hclose⟩ := h
  obtain ⟨messages, hmessages, hsent⟩ := sent_of_schedule connection inputs around session
  have hattempting : (attemptInOrder connection inputs (around.schedule.inputs inputs.length)).Quiet :=
    keeps_attemptInOrder (fun input _ => quiet_obtain connection input) _
  have hclosing : (closeAll payloads).Quiet := keeps_closeAll quiet_closeStream payloads
  have hsending : (closeAll payloads).Keeps Session.sent := keeps_closeAll (fun _ _ _ => rfl) payloads
  have hdispatched := hattempting.dispatched around session
  have hdispatched' := hclosing.dispatched around attempted
  have hsent' := hsending around attempted
  rw [hstart] at hsent hdispatched
  rw [hclose] at hsent' hdispatched'
  exact ⟨⟨messages, hmessages, hsent'.trans hsent⟩, fun _ => hclosed, hdispatched'.trans hdispatched⟩

/-- Inputs that left nothing behind still have if only the log and the progress change. -/
theorem LeavesNothing.of_remarks (h : LeavesNothing connection inputs session after) (hremarks : after.Remarks later) :
    LeavesNothing connection inputs session later := by
  obtain ⟨log, progress, rfl⟩ := hremarks
  exact ⟨h.sent, h.closed, h.dispatched⟩

end Payload

end DocBuild
