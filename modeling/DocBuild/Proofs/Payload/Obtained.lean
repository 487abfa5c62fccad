import DocBuild.Payload.Obtain
import DocBuild.Proofs.Lookup
import DocBuild.Proofs.Session.Handing

/-!
# Obtaining all files

Files are obtained without anything being handed to a transport or reported. In whatever order the schedule
attempts them, every input is attempted; so if all files are obtained, there are as many payloads as inputs.
-/

namespace DocBuild.Payload

open Run

section Keeps

variable {γ : Type} {view : Session → γ} {connection : Connection}

/-- Opening a file keeps what opening a stream keeps. -/
theorem keeps_openFile (hopen : ∀ stream, (openStream stream).Keeps view) (path : FilePath) (lock : Option Text) :
    (openFile path lock).Keeps view := by
  refine keeps_surroundings.bind fun around => ?_
  split
  · exact keeps_throw _
  · exact keeps_throw _
  · exact keeps_throw _
  · exact keeps_throw _
  · exact (hopen _).bind fun id => keeps_pure _

/-- Sending a fetch keeps what noting a fetch keeps. -/
theorem keeps_exchange (hrecord : ∀ fetch, (record (.fetch fetch)).Keeps view) (connection : Connection)
    (address : Json) : (exchange connection address).Keeps view := by
  refine (hrecord _).bind fun _ => keeps_surroundings.bind fun around => ?_
  split
  · exact keeps_pure _
  · split <;> exact keeps_throw _
  · exact keeps_throw _

/-- Fetching a file keeps what noting a fetch and logging keep. -/
theorem keeps_fetch (hrecord : ∀ fetch, (record (.fetch fetch)).Keeps view)
    (hlog : ∀ level message fields, (log level message fields).Keeps view) (connection : Connection) (address : Json) :
    (fetch connection address).Keeps view := by
  refine (hlog _ _ _).bind fun _ => (keeps_exchange hrecord connection address).bind fun response => ?_
  split
  · exact (keeps_throw _).bind fun _ => (hlog _ _ _).bind fun _ => (keeps_ofExcept _).bind fun name => keeps_pure _
  · exact (hlog _ _ _).bind fun _ => (keeps_ofExcept _).bind fun name => keeps_pure _

/-- Obtaining a file keeps what noting a fetch, logging and opening a stream keep. -/
theorem keeps_obtain (hrecord : ∀ fetch, (record (.fetch fetch)).Keeps view)
    (hlog : ∀ level message fields, (log level message fields).Keeps view)
    (hopen : ∀ stream, (openStream stream).Keeps view) (connection : Connection) (input : FileInput) :
    (obtain connection input).Keeps view := by
  cases input with
  | text value =>
    refine (keeps_ofExcept _).bind fun remote => ?_
    split
    · exact keeps_fetch hrecord hlog connection _
    · exact keeps_openFile hopen _ _
  | path path => exact keeps_openFile hopen _ _
  | locked path reason => exact keeps_openFile hopen _ _
  | localFile path => exact (keeps_ofExcept _).bind fun path => keeps_openFile hopen _ _
  | remote address => exact keeps_fetch hrecord hlog connection address
  | inert => exact keeps_throw _
  | plain value => exact keeps_throw _
  | _ => exact keeps_pure _

/-- Closing payloads keeps what closing a stream keeps. -/
theorem keeps_closeAll (hclose : ∀ id, (closeStream id).Keeps view) (payloads : List Payload) :
    (closeAll payloads).Keeps view := by
  induction payloads with
  | nil => exact keeps_pure _
  | cons payload rest ih =>
    refine Keeps.bind ?_ fun _ => ih
    unfold close
    split
    · exact keeps_pure _
    · exact hclose _

/-- Attempting inputs keeps what obtaining each of them keeps. -/
theorem keeps_attemptInOrder {inputs : List FileInput} (h : ∀ input ∈ inputs, (obtain connection input).Keeps view)
    (order : List Nat) : (attemptInOrder connection inputs order).Keeps view := by
  induction order with
  | nil => exact keeps_pure _
  | cons place rest ih =>
    unfold attemptInOrder
    split
    · exact ih
    · next input hinput =>
      exact (h input (List.mem_of_getElem? hinput)).attempt.bind fun outcome => ih.bind fun others => keeps_pure _

/-- Obtaining all inputs keeps what obtaining each of them and closing a stream keep. -/
theorem keeps_obtainAll (hclose : ∀ id, (closeStream id).Keeps view) {inputs : List FileInput}
    (h : ∀ input ∈ inputs, (obtain connection input).Keeps view) : (obtainAll connection inputs).Keeps view := by
  refine keeps_surroundings.bind fun around => (keeps_attemptInOrder h _).bind fun attempts => ?_
  dsimp only
  split
  · exact keeps_pure _
  · exact (keeps_closeAll hclose _).bind fun _ => keeps_throw _

end Keeps

/-- Obtaining a file is quiet. -/
theorem quiet_obtain (connection : Connection) (input : FileInput) : (obtain connection input).Quiet :=
  keeps_obtain (fun _ => quiet_record _) quiet_log quiet_openStream connection input

/-- Obtaining all inputs is quiet. -/
theorem quiet_obtainAll (connection : Connection) (inputs : List FileInput) :
    (obtainAll connection inputs).Quiet :=
  keeps_obtainAll quiet_closeStream fun input _ => quiet_obtain connection input

/-- An outcome is one of obtaining an input, at some moment. -/
def IsAttempt (connection : Connection) (around : Surroundings) (input : FileInput)
    (outcome : Except Fault Payload) : Prop :=
  ∃ before, outcome = ((obtain connection input).start around before).1

/-- Every input whose place is in the order is attempted, in this order. -/
theorem start_attemptInOrder (connection : Connection) (inputs : List FileInput) (order : List Nat)
    (around : Surroundings) (session : Session) :
    ∃ attempts after, (attemptInOrder connection inputs order).start around session = (.ok attempts, after) ∧
      attempts.map Prod.fst = order.filter (· < inputs.length) ∧
      ∀ place outcome, (place, outcome) ∈ attempts → ∃ input, inputs[place]? = some input ∧
        IsAttempt connection around input outcome := by
  induction order generalizing session with
  | nil => exact ⟨[], session, rfl, rfl, by simp⟩
  | cons place rest ih =>
    unfold attemptInOrder
    cases hinput : inputs[place]? with
    | none =>
      obtain ⟨attempts, after, hrest, hplaces, hattempts⟩ := ih session
      have hout : ¬ place < inputs.length := by simpa using hinput
      exact ⟨attempts, after, hrest, by rw [hplaces, List.filter_cons_of_neg (by simpa using hout)], hattempts⟩
    | some input =>
      obtain ⟨attempts, after, hrest, hplaces, hattempts⟩ := ih ((obtain connection input).start around session).2
      have hin : place < inputs.length := (List.getElem?_eq_some_iff.mp hinput).1
      refine ⟨(place, ((obtain connection input).start around session).1) :: attempts, after, ?_, ?_, ?_⟩
      · dsimp only
        rw [start_bind_attempt, start_bind_of_ok hrest]
        rfl
      · rw [List.map_cons, hplaces, List.filter_cons_of_pos (by simpa using hin)]
      · intro p outcome hmem
        rcases List.mem_cons.mp hmem with heq | hmem
        · cases heq
          exact ⟨input, hinput, session, rfl⟩
        · exact hattempts p outcome hmem

/-- Closing a payload does not fail. -/
theorem start_close (p : Payload) (around : Surroundings) (session : Session) :
    p.close.start around session = (.ok (), (p.close.start around session).2) := by
  unfold close
  split <;> rfl

/-- Closing payloads does not fail. -/
theorem start_closeAll (payloads : List Payload) (around : Surroundings) (session : Session) :
    (closeAll payloads).start around session = (.ok (), ((closeAll payloads).start around session).2) := by
  induction payloads generalizing session with
  | nil => rfl
  | cons payload rest ih =>
    unfold closeAll
    rw [start_bind_of_ok (payload.start_close around session)]
    exact ih _

/-- In whatever order all inputs are attempted, looking the outcomes up gives one for each input, in the order of
the inputs. -/
theorem forall₂_lookup {inputs : List FileInput} {attempts : List (Nat × Except Fault Payload)}
    {R : FileInput → Except Fault Payload → Prop}
    (hplaces : (attempts.map Prod.fst).Perm (List.range inputs.length))
    (hattempts : ∀ place outcome, (place, outcome) ∈ attempts → ∃ input, inputs[place]? = some input ∧
      R input outcome) :
    List.Forall₂ R inputs ((List.range inputs.length).filterMap (attempts.lookup ·)) := by
  refine forall₂_filterMap_lookup fun place input hinput => ?_
  have hplace : place < inputs.length := (List.getElem?_eq_some_iff.mp hinput).1
  obtain ⟨⟨_, outcome⟩, hmem, rfl⟩ := List.mem_map.mp (hplaces.mem_iff.mpr (List.mem_range.mpr hplace))
  obtain ⟨input', hinput', hattempt⟩ := hattempts _ _ hmem
  cases hinput.symm.trans hinput'
  exact ⟨outcome, lookup_eq_of_mem (hplaces.nodup_iff.mpr List.nodup_range) hmem, hattempt⟩

/-- All inputs are obtained if no attempt fails; otherwise what was obtained is closed, and the first failure is
raised. The outcomes are those of the attempts, and what holds of each attempt holds of the outcome for its input. -/
theorem start_obtainAll (connection : Connection) (inputs : List FileInput) (around : Surroundings)
    (session : Session) :
    ∃ attempts outcomes attempted,
      (attemptInOrder connection inputs (around.schedule.inputs inputs.length)).start around session =
        (.ok attempts, attempted) ∧
      outcomes.Perm (attempts.map Prod.snd) ∧ List.Forall₂ (IsAttempt connection around) inputs outcomes ∧
      (∀ R : FileInput → Except Fault Payload → Prop,
        (∀ place outcome, (place, outcome) ∈ attempts → ∃ input, inputs[place]? = some input ∧ R input outcome) →
        List.Forall₂ R inputs outcomes) ∧
      (obtainAll connection inputs).start around session =
        match firstFailure? outcomes with
        | none => (.ok (obtained outcomes), attempted)
        | some fault => (.error fault, ((closeAll (obtained outcomes)).start around attempted).2) := by
  obtain ⟨attempts, attempted, hstart, hfirsts, hattempts⟩ :=
    start_attemptInOrder connection inputs (around.schedule.inputs inputs.length) around session
  have horder := around.schedule.inputs_perm inputs.length
  have hplaces : (attempts.map Prod.fst).Perm (List.range inputs.length) := by
    rw [hfirsts, List.filter_eq_self.mpr fun place hplace => by simpa using horder.mem_iff.mp hplace]
    exact horder
  have hnodup := hplaces.nodup_iff.mpr List.nodup_range
  refine ⟨attempts, _, attempted, hstart, filterMap_lookup_perm hnodup hplaces.symm,
    forall₂_lookup hplaces hattempts, fun R => forall₂_lookup hplaces, ?_⟩
  unfold obtainAll
  rw [start_bind_of_ok start_surroundings]
  dsimp only
  rw [start_bind_of_ok hstart]
  cases firstFailure? ((List.range inputs.length).filterMap (attempts.lookup ·)) with
  | none => rfl
  | some fault => exact start_bind_of_ok (start_closeAll _ _ _) _

/-- Outcomes without a failure are all payloads. -/
theorem length_obtained {outcomes : List (Except Fault Payload)} (h : firstFailure? outcomes = none) :
    (obtained outcomes).length = outcomes.length := by
  unfold obtained
  rw [List.filterMap_length_eq_length]
  intro outcome houtcome
  have hnone := List.findSome?_eq_none_iff.mp h outcome houtcome
  cases outcome with
  | ok payload => rfl
  | error fault => simp at hnone

/-- If all inputs are obtained, there are as many payloads. -/
theorem length_obtainAll {connection : Connection} {inputs : List FileInput} {around : Surroundings}
    {session after : Session} {payloads : List Payload}
    (h : (obtainAll connection inputs).start around session = (.ok payloads, after)) :
    payloads.length = inputs.length := by
  obtain ⟨attempts, outcomes, attempted, -, -, houtcomes, -, hall⟩ :=
    start_obtainAll connection inputs around session
  rw [h] at hall
  split at hall
  · rename_i hnone
    cases hall
    rw [length_obtained hnone, houtcomes.length_eq]
  · cases hall

/-- If not all inputs are obtained, what is raised is what came of attempting one of them. -/
theorem exists_attempt_of_start_obtainAll {connection : Connection} {inputs : List FileInput} {around : Surroundings}
    {session after : Session} {fault : Fault}
    (h : (obtainAll connection inputs).start around session = (.error fault, after)) :
    ∃ input ∈ inputs, IsAttempt connection around input (.error fault) := by
  obtain ⟨attempts, outcomes, attempted, -, -, houtcomes, -, hall⟩ :=
    start_obtainAll connection inputs around session
  rw [h] at hall
  split at hall
  · cases hall
  · next hfailure =>
    cases hall
    obtain ⟨outcome, houtcome, hfault⟩ := List.exists_of_findSome?_eq_some hfailure
    obtain ⟨place, hplace, rfl⟩ := List.getElem_of_mem houtcome
    have hinput : place < inputs.length := houtcomes.length_eq ▸ hplace
    have hattempt := houtcomes.get hinput hplace
    split at hfault
    · contradiction
    · next hraised =>
      cases hfault
      exact ⟨_, List.getElem_mem hinput, hraised ▸ hattempt⟩

/-- However often it is attempted to obtain an input, no attempt fails. -/
def Obtainable (connection : Connection) (around : Surroundings) (input : FileInput) : Prop :=
  ∀ outcome, IsAttempt connection around input outcome → ∃ payload, outcome = .ok payload

/-- Outcomes that are all payloads are obtained in order, and what holds of the outcomes holds of the payloads. -/
theorem obtained_of_forall₂ {R : FileInput → Except Fault Payload → Prop} {inputs : List FileInput}
    (h : ∀ input ∈ inputs, ∀ outcome, R input outcome → ∃ payload, outcome = .ok payload)
    {outcomes : List (Except Fault Payload)} (houtcomes : List.Forall₂ R inputs outcomes) :
    firstFailure? outcomes = none ∧
      List.Forall₂ (fun input payload => R input (.ok payload)) inputs (obtained outcomes) := by
  induction houtcomes with
  | nil => exact ⟨rfl, .nil⟩
  | cons hattempt _ ih =>
    obtain ⟨payload, rfl⟩ := h _ List.mem_cons_self _ hattempt
    obtain ⟨hnone, hall⟩ := ih fun input hinput => h input (List.mem_cons_of_mem _ hinput)
    exact ⟨hnone, .cons hattempt hall⟩

/-- If all inputs can be obtained, all are obtained, in their order. What obtaining each of them keeps is kept. -/
theorem start_obtainAll_of_obtainable {connection : Connection} {around : Surroundings} {inputs : List FileInput}
    (h : ∀ input ∈ inputs, Obtainable connection around input) (session : Session) :
    ∃ payloads after, (obtainAll connection inputs).start around session = (.ok payloads, after) ∧
      List.Forall₂ (fun input payload => IsAttempt connection around input (.ok payload)) inputs payloads ∧
      ∀ {γ : Type} (view : Session → γ), (∀ input ∈ inputs, (obtain connection input).Keeps view) →
        view after = view session := by
  obtain ⟨attempts, outcomes, attempted, hattempts, -, houtcomes, -, hall⟩ :=
    start_obtainAll connection inputs around session
  obtain ⟨hnone, hpayloads⟩ := obtained_of_forall₂ h houtcomes
  rw [hnone] at hall
  refine ⟨_, attempted, hall, hpayloads, fun view hkeeps => ?_⟩
  have hkept := keeps_attemptInOrder hkeeps (around.schedule.inputs inputs.length) around session
  rwa [hattempts] at hkept

end DocBuild.Payload
