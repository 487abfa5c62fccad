import DocBuild.Proofs.Payload.Obtained

/-!
# Releasing payloads

A payload is released if the stream it comes from, if it comes from one, is not open any more. Closing payloads
releases them and opens nothing. If some input cannot be obtained, every payload that was produced for another one
is released; if all are obtained, the payloads that were produced are exactly those that are given.
-/

namespace DocBuild

open Run

variable {around : Surroundings} {session middle after : Session}

/-- A stream is there and is not closed. -/
def Session.HasOpen (session : Session) (id : StreamId) : Prop :=
  ∃ stream, session.streams[id]? = some stream ∧ stream.closed = false

/-- The octets of a payload are its own, or the stream they come from is not open. -/
def Payload.IsReleased (p : Payload) (session : Session) : Prop :=
  ∀ id, p.source = .stream id → ¬ session.HasOpen id

/-- Every stream that is open after it was open before. -/
def Session.OpensNothing (session after : Session) : Prop := ∀ id, after.HasOpen id → session.HasOpen id

/-- What is released stays released if nothing is opened. -/
theorem Session.OpensNothing.isReleased (h : session.OpensNothing after) {p : Payload}
    (hp : p.IsReleased session) : p.IsReleased after :=
  fun id hid hopen => hp id hid (h id hopen)

/-- Nothing is opened if the streams stay as they are. -/
theorem Session.OpensNothing.of_streams (h : after.streams = session.streams) : session.OpensNothing after := by
  intro id hopen
  unfold HasOpen at hopen
  rwa [h] at hopen

/-- What is released by a step stays released if what follows does not touch the streams. -/
theorem Payload.isReleased_bind {α β : Type} {x : Run α} {k : α → Run β} {p : Payload}
    (hx : p.IsReleased (x.start around session).2) (hk : ∀ a, (k a).Keeps Session.streams) :
    p.IsReleased ((x >>= k).start around session).2 :=
  (Session.OpensNothing.of_streams (view_bind hk around session)).isReleased hx

/-- A closed stream is not open, and closing it opens nothing. -/
theorem Run.start_closeStream (id : StreamId) (around : Surroundings) (session : Session) :
    ¬ ((closeStream id).start around session).2.HasOpen id ∧
      session.OpensNothing ((closeStream id).start around session).2 := by
  have hstreams : ((closeStream id).start around session).2.streams =
      session.streams.set id (session.streamAt id).close := rfl
  constructor
  · rintro ⟨stream, hstream, hopen⟩
    rw [hstreams, List.getElem?_set] at hstream
    grind [Stream.close]
  · rintro other ⟨stream, hstream, hopen⟩
    rw [hstreams, List.getElem?_set] at hstream
    unfold Session.HasOpen
    grind [Stream.close]

namespace Payload

/-- Closing a payload releases it, and opens nothing. -/
theorem releases_close (p : Payload) (around : Surroundings) (session : Session) :
    p.IsReleased (p.close.start around session).2 ∧ session.OpensNothing (p.close.start around session).2 := by
  unfold close
  cases hsource : p.source with
  | owned data => exact ⟨fun id hid => by simp [hsource] at hid, .of_streams rfl⟩
  | stream id =>
    obtain ⟨hclosed, hopens⟩ := start_closeStream id around session
    refine ⟨fun other hother => ?_, hopens⟩
    cases hsource.symm.trans hother
    exact hclosed

/-- Closing payloads releases them, and opens nothing. -/
theorem releases_closeAll (payloads : List Payload) (around : Surroundings) (session : Session) :
    (∀ p ∈ payloads, p.IsReleased ((closeAll payloads).start around session).2) ∧
      session.OpensNothing ((closeAll payloads).start around session).2 := by
  induction payloads generalizing session with
  | nil => exact ⟨by simp, .of_streams rfl⟩
  | cons payload rest ih =>
    obtain ⟨hfirst, hopens⟩ := payload.releases_close around session
    obtain ⟨hrest, hopens'⟩ := ih (payload.close.start around session).2
    unfold closeAll
    rw [start_bind_of_ok (payload.start_close around session)]
    refine ⟨fun p hp => ?_, fun id hopen => hopens id (hopens' id hopen)⟩
    rcases List.mem_cons.mp hp with rfl | hp
    · exact hopens'.isReleased hfirst
    · exact hrest p hp

/-- The payloads among outcomes. -/
theorem mem_obtained {outcomes : List (Except Fault Payload)} {p : Payload} :
    p ∈ obtained outcomes ↔ .ok p ∈ outcomes := by
  unfold obtained
  rw [List.mem_filterMap]
  constructor
  · rintro ⟨outcome, houtcome, hp⟩
    cases outcome with
    | ok payload => cases hp; exact houtcome
    | error fault => contradiction
  · exact fun h => ⟨.ok p, h, rfl⟩

/-- The payloads that were made of inputs, whether or not others could be obtained. -/
def produced (connection : Connection) (inputs : List FileInput) (around : Surroundings) (session : Session) :
    List Payload :=
  match ((attemptInOrder connection inputs (around.schedule.inputs inputs.length)).start around session).1 with
  | .ok attempts => obtained (attempts.map Prod.snd)
  | .error _ => []

/-- If all inputs are obtained, the payloads that are given are those that were produced; otherwise all that were
produced are released. -/
theorem produced_obtainAll {connection : Connection} {inputs : List FileInput} {outcome : Except Fault (List Payload)}
    (h : (obtainAll connection inputs).start around session = (outcome, after)) :
    (∀ payloads, outcome = .ok payloads → ∀ p, p ∈ produced connection inputs around session ↔ p ∈ payloads) ∧
    ∀ fault, outcome = .error fault → ∀ p ∈ produced connection inputs around session, p.IsReleased after := by
  obtain ⟨attempts, outcomes, attempted, hstart, hperm, -, -, hall⟩ :=
    start_obtainAll connection inputs around session
  have hproduced : ∀ p, p ∈ produced connection inputs around session ↔ p ∈ obtained outcomes := by
    intro p
    rw [produced, hstart, mem_obtained, mem_obtained]
    exact hperm.symm.mem_iff
  rw [h] at hall
  cases hfailure : firstFailure? outcomes with
  | none =>
    simp only [hfailure, Prod.mk.injEq] at hall
    obtain ⟨rfl, rfl⟩ := hall
    refine ⟨fun payloads hpayloads p => ?_, fun fault hfault => by contradiction⟩
    cases hpayloads
    exact hproduced p
  | some fault =>
    simp only [hfailure, Prod.mk.injEq] at hall
    obtain ⟨rfl, rfl⟩ := hall
    refine ⟨fun payloads hpayloads => by contradiction, fun _ _ p hp => ?_⟩
    exact (releases_closeAll _ around attempted).1 p ((hproduced p).mp hp)

end Payload

end DocBuild
