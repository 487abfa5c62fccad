import DocBuild.Service.Transport

/-!
# Runs and what they leave alone

How the parts of an operation make up its outcome and the session after it, and what an operation leaves alone in
the session, however it ends. A part that is left alone by each step is left alone by all of them. Logging and
reporting progress leave all else alone. Only sending hands requests to a transport; it hands over exactly the request,
whatever comes of it, and reports no progress.
-/

namespace DocBuild

/-- The stream with a number; where there is none it is a closed one. -/
def Session.streamAt (session : Session) (id : StreamId) : Stream :=
  session.streams.getD id { content := [], closed := true }

/-- The stream with a number is the one at its place, if there is one. -/
theorem Session.streamAt_eq (session : Session) (id : StreamId) :
    session.streamAt id = (session.streams[id]?).getD { content := [], closed := true } :=
  List.getD_eq_getElem?_getD

namespace Run

variable {α β γ δ : Type} {around : Surroundings} {session after : Session}

/-- A value alone changes nothing. -/
@[simp] theorem start_pure (a : α) : (pure a : Run α).start around session = (.ok a, session) := rfl

/-- A fault alone changes nothing. -/
@[simp] theorem start_throw (fault : Fault) :
    (throw fault : Run α).start around session = (.error fault, session) := rfl

/-- What follows a value goes on in the session that was left. -/
theorem start_bind_of_ok {x : Run α} {a : α} (h : x.start around session = (.ok a, after)) (k : α → Run β) :
    (x >>= k).start around session = (k a).start around after := by
  simp only [start, ReaderT.run, ExceptT.run, StateT.run] at h ⊢
  simp only [bind, ReaderT.bind, ExceptT.bind, ExceptT.mk, StateT.bind, h, ExceptT.bindCont]

/-- Nothing follows a fault. -/
theorem start_bind_of_error {x : Run α} {fault : Fault} (h : x.start around session = (.error fault, after))
    (k : α → Run β) : (x >>= k).start around session = (.error fault, after) := by
  simp only [start, ReaderT.run, ExceptT.run, StateT.run] at h ⊢
  simp only [bind, ReaderT.bind, ExceptT.bind, ExceptT.mk, StateT.bind, h, ExceptT.bindCont]
  rfl

/-- A run that gives a value got one from its first step and went on from there. -/
theorem exists_of_start_bind {x : Run α} {k : α → Run β} {b : β}
    (h : (x >>= k).start around session = (.ok b, after)) :
    ∃ a reached, x.start around session = (.ok a, reached) ∧ (k a).start around reached = (.ok b, after) := by
  rcases hx : x.start around session with ⟨fault | a, reached⟩
  · cases h.symm.trans (start_bind_of_error hx k)
  · exact ⟨a, reached, rfl, (start_bind_of_ok hx k).symm.trans h⟩

/-- A step and a value made from what it gives. -/
theorem start_bind_pure (x : Run α) (f : α → β) :
    (x >>= fun a => pure (f a)).start around session =
      ((x.start around session).1.map f, (x.start around session).2) := by
  rcases h : x.start around session with ⟨fault | a, after⟩
  · rw [start_bind_of_error h]
    rfl
  · rw [start_bind_of_ok h]
    rfl

/-- A function of what a step gives. -/
theorem start_map (x : Run α) (f : α → β) :
    (f <$> x).start around session = ((x.start around session).1.map f, (x.start around session).2) :=
  start_bind_pure x f

/-- An attempt gives the outcome. -/
@[simp] theorem start_attempt (x : Run α) :
    (attempt x).start around session = (.ok (x.start around session).1, (x.start around session).2) := rfl

/-- What follows an attempt goes on with the outcome in the session that was left. -/
theorem start_bind_attempt (x : Run α) (k : Except Fault α → Run β) :
    (attempt x >>= k).start around session =
      (k (x.start around session).1).start around (x.start around session).2 :=
  start_bind_of_ok (start_attempt x) k

/-- An outcome comes out as it is. -/
@[simp] theorem start_ofExcept (outcome : Except Fault α) :
    (ofExcept outcome).start around session = (outcome, session) := by
  cases outcome <;> rfl

/-- What follows an outcome that is a value goes on with it. -/
theorem ofExcept_ok_bind (a : α) (k : α → Run β) : (ofExcept (.ok a) >>= k) = k a := rfl

/-- A cleanup that does not fail is done in the session that was left, and does not change what comes out. -/
theorem start_andFinally {x : Run α} {cleanup : Run Unit}
    (h : ∀ session, cleanup.start around session = (.ok (), (cleanup.start around session).2)) :
    (andFinally x cleanup).start around session =
      ((x.start around session).1, (cleanup.start around (x.start around session).2).2) := by
  unfold andFinally
  rw [start_bind_attempt, start_bind_of_ok (h _), start_ofExcept]

/-- The surroundings are those of the run. -/
@[simp] theorem start_surroundings : surroundings.start around session = (.ok around, session) := rfl

/-- A change of the session changes the session. -/
@[simp] theorem start_modify (f : Session → Session) :
    (modify f : Run Unit).start around session = (.ok (), f session) := rfl

/-- The session is the one of the run. -/
@[simp] theorem start_get : (get : Run Session).start around session = (.ok session, session) := rfl

/-- A stream that cannot be read is left as it is. -/
theorem start_readStream_of_error {id : StreamId} {fault : Fault} (h : (session.streamAt id).read = .error fault) :
    (readStream id).start around session = (.error fault, session) := by
  have hstream : (stream id).start around session = (.ok (session.streamAt id), session) := rfl
  unfold readStream
  rw [start_bind_of_ok hstream, h]
  rfl

/-- A stream that is read gives its content, and what is left of it stays. -/
theorem start_readStream_of_ok {id : StreamId} {content : Bytes} {left : Stream}
    (h : (session.streamAt id).read = .ok (content, left)) :
    (readStream id).start around session = (.ok content, { session with streams := session.streams.set id left }) := by
  have hstream : (stream id).start around session = (.ok (session.streamAt id), session) := rfl
  unfold readStream
  rw [start_bind_of_ok hstream, h]
  rfl

/-- Whatever comes of `x`, what is seen of the session is the same after it. -/
def Keeps (view : Session → γ) (x : Run α) : Prop :=
  ∀ around session, view (x.start around session).2 = view session

section Keeps

variable {view : Session → γ}

/-- A value alone keeps everything. -/
theorem keeps_pure (a : α) : (pure a : Run α).Keeps view := fun _ _ => rfl

/-- A fault alone keeps everything. -/
theorem keeps_throw (fault : Fault) : (throw fault : Run α).Keeps view := fun _ _ => rfl

/-- What follows a step does not matter for what it keeps. -/
theorem view_bind {x : Run α} {k : α → Run β} (hk : ∀ a, (k a).Keeps view) (around : Surroundings)
    (session : Session) : view ((x >>= k).start around session).2 = view (x.start around session).2 := by
  rcases h : x.start around session with ⟨fault | a, after⟩
  · rw [start_bind_of_error h]
  · rw [start_bind_of_ok h]
    exact hk a around after

/-- What two steps keep is kept by one after the other. -/
theorem Keeps.bind {x : Run α} {k : α → Run β} (hx : x.Keeps view) (hk : ∀ a, (k a).Keeps view) :
    (x >>= k).Keeps view := by
  intro around session
  rw [view_bind hk]
  exact hx around session

/-- A function of what a step gives does not matter for what is kept. -/
theorem Keeps.map {x : Run α} (hx : x.Keeps view) (f : α → β) : (f <$> x).Keeps view := by
  intro around session
  rw [start_map]
  exact hx around session

/-- An attempt keeps what it attempts to. -/
theorem Keeps.attempt {x : Run α} (hx : x.Keeps view) : (attempt x).Keeps view :=
  fun around session => hx around session

/-- What is seen of a part that is kept is kept. -/
theorem Keeps.comp {x : Run α} (hx : x.Keeps view) (part : γ → δ) : x.Keeps fun session => part (view session) :=
  fun around session => congrArg part (hx around session)

/-- An outcome alone keeps everything. -/
theorem keeps_ofExcept (outcome : Except Fault α) : (ofExcept outcome).Keeps view := by
  intro around session
  rw [start_ofExcept]

/-- A change keeps what it does not change. -/
theorem keeps_modify {f : Session → Session} (h : ∀ session, view (f session) = view session) :
    (modify f : Run Unit).Keeps view := fun _ session => h session

/-- Looking at the surroundings keeps everything. -/
theorem keeps_surroundings : surroundings.Keeps view := fun _ _ => rfl

/-- Logging keeps what does not depend on the log. -/
theorem keeps_log (h : ∀ (session : Session) log, view { session with log } = view session) (level : LogLevel)
    (message : Text) (fields : Members) : (log level message fields).Keeps view :=
  keeps_modify fun session => by
    split
    · exact h session _
    · rfl

/-- Reading a stream keeps what does not depend on the streams. -/
theorem keeps_readStream (h : ∀ (session : Session) streams, view { session with streams } = view session)
    (id : StreamId) : (readStream id).Keeps view :=
  Keeps.bind (fun _ _ => rfl) fun _ => (keeps_ofExcept _).bind fun _ =>
    (keeps_modify fun session => h session _).bind fun _ => keeps_pure _

end Keeps

/-- Whatever comes of `x`, it hands no request over and reports no progress. -/
def Quiet (x : Run α) : Prop := x.Keeps fun session => (session.dispatched, session.progress)

/-- Noting a message is quiet. -/
theorem quiet_record (message : Sent) : (record message).Quiet := keeps_modify fun _ => rfl

/-- Logging is quiet. -/
theorem quiet_log (level : LogLevel) (message : Text) (fields : Members) : (log level message fields).Quiet :=
  keeps_log (fun _ _ => rfl) level message fields

/-- Noting a report of progress hands nothing over. -/
theorem keeps_dispatched_report (progress : ProgressReport) : (report progress).Keeps Session.dispatched :=
  keeps_modify fun _ => rfl

/-- Opening a stream is quiet. -/
theorem quiet_openStream (stream : Stream) : (openStream stream).Quiet := fun _ _ => rfl

/-- Closing a stream is quiet. -/
theorem quiet_closeStream (id : StreamId) : (closeStream id).Quiet := fun _ _ => rfl

/-- What is quiet hands nothing over. -/
theorem Quiet.dispatched {x : Run α} (hx : x.Quiet) : x.Keeps Session.dispatched := Keeps.comp hx Prod.fst

/-- What is quiet reports no progress. -/
theorem Quiet.progress {x : Run α} (hx : x.Quiet) : x.Keeps Session.progress := Keeps.comp hx Prod.snd

/-- Whatever comes of `x`, it hands over exactly the given requests. -/
def Hands (x : Run α) (requests : List (Request Payload)) : Prop :=
  ∀ around session, (x.start around session).2.dispatched = session.dispatched ++ requests

/-- What is made of a value does not matter for what is handed over. -/
theorem Hands.bind_pure {x : Run α} {requests : List (Request Payload)} (hx : x.Hands requests) (f : α → β) :
    (x >>= fun a => pure (f a)).Hands requests := by
  intro around session
  rw [start_bind_pure]
  exact hx around session

/-- A function of what a step gives does not matter for what is handed over. -/
theorem Hands.map {x : Run α} {requests : List (Request Payload)} (hx : x.Hands requests) (f : α → β) :
    (f <$> x).Hands requests :=
  hx.bind_pure f

/-- What is handed over after a message is logged is all that is handed over. -/
theorem Hands.after_log {x : Run α} {requests : List (Request Payload)} (hx : x.Hands requests) (level : LogLevel)
    (message : Text) (fields : Members) : (log level message fields >>= fun _ => x).Hands requests := by
  intro around session
  have hlog := (quiet_log level message fields).dispatched around session
  have hstart : (log level message fields).start around session =
      (.ok (), ((log level message fields).start around session).2) := rfl
  rw [start_bind_of_ok hstart, hx, hlog]

end Run

/-- From one session to the other nothing but the log and the progress changed. -/
def Session.Remarks (session after : Session) : Prop :=
  ∃ log progress, after = { session with log, progress }

/-- Nothing changed. -/
theorem Session.Remarks.refl (session : Session) : session.Remarks session := ⟨_, _, rfl⟩

/-- If only the log and the progress changed, and then again, only these changed. -/
theorem Session.Remarks.trans {session middle after : Session} (h : session.Remarks middle)
    (h' : middle.Remarks after) : session.Remarks after := by
  obtain ⟨log, progress, rfl⟩ := h
  obtain ⟨log', progress', rfl⟩ := h'
  exact ⟨log', progress', rfl⟩

/-- Logging changes the log. -/
theorem Session.remarks_log (level : LogLevel) (message : Text) (fields : Members) (around : Surroundings)
    (session : Session) :
    ∃ logged, (Run.log level message fields).start around session = (.ok (), logged) ∧ session.Remarks logged := by
  unfold Run.log
  rw [Run.start_modify]
  refine ⟨_, rfl, ?_⟩
  split
  · exact ⟨_, _, rfl⟩
  · exact .refl session

/-- Sending comes to what the transport comes to; what was handed over is noted, and the progress is kept. -/
theorem Transport.start_send (t : Transport) (request : Request Payload) (around : Surroundings)
    (session : Session) :
    (t.send request).start around session =
      (((t.deliver request).start around session).1,
        { ((t.deliver request).start around session).2 with
          dispatched := session.dispatched ++ [request], progress := session.progress }) := by
  unfold send
  rw [Run.start_bind_of_ok Run.start_get, Run.start_andFinally fun session => Run.start_modify _]
  rfl

/-- Sending hands over exactly the request. -/
theorem Transport.hands_send (t : Transport) (request : Request Payload) : (t.send request).Hands [request] := by
  intro around session
  rw [start_send]

/-- Sending reports no progress. -/
theorem Transport.keeps_progress_send (t : Transport) (request : Request Payload) :
    (t.send request).Keeps Session.progress := by
  intro around session
  rw [start_send]

end DocBuild
