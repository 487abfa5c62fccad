import Mathlib.Data.List.Forall2
import DocBuild.Payload
import DocBuild.Payload.Obtain
import DocBuild.Proofs.Session.Handing
import DocBuild.Service.Http

/-!
# Sessions that differ in a key

Two sessions are alike for two keys if they differ only in the headers of the requests that were sent: those of the one
session carry the one key, those of the other the other. Two operations agree if they come to the same outcome from
sessions that are alike, and leave sessions that are alike. Agreement is kept by every construct, so an operation that
never looks at the requests that were sent agrees with itself.
-/

namespace DocBuild

/-- The request without the header for the key. -/
def HttpRequest.anonymous (r : HttpRequest) : HttpRequest :=
  { r with headers := r.headers.filter fun header => header.1 ≠ "Authorization" }

/-- The service answers without looking at the header for the key. -/
def Surroundings.IgnoresKeys (around : Surroundings) : Prop :=
  ∀ (earlier earlier' : List HttpRequest) (message message' : HttpRequest),
    earlier.map HttpRequest.anonymous = earlier'.map HttpRequest.anonymous →
      message.anonymous = message'.anonymous → around.service earlier message = around.service earlier' message'

/-- Two messages that are the same but for the keys: requests to the service carry each its own key in the
authorization header, and fetches of remote files are the same. -/
inductive Sent.Alike (key key' : Text) : Sent → Sent → Prop where
  | request (r : HttpRequest) (h : r.headers = HttpTransport.headers key) :
    Alike key key' (.request r) (.request { r with headers := HttpTransport.headers key' })
  | fetch (f : Fetch) : Alike key key' (.fetch f) (.fetch f)

/-- Two sessions that are the same but for the keys in the requests that were sent. -/
structure Session.Alike (key key' : Text) (session session' : Session) : Prop where
  sent : List.Forall₂ (Sent.Alike key key') session.sent session'.sent
  others : session' = { session with sent := session'.sent }

variable {α β : Type} {key key' : Text} {around : Surroundings} {session session' : Session}

/-- What is added to messages that are alike makes messages that are alike. -/
theorem Session.Alike.record (h : session.Alike key key' session') {message message' : Sent}
    (hmessage : message.Alike key key' message') :
    ({ session with sent := session.sent ++ [message] } : Session).Alike key key'
      { session' with sent := session'.sent ++ [message'] } := by
  obtain ⟨hsent, hothers⟩ := h
  refine ⟨List.rel_append hsent (.cons hmessage .nil), ?_⟩
  rw [hothers]

/-- Requests that are alike are the same without the header for the key. -/
theorem anonymous_of_alike {sent sent' : List Sent} (h : List.Forall₂ (Sent.Alike key key') sent sent') :
    (sent.filterMap Sent.request?).map HttpRequest.anonymous =
      (sent'.filterMap Sent.request?).map HttpRequest.anonymous := by
  induction h with
  | nil => rfl
  | cons hmessage _ ih =>
    cases hmessage with
    | request r hkey =>
      have hfirst : r.anonymous = { r with headers := HttpTransport.headers key' : HttpRequest }.anonymous := by
        unfold HttpRequest.anonymous
        rw [hkey]
        rfl
      exact congrArg₂ List.cons hfirst ih
    | fetch f => exact ih

namespace Run

/-- From sessions that are alike two operations come to the same outcome, and leave sessions that are alike. -/
def Agrees (key key' : Text) (around : Surroundings) (x y : Run α) : Prop :=
  ∀ session session', session.Alike key key' session' →
    (y.start around session').1 = (x.start around session).1 ∧
      (x.start around session).2.Alike key key' (y.start around session').2

/-- A value agrees with itself. -/
theorem agrees_pure (a : α) : Agrees key key' around (pure a : Run α) (pure a) := fun _ _ h => ⟨rfl, h⟩

/-- A fault agrees with itself. -/
theorem agrees_throw (fault : Fault) : Agrees key key' around (throw fault : Run α) (throw fault) :=
  fun _ _ h => ⟨rfl, h⟩

/-- An outcome agrees with itself. -/
theorem agrees_ofExcept (outcome : Except Fault α) : Agrees key key' around (ofExcept outcome) (ofExcept outcome) := by
  intro session session' h
  rw [start_ofExcept, start_ofExcept]
  exact ⟨rfl, h⟩

/-- Steps that agree agree one after the other. -/
theorem Agrees.bind {x y : Run α} {k l : α → Run β} (h : Agrees key key' around x y)
    (hnext : ∀ a, Agrees key key' around (k a) (l a)) : Agrees key key' around (x >>= k) (y >>= l) := by
  intro session session' hsession
  obtain ⟨houtcome, hafter⟩ := h session session' hsession
  rcases hx : x.start around session with ⟨fault | a, after⟩
  · rcases hy : y.start around session' with ⟨outcome, after'⟩
    simp only [hx, hy] at houtcome hafter
    subst houtcome
    rw [start_bind_of_error hx, start_bind_of_error hy]
    exact ⟨rfl, hafter⟩
  · rcases hy : y.start around session' with ⟨outcome, after'⟩
    simp only [hx, hy] at houtcome hafter
    subst houtcome
    rw [start_bind_of_ok hx, start_bind_of_ok hy]
    exact hnext a after after' hafter

/-- What agrees agrees after a check as well. -/
theorem Agrees.guarded {k l : PUnit → Run α} (h : ∀ a, Agrees key key' around (k a) (l a)) (p : Prop) [Decidable p]
    (fault : Fault) :
    Agrees key key' around (if p then throw fault >>= k else k ⟨⟩) (if p then throw fault >>= l else l ⟨⟩) := by
  split
  · exact (agrees_throw fault).bind h
  · exact h _

/-- A function of what agrees agrees. -/
theorem Agrees.map {x y : Run α} (h : Agrees key key' around x y) (f : α → β) :
    Agrees key key' around (f <$> x) (f <$> y) :=
  h.bind fun _ => agrees_pure _

/-- Attempts at what agrees agree. -/
theorem Agrees.attempt {x y : Run α} (h : Agrees key key' around x y) :
    Agrees key key' around (Run.attempt x) (Run.attempt y) := by
  intro session session' hsession
  obtain ⟨houtcome, hafter⟩ := h session session' hsession
  exact ⟨congrArg Except.ok houtcome, hafter⟩

/-- What agrees agrees with cleanups that agree. -/
theorem Agrees.andFinally {x y : Run α} {cleanup cleanup' : Run Unit} (h : Agrees key key' around x y)
    (hcleanup : Agrees key key' around cleanup cleanup') :
    Agrees key key' around (Run.andFinally x cleanup) (Run.andFinally y cleanup') :=
  h.attempt.bind fun outcome => hcleanup.bind fun _ => agrees_ofExcept outcome

/-- Operations that look at the session agree if they agree whatever sessions that are alike they see. -/
theorem agrees_get_bind {k l : Session → Run α}
    (h : ∀ session session', session.Alike key key' session' → Agrees key key' around (k session) (l session')) :
    Agrees key key' around (get >>= k) (get >>= l) := by
  intro session session' hsession
  rw [start_bind_of_ok start_get, start_bind_of_ok start_get]
  exact h session session' hsession session session' hsession

/-- Operations that look at the surroundings agree if they agree in these surroundings. -/
theorem agrees_surroundings_bind {k l : Surroundings → Run α} (h : Agrees key key' around (k around) (l around)) :
    Agrees key key' around (surroundings >>= k) (surroundings >>= l) := by
  intro session session' hsession
  rw [start_bind_of_ok start_surroundings, start_bind_of_ok start_surroundings]
  exact h session session' hsession

/-- Sessions that are alike take the place of others. -/
theorem agrees_set (h : session.Alike key key' session') :
    Agrees key key' around (set session : Run PUnit) (set session') := fun _ _ _ => ⟨rfl, h⟩

/-- Notes of messages that are alike agree. -/
theorem agrees_record {message message' : Sent} (h : message.Alike key key' message') :
    Agrees key key' around (record message) (record message') := fun _ _ hsession => ⟨rfl, hsession.record h⟩

/-- A change that does not depend on the requests that were sent agrees with itself. -/
theorem agrees_modify {f : Session → Session} (h : ∀ session sent, f { session with sent } = { f session with sent }) :
    Agrees key key' around (modify f) (modify f) := by
  intro session session' hsession
  rw [start_modify, start_modify]
  obtain ⟨hsent, hothers⟩ := hsession
  have hkeeps (session : Session) : (f session).sent = session.sent := by
    have hsame := congrArg Session.sent (h session session.sent)
    exact hsame
  refine ⟨rfl, ?_, ?_⟩
  · rwa [hkeeps, hkeeps]
  · rw [hkeeps, hothers]
    exact h session _

/-- Logging agrees with itself. -/
theorem agrees_log (level : LogLevel) (message : Text) (fields : Members) :
    Agrees key key' around (log level message fields) (log level message fields) := by
  refine agrees_modify fun session sent => ?_
  split <;> rfl

/-- Streams that are looked at agree. -/
theorem agrees_stream (id : StreamId) : Agrees key key' around (stream id) (stream id) := by
  refine agrees_get_bind fun session session' h => ?_
  rw [h.others]
  exact agrees_pure _

/-- Reading a stream agrees with itself. -/
theorem agrees_readStream (id : StreamId) : Agrees key key' around (readStream id) (readStream id) :=
  (agrees_stream id).bind fun found => (agrees_ofExcept found.read).bind fun read =>
    (agrees_modify fun _ _ => rfl).bind fun _ => agrees_pure read.1

/-- Closing a stream agrees with itself. -/
theorem agrees_closeStream (id : StreamId) : Agrees key key' around (closeStream id) (closeStream id) :=
  (agrees_stream id).bind fun _ => agrees_modify fun _ _ => rfl

/-- Opening a stream agrees with itself. -/
theorem agrees_openStream (opened : Stream) : Agrees key key' around (openStream opened) (openStream opened) := by
  refine agrees_get_bind fun session session' h => ?_
  obtain ⟨hsent, hothers⟩ := h
  rw [hothers]
  refine Agrees.bind (agrees_set ?_) fun _ => agrees_pure _
  exact ⟨hsent, rfl⟩

end Run

end DocBuild
