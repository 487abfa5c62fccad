import DocBuild.Proofs.Payload.Held
import DocBuild.Service.Http

/-!
# Forms

A request with files is sent over HTTP as a form. If no two of the files come from the same stream, the form has under
each key what the file holds when the request is sent. Nothing but the exchange itself adds to the messages that were
sent, and it adds the request last.
-/

namespace DocBuild

open Run

variable {around : Surroundings} {session after : Session}

/-- The files in the body of a request. -/
def RequestBody.files : RequestBody → List (Text × Attachment)
  | form files _ => files
  | empty | json _ => []

/-- The fields in the body of a request. -/
def RequestBody.fields : RequestBody → List (Text × Text)
  | form _ fields => fields
  | empty | json _ => []

/-- Looking at what a payload holds leaves all streams alone but its own. -/
theorem Payload.getElem?_of_peek (p : Payload) {id : StreamId} (h : p.source ≠ .stream id) (around : Surroundings)
    (session : Session) : (p.peek.start around session).2.streams[id]? = session.streams[id]? := by
  unfold peek
  cases hsource : p.source with
  | owned data => rfl
  | stream own =>
    have hne : own ≠ id := fun heq => h (hsource.trans (heq ▸ rfl))
    dsimp only
    cases hread : (session.streamAt own).read with
    | error fault => rw [start_readStream_of_error hread]
    | ok found =>
      rw [start_readStream_of_ok hread]
      exact List.getElem?_set_ne hne

/-- Looking at what a payload holds sends nothing. -/
theorem Payload.keeps_sent_peek (p : Payload) : p.peek.Keeps Session.sent := by
  unfold peek
  split
  · exact keeps_pure _
  · exact keeps_readStream (fun _ _ => rfl) _

namespace HttpTransport

/-- The message that a request becomes with a key, an address and a body. -/
def message (t : HttpTransport) (key url : Text) (request : Request Payload) (form : RequestBody) : HttpRequest where
  method := request.method
  url
  headers := headers key
  body := form
  timeout := if request.timeout.isNull then t.timeout else request.timeout
  connection := t.connection

/-- Files of which no two come from the same stream go into a form under their keys, as what they hold. Nothing is sent
meanwhile. -/
theorem start_attachments {files : List (Text × Payload)} {entries : List (Text × Attachment)}
    (hapart : (files.map Prod.snd).Pairwise Payload.Apart)
    (hheld : List.Forall₂ (fun file entry => entry.1 = file.1 ∧
      (file.2.held.start around session).1 = .ok entry.2) files entries) :
    ∃ reached, (attachments files).start around session = (.ok entries, reached) ∧ reached.sent = session.sent := by
  induction files generalizing session entries with
  | nil =>
    cases hheld
    exact ⟨session, rfl, rfl⟩
  | cons file rest ih =>
    obtain ⟨⟨key, attachment⟩, others, ⟨hkey, hfirst⟩, hothers, rfl⟩ := List.forall₂_cons_left_iff.mp hheld
    obtain ⟨happart, hrest⟩ := List.pairwise_cons.mp hapart
    rw [Payload.held, start_bind_pure] at hfirst
    rcases hpeek : file.2.peek.start around session with ⟨fault | data, reached⟩
    · simp [hpeek, Except.map] at hfirst
    · simp only [hpeek, Except.map, Except.ok.injEq] at hfirst
      have hsent := file.2.keeps_sent_peek around session
      have hstill : ∀ other ∈ rest, (other.2.held.start around reached).1 = (other.2.held.start around session).1 := by
        intro other hother
        refine Payload.held_congr fun id hid => ?_
        have hkept := file.2.getElem?_of_peek
          (fun hsame => happart other.2 (List.mem_map_of_mem hother) id hsame hid) around session
        rwa [hpeek] at hkept
      have hheld := ((List.forall₂_and_left _ _).mpr ⟨hstill, hothers⟩).imp fun other entry h =>
        show entry.1 = other.1 ∧ (other.2.held.start around reached).1 = .ok entry.2 from ⟨h.2.1, h.1.trans h.2.2⟩
      obtain ⟨last, hall, hlast⟩ := ih hrest hheld
      rw [hpeek] at hsent
      refine ⟨last, ?_, hlast.trans hsent⟩
      unfold attachments
      rw [start_bind_of_ok hpeek, start_bind_pure, hall, hfirst, ← hkey]
      rfl

/-- What follows the delivery changes only the log. -/
theorem view_send {γ : Type} {view : Session → γ} (h : ∀ (session : Session) log, view { session with log } = view session)
    (t : HttpTransport) (request : Request Payload) (around : Surroundings) (session : Session) :
    view ((t.send request).start around session).2 = view ((t.deliver request).start around session).2 := by
  have hrefusal (response : HttpResponse) : (Service.refusal request response).Keeps view :=
    (keeps_ofExcept _).bind fun body => (keeps_log h _ _ _).bind fun _ => keeps_pure _
  unfold send
  refine view_bind (fun response => (keeps_log h _ _ _).bind fun _ => ?_) around session
  dsimp only
  split
  · exact (hrefusal response).bind fun _ => (keeps_throw _).bind fun _ => (keeps_ofExcept _).bind fun _ => keeps_pure _
  · exact (keeps_ofExcept _).bind fun _ => keeps_pure _

/-- What is delivered leaves what the exchange leaves, with the files closed. -/
theorem start_deliver (t : HttpTransport) (request : Request Payload) (around : Surroundings) (session : Session) :
    (t.deliver request).start around session =
      (((t.exchange request).start around session).1.mapError (networkFault request),
        ((Payload.closeAll (request.attached.map Prod.snd)).start around
          ((t.exchange request).start around session).2).2) := by
  unfold deliver
  rw [start_andFinally fun session => Payload.start_closeAll _ around session, start_bind_attempt, start_ofExcept]

/-- What follows the exchange sends nothing. -/
theorem sent_send (t : HttpTransport) (request : Request Payload) (around : Surroundings) (session : Session) :
    ((t.send request).start around session).2.sent = ((t.exchange request).start around session).2.sent := by
  refine (@view_send _ Session.sent (fun _ _ => rfl) t request around session).trans ?_
  rw [start_deliver]
  exact Payload.keeps_closeAll (fun id _ _ => rfl) _ around _

end HttpTransport

end DocBuild
