import DocBuild.Proofs.Job.Release
import DocBuild.Proofs.Service.Carrying

/-!
# Authorized messages

Whatever is sent over HTTP carries the key of the transport, which is a text that is not empty; a request is sent as
one message at most, and as none if there is no key. Then sending ends in an error about the key. The files of the
request are released in every case.
-/

namespace DocBuild

open Run

variable {around : Surroundings} {session : Session}

/-- A key gives a text to send: it is the text, or a function that yields it, and it is not empty. -/
def ApiKey.Gives (key : ApiKey) (text : Text) : Prop :=
  text ≠ [] ∧ (key = .literal text ∨ key = .provider (.ok (.str text)))

/-- A message is authorized by a key: this is what its only authorization says. -/
def HttpRequest.AuthorizedBy (message : HttpRequest) (key : Text) : Prop :=
  message.headers.filter (fun header => Text.lowerAscii header.1 = "authorization") =
    ([("Authorization", "Bearer " ++ key)] : Headers)

namespace ApiKey

variable {key : ApiKey} {text : Text}

/-- A value is a key exactly if it is a text that is not empty. -/
theorem ofValue_eq_ok_iff {value : Json} : ofValue value = .ok text ↔ text ≠ [] ∧ value = .str text := by
  unfold ofValue
  split
  · next c rest =>
    rw [Except.ok.injEq, Json.str.injEq]
    exact ⟨fun h => ⟨h ▸ List.cons_ne_nil c rest, h⟩, fun h => h.2⟩
  · next hother =>
    refine iff_of_false (by simp) ?_
    rintro ⟨hne, rfl⟩
    obtain ⟨c, rest, rfl⟩ := List.exists_cons_of_ne_nil hne
    exact hother c rest rfl

/-- A key is resolved to the text that it gives. -/
theorem resolve_eq_ok_iff : key.resolve = .ok text ↔ key.Gives text := by
  unfold Gives
  cases key with
  | literal given =>
    cases given with
    | nil => simp [resolve, eq_comm]
    | cons c rest =>
      simp only [resolve, Except.ok.injEq, literal.injEq, reduceCtorEq, or_false]
      exact ⟨fun h => ⟨h ▸ List.cons_ne_nil c rest, h⟩, fun h => h.2⟩
  | provider outcome =>
    cases outcome with
    | ok value => simp [resolve, ofValue_eq_ok_iff]
    | error fault => cases fault <;> simp [resolve]
  | plainFunction value => simp [resolve]
  | other value => simp [resolve]

/-- An authentication error of a function is kept as it is. -/
theorem resolve_of_own {own : ClientError} (hkey : key = .provider (.error (.client own)))
    (hown : own.kind = .authentication) : key.resolve = .error own := by
  rw [hkey, resolve, if_pos hown]

end ApiKey

namespace HttpTransport

variable {t : HttpTransport} {request : Request Payload}

/-- A message for a request is authorized by the key that the transport is given. -/
theorem Posts.exists_authorizedBy {message : HttpRequest} (h : t.Posts request around session message) :
    ∃ key, t.key.Gives key ∧ message.AuthorizedBy key := by
  obtain ⟨key, url, form, hkey, -, -, rfl⟩ := h
  exact ⟨key, ApiKey.resolve_eq_ok_iff.mp hkey, rfl⟩

/-- Nothing is sent for a request that becomes no message. -/
theorem sent_of_no_posts (h : ∀ message, ¬ t.Posts request around session message) :
    ((t.send request).start around session).2.sent = session.sent := by
  rw [sent_send]
  unfold exchange
  cases hkey : t.key.resolve with
  | error e => rfl
  | ok key =>
    cases hurl : t.address request.endpoint with
    | error e => rfl
    | ok url =>
      obtain ⟨logged, hlog, log, progress, rfl⟩ := Session.remarks_log .debug
        ("Sending " ++ request.method.display ++ " " ++ request.endpoint.display) [] around session
      have hsame := @body_congr around session { session with log, progress } request rfl
      have hsent := keeps_sent_body request around { session with log, progress }
      rcases hbody : (body request).start around { session with log, progress } with ⟨fault | form, reached⟩
      · rw [hbody] at hsent
        change ((Run.ofExcept (.ok key) >>= fun key => Run.ofExcept (.ok url) >>= fun url => _).start around
          session).2.sent = _
        rw [ofExcept_ok_bind, ofExcept_ok_bind, start_bind_of_ok hlog, start_bind_of_error hbody, hsent]
      · rw [hbody] at hsame
        exact absurd ⟨key, url, form, hkey, hurl, hsame.symm, rfl⟩ (h (t.message key url request form))

/-- What comes of a request without a key is an error about the key. -/
theorem start_send_of_no_key {e : ClientError} (hkey : t.key.resolve = .error e) :
    ((t.send request).start around session).1 = .error (.client e) := by
  have hexchange := t.start_exchange request around session
  rw [hkey] at hexchange
  exact start_send_of_error hexchange

/-- A request is sent as one message at most, authorized by a key that is not empty; without a key it is not sent, and
ends in an error about the key, the one of the function if it raised one. The files are released whatever happens. -/
theorem send_authorizes_and_releases (t : HttpTransport) (request : Request Payload) (around : Surroundings)
    (session : Session) :
    (∃ issued : Option HttpRequest,
      ((t.send request).start around session).2.sent = session.sent ++ (issued.map Sent.request).toList ∧
      (∀ message, issued = some message ↔ t.Posts request around session message) ∧
      ∀ message ∈ issued, ∃ key, t.key.Gives key ∧ message.AuthorizedBy key) ∧
    ((¬ ∃ key, t.key.Gives key) →
      ((t.send request).start around session).2.sent = session.sent ∧
      ∃ e : ClientError, ((t.send request).start around session).1 = .error (.client e) ∧ e.kind = .authentication ∧
        ∀ own, t.key = .provider (.error (.client own)) → own.kind = .authentication → e = own) ∧
    ∀ file ∈ request.attached, file.2.IsReleased ((t.send request).start around session).2 := by
  refine ⟨?_, fun hno => ?_, t.transport_releases request around session⟩
  · by_cases hposts : ∃ message, t.Posts request around session message
    · obtain ⟨message, hmessage⟩ := hposts
      refine ⟨some message, hmessage.sent, fun other => ⟨?_, fun hother => ?_⟩, ?_⟩
      · rintro ⟨⟩
        exact hmessage
      · rw [hmessage.eq hother]
      · rintro other ⟨⟩
        exact hmessage.exists_authorizedBy
    · have hnone := not_exists.mp hposts
      refine ⟨none, (sent_of_no_posts hnone).trans (List.append_nil _).symm, fun other => ?_, fun other hother => ?_⟩
      · exact iff_of_false (by simp) (hnone other)
      · contradiction
  · have hposts : ∀ message, ¬ t.Posts request around session message := fun message hmessage =>
      hno (hmessage.exists_authorizedBy.imp fun key hkey => hkey.1)
    cases hkey : t.key.resolve with
    | ok key => exact absurd ⟨key, ApiKey.resolve_eq_ok_iff.mp hkey⟩ hno
    | error e =>
      refine ⟨sent_of_no_posts hposts, e, start_send_of_no_key hkey, ApiKey.kind_of_resolve hkey, ?_⟩
      intro own hown hkind
      cases hkey.symm.trans (ApiKey.resolve_of_own hown hkind)
      rfl

/-- That a function has no key left, as its own error. -/
def expired : ClientError := .authentication "expired" none none

/-- A transport whose function for the key fails with its own error. -/
def keyless : HttpTransport := { plain with key := .provider (.error (.client expired)) }

/-- A request with the only stream of a session as its file. -/
def streamRequest : Request Payload :=
  { endpoint := .str "/build", files := some [("file0", ⟨.stream 0, .str Payload.streamName, .null⟩)] }

/-- Without a key nothing is sent, the error of the function is kept, and the stream is closed. -/
theorem keyless_sends_nothing :
    (¬ ∃ key, keyless.key.Gives key) ∧
    ((keyless.send streamRequest).start nowhere streamSession).2.sent = [] ∧
    ((keyless.send streamRequest).start nowhere streamSession).1 = .error (.client expired) ∧
    ¬ ((keyless.send streamRequest).start nowhere streamSession).2.HasOpen 0 := by
  have hno : ¬ ∃ key, keyless.key.Gives key := by
    rintro ⟨key, hkey⟩
    cases ApiKey.resolve_eq_ok_iff.mpr hkey
  obtain ⟨-, hkeyless, hreleased⟩ := send_authorizes_and_releases keyless streamRequest nowhere streamSession
  obtain ⟨hsent, e, houtcome, -, hown⟩ := hkeyless hno
  rw [hown expired rfl rfl] at houtcome
  exact ⟨hno, hsent, houtcome, hreleased _ (List.mem_singleton_self _) 0 rfl⟩

end HttpTransport

end DocBuild
