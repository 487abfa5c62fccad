import DocBuild.Proofs.Client.Source
import DocBuild.Proofs.Payload.Escaping
import DocBuild.Proofs.Service.Carrying

/-!
# Accepted answers

A remote file is fetched if the status of the answer is one of success, from 200 to 299. A request to the service is
refused if the status is 400 or more; every other status is accepted, so that continuations and redirects count as
answers. If an operation gives a value, whatever it sent meanwhile was answered and accepted in this sense.
-/

namespace DocBuild

open Run

/-- What is sent after other messages gets an answer that is accepted: from the service one below 400, from elsewhere
one of success. Nothing is handed over unsent. -/
def Surroundings.Accepts (around : Surroundings) (earlier : List Sent) : Sent → Prop
  | .request message => ∃ response,
    around.service (earlier.filterMap Sent.request?) message = .ok response ∧ response.status < 400
  | .fetch fetch => ∃ response,
    around.web fetch.url = .ok response ∧ 200 ≤ response.status ∧ response.status ≤ 299
  | .handed _ => False

/-- What was sent since is accepted, message after message. -/
inductive Surroundings.AcceptsAll (around : Surroundings) : List Sent → List Sent → Prop where
  | none (sent : List Sent) : AcceptsAll around sent sent
  | more {before sent : List Sent} {message : Sent} (h : AcceptsAll around before sent)
      (hmessage : around.Accepts sent message) : AcceptsAll around before (sent ++ [message])

variable {around : Surroundings} {session after : Session}

/-- What is accepted first and then what is accepted next are accepted. -/
theorem Surroundings.AcceptsAll.trans {first middle last : List Sent} (h : around.AcceptsAll first middle)
    (h' : around.AcceptsAll middle last) : around.AcceptsAll first last := by
  induction h' with
  | none => exact h
  | more _ hmessage ih => exact ih.more hmessage

namespace Run

variable {α β : Type} {good : α → Prop} {fine : β → Prop}

/-- If a run gives a value that is good, all that it has sent is accepted. -/
def Heeds (good : α → Prop) (x : Run α) : Prop :=
  ∀ around session a after, x.start around session = (.ok a, after) → good a →
    around.AcceptsAll session.sent after.sent

/-- A run that sends nothing heeds every answer. -/
theorem heeds_of_keeps {x : Run α} (h : x.Keeps Session.sent) : x.Heeds good := by
  intro around session a after hstart _
  have hsent := h around session
  rw [hstart] at hsent
  rw [hsent]
  exact .none session.sent

/-- A value alone sends nothing. -/
theorem heeds_pure (a : α) : (pure a : Run α).Heeds good := heeds_of_keeps (keeps_pure a)

/-- A fault alone sends nothing. -/
theorem heeds_throw (fault : Fault) : (throw fault : Run α).Heeds good := heeds_of_keeps (keeps_throw fault)

/-- An outcome alone sends nothing. -/
theorem heeds_ofExcept (outcome : Except Fault α) : (ofExcept outcome).Heeds good :=
  heeds_of_keeps (keeps_ofExcept outcome)

/-- Logging sends nothing. -/
theorem heeds_log (level : LogLevel) (message : Text) (fields : Members) {good : Unit → Prop} :
    (log level message fields).Heeds good := heeds_of_keeps (keeps_log (fun _ _ => rfl) _ _ _)

/-- Two steps heed all answers if each of them does, provided that the first one was good if the second one is. -/
theorem Heeds.bind_of {x : Run α} {k : α → Run β} (hx : x.Heeds good) (hk : ∀ a, (k a).Heeds fine)
    (hgood : ∀ around session a b after, (k a).start around session = (.ok b, after) → fine b → good a) :
    (x >>= k).Heeds fine := by
  intro around session b after hstart hfine
  obtain ⟨a, reached, hfirst, hrest⟩ := exists_of_start_bind hstart
  exact (hx around session a reached hfirst (hgood around reached a b after hrest hfine)).trans
    (hk a around reached b after hrest hfine)

/-- Two steps heed all answers if each of them does, whatever the first one gives. -/
theorem Heeds.bind {x : Run α} {k : α → Run β} (hx : x.Heeds fun _ => True) (hk : ∀ a, (k a).Heeds fine) :
    (x >>= k).Heeds fine :=
  hx.bind_of hk fun _ _ _ _ _ _ _ => trivial

/-- What heeds all answers does so after a check as well. -/
theorem Heeds.guarded {k : PUnit → Run α} (h : ∀ a, (k a).Heeds good) (p : Prop) [Decidable p] (fault : Fault) :
    (if p then throw fault >>= k else k ⟨⟩).Heeds good := by
  split
  · exact (heeds_throw fault).bind h
  · exact h _

/-- What is made of a value is good if the value is. -/
theorem Heeds.map {x : Run α} (hx : x.Heeds good) (f : α → β) (h : ∀ a, fine (f a) → good a) :
    (f <$> x).Heeds fine := by
  refine hx.bind_of (fun a => heeds_pure (f a)) fun _ _ a b _ hstart hfine => h a ?_
  cases hstart
  exact hfine

/-- An attempt heeds all answers if it succeeds with something good. -/
theorem Heeds.attempt {x : Run α} (hx : x.Heeds good) :
    (attempt x).Heeds fun outcome => ∃ a, outcome = .ok a ∧ good a := by
  rintro around session _ after hstart ⟨a, rfl, hgood⟩
  rw [start_attempt] at hstart
  obtain ⟨houtcome, rfl⟩ := Prod.mk.inj hstart
  exact hx around session a _ (Prod.ext (Except.ok.inj houtcome) rfl) hgood

end Run

/-- A transport gives answers only if they are accepted. -/
def Transport.Heeds (t : Transport) : Prop := ∀ request, (t.send request).Heeds fun _ => True

namespace Payload

variable {connection : Connection}

/-- A file is fetched only if the answer has a status of success. -/
theorem heeds_fetch (connection : Connection) (address : Json) : (fetch connection address).Heeds fun _ => True := by
  intro around session payload after hstart _
  have hsent := @sent_fetch around session connection address
  have hgiven : ((fetch connection address).start around session).1 = .ok payload := congrArg Prod.fst hstart
  rw [hstart] at hsent
  rw [hsent]
  refine (Surroundings.AcceptsAll.none session.sent).more ?_
  cases hanswer : around.web address with
  | error cause =>
    rw [start_fetch_of_error hanswer] at hgiven
    contradiction
  | ok response =>
    rw [start_fetch_of_ok hanswer] at hgiven
    split at hgiven
    · next hsuccess =>
      have hstatus : 200 ≤ response.status ∧ response.status ≤ 299 := by simpa [HttpResponse.isSuccess] using hsuccess
      exact ⟨response, hanswer, hstatus⟩
    · contradiction

/-- Opening a file sends nothing. -/
theorem heeds_openFile (path : FilePath) (lock : Option Text) : (openFile path lock).Heeds fun _ => True :=
  heeds_of_keeps (keeps_openFile (fun _ _ _ => rfl) path lock)

/-- A file is obtained only if what was sent for it is accepted. -/
theorem heeds_obtain (connection : Connection) (input : FileInput) : (obtain connection input).Heeds fun _ => True := by
  cases input with
  | text value =>
    refine (heeds_ofExcept _).bind fun remote => ?_
    split
    · exact heeds_fetch connection _
    · exact heeds_openFile _ _
  | path path => exact heeds_openFile _ _
  | locked path reason => exact heeds_openFile _ _
  | localFile path => exact (heeds_ofExcept _).bind fun path => heeds_openFile _ _
  | remote address => exact heeds_fetch connection address
  | inert => exact heeds_throw _
  | plain value => exact heeds_throw _
  | _ => exact heeds_pure _

/-- If no attempt fails, what was sent for all inputs is accepted. -/
theorem heeds_attemptInOrder (inputs : List FileInput) (order : List Nat) :
    (attemptInOrder connection inputs order).Heeds fun attempts =>
      ∀ attempt ∈ attempts, ∃ payload, attempt.2 = .ok payload := by
  induction order with
  | nil => exact heeds_pure _
  | cons place rest ih =>
    unfold attemptInOrder
    split
    · exact ih
    · next input hinput =>
      refine (heeds_obtain connection input).attempt.bind_of (fun outcome => ?_) ?_
      · refine ih.bind_of (fun others => heeds_pure _) fun _ _ others all _ hstart hall => ?_
        cases hstart
        exact (List.forall_mem_cons.mp hall).2
      · intro around session outcome all after hstart hall
        obtain ⟨others, reached, -, hrest⟩ := exists_of_start_bind hstart
        cases hrest
        obtain ⟨payload, hpayload⟩ := (List.forall_mem_cons.mp hall).1
        exact ⟨payload, hpayload, trivial⟩

/-- All inputs are obtained only if what was sent for them is accepted. -/
theorem heeds_obtainAll (connection : Connection) (inputs : List FileInput) :
    (obtainAll connection inputs).Heeds fun _ => True := by
  intro around session payloads after hstart _
  obtain ⟨attempts, outcomes, attempted, hattempts, hperm, -, -, hall⟩ :=
    start_obtainAll connection inputs around session
  rw [hstart] at hall
  split at hall
  · next hnone =>
    cases hall
    refine heeds_attemptInOrder inputs _ around session attempts after hattempts fun attempt hattempt => ?_
    have houtcome := List.findSome?_eq_none_iff.mp hnone attempt.2 (hperm.mem_iff.mpr (List.mem_map_of_mem hattempt))
    split at houtcome
    · next payload hpayload => exact ⟨payload, hpayload⟩
    · contradiction
  · cases hall

end Payload

namespace HttpTransport

variable {t : HttpTransport} {request : Request Payload}

/-- An exchange that comes to an answer has sent the message for its request, and the answer is the one to it. -/
theorem exists_posts_of_exchange {response : HttpResponse}
    (h : ((t.exchange request).start around session).1 = .ok response) :
    ∃ message, t.Posts request around session message ∧
      around.service (session.sent.filterMap Sent.request?) message = .ok response := by
  rw [t.start_exchange] at h
  cases hkey : t.key.resolve with
  | error e =>
    rw [hkey] at h
    contradiction
  | ok key =>
    cases haddress : t.address request.endpoint with
    | error e =>
      rw [hkey, haddress] at h
      contradiction
    | ok url =>
      cases hform : ((body request).start around session).1 with
      | error fault =>
        rw [hkey, haddress, hform] at h
        contradiction
      | ok form =>
        rw [hkey, haddress, hform] at h
        exact ⟨_, ⟨key, url, form, hkey, haddress, hform, rfl⟩, h⟩

/-- What comes back becomes an answer only if its status is below 400. -/
theorem status_of_send {response : HttpResponse} {answer : Answer}
    (hexchange : ((t.exchange request).start around session).1 = .ok response)
    (hsend : ((t.send request).start around session).1 = .ok answer) : response.status < 400 := by
  obtain ⟨logged, hreads⟩ := start_send_of_ok hexchange
  refine Int.not_le.mp fun hrefused => ?_
  rw [if_pos hrefused, hsend] at hreads
  cases hrefusal : ((Service.refusal request response).start around logged).1 with
  | error fault =>
    rw [hrefusal] at hreads
    contradiction
  | ok e =>
    rw [hrefusal] at hreads
    contradiction

/-- What is sent over HTTP becomes an answer only if the service answers below 400. -/
theorem heeds_send (t : HttpTransport) (request : Request Payload) : (t.send request).Heeds fun _ => True := by
  intro around session answer after hstart _
  have hgiven : ((t.send request).start around session).1 = .ok answer := congrArg Prod.fst hstart
  cases hexchange : ((t.exchange request).start around session).1 with
  | error fault =>
    rw [start_send_of_error hexchange] at hgiven
    contradiction
  | ok response =>
    obtain ⟨message, hposts, hanswer⟩ := exists_posts_of_exchange hexchange
    have hsent := hposts.sent
    rw [hstart] at hsent
    rw [hsent]
    exact (Surroundings.AcceptsAll.none session.sent).more ⟨response, hanswer, status_of_send hexchange hgiven⟩

/-- A transport over HTTP heeds the answers of the service. -/
theorem heeds_transport (t : HttpTransport) : t.transport.Heeds := by
  intro request around session answer after hstart _
  rw [Transport.start_send] at hstart
  obtain ⟨hgiven, rfl⟩ := Prod.mk.inj hstart
  exact t.heeds_send request around session answer ((t.send request).start around session).2
    (Prod.ext hgiven rfl) trivial

end HttpTransport

end DocBuild
