import DocBuild.Proofs.Secrecy.Agreement
import DocBuild.Proofs.Service.Form

/-!
# Sending with either key

Files are obtained and read alike whatever keys were sent. Over HTTP a request is sent alike with either of two keys,
if the service ignores keys: the answer, the refusal and every fault on the way are the same, and the two requests
differ in the authorization header alone.
-/

namespace DocBuild

open Run

variable {key key' : Text} {around : Surroundings}

namespace Payload

/-- Opening a file agrees with itself. -/
theorem agrees_openFile (path : FilePath) (lock : Option Text) :
    Agrees key key' around (openFile path lock) (openFile path lock) := by
  refine agrees_surroundings_bind ?_
  split
  · exact agrees_throw _
  · exact agrees_throw _
  · exact agrees_throw _
  · exact agrees_throw _
  · exact (agrees_openStream _).bind fun id => agrees_pure _

/-- Sending a fetch agrees with itself: it carries no key. -/
theorem agrees_exchange (connection : Connection) (address : Json) :
    Agrees key key' around (exchange connection address) (exchange connection address) := by
  refine (agrees_record (.fetch _)).bind fun _ => agrees_surroundings_bind ?_
  split
  · exact agrees_pure _
  · split <;> exact agrees_throw _
  · exact agrees_throw _

/-- Fetching a file agrees with itself. -/
theorem agrees_fetch (connection : Connection) (address : Json) :
    Agrees key key' around (fetch connection address) (fetch connection address) := by
  refine (agrees_log _ _ _).bind fun _ => (agrees_exchange connection address).bind fun response => ?_
  refine Agrees.guarded (fun _ => ?_) _ _
  exact (agrees_log _ _ _).bind fun _ => (agrees_ofExcept _).bind fun name => agrees_pure _

/-- Obtaining a file agrees with itself. -/
theorem agrees_obtain (connection : Connection) (input : FileInput) :
    Agrees key key' around (obtain connection input) (obtain connection input) := by
  cases input with
  | text value =>
    refine (agrees_ofExcept _).bind fun remote => ?_
    split
    · exact agrees_fetch connection _
    · exact agrees_openFile _ _
  | path path => exact agrees_openFile _ _
  | locked path reason => exact agrees_openFile _ _
  | localFile path => exact (agrees_ofExcept _).bind fun path => agrees_openFile _ _
  | remote address => exact agrees_fetch connection address
  | inert => exact agrees_throw _
  | plain value => exact agrees_throw _
  | _ => exact agrees_pure _

/-- Reading a payload agrees with itself. -/
theorem agrees_read (p : Payload) : Agrees key key' around p.read p.read := by
  unfold read
  split
  · exact agrees_pure _
  · exact ((agrees_readStream _).andFinally (agrees_closeStream _)).bind fun data => agrees_pure _

/-- Looking at what a payload holds agrees with itself. -/
theorem agrees_peek (p : Payload) : Agrees key key' around p.peek p.peek := by
  unfold peek
  split
  · exact agrees_pure _
  · exact agrees_readStream _

/-- Counting the pages of a payload agrees with itself. -/
theorem agrees_countPages (p : Payload) : Agrees key key' around p.countPages p.countPages :=
  p.agrees_read.bind fun _ => (agrees_ofExcept _).bind fun _ => agrees_pure _

/-- Closing payloads agrees with itself. -/
theorem agrees_closeAll (payloads : List Payload) :
    Agrees key key' around (closeAll payloads) (closeAll payloads) := by
  induction payloads with
  | nil => exact agrees_pure _
  | cons p rest ih =>
    refine Agrees.bind ?_ fun _ => ih
    unfold close
    split
    · exact agrees_pure _
    · exact agrees_closeStream _

/-- Attempts at inputs agree with themselves. -/
theorem agrees_attemptInOrder (connection : Connection) (inputs : List FileInput) (order : List Nat) :
    Agrees key key' around (attemptInOrder connection inputs order) (attemptInOrder connection inputs order) := by
  induction order with
  | nil => exact agrees_pure _
  | cons place rest ih =>
    unfold attemptInOrder
    split
    · exact ih
    · exact (agrees_obtain connection _).attempt.bind fun outcome => ih.bind fun attempts => agrees_pure _

/-- Obtaining all inputs agrees with itself. -/
theorem agrees_obtainAll (connection : Connection) (inputs : List FileInput) :
    Agrees key key' around (obtainAll connection inputs) (obtainAll connection inputs) := by
  refine agrees_surroundings_bind ((agrees_attemptInOrder connection inputs _).bind fun attempts => ?_)
  dsimp only
  split
  · exact agrees_pure _
  · exact (agrees_closeAll _).bind fun _ => agrees_throw _

end Payload

namespace HttpTransport

/-- The way to the service with a key. -/
def withKey (t : HttpTransport) (key : Text) : HttpTransport := { t with key := .literal key }

/-- A key that is not empty is sent with the message that a request becomes. -/
theorem exchange_withKey (t : HttpTransport) (hkey : key ≠ []) (request : Request Payload) :
    (t.withKey key).exchange request = (do
      let url ← Run.ofExcept ((t.address request.endpoint).mapError Fault.foreign)
      Run.log .debug ("Sending " ++ request.method.display ++ " " ++ request.endpoint.display) []
      let form ← body request
      let session ← get
      Run.record (.request (t.message key url request form))
      let around ← Run.surroundings
      Run.ofExcept (around.service (session.sent.filterMap Sent.request?) (t.message key url request form))) := by
  cases key with
  | nil => contradiction
  | cons c rest => rfl

/-- Putting files into a form agrees with itself. -/
theorem agrees_attachments (files : List (Text × Payload)) :
    Agrees key key' around (attachments files) (attachments files) := by
  induction files with
  | nil => exact agrees_pure _
  | cons file rest ih => exact file.2.agrees_peek.bind fun data => ih.bind fun others => agrees_pure _

/-- Making the body of a request agrees with itself. -/
theorem agrees_body (request : Request Payload) : Agrees key key' around (body request) (body request) := by
  unfold body
  split
  · exact agrees_pure _
  · exact agrees_pure _
  · exact (agrees_ofExcept _).bind fun members => (agrees_attachments _).bind fun files => agrees_pure _

/-- If the service ignores keys, exchanges with either key agree. -/
theorem agrees_exchange (t : HttpTransport) (hkey : key ≠ []) (hkey' : key' ≠ []) (hignores : around.IgnoresKeys)
    (request : Request Payload) :
    Agrees key key' around ((t.withKey key).exchange request) ((t.withKey key').exchange request) := by
  rw [exchange_withKey t hkey, exchange_withKey t hkey']
  refine (agrees_ofExcept _).bind fun url => (agrees_log _ _ _).bind fun _ => (agrees_body request).bind fun form => ?_
  refine agrees_get_bind fun session session' hsession => ?_
  refine (agrees_record (.request (t.message key url request form) rfl)).bind fun _ => agrees_surroundings_bind ?_
  have hanswer : around.service (session.sent.filterMap Sent.request?) (t.message key url request form) =
      around.service (session'.sent.filterMap Sent.request?) (t.message key' url request form) :=
    hignores _ _ _ _ (anonymous_of_alike hsession.sent) rfl
  rw [hanswer]
  exact agrees_ofExcept _

/-- If the service ignores keys, deliveries with either key agree. -/
theorem agrees_deliver (t : HttpTransport) (hkey : key ≠ []) (hkey' : key' ≠ []) (hignores : around.IgnoresKeys)
    (request : Request Payload) :
    Agrees key key' around ((t.withKey key).deliver request) ((t.withKey key').deliver request) :=
  ((t.agrees_exchange hkey hkey' hignores request).attempt.bind fun _ => agrees_ofExcept _).andFinally
    (Payload.agrees_closeAll _)

/-- Refusing an answer agrees with itself. -/
theorem agrees_refusal (request : Request Payload) (response : HttpResponse) :
    Agrees key key' around (Service.refusal request response) (Service.refusal request response) :=
  (agrees_ofExcept _).bind fun _ => (agrees_log _ _ _).bind fun _ => agrees_pure _

/-- If the service ignores keys, requests that are sent with either key agree. -/
theorem agrees_send (t : HttpTransport) (hkey : key ≠ []) (hkey' : key' ≠ []) (hignores : around.IgnoresKeys)
    (request : Request Payload) :
    Agrees key key' around ((t.withKey key).send request) ((t.withKey key').send request) := by
  refine (t.agrees_deliver hkey hkey' hignores request).bind fun response => (agrees_log _ _ _).bind fun _ => ?_
  dsimp only
  split
  · exact (agrees_refusal request response).bind fun _ => (agrees_throw _).bind fun _ => (agrees_ofExcept _).bind
      fun _ => agrees_pure _
  · exact (agrees_ofExcept _).bind fun _ => agrees_pure _

end HttpTransport

/-- Two transports agree on every request. -/
def Transport.Agree (key key' : Text) (around : Surroundings) (t t' : Transport) : Prop :=
  ∀ request, Agrees key key' around (t.send request) (t'.send request)

/-- If the service ignores keys, the transports over HTTP with either key agree. -/
theorem HttpTransport.transports_agree (t : HttpTransport) (hkey : key ≠ []) (hkey' : key' ≠ [])
    (hignores : around.IgnoresKeys) :
    Transport.Agree key key' around (t.withKey key).transport (t.withKey key').transport := by
  refine fun request => agrees_get_bind fun session session' hsession => ?_
  rw [hsession.others]
  exact (t.agrees_send hkey hkey' hignores request).andFinally (agrees_modify fun _ _ => rfl)

end DocBuild
