import DocBuild.Proofs.Payload.Obtained

/-!
# Inputs that can be obtained

Whether an input is obtained depends on what is found outside and not on the session: the session only numbers the
streams that are opened. So an input that was obtained once can be obtained again.
-/

namespace DocBuild

namespace Run

variable {α β γ : Type} {view : Except Fault α → γ}

/-- What is seen of the outcome does not depend on the session. -/
def Fixed (view : Except Fault α → γ) (x : Run α) : Prop :=
  ∀ around session session', view (x.start around session).1 = view (x.start around session').1

/-- If the outcome does not depend on the session, nothing that is seen of it does. -/
theorem Fixed.seen {x : Run α} (hx : x.Fixed id) (view : Except Fault α → γ) : x.Fixed view :=
  fun around session session' => congrArg view (hx around session session')

/-- A value alone does not depend on the session. -/
theorem fixed_pure (a : α) : (pure a : Run α).Fixed view := fun _ _ _ => rfl

/-- A fault alone does not depend on the session. -/
theorem fixed_throw (fault : Fault) : (throw fault : Run α).Fixed view := fun _ _ _ => rfl

/-- An outcome alone does not depend on the session. -/
theorem fixed_ofExcept (outcome : Except Fault α) : (ofExcept outcome).Fixed view := by
  intro around session session'
  rw [start_ofExcept, start_ofExcept]

/-- The surroundings do not depend on the session. -/
theorem fixed_surroundings : surroundings.Fixed id := fun _ _ _ => rfl

/-- A change of the session gives nothing that depends on it. -/
theorem fixed_modify (f : Session → Session) : (modify f : Run Unit).Fixed id := fun _ _ _ => rfl

/-- An outcome that does not depend on the session is the same in every session. -/
theorem Fixed.start_eq {x : Run α} (hx : x.Fixed id) {around : Surroundings} {session after : Session}
    {outcome : Except Fault α} (h : x.start around session = (outcome, after)) (session' : Session) :
    x.start around session' = (outcome, (x.start around session').2) := by
  have hsame : (x.start around session').1 = (x.start around session).1 := hx around session' session
  rw [h] at hsame
  exact Prod.ext hsame rfl

/-- What follows a step whose outcome does not depend on the session depends on it only by itself. -/
theorem Fixed.bind {view : Except Fault β → γ} {x : Run α} {k : α → Run β} (hx : x.Fixed id)
    (hk : ∀ a, (k a).Fixed view) : (x >>= k).Fixed view := by
  intro around session session'
  rcases h : x.start around session with ⟨fault | a, after⟩
  · rw [start_bind_of_error h, start_bind_of_error (hx.start_eq h session')]
  · rw [start_bind_of_ok h, start_bind_of_ok (hx.start_eq h session')]
    exact hk a around _ _

end Run

namespace Payload

open Run

/-- Whether a file can be opened depends on what is at its path. -/
theorem isOk_openFile (path : FilePath) (lock : Option Text) : (openFile path lock).Fixed Except.isOk := by
  refine fixed_surroundings.bind fun around => ?_
  split
  · exact fixed_throw _
  · exact fixed_throw _
  · exact fixed_throw _
  · exact fixed_throw _
  · exact fun _ _ _ => rfl

/-- The answer to a fetch does not depend on the session. -/
theorem fixed_exchange (connection : Connection) (address : Json) : (exchange connection address).Fixed id := by
  refine (fixed_modify _).bind fun _ => fixed_surroundings.bind fun around => ?_
  split
  · exact fixed_pure _
  · split <;> exact fixed_throw _
  · exact fixed_throw _

/-- What is fetched does not depend on the session. -/
theorem fixed_fetch (connection : Connection) (address : Json) : (fetch connection address).Fixed id := by
  refine (fixed_modify _).bind fun _ => (fixed_exchange connection address).bind fun response => ?_
  split
  · exact fixed_throw _
  · exact (fixed_modify _).bind fun _ => (fixed_ofExcept _).bind fun name => fixed_pure _

/-- Whether an input is obtained does not depend on the session. -/
theorem isOk_obtain (connection : Connection) (input : FileInput) : (obtain connection input).Fixed Except.isOk := by
  cases input with
  | text value =>
    refine (fixed_ofExcept _).bind fun remote => ?_
    split
    · exact (fixed_fetch connection _).seen _
    · exact isOk_openFile _ _
  | path path => exact isOk_openFile _ _
  | locked path reason => exact isOk_openFile _ _
  | localFile path => exact (fixed_ofExcept _).bind fun path => isOk_openFile _ _
  | remote address => exact (fixed_fetch connection address).seen _
  | inert => exact fixed_throw _
  | plain value => exact fixed_throw _
  | _ => exact fixed_pure _

/-- An input that was obtained once can be obtained. -/
theorem obtainable_of_start {connection : Connection} {input : FileInput} {around : Surroundings}
    {session after : Session} {payload : Payload}
    (h : (obtain connection input).start around session = (.ok payload, after)) :
    Obtainable connection around input := by
  rintro _ ⟨before, rfl⟩
  have hsame := isOk_obtain connection input around before session
  rw [h] at hsame
  cases hother : ((obtain connection input).start around before).1 with
  | ok payload => exact ⟨payload, rfl⟩
  | error fault =>
    rw [hother] at hsame
    contradiction

/-- An input that can be obtained has the shape of a file, unless it is the empty text. -/
theorem Obtainable.isValid {connection : Connection} {input : FileInput} {around : Surroundings}
    (h : Obtainable connection around input) (hnamed : input ≠ .text []) : input.isValid = true := by
  have hthrow {fault : Fault} (hobtain : obtain connection input = throw fault) : False := by
    obtain ⟨payload, hpayload⟩ := h (.error fault) ⟨{}, by rw [hobtain]; rfl⟩
    cases hpayload
  cases input with
  | text value =>
    cases value with
    | nil => exact absurd rfl hnamed
    | cons => rfl
  | inert => exact (hthrow rfl).elim
  | plain value => exact (hthrow rfl).elim
  | _ => rfl

/-- Octets that a caller gave can be obtained. -/
theorem obtainable_buffer (connection : Connection) (around : Surroundings) (data : Bytes)
    (filename contentType : Json) : Obtainable connection around (.buffer data filename contentType) := by
  rintro _ ⟨before, rfl⟩
  exact ⟨_, rfl⟩

end Payload

end DocBuild
