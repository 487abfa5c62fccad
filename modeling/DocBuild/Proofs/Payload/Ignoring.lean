import DocBuild.Payload.Obtain
import DocBuild.Proofs.Session.Handing

/-!
# What obtaining a file does not look at

An operation ignores a change of the surroundings if it comes to the same in them and leaves the same session. Opening
a file looks at nothing but the files, fetching one at nothing but what is found at addresses, and obtaining one at
both; so each ignores the changes that keep these.
-/

namespace DocBuild

namespace Run

variable {α β : Type} {change : Surroundings → Surroundings}

/-- What an operation comes to, and the session that it leaves, are the same after a change of the surroundings. -/
def Ignores (change : Surroundings → Surroundings) (x : Run α) : Prop :=
  ∀ around session, x.start (change around) session = x.start around session

/-- A value alone ignores every change. -/
theorem ignores_pure (a : α) : (pure a : Run α).Ignores change := fun _ _ => rfl

/-- A fault alone ignores every change. -/
theorem ignores_throw (fault : Fault) : (throw fault : Run α).Ignores change := fun _ _ => rfl

/-- An outcome alone ignores every change. -/
theorem ignores_ofExcept (outcome : Except Fault α) : (ofExcept outcome).Ignores change := by
  intro around session
  rw [start_ofExcept, start_ofExcept]

/-- A change of the session ignores every change of the surroundings. -/
theorem ignores_modify (f : Session → Session) : (modify f : Run Unit).Ignores change := fun _ _ => rfl

/-- What two steps ignore is ignored by one after the other. -/
theorem Ignores.bind {x : Run α} {k : α → Run β} (hx : x.Ignores change) (hk : ∀ a, (k a).Ignores change) :
    (x >>= k).Ignores change := by
  intro around session
  rcases h : x.start around session with ⟨fault | a, after⟩
  · rw [start_bind_of_error h, start_bind_of_error ((hx around session).trans h)]
  · rw [start_bind_of_ok h, start_bind_of_ok ((hx around session).trans h)]
    exact hk a around after

/-- What looks at nothing of the surroundings that changes ignores the change. -/
theorem ignores_surroundings_bind {k : Surroundings → Run α} (hsame : ∀ around, k (change around) = k around)
    (hk : ∀ around, (k around).Ignores change) : (surroundings >>= k).Ignores change := by
  intro around session
  rw [start_bind_of_ok start_surroundings, start_bind_of_ok start_surroundings, hsame]
  exact hk around around session

end Run

namespace Payload

open Run

variable {change : Surroundings → Surroundings}

/-- Opening a file ignores changes that keep the files. -/
theorem ignores_openFile (hentry : ∀ around, (change around).entry = around.entry) (path : FilePath)
    (lock : Option Text) : (openFile path lock).Ignores change := by
  refine ignores_surroundings_bind (fun around => by rw [hentry]) fun around => ?_
  split
  · exact ignores_throw _
  · exact ignores_throw _
  · exact ignores_throw _
  · exact ignores_throw _
  · exact fun _ _ => rfl

/-- Fetching a file ignores changes that keep what is found at addresses. -/
theorem ignores_fetch (hweb : ∀ around, (change around).web = around.web) (connection : Connection)
    (address : Json) : (fetch connection address).Ignores change := by
  have hexchange : (exchange connection address).Ignores change := by
    refine (ignores_modify _).bind fun _ => ignores_surroundings_bind (fun around => by rw [hweb]) fun around => ?_
    split
    · exact ignores_pure _
    · exact ignores_throw _
    · exact ignores_throw _
  refine (ignores_modify _).bind fun _ => hexchange.bind fun response => ?_
  split
  · exact ignores_throw _
  · exact (ignores_modify _).bind fun _ => (ignores_ofExcept _).bind fun name => ignores_pure _

/-- Obtaining an input ignores changes that keep the files and what is found at addresses. -/
theorem ignores_obtain (hentry : ∀ around, (change around).entry = around.entry)
    (hweb : ∀ around, (change around).web = around.web) (connection : Connection) (input : FileInput) :
    (obtain connection input).Ignores change := by
  cases input with
  | text value =>
    refine (ignores_ofExcept _).bind fun remote => ?_
    split
    · exact ignores_fetch hweb connection _
    · exact ignores_openFile hentry _ _
  | path path => exact ignores_openFile hentry _ _
  | locked path reason => exact ignores_openFile hentry _ _
  | localFile path => exact (ignores_ofExcept _).bind fun path => ignores_openFile hentry _ _
  | remote address => exact ignores_fetch hweb connection address
  | inert => exact ignores_throw _
  | plain value => exact ignores_throw _
  | _ => exact ignores_pure _

end Payload

end DocBuild
