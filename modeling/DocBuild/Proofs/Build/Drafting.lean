import DocBuild.Proofs.Build.Key

/-!
# Drafting as numbering

A step of drafting sees of the draft only the number of the next key: it encloses files under the next keys and
either gives a value of the first of these numbers or refuses. Steps of this kind compose, and a registration
takes back what a step enclosed if the step refuses what the caller gave.
-/

namespace DocBuild

variable {α β : Type}

/-- The draft with files enclosed under the next keys. -/
def Draft.enclose (draft : Draft) (enclosed : List Enclosure) : Draft :=
  { draft with
    files := draft.files ++ numbered draft.nextKey enclosed
    nextKey := draft.nextKey + enclosed.length }

/-- Enclosing nothing changes nothing. -/
@[simp] theorem Draft.enclose_nil (draft : Draft) : draft.enclose [] = draft := by
  simp [Draft.enclose]

/-- Enclosing files in two steps is enclosing them in one. -/
theorem Draft.enclose_enclose (draft : Draft) (left right : List Enclosure) :
    (draft.enclose left).enclose right = draft.enclose (left ++ right) := by
  simp [Draft.enclose, numbered_append, Nat.add_assoc]

namespace Drafting

variable {x : Drafting α} {k : α → Drafting β}

/-- Whatever the draft is, `x` encloses files and gives a value of the number of the first key. -/
def Gives (x : Drafting α) (enclosed : List Enclosure) (value : Nat → α) : Prop :=
  ∀ draft : Draft, x draft = (.ok (value draft.nextKey), draft.enclose enclosed)

/-- Whatever the draft is, `x` encloses files and then refuses. -/
def Refuses (x : Drafting α) (enclosed : List Enclosure) (fault : Fault) : Prop :=
  ∀ draft : Draft, x draft = (.error fault, draft.enclose enclosed)

/-- What follows a step that gives a value works on the draft that the step leaves. -/
theorem bind_of_ok {draft after : Draft} {a : α} (h : x draft = (.ok a, after)) :
    (x >>= k) draft = k a after := by
  simp only [bind, ExceptT.bind, ExceptT.mk, StateT.bind, h, ExceptT.bindCont]

/-- Nothing follows a step that refuses. -/
theorem bind_of_error {draft after : Draft} {fault : Fault} (h : x draft = (.error fault, after)) :
    (x >>= k) draft = (.error fault, after) := by
  simp only [bind, ExceptT.bind, ExceptT.mk, StateT.bind, h, ExceptT.bindCont]
  rfl

/-- A value alone encloses nothing. -/
theorem gives_pure (a : α) : (pure a : Drafting α).Gives [] fun _ => a := by
  intro draft
  rw [Draft.enclose_nil]
  rfl

/-- A fault alone encloses nothing. -/
theorem refuses_throw (fault : Fault) : (throw fault : Drafting α).Refuses [] fault := by
  intro draft
  rw [Draft.enclose_nil]
  rfl

/-- Of two steps the second one goes on with the numbers after those of the first. -/
theorem Gives.bind {enclosed enclosed' : List Enclosure} {value : Nat → α} {value' : Nat → Nat → β}
    (hx : x.Gives enclosed value) (hk : ∀ n, (k (value n)).Gives enclosed' (value' n)) :
    (x >>= k).Gives (enclosed ++ enclosed') fun n => value' n (n + enclosed.length) := by
  intro draft
  rw [bind_of_ok (hx draft), hk draft.nextKey, Draft.enclose_enclose]
  rfl

/-- A step after which another one is refused keeps what it enclosed. -/
theorem Gives.bind_refuses {enclosed enclosed' : List Enclosure} {value : Nat → α} {fault : Fault}
    (hx : x.Gives enclosed value) (hk : ∀ n, (k (value n)).Refuses enclosed' fault) :
    (x >>= k).Refuses (enclosed ++ enclosed') fault := by
  intro draft
  rw [bind_of_ok (hx draft), hk draft.nextKey, Draft.enclose_enclose]

/-- A refused step refuses all that was to follow. -/
theorem Refuses.bind {enclosed : List Enclosure} {fault : Fault} (hx : x.Refuses enclosed fault) :
    (x >>= k).Refuses enclosed fault :=
  fun draft => bind_of_error (hx draft)

/-- What follows a check that is passed gives what it gives by itself. -/
theorem Gives.check {enclosed : List Enclosure} {value : Nat → β} {a : α} (hx : x.Gives [] fun _ => a)
    (hk : (k a).Gives enclosed value) : (x >>= k).Gives enclosed value := by
  intro draft
  rw [bind_of_ok (hx draft), Draft.enclose_nil, hk draft]

/-- What follows a check that is passed is refused if it is refused by itself. -/
theorem Gives.check_refuses {enclosed : List Enclosure} {fault : Fault} {a : α} (hx : x.Gives [] fun _ => a)
    (hk : (k a).Refuses enclosed fault) : (x >>= k).Refuses enclosed fault := by
  intro draft
  rw [bind_of_ok (hx draft), Draft.enclose_nil, hk draft]

/-- A step and a value made from what it gives. -/
theorem Gives.bind_pure {enclosed : List Enclosure} {value : Nat → α} (hx : x.Gives enclosed value)
    (f : α → β) : (x >>= fun a => pure (f a)).Gives enclosed fun n => f (value n) := by
  intro draft
  rw [bind_of_ok (hx draft)]
  rfl

/-- A registration that is not refused is what it registers. -/
theorem Gives.registration {enclosed : List Enclosure} {value : Nat → α} (hx : x.Gives enclosed value) :
    x.registration.Gives enclosed value := by
  intro draft
  rw [Drafting.registration, hx draft]

/-- A registration takes back what it enclosed exactly if it refuses what the caller gave. -/
theorem Refuses.registration {enclosed : List Enclosure} {fault : Fault} (hx : x.Refuses enclosed fault) :
    x.registration.Refuses (if fault.isValidation then [] else enclosed) fault := by
  intro draft
  rw [Drafting.registration, hx draft]
  by_cases hfault : fault.isValidation = true
  · simp only [if_pos hfault, Draft.enclose_nil]
    rfl
  · simp only [if_neg hfault]

/-- An outcome that is a value is given as it is. -/
theorem gives_ofExcept (a : α) : (Drafting.ofExcept (.ok a)).Gives [] fun _ => a := gives_pure a

/-- An outcome that is an error is a fault. -/
theorem refuses_ofExcept (e : ForeignError) :
    (Drafting.ofExcept (.error e) : Drafting α).Refuses [] (.foreign e) := refuses_throw (.foreign e)

end Drafting

end DocBuild
