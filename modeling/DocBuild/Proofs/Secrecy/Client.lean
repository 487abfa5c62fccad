import DocBuild.Call.Client
import DocBuild.Proofs.Secrecy.Running

/-!
# Operations over either transport

If two transports agree, so does every operation of a client over them: a build with all its steps, the operations on
pages with all that they read and count, and a split whose executions go on side by side.
-/

namespace DocBuild

open Run

variable {α β γ : Type} {key key' : Text} {around : Surroundings} {t t' : Transport}

/-- An outcome of which something is made is what is made of the outcome. -/
theorem Run.ofExcept_map (f : α → β) (outcome : Except Fault α) :
    ofExcept (outcome.map f) = f <$> ofExcept outcome := by
  cases outcome <;> rfl

/-- What a call by name means is what one of the calls means for the arguments. -/
theorem NamedCall.mem_of_make {calls : List (NamedCall α)} {unknown : Fault} {name : Text} {args : Arguments}
    {meaning : α} (h : make calls unknown name args = .ok meaning) : ∃ call ∈ calls, meaning = call.meaning args := by
  unfold make at h
  split at h
  · contradiction
  · rename_i call hcall
    cases hexpect : args.expect call.required call.optional with
    | error fault =>
      rw [hexpect] at h
      contradiction
    | ok _ =>
      rw [hexpect] at h
      cases h
      exact ⟨call, List.mem_of_find?_eq_some hcall, rfl⟩

namespace Client

/-- The client through another transport. -/
def through (t : Transport) (c : Client) : Client := { c with transport := t }

/-- What is done to each item and gives what is made of something gives what is made of each. -/
theorem each_map (f : α → Run β) (g : β → γ) (items : List α) :
    each (fun a => g <$> f a) items = List.map g <$> each f items := by
  induction items with
  | nil => rfl
  | cons a rest ih => simp only [each, ih, bind_map_left, map_bind, map_pure, List.map_cons]

/-- What agrees for each item agrees for all of them. -/
theorem agrees_each {f g : α → Run β} (h : ∀ a, Agrees key key' around (f a) (g a)) (items : List α) :
    Agrees key key' around (each f items) (each g items) := by
  induction items with
  | nil => exact agrees_pure _
  | cons a rest ih => exact (h a).bind fun b => ih.bind fun others => agrees_pure _

/-- The execution of a new job is the same through another transport. -/
theorem execution_through (c : Client) (parts : List Part) (actions : List Action) (output : Output) :
    (c.through t).execution parts actions output = (c.execution parts actions output).map (Execution.through t) := by
  have hparts (parts : List Part) : JobStep.Carries t id (addParts parts) (addParts parts) := by
    induction parts with
    | nil => exact Job.carries_pure ()
    | cons part rest ih => exact Job.carries_bind (Job.carries_addPart part) fun _ => ih
  let steps : JobStep Execution := do
    addParts parts
    Job.applyActions actions
    Job.setOutput (some output)
    Job.execute .null none
  have hsteps : JobStep.Carries t (Execution.through t) steps steps :=
    Job.carries_bind (hparts parts) fun _ => Job.carries_bind (Job.carries_applyActions actions) fun _ =>
      Job.carries_bind (Job.carries_setOutput (some output)) fun _ => Job.carries_execute .null none
  exact congrArg Prod.fst (hsteps (c.newJob .null))

section Operations

variable (c : Client) (h : Transport.Agree key key' around t t')

include h

/-- Over transports that agree builds agree. -/
theorem agrees_build (parts : List Part) (actions : List Action) (output : Output) :
    Agrees key key' around ((c.through t).build parts actions output) ((c.through t').build parts actions output) := by
  simp only [build, execution_through, ofExcept_map, bind_map_left]
  exact (agrees_ofExcept _).bind fun e => (e.agrees_run h).bind fun _ => agrees_ofExcept _

/-- Over transports that agree builds of a PDF agree. -/
theorem agrees_buildPdf (parts : List Part) (actions : List Action) :
    Agrees key key' around ((c.through t).buildPdf parts actions) ((c.through t').buildPdf parts actions) :=
  (c.agrees_build h parts actions _).bind fun _ => agrees_ofExcept _

/-- Over transports that agree actions on a file agree. -/
theorem agrees_applyAction (file : FileInput) (action : Except ActionError Action) :
    Agrees key key' around ((c.through t).applyAction file action) ((c.through t').applyAction file action) :=
  (agrees_ofExcept _).bind fun _ => c.agrees_buildPdf h _ _

/-- Over transports that agree account information agrees. -/
theorem agrees_accountInfo : Agrees key key' around (c.through t).accountInfo (c.through t').accountInfo :=
  (h _).bind fun _ => agrees_pure _

/-- Over transports that agree conversions agree. -/
theorem agrees_convert (file : FileInput) (format : Json) :
    Agrees key key' around ((c.through t).convert file format) ((c.through t').convert file format) :=
  (agrees_ofExcept _).bind fun output => c.agrees_build h _ _ output

/-- Over transports that agree extractions of text agree. -/
theorem agrees_extractText (file : FileInput) :
    Agrees key key' around ((c.through t).extractText file) ((c.through t').extractText file) := by
  refine (c.agrees_build h _ _ _).bind fun product => ?_
  cases product with
  | extraction content => exact agrees_pure _
  | _ => exact agrees_throw _

/-- Over transports that agree merges agree. -/
theorem agrees_merge (files : List FileInput) (format : Json) :
    Agrees key key' around ((c.through t).merge files format) ((c.through t').merge files format) := by
  exact Agrees.guarded (fun _ => (agrees_ofExcept _).bind fun output => c.agrees_build h _ _ output) _ _

/-- Over transports that agree compressions agree. -/
theorem agrees_compress (file : FileInput) (level : Json) :
    Agrees key key' around ((c.through t).compress file level) ((c.through t').compress file level) :=
  (agrees_ofExcept _).bind fun _ => (c.agrees_build h _ _ _).bind fun _ => agrees_ofExcept _

omit h in
/-- Loads agree whatever the transports are. -/
theorem agrees_load (file : FileInput) :
    Agrees key key' around ((c.through t).load file) ((c.through t').load file) :=
  (Payload.agrees_obtain _ _).bind fun payload => payload.agrees_countPages.bind fun counted =>
    counted.2.agrees_read.bind fun _ => (agrees_log _ _ _).bind fun _ => agrees_pure _

/-- Over transports that agree rotations agree. -/
theorem agrees_rotate (file : FileInput) (angle : Json) (range : Option PageRange) :
    Agrees key key' around ((c.through t).rotate file angle range) ((c.through t').rotate file angle range) := by
  refine (agrees_ofExcept _).bind fun action => ?_
  cases range with
  | none => exact c.agrees_buildPdf h _ _
  | some range =>
    exact (c.agrees_load file).bind fun source => (agrees_ofExcept _).bind fun span => c.agrees_buildPdf h _ _

/-- Over transports that agree insertions agree. -/
theorem agrees_addPage (file : FileInput) (count index : Json) :
    Agrees key key' around ((c.through t).addPage file count index) ((c.through t').addPage file count index) := by
  refine (agrees_ofExcept _).bind fun number => Agrees.guarded (fun _ => ?_) _ _
  split
  · exact c.agrees_buildPdf h _ _
  · exact (c.agrees_load file).bind fun source => (agrees_ofExcept _).bind fun place =>
      Agrees.guarded (fun _ => c.agrees_buildPdf h _ _) _ _

/-- Over transports that agree splits agree: side by side the executions have the same outcomes, turn by turn. -/
theorem agrees_split (file : FileInput) (ranges : List PageRange) :
    Agrees key key' around ((c.through t).split file ranges) ((c.through t').split file ranges) := by
  have hexecutions (source : Source) (spans : List (Number × Number)) (t : Transport) :
      each (fun (span : Number × Number) =>
          Run.ofExcept ((c.through t).execution [source.pages span.1 span.2] [] (Output.pdf {}))) spans =
        List.map (Execution.through t) <$> each (fun (span : Number × Number) =>
          Run.ofExcept (c.execution [source.pages span.1 span.2] [] (Output.pdf {}))) spans := by
    simp only [execution_through, ofExcept_map, each_map]
  refine Agrees.guarded (fun _ => ?_) _ _
  refine (c.agrees_load file).bind fun source => (agrees_each (fun _ => agrees_ofExcept _) ranges).bind
    fun spans => ?_
  rw [hexecutions, hexecutions, bind_map_left, bind_map_left]
  refine (agrees_each (fun _ => agrees_ofExcept _) spans).bind fun executions => ?_
  rw [List.length_map, List.length_map]
  refine (agrees_log _ _ _).bind fun _ => (Execution.agrees_runAll executions h).bind fun outcomes => ?_
  split
  · exact agrees_each (fun _ => agrees_ofExcept _) outcomes
  · exact agrees_throw _

omit h in
/-- The pages that a list of indices means agree with themselves. -/
theorem agrees_resolveIndices (count indices : Json) :
    Agrees key key' around (resolveIndices count indices) (resolveIndices count indices) :=
  (agrees_ofExcept _).bind fun items => agrees_each (fun _ => agrees_ofExcept _) items

/-- Over transports that agree duplications agree. -/
theorem agrees_duplicatePages (file : FileInput) (indices : Json) :
    Agrees key key' around ((c.through t).duplicatePages file indices)
      ((c.through t').duplicatePages file indices) := by
  refine Agrees.guarded (fun _ => ?_) _ _
  exact (c.agrees_load file).bind fun source => (agrees_resolveIndices source.count indices).bind fun pages =>
    c.agrees_buildPdf h _ _

/-- Over transports that agree deletions agree. -/
theorem agrees_deletePages (file : FileInput) (indices : Json) :
    Agrees key key' around ((c.through t).deletePages file indices) ((c.through t').deletePages file indices) := by
  refine Agrees.guarded (fun _ => ?_) _ _
  exact (c.agrees_load file).bind fun source => (agrees_resolveIndices source.count indices).bind fun pages =>
    (agrees_ofExcept _).bind fun parts => c.agrees_buildPdf h _ _

/-- Over transports that agree the operations that a client offers agree, whatever their arguments are. -/
theorem agrees_meaning (args : Arguments) : ∀ call ∈ calls,
    Agrees key key' around (call.meaning args (c.through t)) (call.meaning args (c.through t')) := by
  have happly (file : FileInput) (action : Except ActionError Action) :
      Agrees key key' around (ClientReply.document <$> (c.through t).applyAction file action)
        (ClientReply.document <$> (c.through t').applyAction file action) := (c.agrees_applyAction h file action).map _
  simp only [calls, giving, List.forall_mem_cons]
  refine ⟨agrees_throw _, agrees_pure _, (c.agrees_accountInfo h).map _, (c.agrees_convert h _ _).map _, happly _ _,
    happly _ _, happly _ _, happly _ _, happly _ _, happly _ _, happly _ _, happly _ _, happly _ _, happly _ _,
    (c.agrees_extractText h _).map _, ?_, (c.agrees_compress h _ _).map _, (c.agrees_rotate h _ _ _).map _,
    (c.agrees_addPage h _ _ _).map _, (c.agrees_split h _ _).map _, (c.agrees_duplicatePages h _ _).map _,
    (c.agrees_deletePages h _ _).map _, by simp⟩
  exact (agrees_ofExcept _).bind fun files => (c.agrees_merge h files _).bind fun _ => agrees_pure _

/-- Over transports that agree calls of operations by name agree. -/
theorem agrees_call (operation : Text) (args : Arguments) :
    Agrees key key' around ((c.through t).call operation args) ((c.through t').call operation args) := by
  unfold call
  cases hmake : NamedCall.make calls (.notOffered name operation) operation args with
  | error fault => exact agrees_throw fault
  | ok meaning =>
    obtain ⟨found, hfound, rfl⟩ := NamedCall.mem_of_make hmake
    exact c.agrees_meaning h args found hfound

end Operations

end Client

end DocBuild
