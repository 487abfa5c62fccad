import DocBuild.Job.Execution

/-!
# Arguments by name

Operations can be called by name with named arguments. A call names what it requires and what it may be
given; it is refused if an argument is unknown or a required one is missing. An argument that is left out
and one that is null mean the same, unless the call has a default for it. What an argument is worth is for
the operation to judge.
-/

namespace DocBuild

/-- An argument of a call. -/
inductive Argument where
  | value (value : Json)
  | file (input : FileInput)
  | files (inputs : List FileInput)
  | range (range : PageRange)
  | ranges (ranges : List PageRange)
  | action (action : Action)
  | actions (actions : List Action)
  | output (output : Output)
  | part (part : Part)
  | callback (callback : ProgressCallback)

/-- The arguments of a call by name. -/
abbrev Arguments := List (Text × Argument)

namespace Arguments

/-- The fault of a call with arguments that do not fit. -/
def unfit : Fault := .ofForeign .type "the arguments do not fit the call"

/-- Refuses arguments that are neither required nor optional, and calls that lack a required one. -/
def expect (args : Arguments) (required optional : List Text) : Except Fault Unit :=
  if args.all (fun a => (required ++ optional).contains a.1) &&
      required.all (fun name => (args.lookup name).isSome) then .ok ()
  else .error unfit

/-- The value of an argument, or a default if it is left out. -/
def valueOr (args : Arguments) (name : Text) (default : Json) : Json :=
  match args.lookup name with
  | some (.value v) => v
  | _ => default

/-- The value of an argument. -/
def value (args : Arguments) (name : Text) : Json := args.valueOr name .null

/-- The file that an argument is. -/
def file (args : Arguments) (name : Text) : FileInput :=
  match args.lookup name with
  | some (.file input) => input
  | _ => .plain .null

/-- The file that an argument is, unless it is null. -/
def file? (args : Arguments) (name : Text) : Option FileInput :=
  match args.file name with
  | .plain .null => none
  | input => some input

/-- The files that an argument lists. -/
def files (args : Arguments) (name : Text) : List FileInput :=
  match args.lookup name with
  | some (.files inputs) => inputs
  | _ => []

/-- The page range that an argument is. -/
def range? (args : Arguments) (name : Text) : Option PageRange :=
  match args.lookup name with
  | some (.range range) => some range
  | _ => none

/-- The page ranges that an argument lists. -/
def ranges (args : Arguments) (name : Text) : List PageRange :=
  match args.lookup name with
  | some (.ranges ranges) => ranges
  | _ => []

/-- The actions that an argument lists. -/
def actions (args : Arguments) (name : Text) : List Action :=
  match args.lookup name with
  | some (.actions actions) => actions
  | _ => []

/-- The action that an argument has to be. -/
def action (args : Arguments) (name : Text) : Except Fault Action :=
  match args.lookup name with
  | some (.action action) => .ok action
  | _ => .error (.notOffered (args.value name).kindName "kind")

/-- The actions that an argument has to list. -/
def someActions (args : Arguments) (name : Text) : Except Fault (List Action) :=
  match args.lookup name with
  | some (.actions actions) => .ok actions
  | _ => .error (.foreign (.notIterable (args.value name).kindName))

/-- The files that an argument has to list. -/
def someFiles (args : Arguments) (name : Text) : Except Fault (List FileInput) :=
  match args.lookup name with
  | some (.files inputs) => .ok inputs
  | _ => .error (.foreign (.notIterable (args.value name).kindName))

/-- The output that an argument is, unless it is null. -/
def output? (args : Arguments) (name : Text) : Option Output :=
  match args.lookup name with
  | some (.output output) => some output
  | _ => none

/-- The function that an argument is, unless it is null. Any other value fails as soon as it is called. -/
def callback? (args : Arguments) (name : Text) : Option ProgressCallback :=
  match args.lookup name with
  | some (.callback callback) => some callback
  | _ =>
    match args.value name with
    | .null => none
    | v => some fun _ => .error (.foreign (.notCallable v.kindName))

/-- The part that an argument is; any other value is a part that is not supported. -/
def part (args : Arguments) (name : Text) : Part :=
  match args.lookup name with
  | some (.part part) => part
  | _ => ⟨.unsupported (args.value name), []⟩

end Arguments

/-- A call that can be made by name, with the arguments it takes and what it means. -/
structure NamedCall (α : Type) where
  name : Text
  required : List Text
  optional : List Text
  meaning : Arguments → α

/-- What the call with a name means for arguments; `unknown` is the fault if there is none. -/
def NamedCall.make {α : Type} (calls : List (NamedCall α)) (unknown : Fault) (name : Text)
    (args : Arguments) : Except Fault α := do
  match calls.find? (·.name = name) with
  | none => .error unknown
  | some call =>
    args.expect call.required call.optional
    return call.meaning args

end DocBuild
