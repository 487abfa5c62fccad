import DocBuild.Client
import DocBuild.Decimal.Shortest
import DocBuild.Settings.EnvFile

/-!
# Settings

The settings of a client. A setting is taken from what the caller gives, else from the environment, else
from the environment file, else from its default. Names in the environment may be written in small or
capital letters; of several spellings the last one counts.
-/

namespace DocBuild

/-- What is wrong with the value of a setting. -/
inductive SettingFlaw where
  | notText
  | notNumber
  | badNumber
deriving DecidableEq

/-- The name of a flaw. -/
def SettingFlaw.name : SettingFlaw → Text
  | notText => "string_type"
  | notNumber => "float_type"
  | badNumber => "float_parsing"

/-- The settings of a client. -/
structure Settings where
  application : Text := "dev"
  logLevel : Text := "INFO"
  apiKey : Text := []
  baseUrl : Text := HttpTransport.defaultBaseUrl
  timeout : Float := 60.0

/-- The settings with a flaw, by name. -/
structure SettingsError where
  flaws : List (Text × SettingFlaw)

namespace Settings

/-- The digits at the front of a text. -/
def digits (t : Text) : Text := t.takeWhile (·.isDigit)

/-- Whether the text before the digits is a sign, and the text after it. -/
def splitSign (t : Text) : Bool × Text :=
  match t with
  | ⟨0x2D, _⟩ :: rest => (true, rest)
  | ⟨0x2B, _⟩ :: rest => (false, rest)
  | t => (false, t)

/-- The exponent that a text is; an empty text is the exponent zero. -/
def exponent? (t : Text) : Option Int :=
  match t with
  | [] => some 0
  | e :: rest =>
    let (negative, rest) := splitSign rest
    let size : Int := Text.digitsValue rest
    if (e.val = 0x65 ∨ e.val = 0x45) ∧ !rest.isEmpty ∧ rest.all (·.isDigit) then
      some (if negative then -size else size)
    else none

/-- The number that an unsigned decimal numeral denotes. -/
def decimal? (negative : Bool) (t : Text) : Option Float := do
  let whole := digits t
  let rest := t.drop whole.length
  let fraction := match rest with
    | ⟨0x2E, _⟩ :: rest => digits rest
    | _ => []
  let rest := match rest with
    | ⟨0x2E, _⟩ :: rest => rest.drop fraction.length
    | _ => rest
  if whole.isEmpty && fraction.isEmpty then none
  let power ← exponent? rest
  return Decimal.toFloat negative (Text.digitsValue (whole ++ fraction)) (power - fraction.length)

/-- The number that a text without blanks denotes. -/
def plainFloat? (t : Text) : Option Float :=
  let (negative, t) := splitSign t
  let word := Text.lowerAscii t
  if word = "inf" ∨ word = "infinity" then some (if negative then -1.0 / 0.0 else 1.0 / 0.0)
  else if word = "nan" then some (0.0 / 0.0)
  else decimal? negative t

/-- Whether underscores stand only between other characters, one at a time. -/
def singleUnderscores : Text → Bool
  | [] => true
  | [c] => c.val ≠ 0x5F
  | c :: d :: rest => !(c.val = 0x5F && d.val = 0x5F) && singleUnderscores (d :: rest)

/-- Blanks around a number; the information separators are none. -/
def isMargin (c : CodePoint) : Bool := c.isBlank && !(0x1C ≤ c.val && c.val ≤ 0x1F)

/-- The number that a text denotes. Underscores may group its digits. -/
def float? (t : Text) : Option Float :=
  let inner := ((t.dropWhile isMargin).reverse.dropWhile isMargin).reverse
  match plainFloat? inner with
  | some x => some x
  | none =>
    if inner.head?.any (·.val = 0x5F) || !singleUnderscores inner then none
    else plainFloat? (inner.filter (·.val ≠ 0x5F))

/-- The text that a setting is. -/
def textOf (value : Json) : Except SettingFlaw Text :=
  match value with
  | .str t => .ok t
  | _ => .error .notText

/-- The number that a setting is. -/
def numberOf (value : Json) : Except SettingFlaw Float :=
  match value with
  | .int n =>
    match Number.floatOf? n with
    | some x => .ok x
    | none => .error .notNumber
  | .float x => .ok x
  | .bool b => .ok (if b then 1.0 else 0.0)
  | .str t =>
    match float? t with
    | some x => .ok x
    | none => .error .badNumber
  | _ => .error .notNumber

/-- Where settings are taken from. -/
structure Sources where
  given : Members := []
  environment : List (Text × Text) := []
  file : List EnvFile.Binding := []

/-- The value that the last binding of a name gives to it. -/
def bound? (name : Text) (bindings : List EnvFile.Binding) : Option Json :=
  ((EnvFile.lookupLast name (bindings.map fun b => (Text.lowered b.1, b.2))).getD none).map .str

/-- The value that the sources give to a setting. -/
def Sources.value? (sources : Sources) (name : Text) : Option Json :=
  sources.given.get? name <|> bound? name (sources.environment.map fun b => (b.1, some b.2)) <|>
    bound? name sources.file

/-- Reads a setting, or takes its default. -/
def Sources.setting {α : Type} (sources : Sources) (name : Text) (default : α)
    (read : Json → Except SettingFlaw α) : Except (List (Text × SettingFlaw)) α :=
  match sources.value? name with
  | none => .ok default
  | some value => (read value).mapError fun flaw => [(name, flaw)]

/-- The flaws of a setting. -/
def flawsOf {α : Type} : Except (List (Text × SettingFlaw)) α → List (Text × SettingFlaw)
  | .ok _ => []
  | .error flaws => flaws

/-- Takes the settings from their sources. -/
def load (sources : Sources) : Except SettingsError Settings :=
  let defaults : Settings := {}
  let application := sources.setting "app_env" defaults.application textOf
  let logLevel := sources.setting "log_level" defaults.logLevel textOf
  let apiKey := sources.setting "dws_api_key" defaults.apiKey textOf
  let baseUrl := sources.setting "dws_base_url" defaults.baseUrl textOf
  let timeout := sources.setting "dws_timeout_seconds" defaults.timeout numberOf
  match application, logLevel, apiKey, baseUrl, timeout with
  | .ok application, .ok logLevel, .ok apiKey, .ok baseUrl, .ok timeout =>
    .ok { application, logLevel, apiKey, baseUrl, timeout }
  | _, _, _, _, _ =>
    .error ⟨flawsOf application ++ flawsOf logLevel ++ flawsOf apiKey ++ flawsOf baseUrl ++
      flawsOf timeout⟩

/-- The name of the environment file. -/
def fileName : Text := ".env"

/-- The sources in a directory: what the caller gives, the environment, and the environment file if there
is one. -/
def sourcesIn (given : Members) (environment : List (Text × Text)) (tree : FileTree) :
    Except Fault Sources :=
  match tree.entry (.ofText fileName) with
  | .file content =>
    match EnvFile.decode content with
    | .ok t => .ok { given, environment, file := EnvFile.bindings environment t }
    | .error e => .error (.ofForeign .undecodable e.message)
  | _ => .ok { given, environment }

/-- The settings as a record. -/
def toMembers (s : Settings) : Members :=
  [("app_env", .str s.application), ("log_level", .str s.logLevel), ("dws_api_key", .str s.apiKey),
   ("dws_base_url", .str s.baseUrl), ("dws_timeout_seconds", .float s.timeout)]

/-- The client with given settings. The log is configured first. -/
def client (s : Settings) (connection : Connection) : Run Client := do
  let logger ← Run.ofExcept (Logger.configureName s.logLevel)
  modify fun session => { session with logger }
  Run.ofExcept
    (Client.make (.literal s.apiKey) (.str s.baseUrl) (.float s.timeout) none connection)

end Settings

end DocBuild
