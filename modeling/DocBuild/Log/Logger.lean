import DocBuild.Log.Redaction
import DocBuild.Text.Capital
import DocBuild.Fault

/-!
# The log

A message has a level, and fields beside its text. The logger has a numeric threshold; at threshold zero
only warnings and errors count. Once it is configured it also writes a line for each message that counts.
-/

namespace DocBuild

/-- The levels of messages. -/
inductive LogLevel where
  | debug
  | info
  | warning
  | error
deriving DecidableEq

namespace LogLevel

/-- The name of a level. -/
def name : LogLevel → Text
  | debug => "DEBUG"
  | info => "INFO"
  | warning => "WARNING"
  | error => "ERROR"

/-- The number of a level. -/
def number : LogLevel → Nat
  | debug => 10
  | info => 20
  | warning => 30
  | error => 40

end LogLevel

/-- A message that was logged, with its tokens masked. -/
structure LogRecord where
  level : LogLevel
  message : Text
  fields : Members

/-- The threshold of the log, and whether lines are written. -/
structure Logger where
  threshold : Nat := 0
  writes : Bool := false
deriving DecidableEq

namespace Logger

/-- The thresholds by name. -/
def thresholds : List (Text × Nat) :=
  [("CRITICAL", 50), ("FATAL", 50), ("ERROR", 40), ("WARN", 30), ("WARNING", 30), ("INFO", 20),
   ("DEBUG", 10), ("NOTSET", 0)]

/-- The logger with the threshold of a name, in small or capital letters; it writes lines. -/
def configureName (level : Text) : Except Fault Logger :=
  let level := Text.upper level
  match thresholds.lookup level with
  | some threshold => .ok ⟨threshold, true⟩
  | none => .error (.ofForeign .value ("Unknown level: " ++ level.quoted))

/-- The logger with a threshold, which is given by its name. -/
def configure : Json → Except Fault Logger
  | .str level => configureName level
  | level => .error (.notOffered level.kindName "upper")

/-- Whether messages of a level count. -/
def counts (logger : Logger) (level : LogLevel) : Bool :=
  (if logger.threshold = 0 then LogLevel.warning.number else logger.threshold) ≤ level.number

/-- The line that is written for a message, after the time. -/
def line (logger : Logger) (level : LogLevel) (message : Text) : Text :=
  if logger.writes && logger.counts level then
    "[" ++ level.name ++ "] docassembly: " ++ Log.redact message ++ "\n"
  else []

end Logger

end DocBuild
