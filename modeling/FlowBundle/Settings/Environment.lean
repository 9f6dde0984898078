import FlowBundle.Settings.Options
import FlowBundle.Text.LetterCase
import FlowBundle.Text.Quoted
import FlowBundle.Text.Split
/-!
# Settings from the environment

Variables whose names begin with `AWB_` stand for options.  An empty one counts as not set.  The
numbers are read first, the delay before the limits, and a text that is no number ends it; only then
are all options checked together.
-/
namespace FlowBundle

open Json (Value Members)

abbrev Environment := List (String × String)

namespace Environment

inductive Fault where
  | noNumber (text : String)
  | noInteger (text : String)
  | longInteger (digits : Nat)
  | invalid (vs : List Violation)

def quoteLength : Nat := 200

def Fault.message : Fault → String
  | .noNumber text => "could not convert string to float: " ++ Text.quoted text
  | .noInteger text =>
    "invalid literal for int() with base 10: " ++ String.ofList ((Text.quoted text).toList.take quoteLength)
  | .longInteger digits =>
    "Exceeds the limit (" ++ toString NumberText.maxDigits ++
      " digits) for integer string conversion: value has " ++ toString digits ++
      " digits; use sys.set_int_max_str_digits() to increase the limit"
  | .invalid vs => Settings.report vs

def text? (env : Environment) (name : String) : Option String :=
  (List.lookup ("AWB_" ++ name) env).filter (· != "")

def given (env : Environment) (name key : String) (read : String → Except Fault Value) : Except Fault Members :=
  match env.text? name with
  | none => .ok []
  | some text => (read text).map fun v => [(key, v)]

def readNumber (text : String) : Except Fault Value :=
  match NumberText.readFloat? text with
  | some x => .ok (.float x)
  | none => .error (.noNumber text)

def readInteger (text : String) : Except Fault Value :=
  match NumberText.readInteger text with
  | .integer n => .ok (.int n)
  | .tooLong digits => .error (.longInteger digits)
  | .unreadable => .error (.noInteger text)

/-- **The pieces between commas**, without blanks around them, and without the blank ones. -/
def originsOf (text : String) : List String :=
  ((Text.split ',' text.toList).map fun piece => String.ofList (Text.trimChars Text.isBlank piece)).filter (· != "")

def options (env : Environment) : Except Fault Members := do
  let delay ← env.given "SIMULATED_DELAY_SECONDS" "simulated_delay_seconds" readNumber
  let history ← env.given "HISTORY_LIMIT" "history_limit" readInteger
  let archives ← env.given "MAX_ARCHIVES" "max_archives" readInteger
  let origins ← env.given "CORS_ORIGINS" "cors_origins" fun text => .ok (.arr ((originsOf text).map .str))
  let level ← env.given "LOG_LEVEL" "log_level" fun text => .ok (.str (Text.upper (Text.strip text)))
  return delay ++ history ++ archives ++ origins ++ level

/-- **The settings that the environment stands for.** -/
def settings (env : Environment) : Except Fault Settings :=
  match env.options with
  | .error fault => .error fault
  | .ok options => (Settings.ofOptions options).mapError .invalid

end Environment
end FlowBundle
