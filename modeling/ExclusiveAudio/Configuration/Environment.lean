import ExclusiveAudio.Configuration.Options
import ExclusiveAudio.Text.Blank
import ExclusiveAudio.Text.Numeral

/-!
Settings from variables of the environment.

White space around a value makes no difference, and a value of nothing else counts as none.
-/

namespace ExclusiveAudio

/-- The variables that are set, by name. -/
abbrev Environment := String → Option String

/-- Whether a value means yes. -/
def parseFlag (value : String) : Bool :=
  ["1", "true", "yes", "on"].contains (Text.asciiLower (Text.trim value))

namespace Environment

/-- The trimmed value of a variable, unless it is blank. -/
def value? (env : Environment) (key : String) : Option String :=
  ((env key).map Text.trim).filter (· ≠ "")

/-- Whether a variable says yes. -/
def flag (env : Environment) (key : String) : Bool := (env.value? key).elim false parseFlag

/-- The value of a variable that has to be a number, if it is set. -/
def number? {α : Type} (read : String → Option α) (env : Environment) (key : String) :
    Except AudioError (Option α) :=
  match env.value? key with
  | none => .ok none
  | some text =>
    match read text with
    | some number => .ok (some number)
    | none => .error (.config (.notANumber key text))

/-- A count of 64 bits in decimal digits, with at most a plus sign. -/
def count? (text : String) : Option Nat := Numeral.count? UInt64.size text.toList

end Environment

namespace Options

def deviceKey : String := "HOGOUT_DEVICE"
def exclusiveKey : String := "HOGOUT_EXCLUSIVE"
def disableMixingKey : String := "HOGOUT_DISABLE_MIXING"
def timeoutKey : String := "HOGOUT_SWITCH_TIMEOUT_MS"

/-- A flag of the environment if it is set, or else what it was before. -/
def flagOr (env : Environment) (key : String) (before : Bool) : Bool :=
  if (env.value? key).isSome then env.flag key else before

/-- The options with those that the environment sets put in their place. -/
def withEnvironment (env : Environment) (o : Options) : Except AudioError Options := do
  let timeout ← env.number? Environment.count? timeoutKey
  validate
    { device := env.value? deviceKey <|> o.device
      exclusive := flagOr env exclusiveKey o.exclusive
      disableMixing := flagOr env disableMixingKey o.disableMixing
      timeoutMillis := timeout.getD o.timeoutMillis
      pollMillis := o.pollMillis }

end Options

end ExclusiveAudio
