-- SUMMARY: Configuration: limits, the cache switch and the log level, with their reading from the environment.
import DataShape.Number.Numeral
import DataShape.Text.LowerCase

/-!
# Configuration

Integers of the environment are numerals of any script with blanks around
them; a variable that is not set, or blank, leaves the default. The cache is on
only if its variable says `true` in any case. The name of a log level is
checked when logging is set up, not before.
-/

namespace DataShape

-- ---------------------------------------------------------------------------
-- Faults
-- ---------------------------------------------------------------------------

inductive ConfigFault where
  | notAnInteger (name raw : Text)
  | unknownLevel (given : Text)

namespace ConfigFault

/-- The wording for any reason. -/
def explain (reason : Text) : Text := "Invalid configuration: " ++ reason

def message : ConfigFault → Text
  | .notAnInteger name raw => explain (name ++ " must be an integer, got '" ++ raw ++ "'")
  | .unknownLevel given => explain ("Unknown log level '" ++ given ++ "'")

end ConfigFault

-- ---------------------------------------------------------------------------
-- Log levels
-- ---------------------------------------------------------------------------

inductive LogLevel where
  | unset
  | debug
  | info
  | warning
  | error
  | critical
  deriving DecidableEq, Repr

namespace LogLevel

def rank : LogLevel → Nat
  | .unset => 0
  | .debug => 10
  | .info => 20
  | .warning => 30
  | .error => 40
  | .critical => 50

def names : List (String × LogLevel) :=
  [("CRITICAL", .critical), ("FATAL", .critical), ("ERROR", .error), ("WARNING", .warning),
    ("WARN", .warning), ("INFO", .info), ("DEBUG", .debug), ("NOTSET", .unset)]

/-- Upper case as far as it gives ASCII letters: those of ASCII, the dotless i and the long s. -/
def upper (c : CodePoint) : CodePoint :=
  if c.val = 0x0131 then 'I' else if c.val = 0x017F then 'S' else c.toAsciiUpper

/-- The level with a name in any case. -/
def ofName (t : Text) : Except ConfigFault LogLevel :=
  match names.find? fun n => t.map upper = Text.ofString n.1 with
  | some n => .ok n.2
  | none => .error (.unknownLevel t)

end LogLevel

-- ---------------------------------------------------------------------------
-- Configurations
-- ---------------------------------------------------------------------------

structure Config where
  logLevel : Text := "WARNING"
  definitionDepthLimit : Int := 64
  cacheEnabled : Bool := true
  maxCacheSize : Int := 128

namespace Config

/-- What all variables start with. -/
def variableStart : String := "JSON_SHAPE_"

/-- The text of each variable that is set, by its full name. -/
abbrev Environment := Text → Option Text

def fullName (name : String) : Text := variableStart ++ name

def integer (env : Environment) (name : String) (default : Int) : Except ConfigFault Int :=
  match env (fullName name) with
  | none => .ok default
  | some raw =>
    if raw.all CodePoint.isBlank then .ok default
    else match Numeral.integer 10 raw with
      | .ok n => .ok n
      | .error _ => .error (.notAnInteger (fullName name) raw)

def ofEnvironment (env : Environment) : Except ConfigFault Config := do
  let logLevel := (env (fullName "LOG_LEVEL")).getD "WARNING"
  let definitionDepthLimit ← integer env "DEFINITION_DEPTH_LIMIT" 64
  let cacheEnabled := ((env (fullName "CACHE_ENABLED")).getD "true").toLower = "true"
  let maxCacheSize ← integer env "MAX_CACHE_SIZE" 128
  return { logLevel, definitionDepthLimit, cacheEnabled, maxCacheSize }

end Config

end DataShape
