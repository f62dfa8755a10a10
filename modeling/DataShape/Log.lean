-- SUMMARY: The events that are worth a log line, and the lines.
import DataShape.Config
import DataShape.Parse

/-!
# Log lines

All events are for debugging, so their lines show only at that level.
-/

namespace DataShape

inductive LogEvent where
  /-- A definition was found in the cache. -/
  | cacheHit
  /-- A value was given up for absence. -/
  | rejected
  /-- A text is no JSON. -/
  | undecodable (fault : Json.Fault)

namespace LogEvent

/-- The name of the whole log; parts of it have names below it. -/
def logName : String := "json_shape"

def part : LogEvent → String
  | .cacheHit => "schema.definition"
  | .rejected => "schema.parsing"
  | .undecodable _ => "schema.parsing"

def message : LogEvent → Text
  | .cacheHit => "Loading schema definition from cache"
  | .rejected => "Value rejected by schema"
  | .undecodable fault => "Failed to decode JSON text: " ++ fault.detail

def line (e : LogEvent) : Text :=
  Text.ofString logName ++ "." ++ Text.ofString e.part ++ " - DEBUG - " ++ e.message

-- ---------------------------------------------------------------------------
-- Events of single operations
-- ---------------------------------------------------------------------------

def ofDecode (host : Host) (source : Value) : List LogEvent :=
  match Json.decoded host source with
  | .error (.json fault) => [.undecodable fault]
  | _ => []

def ofValidate (host : Host) (s : Shape) (v : Value) : List LogEvent :=
  match s.isValid host v with
  | .ok false => [.rejected]
  | _ => []

def ofParse (host : Host) (s : Shape) (source : Value) : List LogEvent :=
  match Json.decoded host source with
  | .ok v => ofValidate host s v
  | .error _ => ofDecode host source

end LogEvent

/-- The lines that show once logging is set up at a level. -/
def LogLevel.shown (level : LogLevel) (events : List LogEvent) : List Text :=
  if level = .debug then events.map LogEvent.line else []

end DataShape
