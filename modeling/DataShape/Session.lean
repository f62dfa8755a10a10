-- SUMMARY: Sessions: configuration, definition cache and log level, changed step by step.
import DataShape.Cache
import DataShape.Definition.Document
import DataShape.Log

/-!
# Sessions

Loading a definition looks into the cache first if the cache is on, and stores
what it made if the cache also has room for anything. A load that fails leaves
the cache as it is.
-/

namespace DataShape

structure Session where
  host : Host
  config : Config
  cache : Cache
  /-- The level that logging was last set up with; none before that. -/
  logLevel : Option LogLevel
  /-- The number that the next shape to be made gets. -/
  nextSerial : Nat

/-- What a step gives besides the session after it. -/
structure Step (α : Type) where
  session : Session
  events : List LogEvent
  result : α

namespace Session

def start (host : Host) : Session where
  host := host
  config := {}
  cache := .empty
  logLevel := none
  nextSerial := 0

def setConfig (config : Config) (s : Session) : Session := { s with config }

def clearCache (s : Session) : Session := { s with cache := .empty }

/-- Sets up logging at a level by name. An unknown name changes nothing. -/
def setLogging (level : Text) (s : Session) : Except ConfigFault (LogLevel × Session) :=
  (LogLevel.ofName level).map fun l => (l, { s with logLevel := some l })

/-- The lines that a step writes. -/
def lines (s : Session) (events : List LogEvent) : List Text :=
  match s.logLevel with
  | some level => level.shown events
  | none => []

-- ---------------------------------------------------------------------------
-- Loading
-- ---------------------------------------------------------------------------

def keyOf (s : Session) (t : Text) : CacheKey := ⟨t, s.config.definitionDepthLimit⟩

def lookup (s : Session) (t : Text) : Option Loaded :=
  if s.config.cacheEnabled then s.cache.find? (s.keyOf t) else none

/-- The cache with a shape that was made from a text, as far as the configuration keeps any. -/
def cacheWith (s : Session) (t : Text) (loaded : Loaded) : Cache :=
  if h : s.config.cacheEnabled ∧ 0 < s.config.maxCacheSize then
    s.cache.store s.config.maxCacheSize h.2 (s.keyOf t) loaded
  else s.cache

def load (t : Text) (s : Session) : Step (Except Definition.ReadFault Loaded) :=
  match s.lookup t with
  | some loaded => ⟨s, [.cacheHit], .ok loaded⟩
  | none =>
    match Definition.read s.host s.config.definitionDepthLimit t with
    | .error f => ⟨s, [], .error f⟩
    | .ok shape =>
      let loaded : Loaded := ⟨s.nextSerial, shape⟩
      ⟨{ s with cache := s.cacheWith t loaded, nextSerial := s.nextSerial + 1 }, [], .ok loaded⟩

-- ---------------------------------------------------------------------------
-- Writing and loading again
-- ---------------------------------------------------------------------------

inductive RoundTripFault where
  | write (fault : Definition.WriteFault)
  | read (fault : Definition.ReadFault)

/-- The text of a shape, and the shape loaded from it. -/
def roundTrip (shape : Shape) (s : Session) : Step (Except RoundTripFault (Text × Loaded)) :=
  match Definition.write s.host shape with
  | .error f => ⟨s, [], .error (.write f)⟩
  | .ok text =>
    let step := s.load text
    ⟨step.session, step.events,
      match step.result with
      | .ok loaded => .ok (text, loaded)
      | .error f => .error (.read f)⟩

end Session

end DataShape
