import RouterLayer.Log
import RouterLayer.OrderedMap
import RouterLayer.Text.Case

/-!
The loggers of a process and the handlers that show what is written to them. A logger lies below
the one whose dotted name is one part shorter, and all lie below the topmost, which has no name. A
record goes from its logger upwards, to the handlers of each logger on the way, until a logger keeps
it to itself.
-/

set_option autoImplicit false

namespace RouterLayer.Log

structure Threshold where
  number : Nat
  deriving DecidableEq, Repr

namespace Threshold

def unset : Threshold := ⟨0⟩

def debug : Threshold := ⟨10⟩

def info : Threshold := ⟨20⟩

def warning : Threshold := ⟨30⟩

def admits (t : Threshold) (l : Level) : Bool := decide ((t.number : Int) ≤ l.number)

end Threshold

/-- How a handler writes a record: the message alone, or with a tag where the level asks for it. -/
inductive Format
  | message | tagged
  deriving DecidableEq, Repr

def Level.tag (l : Level) : Text := "[" ++ Text.lower l.name ++ "] "

def Format.line (f : Format) (r : Record) : Text :=
  match f with
  | .message => r.message
  | .tagged => if Level.info.number < r.level.number then r.level.tag ++ r.message else r.message

/-- A handler writes to the stream that was current when it was made. -/
structure Handler where
  threshold : Threshold
  stream : Nat
  format : Format
  deriving DecidableEq, Repr

def Handler.write (handler : Handler) (r : Record) : Nat × Text :=
  (handler.stream, handler.format.line r ++ "\n")

/-- Standard error shows a warning that no handler is there for. -/
def lastResort (stderr : Nat) : Handler := ⟨.warning, stderr, .message⟩

/-- What is set on a logger. Without a threshold it has that of the nearest logger above. -/
structure Logger where
  threshold : Threshold
  handlers : List Handler
  propagates : Bool
  deriving DecidableEq, Repr

structure Flags where
  verbose : Bool
  quiet : Bool
  deriving DecidableEq, Repr

def Flags.threshold (f : Flags) : Threshold :=
  if f.verbose then .debug else if f.quiet then .warning else .info

namespace Logger

def blank : Logger := ⟨.unset, [], true⟩

/-- A handler is added when it was just made, so it never stands there already. -/
def addHandler (l : Logger) (handler : Handler) : Logger :=
  { l with handlers := l.handlers ++ [handler] }

def removeHandler (l : Logger) (handler : Handler) : Logger :=
  { l with handlers := l.handlers.erase handler }

/-- The handlers that are there go, since their streams may be out of use, and one handler for the
current stream takes their place. -/
def configure (l : Logger) (flags : Flags) (stream : Nat) : Logger :=
  let cleared := l.handlers.foldl removeHandler { l with threshold := flags.threshold }
  { cleared.addHandler ⟨flags.threshold, stream, .tagged⟩ with propagates := false }

end Logger

def lineage (name : Text) : List Text :=
  let parts := Text.splitAll '.' name
  let leading := (List.range parts.length).map fun n => Text.joinWith '.' (parts.take (n + 1))
  (leading.reverse.filter fun n => !n.isEmpty) ++ [[]]

/-- The loggers of a process by name. Those that nothing was set on need no entry. -/
structure Hierarchy where
  loggers : OrderedMap Logger
  deriving DecidableEq, Repr

namespace Hierarchy

def fresh : Hierarchy := ⟨[([], ⟨.warning, [], true⟩)]⟩

variable (h : Hierarchy)

def logger (name : Text) : Logger := (h.loggers.find? name).getD .blank

def setLogger (name : Text) (l : Logger) : Hierarchy := ⟨h.loggers.put name l⟩

@[simp] theorem logger_setLogger (name : Text) (l : Logger) (other : Text) :
    (h.setLogger name l).logger other = if name = other then l else h.logger other := by
  rw [logger, setLogger, OrderedMap.find?_put]
  split
  · rfl
  · rfl

def level : Threshold := (h.logger rootLogger).threshold

def handlers : List Handler := (h.logger rootLogger).handlers

def configure (flags : Flags) (stream : Nat) : Hierarchy :=
  h.setLogger rootLogger ((h.logger rootLogger).configure flags stream)

def effective (name : Text) : Threshold :=
  (((lineage name).map fun n => (h.logger n).threshold).find? (· ≠ .unset)).getD .unset

/-- A level below all others is never let through, whatever the thresholds are. -/
def isEnabled (r : Record) : Bool :=
  decide (0 < r.level.number) && (h.effective r.logger).admits r.level

/-- As far up as records go: to the first logger that does not pass them on. -/
def reached : List Text → List Text
  | [] => []
  | name :: above => name :: if (h.logger name).propagates then reached above else []

def handlersFor (name : Text) : List Handler :=
  (h.reached (lineage name)).flatMap fun n => (h.logger n).handlers

def takers (stderr : Nat) (r : Record) : List Handler :=
  if h.isEnabled r then
    let offered := h.handlersFor r.logger
    (if offered.isEmpty then [lastResort stderr] else offered).filter (·.threshold.admits r.level)
  else []

def emit (stderr : Nat) (r : Record) : List (Nat × Text) :=
  (h.takers stderr r).map (·.write r)

def written (stderr : Nat) (records : List Record) : Text :=
  (records.flatMap (h.emit stderr)).flatMap fun p => if p.1 = stderr then p.2 else []

end Hierarchy

end RouterLayer.Log
