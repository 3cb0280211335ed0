/-!
# Trace events

What the pipeline reports about itself: an event with a level, a message and fields, inside the
spans that enclose it. Left out are the fields that tell a time: how long a request took
(`elapsed_ms`, `elapsed_us`), when its operation began (`timestamp`), and how long its response is
kept (`expiration`).
-/

namespace Mediator

inductive Level where
  | error
  | warn
  | info
  | debug
  | trace
deriving DecidableEq, Repr, Inhabited

namespace Level

def verbosity : Level → Nat
  | .error => 0
  | .warn => 1
  | .info => 2
  | .debug => 3
  | .trace => 4

/-- Whether an event of this level is seen by someone who looks down to the other. -/
def within (l limit : Level) : Bool := l.verbosity ≤ limit.verbosity

def name : Level → String
  | .error => "ERROR"
  | .warn => "WARN"
  | .info => "INFO"
  | .debug => "DEBUG"
  | .trace => "TRACE"

end Level

structure Span where
  name : String
  fields : List (String × String)
deriving DecidableEq, Repr, Inhabited

inductive FieldValue where
  | text (s : String)
  | count (n : Nat)
deriving DecidableEq, Repr, Inhabited

structure Event where
  level : Level
  message : String
  fields : List (String × FieldValue)
  /-- For whom the event is meant, if not for everybody. -/
  target : Option String
deriving DecidableEq, Repr, Inhabited

namespace Event

def make (level : Level) (message : String) (fields : List (String × String)) : Event :=
  ⟨level, message, fields.map fun (name, value) => (name, .text value), none⟩

def error : String → List (String × String) → Event := make .error

def warn : String → List (String × String) → Event := make .warn

def debug : String → List (String × String) → Event := make .debug

def withCount (e : Event) (name : String) (n : Nat) : Event :=
  { e with fields := e.fields ++ [(name, .count n)] }

end Event

structure TraceEntry where
  event : Event
  spans : List Span
deriving DecidableEq, Repr, Inhabited

end Mediator
