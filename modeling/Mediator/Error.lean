import Mediator.Panic
import Mediator.Resource

/-!
# Errors

Whatever goes wrong is an `Error`; the ones an outcome can carry are the `MediatorError`s. An error
has a text and may have been caused by another one, its source; `sources` lists the causes from the
nearest to the furthest.

Four kinds of `MediatorError` are *transparent*: they have the text and the sources of what they
hold, so the error that they hold is not one of their sources.
-/

namespace Mediator

inductive AllocationFailure where
  | overflow
  | exhausted
deriving DecidableEq, Repr, Inhabited

def AllocationFailure.text : AllocationFailure → String
  | .overflow =>
    "memory allocation failed because the computed capacity exceeded the collection's maximum"
  | .exhausted =>
    "memory allocation failed because the memory allocator returned an error"

/-- The two reasons for which an error bypasses outcomes. -/
inductive FatalKind where
  | canceled
  | resourceExhausted
deriving DecidableEq, Repr, Inhabited

def FatalKind.text : FatalKind → String
  | .canceled => "cancellation"
  | .resourceExhausted => "resource exhaustion"

structure FieldError where
  field : String
  message : String
deriving DecidableEq, Repr, Inhabited

def FieldError.text (e : FieldError) : String := e.field ++ ": " ++ e.message

structure ValidationFailure where
  errors : List FieldError
deriving DecidableEq, Repr, Inhabited

namespace ValidationFailure

def empty : ValidationFailure := ⟨[]⟩

def push (f : ValidationFailure) (field message : String) : ValidationFailure :=
  ⟨f.errors ++ [⟨field, message⟩]⟩

def merge (f other : ValidationFailure) : ValidationFailure := ⟨f.errors ++ other.errors⟩

def isEmpty (f : ValidationFailure) : Bool := f.errors.isEmpty

def text (f : ValidationFailure) : String :=
  "validation failed: " ++ "; ".intercalate (f.errors.map FieldError.text)

end ValidationFailure

/-! ## The errors themselves -/

mutual

inductive Error where
  | message (text : String)
  | canceled
  | allocation (failure : AllocationFailure)
  | wrapped (text : String) (source : Error)
  | fatal (kind : FatalKind) (inner : Error)
  | panicked (panic : PanicError)
  | validation (failure : ValidationFailure)
  | subscriber (failure : SubscriberFailure)
  | aggregate (report : Aggregate)
  | unknownStrategy (name : String)
  | mediator (error : MediatorError)

structure SubscriberFailure where
  subscriber : String
  error : Error

structure Aggregate where
  attempted : Nat
  failures : List SubscriberFailure

inductive MediatorError where
  | noHandler (request : String)
  | validation (failure : ValidationFailure)
  | forbidden (resource : Resource) (reason : String)
  | handler (request : String) (source : Error)
  | panicked (operation : String) (panic : PanicError)
  | subscriber (failure : SubscriberFailure)
  | aggregate (report : Aggregate)
  | message (text : String)
  | other (source : Error)

end

instance : Inhabited Error := ⟨.canceled⟩
instance : Inhabited SubscriberFailure := ⟨⟨"", .canceled⟩⟩
instance : Inhabited Aggregate := ⟨⟨0, []⟩⟩
instance : Inhabited MediatorError := ⟨.message ""⟩

def Aggregate.text (report : Aggregate) : String :=
  s!"{report.failures.length} of {report.attempted} subscriber(s) failed"

def Aggregate.subscribers (report : Aggregate) : List String :=
  report.failures.map SubscriberFailure.subscriber

mutual

def Error.text : Error → String
  | .message text => text
  | .canceled => "operation was canceled"
  | .allocation failure => failure.text
  | .wrapped text _ => text
  | .fatal kind inner => "fatal " ++ kind.text ++ ": " ++ inner.text
  | .panicked panic => panic.text
  | .validation failure => failure.text
  | .subscriber failure => failure.text
  | .aggregate report => report.text
  | .unknownStrategy name => "unknown fan-out strategy: " ++ name
  | .mediator error => error.text

def SubscriberFailure.text : SubscriberFailure → String
  | ⟨subscriber, error⟩ => "subscriber `" ++ subscriber ++ "` failed: " ++ error.text

def MediatorError.text : MediatorError → String
  | .noHandler request => "no handler registered for request `" ++ request ++ "`"
  | .validation failure => failure.text
  | .forbidden resource reason => "access to `" ++ resource.text ++ "` is forbidden: " ++ reason
  | .handler request source => "handler for `" ++ request ++ "` failed: " ++ source.text
  | .panicked operation panic => "`" ++ operation ++ "` panicked: " ++ panic.text
  | .subscriber failure => failure.text
  | .aggregate report => report.text
  | .message text => text
  | .other source => source.text

end

/-! ## Causes -/

mutual

def Error.sources : Error → List Error
  | .wrapped _ source => source :: source.sources
  | .fatal _ inner => inner :: inner.sources
  | .subscriber failure => failure.sources
  | .mediator error => error.sources
  | _ => []

def SubscriberFailure.sources : SubscriberFailure → List Error
  | ⟨_, error⟩ => error :: error.sources

def MediatorError.sources : MediatorError → List Error
  | .handler _ source => source :: source.sources
  | .panicked _ panic => [.panicked panic]
  | .subscriber failure => failure.sources
  | .other source => source.sources
  | _ => []

end

/-! ## Kinds -/

inductive ErrorKind where
  | noHandler
  | validation
  | forbidden
  | handler
  | panicked
  | subscriber
  | aggregate
  | message
  | other
deriving DecidableEq, Repr, Inhabited

namespace MediatorError

def kind : MediatorError → ErrorKind
  | .noHandler _ => .noHandler
  | .validation _ => .validation
  | .forbidden _ _ => .forbidden
  | .handler _ _ => .handler
  | .panicked _ _ => .panicked
  | .subscriber _ => .subscriber
  | .aggregate _ => .aggregate
  | .message _ => .message
  | .other _ => .other

/-- Two errors look alike when neither their kind nor their text tells them apart. -/
def alike (a b : MediatorError) : Bool := a.kind == b.kind && a.text == b.text

end MediatorError

end Mediator
