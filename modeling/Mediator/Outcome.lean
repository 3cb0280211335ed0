import Mediator.Call
import Mediator.Error

/-!
# Outcomes

A request or a publish ends in an outcome: a success with a value, or a failure with an error that
several outcomes may share. The combinators take calls, which may panic. `map` and `andThen` turn
such a panic into a failure; `filter` and the two hooks let it through. A failure passes through
every combinator as the same shared error.
-/

namespace Mediator

variable {σ α β : Type}

/-- A value that several holders may share. A mark, if there is one, tells this very object from
every other one, also from one with an equal value. Nothing in this library makes, changes or drops
a mark, so whoever finds a mark again has found the object that was marked. -/
structure Shared (α : Type) where
  value : α
  mark : Option Nat
deriving DecidableEq, Inhabited

namespace Shared

def new (value : α) : Shared α := ⟨value, none⟩

def sameObject (a b : Shared α) : Bool := a.mark.isSome && a.mark == b.mark

end Shared

/-- How a step of the pipeline ended, as reported to sinks. A fault is an error that escaped the
step instead of becoming an outcome. -/
inductive Status where
  | success
  | failure
  | fault
deriving DecidableEq, Repr, Inhabited

def Status.text : Status → String
  | .success => "success"
  | .failure => "failure"
  | .fault => "fault"

inductive Outcome (α : Type) where
  | success (value : α)
  | failure (error : Shared MediatorError)
deriving Inhabited

namespace Outcome

def failed (error : MediatorError) : Outcome α := .failure (.new error)

def fail (message : String) : Outcome α := .failed (.message message)

def completed : Outcome Unit := .success ()

def ofExcept : Except MediatorError α → Outcome α
  | .ok value => .success value
  | .error error => .failed error

def toExcept : Outcome α → Except (Shared MediatorError) α
  | .success value => .ok value
  | .failure error => .error error

def isSuccess : Outcome α → Bool
  | .success _ => true
  | .failure _ => false

def isFailure (o : Outcome α) : Bool := !o.isSuccess

def value? : Outcome α → Option α
  | .success value => some value
  | .failure _ => none

def error? : Outcome α → Option (Shared MediatorError)
  | .success _ => none
  | .failure error => some error

def errorKind? (o : Outcome α) : Option ErrorKind := o.error?.map (·.value.kind)

def status : Outcome α → Status
  | .success _ => .success
  | .failure _ => .failure

def discard : Outcome α → Outcome Unit
  | .success _ => .success ()
  | .failure error => .failure error

def panicked (operation : String) (payload : Panic) : Outcome α :=
  .failed (.panicked operation (.of payload))

def map (o : Outcome α) (f : α → Call σ β) : Call σ (Outcome β) :=
  match o with
  | .success value => do
    match ← (f value).attempt with
    | .ok mapped => return .success mapped
    | .error payload => return .panicked "Outcome::map" payload
  | .failure error => return .failure error

def andThen (o : Outcome α) (f : α → Call σ (Outcome β)) : Call σ (Outcome β) :=
  match o with
  | .success value => do
    match ← (f value).attempt with
    | .ok next => return next
    | .error payload => return .panicked "Outcome::then" payload
  | .failure error => return .failure error

def filter (o : Outcome α) (accepts : α → Call σ Bool) (error : α → Call σ MediatorError) :
    Call σ (Outcome α) :=
  match o with
  | .success value => do
    if ← accepts value then return .success value
    else return .failed (← error value)
  | .failure error => return .failure error

def onSuccess (o : Outcome α) (action : α → Call σ Unit) : Call σ (Outcome α) :=
  match o with
  | .success value => do
    action value
    return .success value
  | .failure error => return .failure error

def onFailure (o : Outcome α) (action : MediatorError → Call σ Unit) : Call σ (Outcome α) :=
  match o with
  | .success value => return .success value
  | .failure error => do
    action error.value
    return .failure error

/-! ## Equality -/

/-- Successes are equal by value; failures when they share one error object, or when their errors
look alike. -/
protected def beq [BEq α] : Outcome α → Outcome α → Bool
  | .success a, .success b => a == b
  | .failure a, .failure b => a.sameObject b || a.value.alike b.value
  | _, _ => false

instance [BEq α] : BEq (Outcome α) := ⟨Outcome.beq⟩

end Outcome

end Mediator
