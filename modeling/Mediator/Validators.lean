import Mediator.Intercept.Gate
import Mediator.Slots

/-!
# Registered validators

Validators by the request type. All validators of a request's type are run, in the order of
registration, and the request is rejected with the errors of all of them together. A request of
which they have no error to tell is not rejected, even if one of them fails.
-/

namespace Mediator

/-- Checks requests of one type. Checking never gives way. -/
abbrev RequestValidator : Type := Request → Call World (Except ValidationFailure Unit)

/-- The validators of each request type that has any, in the order of registration. -/
structure Validators where
  lists : Slots (List RequestValidator)

namespace Validators

def empty : Validators := ⟨[]⟩

def ofType (vs : Validators) (type : RequestType) : List RequestValidator :=
  vs.lists.listed type.id

def register (vs : Validators) (type : RequestType) (v : RequestValidator) : Validators :=
  ⟨vs.lists.enlist type.id v⟩

def ofList (rs : List (RequestType × RequestValidator)) : Validators :=
  rs.foldl (fun vs (type, v) => vs.register type v) empty

def count (vs : Validators) (type : RequestType) : Nat := (vs.ofType type).length

/-- Run the validators one after the other, and merge what they find into the failure. -/
def mergeAll (request : Request) (failure : ValidationFailure) :
    List RequestValidator → Call World ValidationFailure
  | [] => return failure
  | v :: rest => do
    match ← v request with
    | .ok () => mergeAll request failure rest
    | .error found => mergeAll request (failure.merge found) rest

def check (vs : Validators) (request : Request) : Call World (Except ValidationFailure Unit) := do
  let failure ← mergeAll request .empty (vs.ofType request.type)
  if failure.isEmpty then return .ok () else return .error failure

def validator (vs : Validators) : Validator where
  validate request := do
    match ← .call (vs.check request) with
    | .ok () => return .completed
    | .error failure => return .failed (.validation failure)

def debug (vs : Validators) : String :=
  "ValidatorRegistry \x7b request_types: " ++ toString vs.lists.length ++ " \x7d"

end Validators

end Mediator
