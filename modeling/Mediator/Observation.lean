import Mediator.Duration
import Mediator.Operation
import Mediator.Outcome

/-!
# Observations

What the observing intercepts tell their sinks about a finished request, and what an observed store
notes about its use. Left out are the times: how long the request took, which a record and a sample
would both tell, and when its operation began, which a record would.
-/

namespace Mediator

structure AuditRecord where
  request : String
  correlation : Correlation
  userId : Option String
  status : Status
deriving DecidableEq, Repr, Inhabited

structure Sample where
  request : String
  status : Status
deriving DecidableEq, Repr, Inhabited

inductive StoreNote where
  | get (key : String) (hit : Bool)
  | set (key : String) (expiration : Duration)
deriving DecidableEq, Repr, Inhabited

end Mediator
