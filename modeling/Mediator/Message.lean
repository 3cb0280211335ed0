import Mediator.Capability
import Mediator.Duration
import Mediator.Json
import Mediator.Resource
import Mediator.Strategy

/-!
# Messages

A request asks for a response, a notification states a fact. Either has a type, with an identity and
a full name, and a payload.
-/

namespace Mediator

/-! ## Responses -/

inductive ResponseType where
  | text
  | int
  | unit
deriving DecidableEq, Repr, Inhabited

inductive Value where
  | text (s : String)
  | int (n : Int)
  | unit
deriving DecidableEq, Repr, Inhabited

def Value.type : Value → ResponseType
  | .text _ => .text
  | .int _ => .int
  | .unit => .unit

/-! ## Requests -/

structure RequestType where
  id : TypeId
  name : String
  capabilities : Capabilities
  response : ResponseType
deriving DecidableEq, Repr, Inhabited

def RequestType.shortName (t : RequestType) : String := TypeName.short t.name

structure Request where
  type : RequestType
  payload : Json
  /-- What an authorization check is evaluated against. -/
  resource : Resource
  /-- Under which key the response may be stored, if at all. -/
  cacheKey : Option String
  /-- How long a stored response lasts, if the request says so itself. -/
  cacheExpiration : Option Duration
deriving Inhabited

namespace Request

def plain (type : RequestType) (payload : Json) : Request :=
  ⟨type, payload, .ofType type.name, none, none⟩

def name (r : Request) : String := r.type.shortName

end Request

/-! ## Notifications -/

structure NotificationType where
  id : TypeId
  name : String
  strategy : Option Strategy
deriving DecidableEq, Repr, Inhabited

def NotificationType.shortName (t : NotificationType) : String := TypeName.short t.name

structure Notification where
  type : NotificationType
  payload : Json
deriving Inhabited

def Notification.name (n : Notification) : String := n.type.shortName

end Mediator
