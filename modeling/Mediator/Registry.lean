import Mediator.Provider
import Mediator.Slots

/-!
# The registry

Handlers and subscribers by the message type. A builder takes one registration after the other;
`RegistryBuilder.build` refuses if a request type has received a second handler. Request types and
notification types are kept apart, so one type may be both.
-/

namespace Mediator

/-! ## The registry -/

inductive RegistryError where
  | duplicateHandler (request : String)
deriving DecidableEq, Repr

def RegistryError.text : RegistryError → String
  | .duplicateHandler request => "duplicate handler registered for request `" ++ request ++ "`"

/-- The handler of each request type that has one, and the subscribers of each notification type
that has any, in the order of registration. -/
structure Registry where
  handlers : Slots Handler
  subscribers : Slots (List Subscriber)

namespace Registry

def containsHandler (g : Registry) (type : RequestType) : Bool :=
  (g.handlers.get? type.id).isSome

def handlerCount (g : Registry) : Nat := g.handlers.length

def subscriberCount (g : Registry) (type : NotificationType) : Nat :=
  (((g.subscribers.get? type.id).bind (Erased.downcast? type.id)).map List.length).getD 0

def provider (g : Registry) : Provider where
  resolve type := (g.handlers.get? type.id).bind (Erased.downcast? type.id)
  subscribers type := g.subscribers.listed type.id

def debug (g : Registry) : String :=
  "Registry \x7b handlers: " ++ toString g.handlers.length ++ ", notification_types: "
    ++ toString g.subscribers.length ++ " \x7d"

end Registry

/-! ## Building one -/

inductive Registration where
  | handler (type : RequestType) (handler : Handler)
  | sharedHandler (type : RequestType) (handler : Handler)
  /-- A subscriber under the short name of its own type. -/
  | subscriber (type : NotificationType) (ownType : String) (receiver : Receiver)
  | subscriberNamed (type : NotificationType) (name : String) (receiver : Receiver)
  | sharedSubscriber (type : NotificationType) (name : String) (receiver : Receiver)

structure RegistryBuilder where
  handlers : Slots Handler
  subscribers : Slots (List Subscriber)
  /-- The request types that had a handler already when given one, by their short names. -/
  duplicates : List String

namespace RegistryBuilder

def empty : RegistryBuilder := ⟨[], [], []⟩

/-- A second handler takes the place of the first, and is noted. -/
def sharedHandler (b : RegistryBuilder) (type : RequestType) (h : Handler) : RegistryBuilder where
  handlers := b.handlers.put type.id ⟨type.id, h⟩
  subscribers := b.subscribers
  duplicates :=
    if (b.handlers.get? type.id).isSome then b.duplicates ++ [type.shortName] else b.duplicates

def handler (b : RegistryBuilder) (type : RequestType) (h : Handler) : RegistryBuilder :=
  b.sharedHandler type h

def sharedSubscriber (b : RegistryBuilder) (type : NotificationType) (name : String)
    (receiver : Receiver) : RegistryBuilder :=
  { b with subscribers := b.subscribers.enlist type.id ⟨name, receiver⟩ }

def subscriberNamed (b : RegistryBuilder) (type : NotificationType) (name : String)
    (receiver : Receiver) : RegistryBuilder :=
  b.sharedSubscriber type name receiver

def subscriber (b : RegistryBuilder) (type : NotificationType) (ownType : String)
    (receiver : Receiver) : RegistryBuilder :=
  b.subscriberNamed type (TypeName.short ownType) receiver

def register (b : RegistryBuilder) : Registration → RegistryBuilder
  | .handler type h => b.handler type h
  | .sharedHandler type h => b.sharedHandler type h
  | .subscriber type ownType receiver => b.subscriber type ownType receiver
  | .subscriberNamed type name receiver => b.subscriberNamed type name receiver
  | .sharedSubscriber type name receiver => b.sharedSubscriber type name receiver

def ofList (rs : List Registration) : RegistryBuilder := rs.foldl register empty

/-- Only the first of the duplicates is told. -/
def build (b : RegistryBuilder) : Except RegistryError Registry :=
  match b.duplicates.head? with
  | some request => .error (.duplicateHandler request)
  | none => .ok ⟨b.handlers, b.subscribers⟩

end RegistryBuilder

end Mediator
