import Mediator.Chain

/-!
# Providers

A provider knows who handles the requests of a type, and who subscribes to its notifications.
-/

namespace Mediator

/-- Handing over a notification is a call of its own, which may panic before there is any program to
run. -/
abbrev Receiver : Type := Notification → Operation → Call World (Action (Except Error Unit))

structure Subscriber where
  name : String
  handle : Receiver

structure Provider where
  resolve : RequestType → Option Handler
  /-- The subscribers of a type, in the order of registration. -/
  subscribers : NotificationType → List Subscriber

end Mediator
