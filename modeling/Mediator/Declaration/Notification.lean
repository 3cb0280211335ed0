import Mediator.Strategy
import Mediator.Declaration.Arguments

/-!
# Declared notification types

The attributes called `notification` may name a strategy for the type; of several the last counts.
-/

namespace Mediator.Declaration

def strategyArgument (name : String) : Reader Strategy := do
  Reader.sign "="
  if name == "strategy" then
    match Strategy.parseDeclared? (← Reader.stringLiteral) with
    | some s => pure s
    | none => Reader.reject .unknownStrategy
  else Reader.reject (.unknownArgument name)

def strategyOfAttributes (as : List Attribute) : Except Rejection (Option Strategy) :=
  as.foldlM (fun s a => do return (← a.arguments strategyArgument).getLast?.or s) none

structure NotificationImplementation where
  type : String
  parameters : String
  strategy : Option Strategy
deriving DecidableEq, Repr, Inhabited

namespace NotificationImplementation

def ofItem (i : Item) : Except Rejection NotificationImplementation :=
  (strategyOfAttributes (i.attributesCalled "notification")).map fun s =>
    ⟨i.type, i.parameters, s⟩

def ofText (text : String) : Except Rejection NotificationImplementation :=
  Item.ofText text >>= ofItem

end NotificationImplementation

end Mediator.Declaration
