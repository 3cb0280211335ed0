import Mediator.Chain

/-!
# Conditional intercepts

An intercept behind a switch. While the switch is off the intercept applies to nothing, and where a
request has come to it already, it lets the request pass.
-/

namespace Mediator.Intercept

def conditional (switch : Nat) (inner : Intercept) : Intercept where
  name := inner.name
  appliesTo w caps := w.switches switch && inner.appliesTo w caps
  intercept ctx next := .get fun w => if w.switches switch then inner.intercept ctx next else next

end Mediator.Intercept
