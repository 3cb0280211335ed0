import Mediator.Declaration.Expression

/-!
# The readers of declarations

The readers of types, patterns and expressions, each with itself and the others one level down.
-/

namespace Mediator.Declaration

def Level.at : Nat → Level
  | 0 => {
      type := fun _ => Reader.expected []
      bound := fun _ _ => Reader.expected []
      pattern := Reader.expected []
      expression := fun _ => Reader.expected []
      operand := fun _ => Reader.expected []
      operations := fun _ _ _ => Reader.expected []
      body := Reader.expected []
      statements := Reader.expected [] }
  | n + 1 =>
    let below := Level.at n
    { type := Reader.typeWith below
      bound := Reader.boundWith below
      pattern := Reader.patternWith below
      expression := Reader.expressionWith below
      operand := Reader.operandWith below
      operations := Reader.operationsWith below
      body := Reader.bodyWith below
      statements := Reader.statementsWith below }

/-- The level above everything that the tokens can contain. -/
def Level.above (ts : List Token) : Level := .at (Token.weights ts + 1)

def Reader.type : Reader TypeShape := fun ts => (Level.above ts).type true ts

end Mediator.Declaration
