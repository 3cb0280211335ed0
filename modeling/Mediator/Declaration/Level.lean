import Mediator.Declaration.Reader

/-!
# Levels of nesting

Types contain bounds and expressions, expressions contain patterns and types, and all of them
contain themselves. The readers of their parts get the readers one level down as an argument, a
`Level`. What goes down has taken a token before, so as many levels as there are tokens are enough.

What a reader says of a type, a pattern or an expression is the little that decides how what is
around it goes on.
-/

namespace Mediator.Declaration

inductive TypeShape where
  /-- One name, perhaps with arguments in angle brackets. -/
  | name
  /-- Any other path that does not begin with a type. -/
  | path
  /-- A single bound that no word announces. -/
  | bound
  | enclosed
  | other
deriving DecidableEq, Repr, Inhabited

inductive PatternShape where
  | rest
  /-- A range without one of its ends. -/
  | openRange
  | other
deriving DecidableEq, Repr, Inhabited

inductive ExpressionShape where
  | range
  | comparison
  /-- What ends with its block, so that nothing has to divide it from the next thing. -/
  | block
  | invocation (delimiter : Delimiter)
  | other
deriving DecidableEq, Repr, Inhabited

/-- How strongly operators bind, the weakest first. -/
inductive Precedence where
  | jump
  | assign
  | range
  | or
  | and
  | condition
  | compare
  | bitOr
  | bitXor
  | bitAnd
  | shift
  | sum
  | product
  | cast
deriving DecidableEq, Repr, Inhabited

def Precedence.rank : Precedence → Nat
  | .jump => 0
  | .assign => 1
  | .range => 2
  | .or => 3
  | .and => 4
  | .condition => 5
  | .compare => 6
  | .bitOr => 7
  | .bitXor => 8
  | .bitAnd => 9
  | .shift => 10
  | .sum => 11
  | .product => 12
  | .cast => 13

structure Level where
  /-- The argument: whether the type may go on after a `+`. -/
  type : Bool → Reader TypeShape
  /-- Whether it bounds by a trait. The arguments: whether it may say what is captured, and whether
  it may be constant. -/
  bound : Bool → Bool → Reader Bool
  pattern : Reader PatternShape
  /-- The argument, here and below: whether a name may go on with fields in braces. -/
  expression : Bool → Reader ExpressionShape
  /-- An expression without operators between its parts. -/
  operand : Bool → Reader ExpressionShape
  /-- What goes on from an operand with operators that bind at least so strongly. -/
  operations : Bool → Precedence → ExpressionShape → Reader ExpressionShape
  /-- An expression where a block ends it unless it is one's operand. -/
  body : Reader ExpressionShape
  statements : Reader Unit

namespace Reader

/-- How many tokens the literal ahead has, 0 if there is none: `true` and `false` and negative
numbers are literals. -/
def literalLength : List Token → Nat
  | .literal .. :: _ => 1
  | .word w :: _ => if w == "true" || w == "false" then 1 else 0
  | .mark '-' _ :: .literal (.integer _) _ :: _ => 2
  | .mark '-' _ :: .literal .float _ :: _ => 2
  | _ => 0

def beginsWithLiteral (ts : List Token) : Bool := 0 < literalLength ts

def beginsWithAWord : List Token → Bool
  | .word _ :: _ => true
  | _ => false

/-- The words that begin a path although they name nothing. -/
def isPathWord (ts : List Token) : Bool :=
  beginsWithAnyWord ["super", "self", "Self", "crate"] ts

def beginsWithJust (sign : String) (longer : List String) (ts : List Token) : Bool :=
  beginsWith sign ts && !beginsWithAny longer ts

def plainPath : Reader (List String) := do
  let _ ← sign? "::"
  let isName (ts : List Token) := beginsWithName ts || isPathWord ts
  let name : Reader String := fun ts =>
    match ts with
    | .word w :: _ => accept 1 w ts
    | _ => expected [.thing "identifier"] ts
  if !isName (← ahead) then (fun w => [w]) <$> identifier
  else
    let first ← name
    let rest ← many (beginsWith "::") do
      sign "::"
      if isName (← ahead) then name else expected [.thing "path segment after `::`"]
    pure (first :: rest)

def invocation : Reader Delimiter := do
  match ← ahead with
  | .group d _ :: _ => accept 1 d
  | _ => expected [.thing "delimiter"]

/-- What only the compiler provides: a name and arguments that are not looked into. -/
def builtin : Reader Unit := do
  word "builtin"
  sign "#"
  let _ ← identifier
  inside .parenthesis skipAll

def beginsWithBuiltin (ts : List Token) : Bool :=
  beginsWithWord "builtin" ts && beginsWith "#" (ts.drop 1)

end Reader

end Mediator.Declaration
