import Mediator.Declaration.Attribute

/-!
# Types in declarations

Where a type, a bound or a path begins and ends.

A type is written as it stands, except that among arguments in angle brackets the lifetimes come
first.
-/

namespace Mediator.Declaration

structure Listed where
  isLifetime : Bool
  tokens : List Token
  comma : Bool
deriving Repr, Inhabited

/-- Things between angle brackets, with the lifetimes in front. Commas stay with the things that
they follow; one is added only behind the last lifetime. -/
def lifetimesFirst (things : List Listed) : List Token :=
  let comma : Token := .mark ',' false
  let one (t : Listed) : List Token := t.tokens ++ if t.comma then [comma] else []
  let (lifetimes, others) := things.partition (·.isLifetime)
  let between :=
    if !others.isEmpty && lifetimes.getLast?.any (!·.comma) then [comma] else []
  [.mark '<' false] ++ lifetimes.flatMap one ++ between ++ others.flatMap one ++ [.mark '>' false]

structure PathShape where
  /-- Whether it begins at the root. -/
  isGlobal : Bool
  applied : List Bool
deriving Repr, Inhabited

namespace PathShape

def isName (p : PathShape) : Bool := !p.isGlobal && p.applied.length == 1

def isPlain (p : PathShape) : Bool := p.applied.all (!·)

def isApplied (p : PathShape) : Bool := p.applied.getLast?.getD false

def append (p : PathShape) (applied : List Bool) : PathShape :=
  { p with applied := p.applied ++ applied }

def apply (p : PathShape) : PathShape := { p with applied := p.applied.dropLast ++ [true] }

end PathShape

namespace Reader

variable (below : Level)

def binder? : Reader Bool := do
  if ← word? "for" then
    sign "<"
    let _ ← listed (beginsWith ">") "," do
      let _ ← attributes below
      lifetime
    sign ">"
    pure true
  else pure false

/-! ## Arguments in angle brackets -/

def isConstant (ts : List Token) : Bool := beginsWithLiteral ts || beginsWithGroup .brace ts

def constant : Reader Unit := do
  let ts ← ahead
  if beginsWithLiteral ts then skip (literalLength ts)
  else if beginsWithName ts then skip 1
  else if beginsWithGroup .brace ts then
    inside .brace do
      innerAttributes below
      below.statements
  else expected []

/-- One argument: a lifetime, a constant or a type; or the name of a type or constant with what it
equals, or of a type with what it is bounded by. Whether it is a lifetime. -/
def argument : Reader Bool := do
  let ts ← ahead
  if beginsWithLifetime ts && !beginsWith "+" (ts.drop 1) then accept 1 true
  else
    if isConstant ts then constant below
    else if (← below.type true) == .name then
      if ← sign? "=" then
        if isConstant (← ahead) then constant below
        else
          let _ ← below.type true
      else if ← sign? ":" then
        let _ ← separated (beginsWithAny [",", ">"]) "+" (below.bound false true)
    pure false

def arguments : Reader Unit :=
  rewritten do
    sign "<"
    let things ← listed (beginsWith ">") "," do
      let (isLifetime, tokens) ← written (argument below)
      pure ⟨isLifetime, tokens, beginsWith "," (← ahead)⟩
    sign ">"
    pure (lifetimesFirst things)

/-! ## Paths -/

/-- One name of a path with its arguments in angle brackets; whether it has any. In an expression
only `::` announces them. -/
def segment (inExpression : Bool) : Reader Bool := do
  let ts ← ahead
  if beginsWithAnyWord ["super", "self", "crate", "try"] ts then accept 1 false
  else
    if beginsWithWord "Self" ts then skip 1
    else
      let _ ← identifier
    let ts ← ahead
    let announced := beginsWith "::" ts && beginsWith "<" (ts.drop 2)
    if announced || (!inExpression && beginsWithJust "<" ["<=", "<<="] ts) then
      if announced then skip 2
      arguments below
      pure true
    else pure false

def segments (inExpression : Bool) : Reader (List Bool) :=
  many (fun ts => beginsWith "::" ts && !beginsWithGroup .parenthesis (ts.drop 2)) do
    sign "::"
    segment below inExpression

def path (inExpression : Bool) : Reader PathShape := do
  let isGlobal ← sign? "::"
  let first ← segment below inExpression
  pure ⟨isGlobal, first :: (← segments below inExpression)⟩

def qualified (inExpression : Bool) : Reader Unit := do
  sign "<"
  let _ ← below.type true
  if ← word? "as" then
    let _ ← path below false
  sign ">"
  let _ ← repeated (fun _ => false) (do sign "::"; segment below inExpression) do
    pure (beginsWith "::" (← ahead))

/-! ## Arguments in parentheses -/

def isCall (ts : List Token) : Bool :=
  beginsWithGroup .parenthesis ts
    || (beginsWith "::" ts && beginsWithGroup .parenthesis (ts.drop 2))

def result? : Reader (Option TypeShape) := do
  if ← sign? "->" then some <$> below.type false else pure none

def types : Reader Unit := do
  let _ ← listed List.isEmpty "," (below.type true)

def call : Reader (Option TypeShape) := do
  let _ ← sign? "::"
  inside .parenthesis (types below)
  result? below

/-- A path with any arguments in parentheses. The path goes on behind them if no result is named or
one in parentheses. -/
def calledPath : Reader (PathShape × Bool) := do
  let p ← path below false
  iterate (fun (p, _) => do
    if !p.isApplied && isCall (← ahead) then
      let result ← call below
      if result.all (· == .enclosed) then
        pure (some (p.apply.append (← segments below false), true))
      else pure (some (p.apply, true))
    else pure none) (p, false)

/-! ## Bounds -/

def captured : Reader Unit := do
  word "use"
  sign "<"
  let named (ts : List Token) :=
    beginsWithLifetime ts || beginsWithName ts || beginsWithWord "Self" ts
  let _ ← repeated (beginsWith ">") (do
    if named (← ahead) then skip 1
    else expected [.thing "lifetime", .thing "identifier", .sign ">"]) do
    if ← sign? "," then pure true
    else if beginsWith ">" (← ahead) then pure false
    else expected [.sign ",", .sign ">"]
  sign ">"

/-- A trait, perhaps with the lifetimes that it holds for, one that is constant, or one that is none
of the bounds. -/
def traitBound (constant : Bool) : Reader Unit := do
  let quantified ← binder? below
  if beginsWithGroup .bracket (← ahead) then
    inside .bracket (word "const")
    if !constant then reject (.constantBound "[const]")
  else if ← word? "const" then
    if !constant then reject (.constantBound "const")
  let maybe ← sign? "?"
  let quantified ← if maybe && !quantified then binder? below else pure quantified
  let p ← path below false
  if !p.isApplied && isCall (← ahead) then
    let _ ← call below
  if quantified && maybe then reject .quantifiedMaybe

def boundWith (capture constant : Bool) : Reader Bool := do
  let ts ← ahead
  if beginsWithLifetime ts then accept 1 false
  else if beginsWithWord "use" ts then
    captured
    if capture then pure false else reject .capture
  else
    if beginsWithGroup .parenthesis ts then inside .parenthesis (traitBound below constant)
    else traitBound below constant
    pure true

def beginsBound (constant : Bool) (ts : List Token) : Bool :=
  beginsWithAWord ts || beginsWithAny ["::", "?"] ts || beginsWithLifetime ts
    || beginsWithGroup .parenthesis ts || (constant && beginsWithGroup .bracket ts)

/-- Bounds with `+` between them, or only one if they may not go on so; whether one is a trait. -/
def bounds (plus capture constant : Bool) : Reader Bool := do
  let one := boundWith below capture constant
  let first ← one
  let more ←
    if plus && beginsWith "+" (← ahead) then
      sign "+"
      separated (!beginsBound constant ·) "+" one
    else pure []
  pure (first || more.any id)

def furtherBounds : Reader Bool := do
  let more ← many (beginsWith "+") do
    sign "+"
    boundWith below false false
  pure (!more.isEmpty)

/-! ## Types -/

/-- One argument of a function type, perhaps with a name; only the `first` may be the type's own
self. -/
def functionArgument (first : Bool) : Reader Unit := do
  let mutableSelf (ts : List Token) :=
    first && beginsWithWord "mut" ts && beginsWithWord "self" (ts.drop 1)
  let mutable := mutableSelf (← ahead)
  if mutable then skip 1
  let ts ← ahead
  let isSelf := first && beginsWithWord "self" ts
  let named := (beginsWithName ts || beginsWithWord "_" ts || isSelf)
    && beginsWithJust ":" ["::"] (ts.drop 1)
  if named then skip 2
  if !(named && isSelf) && mutableSelf (← ahead) then skip 2
  else if mutable && !named then word "self"
  else
    let _ ← below.type true

/-- The arguments of a function type. Those behind three points are not counted, so nothing but a
comma goes with the points. -/
def functionArguments : Reader Unit := do
  let _ ← iterate (fun first => do
    if (← ahead).isEmpty then pure none
    else
      let _ ← attributes below
      let ts ← ahead
      let named := (beginsWithName ts || beginsWithWord "_" ts) && beginsWith ":" (ts.drop 1)
      let points := if named then 2 else 0
      if beginsWith "..." (ts.drop points) then
        skip (points + 3)
        let _ ← sign? ","
        pure none
      else
        functionArgument below first
        if (← ahead).isEmpty then pure none
        else
          sign ","
          pure (some false)) true

def function : Reader Unit := do
  let _ ← word? "unsafe"
  if ← word? "extern" then
    match ← ahead with
    | .literal (.string _) _ :: _ => skip 1
    | _ => pure ()
  word "fn"
  inside .parenthesis (functionArguments below)
  let _ ← result? below

/-- A type in parentheses, several with a comma behind each but the last, or the first of several
bounds. -/
def parenthesized (plus : Bool) : Reader TypeShape := do
  match ← ahead with
  | .group .parenthesis content :: _ =>
    if content.isEmpty then accept 1 .other
    else if beginsWith "?" content then
      inside .parenthesis (traitBound below false)
      pure (if ← furtherBounds below then .other else .bound)
    else
      let alone ← inside .parenthesis do
        let shape ← below.type true
        if beginsWithLifetime content then pure (some .other)
        else if ← sign? "," then
          types below
          pure none
        else pure (some shape)
      match alone with
      | none => pure .other
      | some shape =>
        if plus && [.name, .path, .bound].contains shape && beginsWith "+" (← ahead) then
          let _ ← furtherBounds below
          pure .other
        else pure .enclosed
  | _ => expected [.group .parenthesis]

def array : Reader Unit := do
  let _ ← below.type true
  if ← sign? ";" then
    let _ ← below.expression true

def typeStarts : List Expectation := [
  .sign "for", .group .parenthesis, .sign "fn", .sign "unsafe", .sign "extern",
  .thing "identifier", .sign "::", .sign "<", .sign "dyn", .group .bracket, .sign "*",
  .sign "&", .sign "!", .sign "impl", .sign "_", .thing "lifetime"]

def quantifiedStarts : List Expectation := [
  .thing "identifier", .sign "fn", .sign "unsafe", .sign "extern", .sign "super", .sign "self",
  .sign "Self", .sign "crate"]

def pathType (quantified plus : Bool) : Reader TypeShape := do
  let (p, called) ← calledPath below
  let ts ← ahead
  if beginsWithJust "!" ["!="] ts && p.isPlain then
    sign "!"
    let _ ← invocation
    pure .other
  else if plus && beginsWith "+" ts then
    sign "+"
    let _ ← separated (!beginsBound false ·) "+" (boundWith below false false)
    pure .other
  else if quantified then pure .bound
  else pure (if p.isName && !called then .name else .path)

def boundsType (plus capture constant : Bool) (none : Rejection) : Reader TypeShape := do
  if ← bounds below plus capture constant then pure .other else reject none

def typeWith (plus : Bool) : Reader TypeShape := do
  let quantified ← binder? below
  let ts ← ahead
  let isPath := beginsWithName ts || isPathWord ts
  let isFunction := beginsWithAnyWord ["fn", "unsafe", "extern"] ts
  if quantified && !isPath && !isFunction then expected quantifiedStarts
  else if beginsWithGroup .parenthesis ts then parenthesized below plus
  else if isFunction then
    function below
    pure .other
  else if beginsWithBuiltin ts then
    builtin
    pure .other
  else if isPath || beginsWith "::" ts then pathType below quantified plus
  else if beginsWith "<" ts then
    qualified below false
    pure .other
  else if beginsWithWord "dyn" ts then
    skip 1
    let _ ← sign? "*"
    boundsType below plus false false .noTrait
  else if beginsWithGroup .bracket ts then
    inside .bracket (array below)
    pure .other
  else if beginsWith "*" ts then
    skip 1
    if !(← word? "const") && !(← word? "mut") then expected [.sign "const", .sign "mut"]
    let _ ← below.type false
    pure .other
  else if beginsWith "&" ts then
    skip 1
    let _ ← lifetime?
    let _ ← word? "mut"
    let _ ← below.type false
    pure .other
  else if beginsWith "!" ts then accept 1 .other
  else if beginsWithWord "impl" ts then
    skip 1
    boundsType below plus true true .noBound
  else if beginsWithWord "_" ts then accept 1 .other
  else if beginsWithLifetime ts then boundsType below plus false false .noTrait
  else expected typeStarts

end Reader

end Mediator.Declaration
