import Mediator.Declaration.Pattern

/-!
# Expressions in declarations

Where an expression begins and ends. Expressions stand in declarations as lengths of arrays, as
constants, as values of attributes and as the numbers of variants; nobody asks what they mean.

Statements are read as far as they are no declarations themselves: of those only the end is looked
for.
-/

namespace Mediator.Declaration.Reader

variable (below : Level)

/-! ## Blocks -/

def plainBlock : Reader Unit := inside .brace below.statements

def block : Reader Unit :=
  inside .brace do
    innerAttributes below
    below.statements

/-- A condition is followed by a block, so no name in it goes on with fields in braces. -/
def condition : Reader Unit := do
  let _ ← below.expression false

def conditional : Reader Unit :=
  iterate (fun () => do
    word "if"
    condition below
    plainBlock below
    if ← word? "else" then
      let ts ← ahead
      if beginsWithWord "if" ts then pure (some ())
      else if beginsWithGroup .brace ts then
        plainBlock below
        pure none
      else expected [.sign "if", .group .brace]
    else pure none) ()

/-- One case of a choice. A comma is needed behind it unless it ends with its block or is the
last. -/
def case : Reader Unit := do
  let _ ← attributes below
  let _ ← alternatives below
  if ← word? "if" then
    let _ ← below.expression true
  sign "=>"
  let shape ← below.body
  if shape == .block || (← ahead).isEmpty then
    let _ ← sign? ","
  else sign ","

def choice : Reader Unit := do
  word "match"
  condition below
  inside .brace do
    innerAttributes below
    let _ ← many (!·.isEmpty) (case below)

def loop : Reader Unit := do
  if ← word? "while" then condition below
  else if ← word? "for" then
    let _ ← alternatives below
    word "in"
    condition below
  else word "loop"
  block below

def labeled : Reader ExpressionShape := do
  let _ ← lifetime
  sign ":"
  let ts ← ahead
  if beginsWithAnyWord ["while", "for", "loop"] ts then loop below
  else if beginsWithGroup .brace ts then block below
  else expected [.thing "loop or block expression"]
  pure .block

/-! ## Parts -/

def expressions : Reader Unit := do
  let _ ← listed List.isEmpty "," (below.expression true)

def beginsClosure (ts : List Token) : Bool :=
  let next := ts.drop 1
  let after := ts.drop 2
  beginsWith "|" ts || beginsWithAnyWord ["move", "static"] ts
    || (beginsWithWord "for" ts && beginsWith "<" next
      && (beginsWithLifetime after || beginsWith ">" after))
    || (beginsWithWord "const" ts && !beginsWithGroup .brace next)
    || (beginsWithWord "async" ts && (beginsWith "|" next || beginsWithWord "move" next))

/-- A function without a name. A block is its body if its result is named. -/
def closure (fields : Bool) : Reader ExpressionShape := do
  let _ ← binder? below
  let _ ← word? "const"
  let _ ← word? "static"
  let _ ← word? "async"
  let _ ← word? "move"
  sign "|"
  let _ ← listed (beginsWith "|") "," do
    let _ ← attributes below
    let _ ← below.pattern
    if ← sign? ":" then
      let _ ← below.type true
  sign "|"
  if ← sign? "->" then
    let _ ← below.type true
    block below
  else
    let _ ← below.expression fields
  pure .other

def fieldValues : Reader Unit := do
  let _ ← iterate (fun () => do
    if (← ahead).isEmpty then pure none
    else if ← sign? ".." then
      if !(← ahead).isEmpty then
        let _ ← below.expression true
      pure none
    else
      let _ ← attributes below
      let named ← member
      if !named || beginsWith ":" (← ahead) then
        sign ":"
        let _ ← below.expression true
      if (← ahead).isEmpty then pure none
      else
        sign ","
        pure (some ())) ()

def pathExpression (fields : Bool) : Reader ExpressionShape := do
  let plain ←
    if beginsWith "<" (← ahead) then
      qualified below true
      pure false
    else PathShape.isPlain <$> path below true
  let ts ← ahead
  if plain && beginsWithJust "!" ["!="] ts then
    sign "!"
    .invocation <$> invocation
  else
    if fields && beginsWithGroup .brace ts then inside .brace (fieldValues below)
    pure .other

def elements : Reader Unit := do
  if !(← ahead).isEmpty then
    let _ ← below.expression true
    let ts ← ahead
    if beginsWith "," ts then
      sign ","
      expressions below
    else if beginsWith ";" ts then
      sign ";"
      let _ ← below.expression true
    else if !ts.isEmpty then expected [.sign ",", .sign ";"]

def beginsExpression (ts : List Token) : Bool :=
  (beginsWithAWord ts && !beginsWithWord "as" ts) || beginsWithGroup .parenthesis ts
    || beginsWithGroup .bracket ts || beginsWithGroup .brace ts || beginsWithLiteral ts
    || beginsWithJust "!" ["!="] ts || beginsWithJust "-" ["-=", "->"] ts
    || beginsWithJust "*" ["*="] ts || beginsWithJust "|" ["|="] ts
    || beginsWithJust "&" ["&="] ts || beginsWithJust "<" ["<=", "<<="] ts
    || beginsWithAny ["..", "::", "#"] ts || beginsWithLifetime ts

def exit (fields : Bool) : Reader Unit := do
  word "break"
  let ts ← ahead
  if beginsWithLifetime ts && beginsWith ":" (ts.drop 1) then
    let _ ← below.expression true
    reject .unparenthesized
  let _ ← lifetime?
  let ts ← ahead
  if beginsExpression ts && (fields || !beginsWithGroup .brace ts) then
    let _ ← below.expression fields

/-! ## Ranges and operators -/

def operators : List (String × Precedence) := [
  ("+=", .assign), ("-=", .assign), ("*=", .assign), ("/=", .assign), ("%=", .assign),
  ("^=", .assign), ("&=", .assign), ("|=", .assign), ("<<=", .assign), (">>=", .assign),
  ("&&", .and), ("||", .or), ("<<", .shift), (">>", .shift),
  ("==", .compare), ("<=", .compare), ("!=", .compare), (">=", .compare),
  ("+", .sum), ("-", .sum), ("*", .product), ("/", .product), ("%", .product),
  ("^", .bitXor), ("&", .bitAnd), ("|", .bitOr), ("<", .compare), (">", .compare)]

def operator? (ts : List Token) : Option (String × Precedence) :=
  operators.find? fun (text, _) => beginsWith text ts

def nextPrecedence (ts : List Token) : Precedence :=
  match operator? ts with
  | some (_, p) => p
  | none =>
    if beginsWithJust "=" ["=>"] ts then .assign
    else if beginsWith ".." ts then .range
    else if beginsWithWord "as" ts then .cast
    else .jump

def rightSide (operand : Reader ExpressionShape) (fields : Bool) (p : Precedence) :
    Reader Unit := do
  let first ← operand
  let _ ← iterate (fun shape => do
    let next := nextPrecedence (← ahead)
    if p.rank < next.rank || (next == p && p == .assign) then
      let (shape, n) ← counted (below.operations fields next shape)
      pure (if n == 0 then none else some shape)
    else pure none) first

/-- Whether a range has no end where it stops here. -/
def endsOpenRange (fields : Bool) (ts : List Token) : Bool :=
  ts.isEmpty || beginsWithJust "." [".."] ts || (!fields && beginsWithGroup .brace ts)
    || beginsWithWord "as" ts
    || beginsWithAny [",", ";", "?", "=>", "=", "+", "/", "%", "^", ">", "<=", "!=", "-=", "*=",
      "&=", "|=", "<<="] ts

def rangeWith (operand : Reader ExpressionShape) (fields : Bool) : Reader ExpressionShape := do
  let closed ← rangeDots false
  if closed || !endsOpenRange fields (← ahead) then rightSide below operand fields .range
  pure .range

/-- What may not follow a cast, as it would belong to its operand. -/
def afterCast? (ts : List Token) : Option String :=
  let next := ts.drop 1
  let after := ts.drop 2
  if beginsWithJust "." [".."] ts then
    let call := beginsWithGroup .parenthesis after || beginsWith "::" after
    if beginsWithWord "await" next then some "`.await`"
    else if beginsWithName next && call then some "a method call"
    else some "a field access"
  else if beginsWith "?" ts then some "`?`"
  else if beginsWithGroup .bracket ts then some "indexing"
  else if beginsWithGroup .parenthesis ts then some "a function call"
  else none

def operation (operand : Reader ExpressionShape) (fields : Bool) (base : Precedence)
    (left : ExpressionShape) : Reader (Option ExpressionShape) := do
  let ts ← ahead
  let binds (p : Precedence) : Bool := base.rank ≤ p.rank
  if left == .range then pure none
  else
    match operator? ts with
    | some (text, p) =>
      if !binds p then pure none
      else
        if p == .compare && left == .comparison then reject .chainedComparison
        skip text.length
        rightSide below operand fields p
        pure (some (if p == .compare then .comparison else .other))
    | none =>
      if binds .assign && beginsWithJust "=" ["=>"] ts then
        sign "="
        rightSide below operand fields .assign
        pure (some .other)
      else if binds .range && beginsWith ".." ts then some <$> rangeWith below operand fields
      else if binds .cast && beginsWithWord "as" ts then
        skip 1
        let _ ← below.type false
        match afterCast? (← ahead) with
        | some what => reject (.castFollowed what)
        | none => pure (some .other)
      else pure none

/-! ## Operands -/

def access : Reader Unit := do
  sign "."
  let numbered ← do
    match ← ahead with
    | .literal .float text :: _ =>
      let fields := text.toList.filter (· != '.')
      if fields.all fun c => c.isDigit || c == '_' then accept 1 (text.toList.getLast? != some '.')
      else reject (.expected [.thing "integer literal"] false)
    | _ => pure false
  if !numbered && !(← word? "await") then
    let named ← member
    let turbofish := named && beginsWith "::" (← ahead)
    if turbofish then
      sign "::"
      arguments below
    if named && (turbofish || beginsWithGroup .parenthesis (← ahead)) then
      inside .parenthesis (expressions below)

def trailed (shape : ExpressionShape) : Reader ExpressionShape :=
  iterate (fun shape => do
    let ts ← ahead
    if beginsWithGroup .parenthesis ts then
      inside .parenthesis (expressions below)
      pure (some .other)
    else if beginsWithJust "." [".."] ts && shape != .range then
      access below
      pure (some .other)
    else if beginsWithGroup .bracket ts then
      inside .bracket do
        let _ ← below.expression true
      pure (some .other)
    else if beginsWith "?" ts && shape != .range then
      skip 1
      pure (some .other)
    else pure none) shape

def announced? (fields : Bool) (ts : List Token) : Option (Reader ExpressionShape) :=
  let next := ts.drop 1
  let after := ts.drop 2
  let brace := beginsWithGroup .brace
  let is (w : String) : Bool := beginsWithWord w ts
  let blocks (p : Reader Unit) : Reader ExpressionShape := do
    p
    pure .block
  let others (p : Reader Unit) : Reader ExpressionShape := do
    p
    pure .other
  let wordThen (p : Reader Unit) : Reader Unit := do
    skip 1
    p
  let expression? : Reader Unit := do
    if beginsExpression (← ahead) then
      let _ ← below.expression true
  if is "break" then some (others (exit below fields))
  else if is "continue" then some (others (wordThen do let _ ← lifetime?))
  else if is "return" then some (others (wordThen expression?))
  else if is "become" then some (others (wordThen do let _ ← below.expression true))
  else if is "yield" then
    some (others (wordThen do
      let ts ← ahead
      if !(ts.isEmpty || beginsWithAny [",", ";"] ts) then
        let _ ← below.expression true))
  else if is "let" then
    some (others (wordThen do
      let _ ← alternatives below
      sign "="
      let shape ← below.operand fields
      let _ ← below.operations fields .compare shape))
  else if is "async" && (brace next || (beginsWithWord "move" next && brace after)) then
    some (others (wordThen do
      let _ ← word? "move"
      plainBlock below))
  else if is "try" && brace next then some (blocks (wordThen (plainBlock below)))
  else if is "if" then some (blocks (conditional below))
  else if ["while", "for", "loop"].any is then some (blocks (loop below))
  else if is "match" then some (blocks (choice below))
  else if is "unsafe" || is "const" then some (blocks (wordThen (block below)))
  else if is "_" then some (others (skip 1))
  else none

def atom (operand : Reader ExpressionShape) (fields : Bool) : Reader ExpressionShape := do
  let ts ← ahead
  let next := ts.drop 1
  let isTry := beginsWithWord "try" ts && (beginsWith "!" next || beginsWith "::" next)
  if beginsWithLiteral ts then accept (literalLength ts) .other
  else if beginsClosure ts && !(beginsWithWord "async" ts && beginsWithWord "move" next
      && beginsWithGroup .brace (ts.drop 2)) then closure below fields
  else if beginsWithBuiltin ts then
    builtin
    pure .other
  else if beginsWithName ts || beginsWithAny ["::", "<"] ts || isPathWord ts || isTry then
    pathExpression below fields
  else if beginsWithGroup .parenthesis ts then
    inside .parenthesis (expressions below)
    pure .other
  else if beginsWithGroup .bracket ts then
    inside .bracket (elements below)
    pure .other
  else
    match announced? below fields ts with
    | some p => p
    | none =>
      if beginsWithGroup .brace ts then
        block below
        pure .block
      else if beginsWith ".." ts then rangeWith below operand fields
      else if beginsWithLifetime ts then labeled below
      else expected [.thing "an expression"]

def operandWith (fields : Bool) : Reader ExpressionShape := do
  let attributed := !(← attributes below).isEmpty
  let ts ← ahead
  if beginsWith "&" ts then
    skip 1
    let ts ← ahead
    let raw := beginsWithWord "raw" ts && beginsWithAnyWord ["mut", "const"] (ts.drop 1)
    if raw then skip 2
    else
      let _ ← word? "mut"
    let _ ← below.operand fields
    pure .other
  else if beginsWithAny ["*", "!", "-"] ts then
    skip 1
    let _ ← below.operand fields
    pure .other
  else
    let shape ← trailed below (← atom below (below.operand fields) fields)
    if attributed && shape == .range then reject .attributedRange else pure shape

/-! ## Expressions -/

def operationsWith (fields : Bool) (base : Precedence) (left : ExpressionShape) :
    Reader ExpressionShape :=
  iterate (operation below (operandWith below fields) fields base) left

def expressionWith (fields : Bool) : Reader ExpressionShape := do
  operationsWith below fields .jump (← operandWith below fields)

/-- What is a block wherever an expression could end with it. -/
def leadingBlock? (ts : List Token) : Option (Reader ExpressionShape) :=
  let next := ts.drop 1
  if beginsWithAnyWord ["if", "while", "loop", "match", "unsafe"] ts
      || (beginsWithWord "for" ts && !beginsClosure ts)
      || (beginsWithAnyWord ["try", "const"] ts && beginsWithGroup .brace next) then
    announced? below true ts
  else if beginsWithGroup .brace ts then
    some do
      block below
      pure .block
  else if beginsWithLifetime ts then some (labeled below)
  else none

/-- An expression which ends with a leading block unless a point or question mark follows. -/
def bodyWith : Reader ExpressionShape := do
  let _ ← attributes below
  let shape ←
    match leadingBlock? below (← ahead) with
    | some p => p
    | none => operandWith below true
  if shape != .block then operationsWith below true .jump shape
  else
    let ts ← ahead
    if beginsWithJust "." [".."] ts || beginsWith "?" ts then
      operationsWith below true .jump (← trailed below shape)
    else pure shape

/-! ## Statements -/

def binding : Reader Unit := do
  word "let"
  let _ ← below.pattern
  if ← sign? ":" then
    let _ ← below.type true
  if ← sign? "=" then
    let (_, value) ← written (below.expression true)
    let endsInBlock := value.getLast?.any fun t => beginsWithGroup .brace [t]
    if !endsInBlock && (← word? "else") then plainBlock below
  sign ";"

def beginsItem (ts : List Token) : Bool :=
  let next := ts.drop 1
  let after := ts.drop 2
  let is (w : String) : Bool := beginsWithWord w ts
  let function := ["unsafe", "extern", "fn"]
  beginsWithAnyWord ["pub", "extern", "use", "fn", "mod", "type", "struct", "enum", "trait",
      "impl", "macro"] ts
    || (is "crate" && !beginsWith "::" next)
    || (is "static" && (beginsWithWord "mut" next || beginsWithName next))
    || (is "const" && !(beginsWithGroup .brace next || beginsWithAnyWord ["static", "move"] next
      || beginsWith "|" next
      || (beginsWithWord "async" next && !beginsWithAnyWord function after)))
    || (is "unsafe" && !beginsWithGroup .brace next)
    || (is "async" && beginsWithAnyWord function next)
    || (is "union" && beginsWithName next)
    || (is "auto" && beginsWithWord "trait" next)
    || (is "default" && beginsWithAnyWord ["unsafe", "impl"] next)

def dropVisibility (ts : List Token) : List Token :=
  if beginsWithWord "pub" ts then
    let rest := ts.drop 1
    if beginsWithGroup .parenthesis rest then rest.drop 1 else rest
  else ts

def skipItem : Reader Unit := do
  let ts := dropVisibility (← ahead)
  let constant := beginsWithWord "const" ts
    && !beginsWithAnyWord ["unsafe", "async", "extern", "fn"] (ts.drop 1)
  let goesOn := constant || beginsWithAnyWord ["use", "type", "static"] ts
  let ends (ts : List Token) := beginsWith ";" ts || (!goesOn && beginsWithGroup .brace ts)
  let _ ← many (fun ts => !ts.isEmpty && !ends ts) (skip 1)
  if (← ahead).isEmpty then expected [.sign ";"] else skip 1

def invoked? (ts : List Token) : Option (List Token) :=
  match plainPath ts with
  | .ok r =>
    let rest := ts.drop r.count
    if beginsWith "!" rest then some (rest.drop 1) else none
  | .error _ => none

/-- Whether a macro is declared: a name stands before what it is given. -/
def declaresMacro (ts : List Token) : Bool :=
  (invoked? ts).any fun rest => beginsWithName rest || beginsWithWord "try" rest

/-- Whether the invocation ahead is a statement of its own, as it has braces. -/
def isBracedInvocation (ts : List Token) : Bool :=
  (invoked? ts).any fun rest =>
    let after := rest.drop 1
    beginsWithGroup .brace rest && !(beginsWithJust "." [".."] after || beginsWith "?" after)

def statement : Reader Bool := do
  let _ ← attributes below
  let ts ← ahead
  if isBracedInvocation ts then
    let _ ← plainPath
    sign "!"
    let _ ← invocation
    let _ ← sign? ";"
    pure false
  else if beginsWithWord "let" ts then
    binding below
    pure false
  else if beginsItem ts || declaresMacro ts then
    skipItem
    pure false
  else
    let shape ← below.body
    let divided := shape == .block || shape == .invocation .brace
    if ← sign? ";" then pure false else pure !divided

def statementsWith : Reader Unit := do
  let semicolons : Reader Unit := do
    let _ ← many (beginsWith ";") (skip 1)
  semicolons
  let _ ← many (!·.isEmpty) do
    if (← statement below) && !(← ahead).isEmpty then reject .unendedStatement
    semicolons

end Mediator.Declaration.Reader
