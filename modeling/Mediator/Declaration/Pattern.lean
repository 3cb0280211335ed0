import Mediator.Declaration.TypeExpr

/-!
# Patterns in declarations

Where a pattern begins and ends. Patterns stand in expressions, in front of what they are matched
with.
-/

namespace Mediator.Declaration.Reader

variable (below : Level)

def beginsWithBar (ts : List Token) : Bool := beginsWithJust "|" ["||", "|="] ts

def alternatives : Reader PatternShape := do
  let leading ← sign? "|"
  let first ← below.pattern
  let more ← many beginsWithBar do
    sign "|"
    below.pattern
  pure (if leading || !more.isEmpty then .other else first)

/-! ## Ranges -/

/-- The dots of a range; whether its end is included. Three dots are those of a range only where
they `mayBeThree`. -/
def rangeDots (mayBeThree : Bool) : Reader Bool := do
  let ts ← ahead
  if beginsWith "..=" ts then accept 3 true
  else if beginsWith "..." ts then
    if mayBeThree then accept 3 true else expected [.sign "..", .sign "..="]
  else if beginsWith ".." ts then accept 2 false
  else expected [.sign ".."]

def rangeEnd? : Reader Bool := do
  let ts ← ahead
  if ts.isEmpty || beginsWithAny ["|", "=", ",", ";"] ts || beginsWithJust ":" ["::"] ts
      || beginsWithWord "if" ts then pure false
  else if beginsWithLiteral ts then accept (literalLength ts) true
  else if beginsWithName ts || isPathWord ts || beginsWith "::" ts then
    let _ ← path below true
    pure true
  else if beginsWith "<" ts then
    qualified below true
    pure true
  else if beginsWithWord "const" ts then
    skip 1
    inside .brace do
      innerAttributes below
      below.statements
    pure true
  else
    expected [.thing "literal", .thing "identifier", .sign "::", .sign "<", .sign "self",
      .sign "Self", .sign "super", .sign "crate", .sign "const"]

def rangeFrom (mayBeThree : Bool) : Reader Bool := do
  let closed ← rangeDots mayBeThree
  let ended ← rangeEnd? below
  if closed && !ended then expected [.thing "range upper bound"] else pure ended

/-! ## Fields -/

def member : Reader Bool := do
  match ← ahead with
  | .literal (.integer _) text :: _ =>
    if text.all fun c => c.isDigit || c == '_' then accept 1 false else reject .suffixedIndex
  | ts => if beginsWithName ts then accept 1 true else expected [.thing "identifier or integer"]

def fieldPattern : Reader Unit := do
  let boxed ← word? "box"
  let byReference ← word? "ref"
  let mutable ← word? "mut"
  if boxed || byReference || mutable then
    let _ ← identifier
  else
    let named ← member
    if !named || beginsWith ":" (← ahead) then
      sign ":"
      let _ ← alternatives below

def fieldPatterns : Reader Unit := do
  let _ ← iterate (fun () => do
    if (← ahead).isEmpty then pure none
    else
      let _ ← attributes below
      if ← sign? ".." then pure none
      else
        fieldPattern below
        if (← ahead).isEmpty then pure none
        else
          sign ","
          pure (some ())) ()

/-! ## Patterns -/

def pathPattern : Reader PatternShape := do
  let plain ←
    if beginsWith "<" (← ahead) then
      qualified below true
      pure false
    else PathShape.isPlain <$> path below true
  let ts ← ahead
  if plain && beginsWithJust "!" ["!="] ts then
    sign "!"
    let _ ← invocation
    pure .other
  else if beginsWithGroup .brace ts then
    inside .brace (fieldPatterns below)
    pure .other
  else if beginsWithGroup .parenthesis ts then
    inside .parenthesis do
      let _ ← listed List.isEmpty "," (alternatives below)
    pure .other
  else if beginsWith ".." ts then
    pure (if ← rangeFrom below true then .other else .openRange)
  else pure .other

def literalPattern : Reader PatternShape := do
  let _ ← rangeEnd? below
  if beginsWith ".." (← ahead) then
    pure (if ← rangeFrom below true then .other else .openRange)
  else pure .other

def namePattern : Reader PatternShape := do
  let _ ← word? "ref"
  let _ ← word? "mut"
  if !(← word? "self") then
    let _ ← identifier
  if ← sign? "@" then
    let _ ← below.pattern
  pure .other

def slicePattern : Reader Unit := do
  let _ ← listed List.isEmpty "," do
    if (← alternatives below) == .openRange then reject .openRangeInSlice

def patternStarts : List Expectation := [
  .thing "identifier", .sign "::", .sign "<", .sign "_", .thing "literal", .sign "const",
  .sign "ref", .sign "mut", .sign "&", .group .parenthesis, .group .bracket, .sign ".."]

def patternWith : Reader PatternShape := do
  let ts ← ahead
  let next := ts.drop 1
  let isPath := beginsWithName ts && (beginsWithAny ["::", "!", ".."] next
    || beginsWithGroup .brace next || beginsWithGroup .parenthesis next)
  if isPath || (beginsWithWord "self" ts && beginsWith "::" next) || beginsWithAny ["::", "<"] ts
      || beginsWithAnyWord ["Self", "super", "crate"] ts then pathPattern below
  else if beginsWithWord "_" ts then accept 1 .other
  else if beginsWithWord "box" ts then
    skip 1
    let _ ← below.pattern
    pure .other
  else if beginsWith "-" ts || beginsWithLiteral ts || beginsWithWord "const" ts then
    literalPattern below
  else if beginsWithAnyWord ["ref", "mut", "self"] ts || beginsWithName ts then namePattern below
  else if beginsWith "&" ts then
    skip 1
    let _ ← word? "mut"
    let _ ← below.pattern
    pure .other
  else if beginsWithGroup .parenthesis ts then
    inside .parenthesis do
      let _ ← listed List.isEmpty "," (alternatives below)
    pure .other
  else if beginsWithGroup .bracket ts then
    inside .bracket (slicePattern below)
    pure .other
  else if beginsWithJust ".." ["..."] ts then
    if beginsWith "..=" ts then
      let _ ← rangeFrom below false
      pure .openRange
    else
      let ended ← rangeFrom below false
      pure (if ended then .openRange else .rest)
  else expected patternStarts

end Mediator.Declaration.Reader
