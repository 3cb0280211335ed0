import Mediator.Declaration.Level

/-!
# Attributes

An attribute has a path and, in some cases, arguments in brackets or a value. The arguments are kept
as tokens for whoever knows the attribute.
-/

namespace Mediator.Declaration

inductive AttributeForm where
  | bare
  | arguments (tokens : List Token)
  | value
deriving Repr, Inhabited

structure Attribute where
  path : List String
  form : AttributeForm
deriving Repr, Inhabited

def Attribute.isCalled (a : Attribute) (name : String) : Bool := a.path == [name]

namespace Reader

variable (below : Level)

/-- What stands in the brackets of an attribute. A path from the root is no single name, which the
empty first name of it says. -/
def attributeContent : Reader Attribute := do
  let ts ← ahead
  let path ←
    if beginsWithWord "unsafe" ts then accept 1 ["unsafe"]
    else
      let names ← plainPath
      pure (if beginsWith "::" ts then "" :: names else names)
  match ← ahead with
  | .group _ content :: _ => accept 1 ⟨path, .arguments content⟩
  | ts =>
    if beginsWithJust "=" ["==", "=>"] ts then
      sign "="
      let ts ← ahead
      let literal := literalLength ts
      if 0 < literal && literal == ts.length then skip literal
      else if beginsWith "#" ts && beginsWithGroup .bracket (ts.drop 1) then
        reject .nestedAttribute
      else
        let _ ← below.expression true
      pure ⟨path, .value⟩
    else pure ⟨path, .bare⟩

def attributes : Reader (List Attribute) :=
  many (beginsWith "#") do
    sign "#"
    inside .bracket (attributeContent below)

def innerAttributes : Reader Unit := do
  let _ ← many (fun ts => beginsWith "#" ts && beginsWith "!" (ts.drop 1)) do
    skip 2
    inside .bracket (attributeContent below)

end Reader

end Mediator.Declaration
