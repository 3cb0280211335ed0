import Mediator.Declaration.Grammar

/-!
# Declared types

An item is the declaration of a type: its attributes, its name, its parameters and its fields. The
fields have to be well formed, but nothing depends on what they are.
-/

namespace Mediator.Declaration

namespace Reader

/-! ## Visibility -/

/-- `pub`, perhaps with where to in parentheses. Parentheses that say anything else are not part of
it. -/
def visibility : Reader Unit := do
  if ← word? "pub" then
    match ← ahead with
    | .group .parenthesis [.word w] :: _ =>
      if ["crate", "self", "super"].contains w then skip 1
    | .group .parenthesis (.word "in" :: _) :: _ =>
      inside .parenthesis do
        skip 1
        let _ ← plainPath
    | _ => pure ()

end Reader

/-! ## Parameters -/

inductive ParameterKind where
  | lifetime
  | type
  | const
deriving DecidableEq, Repr, Inhabited

/-- A parameter of a declared type. `head` is all of it except for its default. -/
structure Parameter where
  kind : ParameterKind
  name : List Token
  head : List Token
  comma : Bool
deriving Repr, Inhabited

structure Generics where
  parameters : List Parameter
deriving Repr, Inhabited

namespace Generics

def listed (form : Parameter → List Token) (g : Generics) : List Token :=
  if g.parameters.isEmpty then []
  else lifetimesFirst (g.parameters.map fun p => ⟨p.kind == .lifetime, form p, p.comma⟩)

def introduced (g : Generics) : List Token := g.listed Parameter.head

def applied (g : Generics) : List Token := g.listed Parameter.name

end Generics

namespace Reader

variable (level : Level)

/-- A colon and bounds, without the colon if there is no bound. -/
def bounded {α : Type} (stop : List Token → Bool) (bound : Reader α) : Reader (List Token) := do
  if ← sign? ":" then
    let (_, ts) ← written (separated stop "+" bound)
    pure (if ts.isEmpty then [] else .mark ':' false :: ts)
  else pure []

def parameter : Reader Parameter := do
  let (_, attributes) ← written (attributes level)
  match ← ahead with
  | .lifetime name :: _ =>
    skip 1
    let bounds ← bounded (beginsWithAny [",", ">"]) lifetime
    pure ⟨.lifetime, [.lifetime name], attributes ++ .lifetime name :: bounds, true⟩
  | .word "const" :: _ =>
    skip 1
    let name ← identifier
    let (_, type) ← written do
      sign ":"
      level.type true
    if ← sign? "=" then constant level
    pure ⟨.const, [.word name], attributes ++ [.word "const", .word name] ++ type, true⟩
  | .word "_" :: _ => accept 1 ⟨.type, [.word "_"], attributes ++ [.word "_"], true⟩
  | ts =>
    if beginsWithName ts then
      let name ← identifier
      let stop (ts : List Token) := ts.isEmpty || beginsWithAny [",", ">", "="] ts
      let bounds ← bounded stop (level.bound false true)
      if ← sign? "=" then
        let _ ← level.type true
      pure ⟨.type, [.word name], attributes ++ .word name :: bounds, true⟩
    else expected [.thing "lifetime", .thing "identifier", .sign "const"]

def generics : Reader Generics := do
  if beginsWith "<" (← ahead) then
    sign "<"
    let parameters ← listed (beginsWith ">") "," do
      let p ← parameter level
      pure { p with comma := beginsWith "," (← ahead) }
    sign ">"
    pure ⟨parameters⟩
  else pure ⟨[]⟩

/-! ## Conditions and fields -/

/-- Whether parameters in angle brackets are ahead rather than a path that begins with a type. -/
def beginsWithParameters (ts : List Token) : Bool :=
  let next := ts.drop 1
  let after := ts.drop 2
  beginsWith "<" ts && (beginsWithAny [">", "#"] next || beginsWithWord "const" next
    || ((beginsWithLifetime next || beginsWithName next)
      && (beginsWithAny [">", ",", "="] after || beginsWithJust ":" ["::"] after)))

def conditions? : Reader Bool := do
  let ends (ts : List Token) : Bool :=
    ts.isEmpty || beginsWithGroup .brace ts || beginsWithAny [",", ";", "="] ts
      || beginsWithJust ":" ["::"] ts
  if ← word? "where" then
    if beginsWithParameters (← ahead) then reject .parameters
    let _ ← separated ends "," do
      let ts ← ahead
      if beginsWithLifetime ts && beginsWith ":" (ts.drop 1) then
        skip 2
        let _ ← separated (fun ts => ends ts || beginsWith ":" ts) "+" lifetime
      else
        let _ ← binder? level
        let _ ← level.type true
        sign ":"
        let _ ← separated ends "+" (level.bound false true)
    pure true
  else pure false

/-- Fields with names. The fields of one that is called `_` may be declared in its place. -/
def namedFields : Nat → Reader Unit
  | 0 => expected []
  | depth + 1 => do
    let _ ← listed List.isEmpty "," do
      let _ ← attributes level
      visibility
      let unnamed ← word? "_"
      if !unnamed then
        let _ ← identifier
      sign ":"
      let ts ← ahead
      if unnamed && (beginsWithWord "struct" ts
          || (beginsWithWord "union" ts && beginsWithGroup .brace (ts.drop 1))) then
        skip 1
        inside .brace (namedFields depth)
      else
        let _ ← level.type true

def fieldsInBraces : Reader Unit := fun ts =>
  inside .brace (namedFields level (Token.weights ts)) ts

def unnamedFields : Reader Unit := do
  let _ ← listed List.isEmpty "," do
    let _ ← attributes level
    visibility
    level.type true

def variants : Reader Unit := do
  let _ ← listed List.isEmpty "," do
    let _ ← attributes level
    visibility
    let _ ← identifier
    let ts ← ahead
    if beginsWithGroup .brace ts then fieldsInBraces level
    else if beginsWithGroup .parenthesis ts then inside .parenthesis (unnamedFields level)
    if ← sign? "=" then
      let _ ← level.expression true

def structureBody : Reader Unit := do
  let place (constrained : Bool) : List Expectation :=
    if constrained then [] else [.sign "where"]
  let constrained ← conditions? level
  let ts ← ahead
  if !constrained && beginsWithGroup .parenthesis ts then
    inside .parenthesis (unnamedFields level)
    let constrained ← conditions? level
    if !(← sign? ";") then expected (place constrained ++ [.sign ";"])
  else if beginsWithGroup .brace ts then fieldsInBraces level
  else if beginsWith ";" ts then sign ";"
  else
    let parentheses : List Expectation := if constrained then [] else [.group .parenthesis]
    expected (place constrained ++ parentheses ++ [.group .brace, .sign ";"])

end Reader

/-! ## Items -/

structure Item where
  attributes : List Attribute
  name : String
  generics : Generics
deriving Repr, Inhabited

namespace Reader

def itemWith (level : Level) : Reader Item := do
  let attributes ← attributes level
  visibility
  let body : Reader Unit ← do
    if ← word? "struct" then pure (structureBody level)
    else if ← word? "enum" then
      pure do
        let _ ← conditions? level
        inside .brace (variants level)
    else if ← word? "union" then
      pure do
        let _ ← conditions? level
        fieldsInBraces level
    else expected [.sign "struct", .sign "enum", .sign "union"]
  let name ← identifier
  let generics ← generics level
  body
  pure ⟨attributes, name, generics⟩

def item : Reader Item := fun ts => itemWith (.above ts) ts

end Reader

namespace Item

def type (i : Item) : String := Token.compact (.word i.name :: i.generics.applied)

def parameters (i : Item) : String := Token.compact i.generics.introduced

def attributesCalled (i : Item) (name : String) : List Attribute :=
  i.attributes.filter (·.isCalled name)

def ofText (text : String) : Except Rejection Item :=
  match Token.ofText? text with
  | some ts => Reader.exactly Reader.item ts
  | none => .error .unreadable

end Item

end Mediator.Declaration
