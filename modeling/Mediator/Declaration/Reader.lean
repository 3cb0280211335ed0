import Mediator.Declaration.Rejection

/-!
# Readers

A reader takes some tokens from the front of those that are ahead and says what they mean, or
rejects them. It reports how many it took, so what is left is always an end of what was ahead, and
how what it took is written.

What is left of the content of a group does not stop a reader at once. The first such group is
reported with all else, and `Reader.exactly` rejects it in the end.
-/

namespace Mediator.Declaration

/-- What a reader makes of the tokens that it takes. -/
structure Reading (α : Type) where
  value : α
  count : Nat
  /-- How these are written. -/
  written : List Token
  /-- The first group of which something was left. -/
  leftover : Option Delimiter
deriving Repr, Inhabited

def Reader (α : Type) : Type := List Token → Except Rejection (Reading α)

namespace Reader

variable {α β γ : Type}

protected def pure (a : α) : Reader α := fun _ => .ok ⟨a, 0, [], none⟩

protected def bind (p : Reader α) (f : α → Reader β) : Reader β := fun ts =>
  match p ts with
  | .error e => .error e
  | .ok r =>
    match f r.value (ts.drop r.count) with
    | .error e => .error e
    | .ok s => .ok ⟨s.value, r.count + s.count, r.written ++ s.written, r.leftover.or s.leftover⟩

instance : Monad Reader where
  pure := Reader.pure
  bind := Reader.bind

theorem bind_pure (p : Reader α) : p.bind Reader.pure = p := by
  funext ts
  unfold Reader.bind Reader.pure
  rcases p ts with _ | r <;> simp

theorem pure_bind (a : α) (f : α → Reader β) : (Reader.pure a).bind f = f a := by
  funext ts
  unfold Reader.bind Reader.pure
  simp only [List.drop_zero, Nat.zero_add, List.nil_append, Option.none_or]
  rcases f a ts with _ | _ <;> rfl

theorem bind_assoc (p : Reader α) (f : α → Reader β) (g : β → Reader γ) :
    (p.bind f).bind g = p.bind fun a => (f a).bind g := by
  funext ts
  unfold Reader.bind
  cases p ts with
  | error e => rfl
  | ok r =>
    simp only
    cases f r.value (ts.drop r.count) with
    | error e => rfl
    | ok s =>
      simp only [List.drop_drop]
      rcases g s.value (ts.drop (r.count + s.count)) with _ | _
      · rfl
      · simp only [Nat.add_assoc, List.append_assoc, Option.or_assoc]

instance : LawfulMonad Reader := LawfulMonad.mk' _ bind_pure pure_bind bind_assoc

def reject (r : Rejection) : Reader α := fun _ => .error r

def ahead : Reader (List Token) := fun ts => .ok ⟨ts, 0, [], none⟩

def accept (n : Nat) (a : α) : Reader α := fun ts => .ok ⟨a, min n ts.length, ts.take n, none⟩

def skip (n : Nat) : Reader Unit := accept n ()

def skipAll : Reader Unit := fun ts => skip ts.length ts

def expected (alternatives : List Expectation) : Reader α := fun ts =>
  .error (.expected alternatives ts.isEmpty)

/-- How the reader writes what it takes, beside what it says of it. -/
def written (p : Reader α) : Reader (α × List Token) := fun ts =>
  (p ts).map fun r => { r with value := (r.value, r.written) }

/-- How many tokens the reader takes, beside what it says of them. -/
def counted (p : Reader α) : Reader (α × Nat) := fun ts =>
  (p ts).map fun r => { r with value := (r.value, r.count) }

def rewritten (p : Reader (List Token)) : Reader Unit := fun ts =>
  (p ts).map fun r => { r with value := (), written := r.value }

/-- What the reader says of the tokens, if nothing is left of them or of any group. -/
def exactly (p : Reader α) (ts : List Token) : Except Rejection α :=
  match p ts with
  | .error e => .error e
  | .ok r =>
    match r.leftover with
    | some d => .error (.leftover (some d))
    | none => if r.count < ts.length then .error (.leftover none) else .ok r.value

def inside (d : Delimiter) (p : Reader α) : Reader α := fun ts =>
  match ts with
  | .group d' content :: _ =>
    if d == d' then
      (p content).map fun r =>
        let rest := if r.count < content.length then some d else none
        ⟨r.value, 1, [.group d r.written], r.leftover.or rest⟩
    else expected [.group d] ts
  | _ => expected [.group d] ts

/-! ## Looking ahead -/

/-- Whether the tokens begin with the sign: its characters in a row with nothing between them. -/
def beginsWithChars : List Char → List Token → Bool
  | [], _ => true
  | [c], .mark c' _ :: _ => c == c'
  | c :: cs, .mark c' joint :: ts => c == c' && joint && beginsWithChars cs ts
  | _, _ => false

def beginsWith (sign : String) (ts : List Token) : Bool := beginsWithChars sign.toList ts

def beginsWithAny (signs : List String) (ts : List Token) : Bool := signs.any (beginsWith · ts)

def beginsWithWord (word : String) : List Token → Bool
  | .word w :: _ => w == word
  | _ => false

def beginsWithAnyWord (words : List String) (ts : List Token) : Bool :=
  words.any (beginsWithWord · ts)

def beginsWithGroup (d : Delimiter) : List Token → Bool
  | .group d' _ :: _ => d == d'
  | _ => false

def beginsWithLifetime : List Token → Bool
  | .lifetime _ :: _ => true
  | _ => false

/-! ## Words and signs -/

def keywords : List String := [
  "_", "abstract", "as", "async", "await", "become", "box", "break", "const", "continue", "crate",
  "do", "dyn", "else", "enum", "extern", "false", "final", "fn", "for", "if", "impl", "in", "let",
  "loop", "macro", "match", "mod", "move", "mut", "override", "priv", "pub", "ref", "return",
  "Self", "self", "static", "struct", "super", "trait", "true", "try", "type", "typeof", "unsafe",
  "unsized", "use", "virtual", "where", "while", "yield"]

def isKeyword (word : String) : Bool := keywords.contains word

def beginsWithName : List Token → Bool
  | .word w :: _ => !isKeyword w
  | _ => false

def identifier : Reader String := fun ts =>
  match ts with
  | .word w :: _ => if isKeyword w then .error (.keyword w) else accept 1 w ts
  | _ => expected [.thing "identifier"] ts

def sign (text : String) : Reader Unit := do
  if beginsWith text (← ahead) then skip text.length else reject (.missing text)

def sign? (text : String) : Reader Bool := do
  if beginsWith text (← ahead) then
    skip text.length
    pure true
  else pure false

def word (text : String) : Reader Unit := do
  if beginsWithWord text (← ahead) then skip 1 else expected [.sign text]

def word? (text : String) : Reader Bool := do
  if beginsWithWord text (← ahead) then
    skip 1
    pure true
  else pure false

def lifetime : Reader String := fun ts =>
  match ts with
  | .lifetime name :: _ => accept 1 name ts
  | _ => expected [.thing "lifetime"] ts

def lifetime? : Reader Bool := do
  if beginsWithLifetime (← ahead) then
    skip 1
    pure true
  else pure false

def stringLiteral : Reader String := fun ts =>
  match ts with
  | .literal (.string s) _ :: _ => accept 1 s ts
  | _ => expected [.thing "string literal"] ts

/-- A whole number that fits into 64 bits without a sign. A minus sign makes it a whole number that
does not. -/
def number64 : Reader UInt64 := fun ts =>
  match ts with
  | .literal (.integer n) _ :: _ =>
    if n < UInt64.size then accept 1 (UInt64.ofNat n) ts else .error .numberTooLarge
  | .mark '-' _ :: .literal (.integer _) _ :: _ => .error .invalidDigit
  | _ => expected [.thing "integer literal"] ts

/-! ## Sequences -/

def iterateAt (step : α → Reader (Option α)) : Nat → α → Reader α
  | 0, a => pure a
  | n + 1, a => do
    match ← step a with
    | some b => iterateAt step n b
    | none => pure a

/-- Takes step after step until one leads nowhere. As each that leads on takes a token, there are no
more of them than tokens. -/
def iterate (step : α → Reader (Option α)) (a : α) : Reader α := fun ts =>
  iterateAt step (ts.length + 1) a ts

def repeatAt (stop : List Token → Bool) (p : Reader α) (more : Reader Bool) :
    Nat → Reader (List α)
  | 0 => pure []
  | n + 1 => do
    if stop (← ahead) then pure []
    else
      let a ← p
      if ← more then (a :: ·) <$> repeatAt stop p more n else pure [a]

/-- Reads one thing after another until `stop` holds or `more` says that there is no other. As each
takes a token, there are no more of them than tokens. -/
def repeated (stop : List Token → Bool) (p : Reader α) (more : Reader Bool) : Reader (List α) :=
  fun ts => repeatAt stop p more (ts.length + 1) ts

/-- Things with a separator between them; one may also follow the last. -/
def separated (stop : List Token → Bool) (separator : String) (p : Reader α) : Reader (List α) :=
  repeated stop p (sign? separator)

def listed (stop : List Token → Bool) (separator : String) (p : Reader α) : Reader (List α) :=
  repeated stop p do
    if stop (← ahead) then pure false
    else
      sign separator
      pure true

def many (more : List Token → Bool) (p : Reader α) : Reader (List α) :=
  repeated (!more ·) p (pure true)

end Reader

end Mediator.Declaration
