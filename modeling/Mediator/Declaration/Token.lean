import Mediator.Text.Identifier
import Mediator.Text.Quoted

/-!
# Tokens of declarations

A declaration is written as words, signs and literals. Brackets pair up, so a bracketed run is one
token, its group. `Token.ofText?` finds the tokens of a text; a comment counts as a blank, except
that a documentation comment is the attribute it stands for.
-/

namespace Mediator.Declaration

open Text

inductive Delimiter where
  | parenthesis
  | bracket
  | brace
deriving DecidableEq, Repr, Inhabited

namespace Delimiter

def all : List Delimiter := [.parenthesis, .bracket, .brace]

def opening : Delimiter → Char
  | .parenthesis => '('
  | .bracket => '['
  | .brace => '\x7b'

def closing : Delimiter → Char
  | .parenthesis => ')'
  | .bracket => ']'
  | .brace => '\x7d'

end Delimiter

inductive Literal where
  | string (value : String)
  | integer (value : Nat)
  | float
  | other
deriving DecidableEq, Repr, Inhabited

inductive Token where
  | word (text : String)
  | lifetime (name : String)
  /-- One character of a sign; `joint`: the next character continues it. -/
  | mark (c : Char) (joint : Bool)
  | literal (value : Literal) (text : String)
  | group (delimiter : Delimiter) (content : List Token)
deriving Repr, Inhabited

namespace Token

mutual

/-- How many tokens there are, those inside groups included. -/
def weight : Token → Nat
  | .group _ content => weights content + 1
  | _ => 1

def weights : List Token → Nat
  | [] => 0
  | t :: ts => t.weight + weights ts

end

mutual

def chars : Token → List Char
  | .word text => text.toList
  | .lifetime name => '\'' :: name.toList
  | .mark c _ => [c]
  | .literal _ text => text.toList
  | .group d content => d.opening :: (allChars content ++ [d.closing])

def allChars : List Token → List Char
  | [] => []
  | t :: ts => t.chars ++ allChars ts

end

def compact (ts : List Token) : String := String.ofList ((allChars ts).filter (· != ' '))

/-! ## From characters -/

def isBlank (c : Char) : Bool :=
  let n := c.toNat
  n == 0x20 || (0x09 ≤ n && n ≤ 0x0D) || n == 0x85 || n == 0xA0 || n == 0x1680
    || (0x2000 ≤ n && n ≤ 0x200A) || n == 0x200E || n == 0x200F || n == 0x2028 || n == 0x2029
    || n == 0x202F || n == 0x205F || n == 0x3000

def digit? (c : Char) : Option Nat :=
  if '0' ≤ c && c ≤ '9' then some (c.toNat - 48)
  else if 'a' ≤ c && c ≤ 'f' then some (c.toNat - 87)
  else if 'A' ≤ c && c ≤ 'F' then some (c.toNat - 55)
  else none

/-- The number that the digits write to the base; underscores count for nothing. -/
def numberOf (base : Nat) (cs : List Char) : Nat :=
  (cs.filterMap digit?).foldl (fun n d => n * base + d) 0

def scanIdentifier : List Char → Option (String × List Char)
  | c :: rest =>
    if isIdentifierStart c then
      some (String.ofList (c :: rest.takeWhile isIdentifierRest), rest.dropWhile isIdentifierRest)
    else none
  | [] => none

/-! ### Comments -/

/-- What follows the comment that `depth` openings have begun; comments nest. -/
def dropComment : Nat → List Char → Option (List Char)
  | depth, '/' :: '*' :: rest => dropComment (depth + 1) rest
  | depth, '*' :: '/' :: rest => if depth ≤ 1 then some rest else dropComment (depth - 1) rest
  | depth, _ :: rest => dropComment depth rest
  | _, [] => none

def splitLine : List Char → List Char × List Char
  | [] => ([], [])
  | '\n' :: rest => ([], '\n' :: rest)
  | '\r' :: '\n' :: rest => ([], '\n' :: rest)
  | c :: rest =>
    let (line, after) := splitLine rest
    (c :: line, after)

/-- Whether a carriage return does not stand before the end of a line. -/
def hasLoneReturn : List Char → Bool
  | [] => false
  | '\r' :: '\n' :: rest => hasLoneReturn rest
  | c :: rest => c == '\r' || hasLoneReturn rest

/-- The text with all escaped that is not seen. A digit may not follow the short form of NUL. -/
def escaped : List Char → String
  | [] => ""
  | '\x00' :: rest =>
    (if rest.head?.any fun c => '0' ≤ c && c ≤ '7' then "\\x00" else "\\0") ++ escaped rest
  | c :: rest => quoteChar c ++ escaped rest

/-- A documentation comment as an attribute; `inner`: one of what encloses it. -/
def documentation? (inner : Bool) (text : List Char) : Option (List Token) :=
  let value := Token.literal (.string (String.ofList text)) ("\"" ++ escaped text ++ "\"")
  let brackets := Token.group .bracket [.word "doc", .mark '=' false, value]
  if hasLoneReturn text then none
  else if inner then some [.mark '#' false, .mark '!' false, brackets]
  else some [.mark '#' false, brackets]

def scanComment? (cs : List Char) : Option (List Token × List Char) :=
  let documented (inner : Bool) (split : List Char × List Char) :=
    (documentation? inner split.1).map (·, split.2)
  let block := dropComment 0 cs
  /- What the three characters that open a documentation block and its end enclose. -/
  let inside (rest : List Char) := ((cs.take (cs.length - rest.length - 2)).drop 3, rest)
  match cs with
  | '/' :: '/' :: '/' :: '/' :: text => some ([], (splitLine text).2)
  | '/' :: '/' :: '/' :: text => documented false (splitLine text)
  | '/' :: '/' :: '!' :: text => documented true (splitLine text)
  | '/' :: '/' :: text => some ([], (splitLine text).2)
  | '/' :: '*' :: '*' :: '/' :: rest => some ([], rest)
  | '/' :: '*' :: '*' :: '*' :: _ => block.map fun rest => ([], rest)
  | '/' :: '*' :: '*' :: _ => block.bind fun rest => documented false (inside rest)
  | '/' :: '*' :: '!' :: _ => block.bind fun rest => documented true (inside rest)
  | '/' :: '*' :: _ => block.map fun rest => ([], rest)
  | _ => none

/-! ### Literals -/

def escapedCode? (digits : List Char) : Option Char :=
  let n := numberOf 16 digits
  let count := (digits.filterMap digit?).length
  if digits.head? == some '_' || count == 0 || 6 < count then none
  else if n < 0xD800 || (0xDFFF < n && n ≤ 0x10FFFF) then some (Char.ofNat n)
  else none

/-- What may stand between the quotes of a literal. -/
structure QuoteRules where
  /-- The largest code that two digits may write. -/
  top : Nat
  /-- Whether a code may also stand in braces. -/
  braces : Bool
  ascii : Bool
  /-- Whether NUL is a character like others. -/
  zero : Bool

namespace QuoteRules

def text : QuoteRules := ⟨0x7F, true, false, true⟩

def bytes : QuoteRules := ⟨0xFF, false, true, true⟩

def terminated : QuoteRules := ⟨0xFF, true, false, false⟩

def allows (r : QuoteRules) (c : Char) : Bool :=
  (!r.ascii || c.toNat < 0x80) && (r.zero || c != '\x00')

end QuoteRules

def scanEscape (r : QuoteRules) : List Char → Option (Char × List Char)
  | 'n' :: rest => some ('\n', rest)
  | 'r' :: rest => some ('\r', rest)
  | 't' :: rest => some ('\t', rest)
  | '\\' :: rest => some ('\\', rest)
  | '\'' :: rest => some ('\'', rest)
  | '"' :: rest => some ('"', rest)
  | '0' :: rest => if r.zero then some ('\x00', rest) else none
  | 'x' :: a :: b :: rest =>
    match digit? a, digit? b with
    | some m, some n =>
      let code := m * 16 + n
      if code ≤ r.top && (r.zero || code != 0) then some (Char.ofNat code, rest) else none
    | _, _ => none
  | 'u' :: '\x7b' :: rest =>
    let isDigit (c : Char) := (digit? c).isSome || c == '_'
    match rest.dropWhile isDigit with
    | '\x7d' :: after =>
      let code := escapedCode? (rest.takeWhile isDigit)
      (code.filter fun c => r.braces && (r.zero || c != '\x00')).map (·, after)
    | _ => none
  | _ => none

/-- What follows the blanks at the start of a line that continues a string. -/
def dropIndent : List Char → Option (List Char)
  | ' ' :: rest => dropIndent rest
  | '\t' :: rest => dropIndent rest
  | '\n' :: rest => dropIndent rest
  | '\r' :: '\n' :: rest => dropIndent rest
  | '\r' :: _ => none
  | rest => some rest

def scanCharacter (r : QuoteRules) : List Char → Option (List Char × List Char)
  | '\\' :: '\n' :: rest => (dropIndent rest).map ([], ·)
  | '\\' :: '\r' :: '\n' :: rest => (dropIndent rest).map ([], ·)
  | '\\' :: rest => (scanEscape r rest).map fun (c, after) => ([c], after)
  | '\r' :: '\n' :: rest => some (['\n'], rest)
  | '\r' :: _ => none
  | c :: rest => if r.allows c then some ([c], rest) else none
  | [] => none

def scanString (r : QuoteRules) (cs : List Char) : Option (List Char × List Char) :=
  match cs with
  | '"' :: rest => some ([], rest)
  | cs =>
    match scanCharacter r cs with
    | none => none
    | some (value, rest) =>
      if rest.length < cs.length then
        (scanString r rest).map fun (s, after) => (value ++ s, after)
      else none
termination_by cs.length

def scanRaw (r : QuoteRules) (hashes : Nat) : List Char → Option (List Char × List Char)
  | '"' :: rest =>
    if rest.take hashes == List.replicate hashes '#' then some ([], rest.drop hashes)
    else (scanRaw r hashes rest).map fun (s, after) => ('"' :: s, after)
  | '\r' :: '\n' :: rest =>
    (scanRaw r hashes rest).map fun (s, after) => ('\r' :: '\n' :: s, after)
  | '\r' :: _ => none
  | c :: rest =>
    if r.allows c then (scanRaw r hashes rest).map fun (s, after) => (c :: s, after) else none
  | [] => none

/-- A string in which nothing is escaped, from the hashes before its opening quote on; there are no
more than 255. -/
def scanHashed (r : QuoteRules) (cs : List Char) : Option (List Char × List Char) :=
  let hashes := (cs.takeWhile (· == '#')).length
  match cs.drop hashes with
  | '"' :: rest => if hashes ≤ 255 then scanRaw r hashes rest else none
  | _ => none

def scanQuotedCharacter (r : QuoteRules) : List Char → Option (List Char)
  | '\\' :: rest =>
    match scanEscape r rest with
    | some (_, '\'' :: after) => some after
    | _ => none
  | c :: '\'' :: rest => if r.allows c then some rest else none
  | _ => none

def isDecimal (c : Char) : Bool := c.isDigit || c == '_'

def dropExponent (cs : List Char) : Option (List Char) :=
  let digits (cs : List Char) : Option (List Char) :=
    match cs.dropWhile (· == '_') with
    | c :: rest => if c.isDigit then some (rest.dropWhile isDecimal) else none
    | [] => none
  match cs.dropWhile (· == '_') with
  | '+' :: rest => digits rest
  | '-' :: rest => digits rest
  | rest => digits rest

/-- What follows a number with a point or an exponent. A point is none of a number's if a second
point or a name follows it. -/
def dropFraction (cs : List Char) : Option (List Char) :=
  match cs.dropWhile isDecimal with
  | '.' :: rest =>
    match rest with
    | '.' :: _ => none
    | _ =>
      if rest.head?.any isIdentifierStart then none
      else
        match rest.dropWhile isDecimal with
        | 'e' :: after => some ((dropExponent after).getD ('e' :: after))
        | 'E' :: after => some ((dropExponent after).getD ('E' :: after))
        | after => some after
  | 'e' :: rest => dropExponent rest
  | 'E' :: rest => dropExponent rest
  | _ => none

def scanWhole (cs : List Char) : Option (Nat × List Char) :=
  let digits (base : Nat) (cs : List Char) : Option (Nat × List Char) :=
    let isDigit (c : Char) := c == '_' || (digit? c).any (· < if base == 16 then 16 else 10)
    let ds := cs.takeWhile isDigit
    let values := ds.filterMap digit?
    if values.isEmpty || values.any (base ≤ ·) then none
    else some (numberOf base ds, cs.dropWhile isDigit)
  match cs with
  | '0' :: 'x' :: rest => digits 16 rest
  | '0' :: 'o' :: rest => digits 8 rest
  | '0' :: 'b' :: rest => digits 2 rest
  | _ => digits 10 cs

def dropSuffix (cs : List Char) : List Char :=
  if cs.head?.any isIdentifierStart then cs.dropWhile isIdentifierRest else cs

def scanNumber (cs : List Char) : Option (Literal × List Char) :=
  let ended (l : Literal) (rest : List Char) : Option (Literal × List Char) :=
    let rest := dropSuffix rest
    if rest.head?.any isIdentifierRest then none else some (l, rest)
  match (dropFraction cs).bind (ended .float) with
  | some found => some found
  | none => (scanWhole cs).bind fun (n, rest) => ended (.integer n) rest

def scanLiteral (cs : List Char) : Option (Literal × List Char) :=
  let string := fun ((s, rest) : List Char × List Char) => (Literal.string (String.ofList s), rest)
  let other := fun ((_, rest) : List Char × List Char) => (Literal.other, rest)
  let quoted (found : Option (Literal × List Char)) :=
    found.map fun (l, rest) => (l, dropSuffix rest)
  match cs with
  | '"' :: rest => quoted ((scanString .text rest).map string)
  | 'r' :: rest => quoted ((scanHashed .text rest).map string)
  | 'b' :: '"' :: rest => quoted ((scanString .bytes rest).map other)
  | 'b' :: 'r' :: rest => quoted ((scanHashed .bytes rest).map other)
  | 'c' :: '"' :: rest => quoted ((scanString .terminated rest).map other)
  | 'c' :: 'r' :: rest => quoted ((scanHashed .terminated rest).map other)
  | 'b' :: '\'' :: rest => quoted ((scanQuotedCharacter .bytes rest).map (Literal.other, ·))
  | '\'' :: rest => quoted ((scanQuotedCharacter .text rest).map (Literal.other, ·))
  | c :: _ => if c.isDigit then scanNumber cs else none
  | [] => none

/-! ### Words and signs -/

/-- A word; one that is marked as raw keeps the mark, and so is never a keyword. -/
def scanWord : List Char → Option (String × List Char)
  | 'r' :: '#' :: rest => do
    let (name, after) ← scanIdentifier rest
    if ["_", "super", "self", "Self", "crate"].contains name then none
    else some ("r#" ++ name, after)
  | cs => scanIdentifier cs

/-- How a literal begins that is none of the words. -/
def literalOpenings : List (List Char) :=
  ["r\"", "r#\"", "r##", "b\"", "b'", "br\"", "br#", "c\"", "cr\"", "cr#"].map String.toList

def isMark (c : Char) : Bool := "~!@#$%^&*-=+|;:,<.>/?".toList.contains c

def opensComment : List Char → Bool
  | '/' :: '/' :: _ => true
  | '/' :: '*' :: _ => true
  | _ => false

def continues (rest : List Char) : Bool :=
  !opensComment rest && rest.head?.any fun c => isMark c || c == '\''

def scanLeaf (cs : List Char) : Option (Token × List Char) :=
  match scanLiteral cs with
  | some (l, rest) => some (.literal l (String.ofList (cs.take (cs.length - rest.length))), rest)
  | none =>
    match cs with
    | '\'' :: rest =>
      match scanWord rest with
      | some (name, after) =>
        let raw := "r#".toList.isPrefixOf rest
        if after.head? == some '\'' || (after.head? == some '#' && !raw) then none
        else some (.lifetime name, after)
      | none => none
    | c :: rest =>
      if opensComment cs then none
      else if isMark c then some (.mark c (continues rest), rest)
      else if literalOpenings.any (·.isPrefixOf cs) then none
      else (scanWord cs).map fun (w, after) => (.word w, after)
    | [] => none

/-! ### Groups -/

inductive Piece where
  | opens (d : Delimiter)
  | closes (d : Delimiter)
  | tokens (ts : List Token)
deriving Repr, Inhabited

def scanPiece (cs : List Char) : Option (Piece × List Char) :=
  match cs with
  | [] => none
  | c :: rest =>
    if isBlank c then some (.tokens [], rest)
    else
      match scanComment? cs with
      | some (ts, after) => some (.tokens ts, after)
      | none =>
        match Delimiter.all.find? (·.opening == c), Delimiter.all.find? (·.closing == c) with
        | some d, _ => some (.opens d, rest)
        | none, some d => some (.closes d, rest)
        | none, none => (scanLeaf cs).map fun (t, after) => (.tokens [t], after)

def pieces? (cs : List Char) : Option (List Piece) :=
  match cs with
  | [] => some []
  | cs =>
    match scanPiece cs with
    | none => none
    | some (p, rest) =>
      if rest.length < cs.length then (pieces? rest).map (p :: ·) else none
termination_by cs.length

/-- Groups what the brackets pair up. `before` holds the open groups, the innermost first, each with
what came before it; all token lists are in reverse. -/
def gather? (before : List (Delimiter × List Token)) (tokens : List Token) :
    List Piece → Option (List Token)
  | [] => if before.isEmpty then some tokens.reverse else none
  | .tokens ts :: rest => gather? before (ts.reverse ++ tokens) rest
  | .opens d :: rest => gather? ((d, tokens) :: before) [] rest
  | .closes d :: rest =>
    match before with
    | (d', outer) :: before =>
      if d == d' then gather? before (.group d tokens.reverse :: outer) rest else none
    | [] => none

def ofText? (text : String) : Option (List Token) :=
  let cs := text.toList
  let cs := if cs.head? == some '\uFEFF' then cs.drop 1 else cs
  (pieces? cs).bind (gather? [] [])

end Token

end Mediator.Declaration
