import Mediator.Decimal.Shortest

/-!
# Numbers in JSON

A number is an integer of 64 bits, signed or not, or else a double. What is written with a fraction
or an exponent is a double, and so is what 64 bits cannot hold; `Lexeme` is the written form.

A double is read from the leading digits that 64 bits can hold and a power of ten, with a rounding
for each multiplication or division by such a power.
-/

namespace Mediator.Json

inductive Numeral where
  | int (n : Int)
  | float (x : Float)
deriving Inhabited

namespace Numeral

/-- Where the digits of a double are laid out with an exponent: from this many digits before the
point on, and from this many zeros after it on. The exponent is written with its sign. -/
def positionalDigits : Int := 16

def leadingZeros : Int := 5

def floatText (x : Float) : String :=
  let sign := if x.toBits.toNat / Nat.pow 2 63 == 1 then "-" else ""
  if x == 0 then sign ++ "0.0"
  else
    let d := (Decimal.Binary.ofFloat x).shortest
    let digits := Nat.toDigits 10 d.digits
    let point : Int := digits.length + d.exponent
    let zeros (n : Int) : List Char := List.replicate n.toNat '0'
    let body : List Char :=
      if 0 ≤ d.exponent && point ≤ positionalDigits then digits ++ zeros d.exponent ++ ['.', '0']
      else if 0 < point && point ≤ positionalDigits then
        digits.take point.toNat ++ '.' :: digits.drop point.toNat
      else if -leadingZeros < point && point ≤ 0 then '0' :: '.' :: zeros (-point) ++ digits
      else
        let fraction := match digits.drop 1 with
          | [] => []
          | rest => '.' :: rest
        let exponent := if 0 < point then '+' :: Nat.toDigits 10 (point - 1).toNat
          else '-' :: Nat.toDigits 10 (1 - point).toNat
        digits.take 1 ++ fraction ++ 'e' :: exponent
    sign ++ String.ofList body

def text : Numeral → String
  | .int n => toString n
  | .float x => floatText x

end Numeral

structure Lexeme where
  negative : Bool
  whole : List Char
  fraction : Option (List Char)
  /-- Whether the exponent is negative, and its digits. -/
  exponent : Option (Bool × List Char)
deriving DecidableEq, Repr

namespace Lexeme

def digitValue (c : Char) : Nat := c.toNat - '0'.toNat

def natOf (digits : List Char) : Nat := digits.foldl (fun n c => n * 10 + digitValue c) 0

def maxWord : Nat := Nat.pow 2 64 - 1

/-- Append digits to a number as long as it stays within 64 bits; the rest is left over. -/
def absorb (n : Nat) : List Char → Nat × List Char
  | [] => (n, [])
  | c :: rest =>
    let m := n * 10 + digitValue c
    if m ≤ maxWord then absorb m rest else (n, c :: rest)

/-- A double from 64 bits and a power of ten; `none` when it is too large. Every division by
`10 ^ 308` leaves less than the one before, and the third nothing at all. -/
def scaleFloat (x : Float) (e : Int) : Nat → Option Float
  | 0 => some x
  | fuel + 1 =>
    if e.natAbs ≤ 308 then
      if 0 ≤ e then
        let y := x * Float.ofScientific 1 false e.natAbs
        if y.isInf then none else some y
      else some (x / Float.ofScientific 1 false e.natAbs)
    else if x == 0 then some x
    else if 0 ≤ e then none
    else scaleFloat (x / Float.ofScientific 1 false 308) (e + 308) fuel

def float? (l : Lexeme) : Option Float :=
  let (n, left) := absorb 0 l.whole
  let (m, used) :=
    match l.fraction with
    | none => (n, 0)
    | some digits =>
      let (m, left) := absorb n digits
      (m, digits.length - left.length)
  let shift : Int := left.length - used
  let magnitude :=
    match l.exponent with
    | none => scaleFloat (UInt64.ofNat m).toFloat shift 4
    | some (down, digits) =>
      let e := natOf digits
      if e < Nat.pow 2 31 then
        scaleFloat (UInt64.ofNat m).toFloat (if down then shift - e else shift + e) 4
      else if m == 0 || down then some 0
      else none
  magnitude.map fun x => if l.negative then -x else x

/-- The number that is written; `none` when it is out of range. A negative zero is a double. -/
def numeral? (l : Lexeme) : Option Numeral :=
  let n := natOf l.whole
  if l.fraction.isNone && l.exponent.isNone then
    if l.negative then
      if 0 < n && n ≤ Nat.pow 2 63 then some (.int (-n)) else l.float?.map .float
    else if n ≤ maxWord then some (.int n)
    else l.float?.map .float
  else l.float?.map .float

def scan? (cs : List Char) : Option (Lexeme × List Char) := do
  let (negative, cs) :=
    match cs with
    | '-' :: rest => (true, rest)
    | cs => (false, cs)
  let whole := cs.takeWhile Char.isDigit
  let cs := cs.dropWhile Char.isDigit
  guard !whole.isEmpty
  guard (whole.head? != some '0' || whole.length == 1)
  let (fraction, cs) ←
    match cs with
    | '.' :: rest =>
      let digits := rest.takeWhile Char.isDigit
      guard !digits.isEmpty
      pure (some digits, rest.dropWhile Char.isDigit)
    | cs => pure (none, cs)
  let (exponent, cs) ←
    match cs with
    | c :: rest =>
      if c == 'e' || c == 'E' then
        let (down, rest) :=
          match rest with
          | '-' :: rest => (true, rest)
          | '+' :: rest => (false, rest)
          | rest => (false, rest)
        let digits := rest.takeWhile Char.isDigit
        guard !digits.isEmpty
        pure (some (down, digits), rest.dropWhile Char.isDigit)
      else pure (none, c :: rest)
    | [] => pure (none, [])
  return (⟨negative, whole, fraction, exponent⟩, cs)

end Lexeme

end Mediator.Json
