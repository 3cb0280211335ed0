/-!
# The shortest decimal for a binary number

A binary floating-point number stands for all reals that round to it. Among the decimals in that
interval, `Binary.shortest` finds one with the fewest digits, and of those the one nearest to the
number itself. The arithmetic is on natural numbers and exact.
-/

namespace Mediator.Decimal

/-- The number `mantissa * 2 ^ exponent`. It is a `boundary` when the next smaller number is only
half as far away as the next larger one. -/
structure Binary where
  mantissa : Nat
  exponent : Int
  boundary : Bool
deriving DecidableEq, Repr

structure Scaled where
  digits : Nat
  exponent : Int
deriving DecidableEq, Repr

structure Fraction where
  num : Nat
  den : Nat

namespace Fraction

def scale (n b : Nat) (e : Int) : Fraction :=
  if 0 ≤ e then ⟨n * b.pow e.toNat, 1⟩ else ⟨n, b.pow (-e).toNat⟩

def le (a b : Fraction) : Bool := a.num * b.den ≤ b.num * a.den

def lt (a b : Fraction) : Bool := a.num * b.den < b.num * a.den

def dist (a b : Fraction) : Fraction :=
  let x := a.num * b.den
  let y := b.num * a.den
  ⟨(x - y) + (y - x), a.den * b.den⟩

/-- The power of ten of the first digit, for a positive fraction. -/
def decimalExponent (a : Fraction) : Int :=
  if a.den ≤ a.num then (Nat.toDigits 10 (a.num / a.den)).length - 1
  else
    -- `10 ^ k` times the fraction first reaches one at the `k` sought
    let k := (List.range (a.den.log2 + 2)).find? fun k => a.den ≤ a.num * Nat.pow 10 k
    Int.negOfNat (k.getD 0)

end Fraction

namespace Binary

/-- Quarters of a unit in the last place, which express the middles between neighbours. -/
def quarters (b : Binary) (n : Nat) : Fraction := Fraction.scale n 2 (b.exponent - 2)

def value (b : Binary) : Fraction := b.quarters (4 * b.mantissa)

def low (b : Binary) : Fraction := b.quarters (4 * b.mantissa - if b.boundary then 1 else 2)

def high (b : Binary) : Fraction := b.quarters (4 * b.mantissa + 2)

/-- Whether the decimal rounds to this number: a middle goes to the even neighbour. -/
def rounds (b : Binary) (d : Scaled) : Bool :=
  let x := Fraction.scale d.digits 10 d.exponent
  if b.mantissa % 2 == 0 then b.low.le x && x.le b.high else b.low.lt x && x.lt b.high

/-- The better of the two decimals next to the number on the grid of `10 ^ e`, if either rounds to
the number. Of two equally near ones the even is taken. -/
def onGrid? (b : Binary) (e : Int) : Option Scaled :=
  let v := b.value
  let unit := Fraction.scale 1 10 e
  let n := (v.num * unit.den) / (v.den * unit.num)
  let below : Scaled := ⟨n, e⟩
  let above : Scaled := ⟨n + 1, e⟩
  match b.rounds below, b.rounds above with
  | true, true =>
    let down := (Fraction.scale n 10 e).dist v
    let up := (Fraction.scale (n + 1) 10 e).dist v
    if down.lt up then some below
    else if up.lt down then some above
    else if n % 2 == 0 then some below else some above
  | true, false => some below
  | false, true => some above
  | false, false => none

/-- Seventeen digits always suffice for a positive number of double precision. Where the decimal is
the next power of ten, it is written with the one digit that it needs. -/
def shortest (b : Binary) : Scaled :=
  let top := b.value.decimalExponent
  let d := ((List.range 17).findSome? fun k : Nat => b.onGrid? (top - (k : Int))).getD ⟨0, 0⟩
  if d.digits % 10 == 0 then ⟨d.digits / 10, d.exponent + 1⟩ else d

end Binary

def Binary.ofFloat (x : Float) : Binary :=
  let bits := x.toBits.toNat
  let fraction := bits % Nat.pow 2 52
  let biased := bits / Nat.pow 2 52 % Nat.pow 2 11
  if biased == 0 then ⟨fraction, -1074, false⟩
  else ⟨fraction + Nat.pow 2 52, Int.ofNat biased - 1075, fraction == 0 && 1 < biased⟩

end Mediator.Decimal
