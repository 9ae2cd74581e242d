import Recipe.Number.Double

/-!
# Shortest decimals

The decimal text of a number of double precision: the fewest digits that read back as the same
number, the nearest of those if there are two, laid out by a `Layout`.
-/

set_option autoImplicit false

namespace Recipe

namespace Double

/-! ## Digits -/

/-- The reals that round to a number of positive mantissa, as bounds over a common denominator:
the lower bound, the number and the upper bound. -/
structure Interval where
  lower : Nat
  value : Nat
  upper : Nat
  den : Nat
  closed : Bool

/-- The reals that round to the number. Below a power of two the gap to the next number is half as
wide; the bounds belong to the interval when the mantissa is even. -/
def interval (x : Double) : Interval :=
  let scale := Nat.pow 2 (x.exponent - 2).toNat
  let below := if x.mantissa = Nat.pow 2 52 && leastExponent < x.exponent then 1 else 2
  { lower := (4 * x.mantissa - below) * scale
    value := 4 * x.mantissa * scale
    upper := (4 * x.mantissa + 2) * scale
    den := Nat.pow 2 (2 - x.exponent).toNat
    closed := x.mantissa % 2 == 0 }

/-- Whether `digits · 10 ^ power` lies in the interval. -/
def Interval.contains (i : Interval) (digits : Nat) (power : Int) : Bool :=
  let left := digits * Nat.pow 10 power.toNat * i.den
  let scale := Nat.pow 10 (-power).toNat
  if i.closed then i.lower * scale ≤ left && left ≤ i.upper * scale
  else i.lower * scale < left && left < i.upper * scale

/-- The multiple of `10 ^ power` nearest to the value among the two around it that lie in the
interval. -/
def Interval.onGrid? (i : Interval) (power : Int) : Option Nat :=
  let num := i.value * Nat.pow 10 (-power).toNat
  let den := i.den * Nat.pow 10 power.toNat
  let below := num / den
  let twice := 2 * (num % den)
  match i.contains below power, i.contains (below + 1) power with
  | true, true => some (if twice < den || (twice == den && below % 2 == 0) then below else below + 1)
  | true, false => some below
  | false, true => some (below + 1)
  | false, false => none

/-- The point of the coarsest decimal grid that has one in the interval, among `steps` grids from
`10 ^ power` down, with the power of its grid. -/
def Interval.coarsest (i : Interval) : Nat → Int → Nat × Int
  | 0, power => (i.value, power)
  | steps + 1, power =>
      match i.onGrid? power with
      | some digits => (digits, power)
      | none => i.coarsest steps (power - 1)

/-- A power of ten that is no smaller than the interval's value. -/
def Interval.powerAbove (i : Interval) : Int :=
  if i.den ≤ i.value then (Nat.toDigits 10 (i.value / i.den)).length
  else 1 - ((Nat.toDigits 10 (i.den / i.value)).length : Int)

/-- The fewest digits that read back as the number, and the power of ten of the last one. Twenty
grids are enough: seventeen digits tell all numbers apart. -/
def shortest (x : Double) : Nat × Int := x.interval.coarsest 20 x.interval.powerAbove

/-! ## Layout -/

/-- How a decimal is written: positionally while the exponent of its first digit is in a range, and
with an exponent otherwise. -/
structure Layout where
  leastPositional : Int
  greatestPositional : Int
  plusInExponent : Bool

/-- Digits with a point and an exponent, positional within the range of the layout. -/
def Layout.digits (layout : Layout) (digits : List Char) (power : Int) : List Char :=
  let first : Int := power + digits.length - 1
  if layout.leastPositional ≤ first && first ≤ layout.greatestPositional then
    if 0 ≤ power then digits ++ List.replicate power.toNat '0' ++ ['.', '0']
    else if 0 ≤ first then digits.take (first + 1).toNat ++ '.' :: digits.drop (first + 1).toNat
    else '0' :: '.' :: List.replicate (-first - 1).toNat '0' ++ digits
  else
    let fraction := match digits.drop 1 with
      | [] => []
      | rest => '.' :: rest
    let sign := if first < 0 then ['-'] else if layout.plusInExponent then ['+'] else []
    digits.take 1 ++ fraction ++ 'e' :: sign ++ Nat.toDigits 10 first.natAbs

/-- The text of a number. A zero keeps its sign. -/
def text (layout : Layout) (x : Double) : String :=
  let digits :=
    if x.mantissa = 0 then ['0', '.', '0']
    else layout.digits (Nat.toDigits 10 x.shortest.1) x.shortest.2
  String.ofList (if x.negative then '-' :: digits else digits)

end Double

end Recipe
