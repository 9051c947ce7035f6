import PolicyHost.Number.Binary64
import PolicyHost.Number.Digits

/-!
# Writing floating point numbers in decimal

Two ways of writing. `shortest` gives the fewest digits that lie in the
interval of reals which round to the number, and of those the ones nearest
to it, a tie going to the even digit. `fixed` gives a number of places after
the point, rounded to the nearest, a tie to the even digit.

`toDecimal` lays out the shortest digits: positionally while the first digit
stands for a power of ten from `10^-5` to `10^15`, and with an exponent
otherwise. A number written positionally always shows a point.
-/

namespace PolicyHost.Binary64

/-- The interval of reals that round to a number that is not zero, in
quarters of its last place: four times the significand, its two bounds, and
whether the bounds belong to it. Below a power of two the neighbours are
half as far away. -/
structure Interval where
  low : Nat
  value : Nat
  high : Nat
  closed : Bool

def interval (x : Binary64) : Interval :=
  let s := x.significand
  -- A power of two, but not the least one with a full significand.
  let narrow := s == 2 ^ 52 && 2 ^ 53 ≤ x.magnitude
  ⟨4 * s - (if narrow then 1 else 2), 4 * s, 4 * s + 2, s % 2 == 0⟩

def Interval.holds (i : Interval) (num den : Nat) : Bool :=
  if i.closed then i.low * den ≤ num && num ≤ i.high * den
  else i.low * den < num && num < i.high * den

/-- A decimal number `digits * 10 ^ power`. -/
structure Scaled where
  digits : Nat
  power : Int
deriving DecidableEq, Inhabited

/-- The numerator and denominator of `10 ^ power` times `num / den`. -/
def timesPowerOfTen (num den : Nat) (power : Int) : Nat × Nat :=
  if power < 0 then (num, den * 10 ^ (-power).toNat) else (num * 10 ^ power.toNat, den)

/-- The better of the two multiples of `10 ^ power` next to a number, if one
of them lies in its interval. `unitNum / unitDen` is a quarter of the last
place. -/
def gridPoint? (i : Interval) (unitNum unitDen : Nat) (power : Int) : Option Scaled :=
  let (num, den) := timesPowerOfTen (i.value * unitNum) unitDen (-power)
  let below := num / den
  let inside (d : Nat) : Bool :=
    let (n, m) := timesPowerOfTen (d * unitDen) unitNum power
    i.holds n m
  let nearer := roundQuotient num den
  if inside nearer then some ⟨nearer, power⟩
  else if inside below then some ⟨below, power⟩
  else if inside (below + 1) then some ⟨below + 1, power⟩
  else none

/-- Tries ever finer grids, at most `tries` of them. -/
def firstGridPoint (i : Interval) (unitNum unitDen : Nat) : (tries : Nat) → (power : Int) → Scaled
  | 0, power => ⟨i.value * unitNum / unitDen, power⟩
  | tries + 1, power =>
      match gridPoint? i unitNum unitDen power with
      | some d => d
      | none => firstGridPoint i unitNum unitDen tries (power - 1)

/-- The digits without the zeros at their end. -/
def Scaled.trim (d : Scaled) : Nat → Scaled
  | 0 => d
  | n + 1 => if d.digits ≠ 0 ∧ d.digits % 10 = 0 then trim ⟨d.digits / 10, d.power + 1⟩ n else d

/-- The shortest decimal that rounds to the number, and the nearest of those. -/
def shortest (x : Binary64) : Scaled :=
  if x.significand = 0 then ⟨0, 0⟩
  else
    -- The search starts at a power of ten that is no smaller than the number.
    let top : Int := (Decimal.digits (x.numerator / x.denominator)).length
    let start : Int :=
      if x.numerator < x.denominator then
        1 - (Decimal.digits (x.denominator / x.numerator)).length
      else top
    let unitExponent := x.exponent - 2
    let d := firstGridPoint x.interval (2 ^ unitExponent.toNat) (2 ^ (-unitExponent).toNat) 20 start
    d.trim 20

def sign (x : Binary64) : List Char :=
  if x.negative then ['-'] else []

/-- `shortest` digits laid out: positional for powers of ten from `-5` to
`15`, with a signed exponent otherwise. -/
def toDecimal (x : Binary64) : List Char :=
  let d := x.shortest
  let ds := Decimal.digits d.digits
  let lead : Int := d.power + ds.length - 1
  let zeros (n : Nat) : List Char := List.replicate n '0'
  x.sign ++
    if lead < -5 ∨ 16 ≤ lead then
      let fraction := ds.drop 1
      ds.take 1 ++ (if fraction = [] then [] else '.' :: fraction) ++
        'e' :: (if lead < 0 then '-' else '+') :: Decimal.digits lead.natAbs
    else if lead < 0 then
      '0' :: '.' :: (zeros (lead.natAbs - 1) ++ ds)
    else if 0 ≤ d.power then
      ds ++ zeros d.power.toNat ++ ['.', '0']
    else
      ds.take (lead.toNat + 1) ++ '.' :: ds.drop (lead.toNat + 1)

/-- The number with `places` digits after the point. -/
def fixed (x : Binary64) (places : Nat) : List Char :=
  let ds := Decimal.digits (roundQuotient (x.numerator * 10 ^ places) x.denominator)
  let ds := List.replicate (places + 1 - ds.length) '0' ++ ds
  let whole := ds.length - places
  x.sign ++ ds.take whole ++ (if places = 0 then [] else '.' :: ds.drop whole)

end PolicyHost.Binary64
