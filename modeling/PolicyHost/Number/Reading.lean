import PolicyHost.Number.Binary64
import PolicyHost.Number.Digits

/-!
# Reading numbers in decimal

`Decimal.integer?` and `Decimal.real?` read whole texts: an optional sign and
digits, and the floating point form with a point and an exponent.

A decimal `digits * 10 ^ power` becomes a floating point number in one of two
ways. `nearest?` rounds once and is exact. `stepwise?` is the reading of
number literals in JSON texts: the digits are rounded first, and the result
is then multiplied or divided by powers of ten, with a rounding at each step.
The two agree while the digits have at most 53 bits and the power is at most
22 in size.
-/

namespace PolicyHost.Binary64

/-- The number nearest to `digits * 10 ^ power`, if it is finite. Decimals
far outside the range of the type are decided by their length alone. -/
def nearest? (negative : Bool) (digits : Nat) (power : Int) : Option Binary64 :=
  if digits = 0 then some (zero negative)
  else
    let top := (Decimal.digits digits).length + power
    if 400 < top then none
    else if top < -400 then some (zero negative)
    else if power < 0 then ofRatio? negative digits (10 ^ (-power).toNat)
    else ofRatio? negative (digits * 10 ^ power.toNat) 1

/-- The floating point number nearest to a power of ten. -/
def powerOfTen (n : Nat) : Binary64 :=
  (ofRatio? false (10 ^ n) 1).getD (zero false)

/-- The largest power of ten that scaling multiplies or divides by. -/
def stride : Nat := 308

/-- Divides by the largest power of ten a number of times; a zero stays zero. -/
def strideDown (x : Binary64) : (times : Nat) → Option Binary64
  | 0 => some x
  | times + 1 =>
      if x.magnitude = 0 then some x
      else (x.div? (powerOfTen stride)).bind (strideDown · times)

/-- Multiplies by `10 ^ power`, rounding at each step: one multiplication for
a positive power, and for a negative one divisions by the largest power of
ten and one division by what remains. Zero is zero at every scale, and any
other number times more than the largest power of ten is none. -/
def scale? (x : Binary64) (power : Int) : Option Binary64 :=
  if power < 0 then
    let times := (power.natAbs - 1) / stride
    (x.strideDown times).bind (·.div? (powerOfTen (power.natAbs - times * stride)))
  else if power ≤ stride then x.mul? (powerOfTen power.natAbs)
  else if x.magnitude = 0 then some x
  else none

/-- The reading of `digits * 10 ^ power` in JSON texts: the digits rounded,
then scaled. -/
def stepwise? (negative : Bool) (digits : Nat) (power : Int) : Option Binary64 := do
  let x ← ofRatio? false digits 1
  let y ← x.scale? power
  return if negative then y.neg else y

end PolicyHost.Binary64

namespace PolicyHost.Decimal

/-- The sign in front of a number, and what follows it. -/
def takeSign : List Char → Bool × List Char
  | '-' :: cs => (true, cs)
  | '+' :: cs => (false, cs)
  | cs => (false, cs)

def takeDigits (cs : List Char) : List Char × List Char :=
  (cs.takeWhile isDigit, cs.dropWhile isDigit)

/-- A whole text of digits after an optional sign. -/
def integer? (cs : List Char) : Option Int :=
  match takeSign cs with
  | (negative, ds) =>
      if ds = [] ∨ ¬ ds.all isDigit then none
      else some (if negative then -(ofDigits ds : Int) else ofDigits ds)

/-- The exponent at the end of a number: nothing, or a letter `e`, an
optional sign and digits. -/
def exponent? : List Char → Option Int
  | [] => some 0
  | c :: cs => if c = 'e' ∨ c = 'E' then integer? cs else none

/-- A whole text in floating point form: an optional sign, digits with at
most one point among or around them, and an optional exponent. -/
def real? (cs : List Char) : Option (Option Binary64) :=
  let (negative, cs) := takeSign cs
  let (whole, cs) := takeDigits cs
  let (fraction, cs) := match cs with
    | '.' :: r => takeDigits r
    | _ => ([], cs)
  if whole = [] ∧ fraction = [] then none
  else
    (exponent? cs).map fun power =>
      Binary64.nearest? negative (ofDigits (whole ++ fraction)) (power - fraction.length)

end PolicyHost.Decimal
