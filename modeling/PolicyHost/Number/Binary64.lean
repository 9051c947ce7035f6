import PolicyHost.Number.Power

/-!
# Finite 64-bit floating point numbers

A number is kept as its sign and the other 63 bits of its encoding. Those
bits grow with the number's size, so the order of numbers is the order of
one integer, `key`. Their value is `significand * 2 ^ exponent`, and every
operation is the exact one on such values followed by one rounding to the
nearest number, a tie going to the even significand. A result past the
largest finite number is no number of this type, which `ofRatio?` says with
`none`.
-/

namespace PolicyHost

/-- A finite 64-bit floating point number. -/
structure Binary64 where
  /-- Whether the sign bit is set; a zero has one too. -/
  negative : Bool
  /-- The exponent and fraction bits, read as one number. -/
  magnitude : Nat
  magnitude_lt : magnitude < 2047 * 2 ^ 52
deriving DecidableEq

namespace Binary64

def zero (negative : Bool) : Binary64 :=
  ⟨negative, 0, by decide⟩

instance : Inhabited Binary64 := ⟨zero false⟩

/-- The integer that the size of a number is a multiple of a power of two of. -/
def significand (x : Binary64) : Nat :=
  if x.magnitude < 2 ^ 52 then x.magnitude else 2 ^ 52 + x.magnitude % 2 ^ 52

/-- The power of two that the significand is multiplied by. -/
def exponent (x : Binary64) : Int :=
  (max 1 (x.magnitude / 2 ^ 52) : Nat) - 1075

/-- The size of a number is `numerator / denominator`. -/
def numerator (x : Binary64) : Nat :=
  x.significand * 2 ^ x.exponent.toNat

@[inherit_doc numerator]
def denominator (x : Binary64) : Nat :=
  2 ^ (-x.exponent).toNat

/-- The quotient rounded to the nearest integer, a tie to the even one. -/
def roundQuotient (num den : Nat) : Nat :=
  let q := num / den
  let r := num % den
  if den < 2 * r then q + 1
  else if 2 * r = den then q + q % 2
  else q

/-- The exponent at which a quotient of size `num / den` has 53 binary
digits, or the least exponent there is. -/
def scaleOf (num den : Nat) : Int :=
  -- The quotient lies between 2 ^ (b - 1) and 2 ^ (b + 1).
  let b : Int := num.log2 - den.log2
  let reached : Bool := if b < 0 then den ≤ num * 2 ^ (-b).toNat else den * 2 ^ b.toNat ≤ num
  max (-1074) ((if reached then b else b - 1) - 52)

/-- The magnitude of the number nearest to `num / den`; it may lie past the
finite ones. -/
def nearestMagnitude (num den : Nat) : Nat :=
  if num = 0 then 0
  else
    let e := scaleOf num den
    let q := if e < 0 then roundQuotient (num * 2 ^ (-e).toNat) den
      else roundQuotient num (den * 2 ^ e.toNat)
    -- The leading bit of q counts among the exponent bits, and a carry ends up there too.
    (e + 1074).toNat * 2 ^ 52 + q

/-- The number nearest to `num / den` with the given sign, if it is finite. -/
def ofRatio? (negative : Bool) (num den : Nat) : Option Binary64 :=
  if h : nearestMagnitude num den < 2047 * 2 ^ 52 then some ⟨negative, nearestMagnitude num den, h⟩
  else none

def ofInt? (n : Int) : Option Binary64 :=
  ofRatio? (n < 0) n.natAbs 1

/-- The place of a number in the total order: negative numbers before
positive ones, and a negative zero before a positive one. -/
def key (x : Binary64) : Int :=
  if x.negative then -1 - x.magnitude else x.magnitude

instance : Ord Binary64 := ⟨fun x y => compare x.key y.key⟩

def isIntegral (x : Binary64) : Bool :=
  x.numerator % x.denominator == 0

def toInt? (x : Binary64) : Option Int :=
  if x.isIntegral then
    let n : Int := (x.numerator / x.denominator : Nat)
    some (if x.negative then -n else n)
  else none

/-- The size of a number with its sign, as a multiple of `1 / d`, where its
denominator divides `d`. -/
def signedOver (x : Binary64) (d : Nat) : Int :=
  let n : Int := (x.numerator * (d / x.denominator) : Nat)
  if x.negative then -n else n

/-- The sum of two numbers, if it is finite. A sum of exactly zero is
negative only when both numbers are. -/
def add? (x y : Binary64) : Option Binary64 :=
  let d := max x.denominator y.denominator
  let n := x.signedOver d + y.signedOver d
  ofRatio? (if n = 0 then x.negative && y.negative else n < 0) n.natAbs d

def mul? (x y : Binary64) : Option Binary64 :=
  ofRatio? (x.negative != y.negative) (x.numerator * y.numerator) (x.denominator * y.denominator)

/-- The quotient of two numbers, if it is finite; there is none by zero. -/
def div? (x y : Binary64) : Option Binary64 :=
  if y.numerator = 0 then none
  else ofRatio? (x.negative != y.negative) (x.numerator * y.denominator)
    (x.denominator * y.numerator)

def neg (x : Binary64) : Binary64 :=
  { x with negative := !x.negative }

end Binary64

end PolicyHost
