import PolicyHost.Number.Notation
import PolicyHost.Number.Reading

/-!
# JSON numbers

A number is an integer between `-2^63` and `2^64 - 1`, kept exactly, or a
64-bit floating point number. The two kinds stay apart: `1` and `1.0` are
different numbers that compare equal.
-/

namespace PolicyHost.Json

inductive Number where
  | integer (value : Int) (inRange : -2 ^ 63 ≤ value ∧ value < 2 ^ 64)
  | float (value : Binary64)
deriving DecidableEq

namespace Number

instance : Inhabited Number := ⟨.integer 0 (by decide)⟩

/-- The integer as a number, if it lies in the range that is kept exactly. -/
def ofInt? (n : Int) : Option Number :=
  if h : -2 ^ 63 ≤ n ∧ n < 2 ^ 64 then some (.integer n h) else none

/-- A natural number below `2^64`, and zero for the others. -/
def ofNat (n : Nat) : Number :=
  (ofInt? n).getD default

def isInt64 (n : Int) : Bool :=
  -2 ^ 63 ≤ n && n < 2 ^ 63

/-- The signed 64-bit integer that the number is written as, if it is one. -/
def int64? : Number → Option Int
  | .integer n _ => if isInt64 n then some n else none
  | .float _ => none

def toBinary64 : Number → Binary64
  | .integer n _ => (Binary64.ofInt? n).getD (Binary64.zero false)
  | .float x => x

/-- A floating point result as a number: an integer where it is one in the
signed 64-bit range. -/
def ofBinary64 (x : Binary64) : Number :=
  match x.toInt? with
  | some n => if isInt64 n then (ofInt? n).getD (.float x) else .float x
  | none => .float x

def render : Number → List Char
  | .integer n _ => Decimal.ofInt n
  | .float x => x.toDecimal

end Number

end PolicyHost.Json
