import PolicyHost.Builtin.Operand

/-!
# Filling in formats

A format is a text with directives: a percent sign, an optional precision
(a point and digits), and a verb. Two percent signs stand for one and take no
value; every other directive takes the next value. The format is cut into
`Segment`s first, and `fill` then writes them one after the other.

A number can be written with so many decimals and no more. Beyond that there is
no text, and the host goes down.
-/

namespace PolicyHost.Builtin

open Json

inductive Segment where
  | plain (c : Char)
  /-- A directive with its verb; a precision is missing when it has no digits
  or does not fit 64 bits. -/
  | directive (precision : Option Nat) (verb : Char)
  /-- A directive that the format ends in before its verb. -/
  | unfinished

/-- The precision that digits give. -/
def precision? (ds : List Char) : Option Nat :=
  let n := Decimal.ofDigits ds
  if ds = [] ∨ 2 ^ 64 ≤ n then none else some n

/-- The precision in front of a verb, and what follows it. -/
def takePrecision : List Char → Option Nat × List Char
  | '.' :: cs =>
      let (ds, cs) := Decimal.takeDigits cs
      (precision? ds, cs)
  | cs => (none, cs)

theorem takePrecision_length_le (cs : List Char) : (takePrecision cs).2.length ≤ cs.length := by
  unfold takePrecision
  split
  · next cs =>
      have := (List.dropWhile_suffix Decimal.isDigit : cs.dropWhile _ <:+ cs).length_le
      simp only [Decimal.takeDigits, List.length_cons]
      omega
  · exact Nat.le_refl _

def segments (format : List Char) : List Segment :=
  match format with
  | [] => []
  | c :: cs =>
      if c ≠ '%' then .plain c :: segments cs
      else
        match _rest : takePrecision cs with
        | (_, []) => [.unfinished]
        | (precision, verb :: after) => .directive precision verb :: segments after
termination_by format.length
decreasing_by
  · simp
  · have := takePrecision_length_le cs
    rw [_rest] at this
    simp only [List.length_cons] at *
    omega

/-- A value under a verb that does not fit it. -/
def mismatch (verb : Char) (v : Value) : List Char :=
  '%' :: '!' :: verb :: '(' :: (v.render ++ [')'])

def defaultPlaces : Nat := 6

/-- The most decimals that a number is written with. -/
def mostPlaces : Nat := 65535

/-- A number as an integer: exactly when it is a signed 64-bit one, through
its floating point form when that has no fraction. -/
def formatInteger (n : Number) : List Char :=
  match n.int64? with
  | some i => Decimal.ofInt i
  | none =>
      if n.toBinary64.isIntegral then n.toBinary64.fixed 0
      else mismatch 'd' (.number n)

/-- A value under a verb; there is none when it would have too many decimals. -/
def formatValue (precision : Option Nat) (verb : Char) (v : Value) : Option (List Char) :=
  if verb = 'v' ∨ verb = 's' then
    match v with
    | .string s => some s.toList
    | v => some v.render
  else if verb = 'd' then
    match v with
    | .number n => some (formatInteger n)
    | v => some (mismatch verb v)
  else if verb = 'f' then
    match v with
    | .number n =>
        let places := precision.getD defaultPlaces
        if mostPlaces < places then none else some (n.toBinary64.fixed places)
    | v => some (mismatch verb v)
  else some (mismatch verb v)

/-- Writes segments in order, each directive with the next value. -/
def fill : List Segment → (values : List Value) → Option (List Char)
  | [], _ => some []
  | .plain c :: rest, values => (fill rest values).map (c :: ·)
  | .unfinished :: rest, values => (fill rest values).map ("%!(NOVERB)".toList ++ ·)
  | .directive precision verb :: rest, values =>
      if verb = '%' then (fill rest values).map ('%' :: ·)
      else
        match values with
        | v :: values => do
            let front ← formatValue precision verb v
            return front ++ (← fill rest values)
        | [] => (fill rest []).map fun back => '%' :: '!' :: verb :: ("(MISSING)".toList ++ back)

def format (cs : List Char) (values : List Value) : Option (List Char) :=
  fill (segments cs) values

/-- The format filled in with the items of the array. -/
def sprintf (operands : List Value) : Answer := do
  let cs ← textOperand "sprintf" operands 0
  let values ← arrayOperand "sprintf" operands 1
  match format cs values with
  | some cs => return some (text cs)
  | none => throw (.crash "sprintf")

end PolicyHost.Builtin
