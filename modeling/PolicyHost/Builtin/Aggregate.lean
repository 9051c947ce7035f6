import PolicyHost.Builtin.Operand
import PolicyHost.Json.Order

/-!
# Builtins on collections

Counting, choosing, adding up and sorting the items of an array. Choosing
and sorting follow the order of JSON values. A sum or a product of signed
64-bit integers is exact while every partial result stays in that range, and
is computed in floating point otherwise.
-/

namespace PolicyHost.Builtin

open Json

def isTrue : Value → Bool
  | .bool true => true
  | _ => false

def all (operands : List Value) : Answer := do
  return some (.bool ((← arrayOperand "all" operands 0).all isTrue))

def any (operands : List Value) : Answer := do
  return some (.bool ((← arrayOperand "any" operands 0).any isTrue))

/-- The number of items, of members or of characters. -/
def count (operands : List Value) : Answer := do
  match ← operand "count" operands 0 with
  | .array items => return some (.ofInt items.length)
  | .object members => return some (.ofInt members.length)
  | .string s => return some (.ofInt s.length)
  | _ => throw (.type "count" "array, object, or string" 0)

/-- The last of the greatest items. -/
def greatest? : List Value → Option Value
  | [] => none
  | v :: rest => some (rest.foldl (fun best v => if best.order v = .gt then best else v) v)

/-- The first of the least items. -/
def least? : List Value → Option Value
  | [] => none
  | v :: rest => some (rest.foldl (fun best v => if best.order v = .gt then v else best) v)

def max (operands : List Value) : Answer := do
  return greatest? (← arrayOperand "max" operands 0)

def min (operands : List Value) : Answer := do
  return least? (← arrayOperand "min" operands 0)

/-- The signed 64-bit integer that a value is written as, if it is one. -/
def int64? : Value → Option Int
  | .number n => n.int64?
  | _ => none

/-- The floating point form of an element that has to be a number. -/
def numberElement (name : String) : Value → Except Failure Binary64
  | .number n => .ok n.toBinary64
  | element => .error (.refused name (.notNumber element))

/-- Items combined from left to right with exact integers, if all of them
are and every partial result is in range. -/
def foldExact? (combine : Int → Int → Int) (start : Int) (items : List Value) : Option Int := do
  (← items.mapM int64?).foldlM (fun n m => Calendar.int64? (combine n m)) start

/-- Items combined from left to right: exactly if possible, and otherwise in
floating point. -/
def combineAll (name : String) (exact : Int → Int → Int)
    (rounded : Binary64 → Binary64 → Option Binary64) (start : Int) (items : List Value) :
    Answer := do
  match foldExact? exact start items with
  | some n => return some (.ofInt n)
  | none =>
      let xs ← items.mapM (numberElement name)
      return numberAnswer do xs.foldlM rounded (← Binary64.ofInt? start)

def sum (operands : List Value) : Answer := do
  combineAll "sum" (· + ·) Binary64.add? 0 (← arrayOperand "sum" operands 0)

def product (operands : List Value) : Answer := do
  combineAll "product" (· * ·) Binary64.mul? 1 (← arrayOperand "product" operands 0)

/-- Puts a value into a list that runs from its latest place to its first:
past the values that it comes before. -/
def place (v : Value) : List Value → List Value
  | [] => [v]
  | w :: rest => if v.order w = .lt then w :: place v rest else v :: w :: rest

/-- The items in order; items that compare equal stay as they were. -/
def sorted (items : List Value) : List Value :=
  (items.foldl (fun done v => place v done) []).reverse

def sort (operands : List Value) : Answer := do
  return some (.array (sorted (← arrayOperand "sort" operands 0)))

end PolicyHost.Builtin
