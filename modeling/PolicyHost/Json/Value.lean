import PolicyHost.Json.Number
import PolicyHost.Keyed

/-!
# JSON values

The values that policies read and answer with. An object is the list of its
members under their keys; `Value.ofMembers` brings members into that form, the
last of several with one key winning, and `Value.Canonical` says that a value
has it throughout.
-/

namespace PolicyHost.Json

inductive Value where
  | null
  | bool (value : Bool)
  | number (value : Number)
  | string (value : String)
  | array (items : List Value)
  | object (members : List (String × Value))
deriving Inhabited

abbrev Members := Keyed String Value

namespace Value

/-- The object with the given members. -/
def ofMembers (pairs : List (String × Value)) : Value :=
  .object (Keyed.ofList pairs)

/-- An integer of the range that numbers keep exactly; zero outside it. -/
def ofInt (n : Int) : Value :=
  .number ((Number.ofInt? n).getD default)

def get? (key : String) : Value → Option Value
  | .object members => Keyed.get? key members
  | _ => none

/-- The natural number below `bound` that a value is, if it is written as an
integer. -/
def natBelow? (bound : Nat) : Value → Option Nat
  | .number (.integer n _) => if 0 ≤ n ∧ n < bound then some n.toNat else none
  | _ => none

def typeName : Value → String
  | .null => "null"
  | .bool _ => "boolean"
  | .number _ => "number"
  | .string _ => "string"
  | .array _ => "array"
  | .object _ => "object"

mutual

/-- Every object in the value lists its members by strictly increasing key. -/
def Canonical : Value → Prop
  | .array items => AllCanonical items
  | .object members => Keyed.Increasing members ∧ MembersCanonical members
  | _ => True

@[inherit_doc Canonical]
def AllCanonical : List Value → Prop
  | [] => True
  | v :: rest => v.Canonical ∧ AllCanonical rest

@[inherit_doc Canonical]
def MembersCanonical : List (String × Value) → Prop
  | [] => True
  | (_, v) :: rest => v.Canonical ∧ MembersCanonical rest

end

mutual

/-- Every number in the value is an integer. -/
def IntegerOnly : Value → Prop
  | .number (.integer _ _) => True
  | .number (.float _) => False
  | .array items => AllIntegerOnly items
  | .object members => MembersIntegerOnly members
  | _ => True

@[inherit_doc IntegerOnly]
def AllIntegerOnly : List Value → Prop
  | [] => True
  | v :: rest => v.IntegerOnly ∧ AllIntegerOnly rest

@[inherit_doc IntegerOnly]
def MembersIntegerOnly : List (String × Value) → Prop
  | [] => True
  | (_, v) :: rest => v.IntegerOnly ∧ MembersIntegerOnly rest

end

mutual

/-- How deep arrays and objects are nested in a value. -/
def depth : Value → Nat
  | .array items => listDepth items + 1
  | .object members => membersDepth members + 1
  | _ => 0

@[inherit_doc depth]
def listDepth : List Value → Nat
  | [] => 0
  | v :: rest => max v.depth (listDepth rest)

@[inherit_doc depth]
def membersDepth : List (String × Value) → Nat
  | [] => 0
  | (_, v) :: rest => max v.depth (membersDepth rest)

end

end Value

end PolicyHost.Json
