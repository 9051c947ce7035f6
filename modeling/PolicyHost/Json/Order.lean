import PolicyHost.Json.Value

/-!
# The order of JSON values

One order over all values, which sorting, minimum and maximum use. Values of
different types are ordered by type. Two numbers are compared exactly when
both are signed 64-bit integers, and as floating point numbers otherwise.
Arrays are compared item by item and objects member by member, key before
value, in the order of the keys; of two that agree as far as both reach, the
shorter comes first.
-/

namespace PolicyHost.Json

/-- The place of a type among the types. -/
def Value.rank : Value → Nat
  | .null => 0
  | .bool _ => 1
  | .number _ => 2
  | .string _ => 3
  | .array _ => 4
  | .object _ => 5

def Number.order (a b : Number) : Ordering :=
  match a.int64?, b.int64? with
  | some x, some y => compare x y
  | _, _ => compare a.toBinary64.key b.toBinary64.key

namespace Value

mutual

/-- The order of two values. -/
def order : Value → Value → Ordering
  | .bool a, .bool b => compare a b
  | .number a, .number b => a.order b
  | .string a, .string b => compare a b
  | .array a, .array b => orderItems a b
  | .object a, .object b => orderMembers a b
  | a, b => compare a.rank b.rank

def orderItems : List Value → List Value → Ordering
  | [], [] => .eq
  | [], _ :: _ => .lt
  | _ :: _, [] => .gt
  | a :: as, b :: bs => (order a b).then (orderItems as bs)

def orderMembers : List (String × Value) → List (String × Value) → Ordering
  | [], [] => .eq
  | [], _ :: _ => .lt
  | _ :: _, [] => .gt
  | (k, v) :: ms, (l, w) :: ns => (compare k l).then ((order v w).then (orderMembers ms ns))

end

instance : Ord Value := ⟨order⟩

end Value

end PolicyHost.Json
