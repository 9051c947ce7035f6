import PolicyHost.Builtin.Aggregate
import PolicyHost.Builtin.Conversion
import PolicyHost.Builtin.Format
import PolicyHost.Builtin.Kind
import PolicyHost.Builtin.Pattern
import PolicyHost.Builtin.Text
import PolicyHost.Builtin.Time

/-!
# The catalog of builtins

The builtins that come with the host, each with the word that identifies it,
its number of operands and what it computes. Policies know some of them under
another name, with a point in it, which `guestName` gives.
-/

namespace PolicyHost.Builtin

open Json

structure Shipped where
  ident : String
  arity : Nat
  run : List Value → Answer

/-- The builtins whose name for policies differs from their identifier. -/
def renamed : List (String × String) :=
  [("regex_split", "regex.split"),
   ("time_add_date", "time.add_date"),
   ("time_date", "time.date"),
   ("time_now_ns", "time.now_ns"),
   ("time_parse_rfc3339_ns", "time.parse_rfc3339_ns")]

/-- The name that policies use for an identifier. -/
def guestName (ident : String) : String :=
  (renamed.lookup ident).getD ident

def Shipped.name (b : Shipped) : String :=
  guestName b.ident

/-- The catalog, with the clock that tells the present instant. -/
def catalog (clock : Int) : List Shipped :=
  [⟨"concat", 2, concat⟩,
   ⟨"contains", 2, contains⟩,
   ⟨"endswith", 2, endsWith⟩,
   ⟨"startswith", 2, startsWith⟩,
   ⟨"indexof", 2, indexOf⟩,
   ⟨"lower", 1, lower⟩,
   ⟨"upper", 1, upper⟩,
   ⟨"replace", 3, replace⟩,
   ⟨"split", 2, split⟩,
   ⟨"substring", 3, substring⟩,
   ⟨"trim_space", 1, trimSpace⟩,
   ⟨"sprintf", 2, sprintf⟩,
   ⟨"re_match", 2, patternMatch⟩,
   ⟨"regex_split", 2, patternSplit⟩,
   ⟨"is_number", 1, isOf "is_number" "number"⟩,
   ⟨"is_string", 1, isOf "is_string" "string"⟩,
   ⟨"is_boolean", 1, isOf "is_boolean" "boolean"⟩,
   ⟨"is_array", 1, isOf "is_array" "array"⟩,
   ⟨"is_set", 1, isSet⟩,
   ⟨"is_object", 1, isOf "is_object" "object"⟩,
   ⟨"is_null", 1, isOf "is_null" "null"⟩,
   ⟨"type_name", 1, typeName⟩,
   ⟨"all", 1, all⟩,
   ⟨"any", 1, any⟩,
   ⟨"count", 1, count⟩,
   ⟨"max", 1, max⟩,
   ⟨"min", 1, min⟩,
   ⟨"product", 1, product⟩,
   ⟨"sum", 1, sum⟩,
   ⟨"sort", 1, sort⟩,
   ⟨"to_number", 1, toNumber⟩,
   ⟨"time_now_ns", 0, fun _ => now clock⟩,
   ⟨"time_parse_rfc3339_ns", 1, parseTimestamp⟩,
   ⟨"time_date", 1, date⟩,
   ⟨"time_add_date", 4, addDate⟩]

end PolicyHost.Builtin
