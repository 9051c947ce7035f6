import PolicyHost.Json.Value
import PolicyHost.Number.Hexadecimal

/-!
# Reading JSON texts

A reader by recursive descent. Each part takes what it needs from the front
of a text and answers with what is left; a text that is not JSON has no
value. Arrays and objects may be nested `nestingLimit` deep.

Every call that begins a value, an item or a member takes at least one
character, so a budget of one more than the length of the text is never used
up; `parse?` supplies it.
-/

namespace PolicyHost.Json.Reader

/-- How deep arrays and objects may be nested. -/
def nestingLimit : Nat := 127

def isSpace (c : Char) : Bool :=
  c == ' ' || c == '\n' || c == '\t' || c == '\r'

def skipSpace (cs : List Char) : List Char :=
  cs.dropWhile isSpace

/-- Four hexadecimal digits. -/
def hexQuad? : List Char → Option (Nat × List Char)
  | a :: b :: c :: d :: rest => do
      let a ← Hexadecimal.value? a
      let b ← Hexadecimal.value? b
      let c ← Hexadecimal.value? c
      let d ← Hexadecimal.value? d
      return (((a * 16 + b) * 16 + c) * 16 + d, rest)
  | _ => none

/-- The character that an escape with four digits names. A character past
the first plane is named by two of them, a leading and a trailing half;
neither half stands alone. -/
def unicodeEscape? (cs : List Char) : Option (Char × List Char) := do
  let (n, rest) ← hexQuad? cs
  -- A trailing half cannot come first.
  if 0xdc00 ≤ n ∧ n ≤ 0xdfff then none
  else if n < 0xd800 ∨ 0xdbff < n then return (Char.ofNat n, rest)
  else
    match rest with
    | '\\' :: 'u' :: rest =>
        let (m, rest) ← hexQuad? rest
        if 0xdc00 ≤ m ∧ m ≤ 0xdfff then
          return (Char.ofNat (0x10000 + (n - 0xd800) * 1024 + (m - 0xdc00)), rest)
        else none
    | _ => none

def letterEscape? (c : Char) : Option Char :=
  if c = '"' ∨ c = '\\' ∨ c = '/' then some c
  else if c = 'b' then some '\x08'
  else if c = 'f' then some '\x0c'
  else if c = 'n' then some '\n'
  else if c = 'r' then some '\r'
  else if c = 't' then some '\t'
  else none

/-- The rest of a string whose first mark is read, up to its last mark;
`done` holds the characters read, latest first. -/
def stringRest? : (budget : Nat) → (cs done : List Char) → Option (String × List Char)
  | 0, _, _ => none
  | _ + 1, [], _ => none
  | budget + 1, c :: cs, done =>
      if c = '"' then some (String.ofList done.reverse, cs)
      else if c = '\\' then
        match cs with
        | [] => none
        | 'u' :: cs =>
            match unicodeEscape? cs with
            | none => none
            | some (c, cs) => stringRest? budget cs (c :: done)
        | c :: cs =>
            match letterEscape? c with
            | none => none
            | some c => stringRest? budget cs (c :: done)
      else if c.toNat < 32 then none
      else stringRest? budget cs (c :: done)

def string? (cs : List Char) : Option (String × List Char) :=
  stringRest? (cs.length + 1) cs []

/-- Digits taken into a number while it stays below `2^64`: the number, how
many were taken, and the rest. -/
def takeBounded : (digits : Nat) → (taken : Nat) → List Char → Nat × Nat × List Char
  | n, k, [] => (n, k, [])
  | n, k, c :: cs =>
      let m := 10 * n + Decimal.digitValue c
      if Decimal.isDigit c ∧ m < 2 ^ 64 then takeBounded m (k + 1) cs else (n, k, c :: cs)

/-- The exponent of a number literal and the rest, once its letter is read. -/
def exponent? (cs : List Char) : Option (Int × List Char) :=
  let (negative, cs) := Decimal.takeSign cs
  match Decimal.takeDigits cs with
  | ([], _) => none
  | (ds, rest) =>
      some (if negative then -(Decimal.ofDigits ds : Int) else Decimal.ofDigits ds, rest)

/-- Ends a floating point literal: an exponent if there is one, then the
value of `digits * 10 ^ power`, which must be finite. An exponent past the
signed 32-bit range makes zero of a negative power and of zero digits, and
no number otherwise. -/
def finishFloat? (negative : Bool) (digits : Nat) (power : Int) :
    List Char → Option (Binary64 × List Char)
  | c :: cs =>
      if c = 'e' ∨ c = 'E' then
        match exponent? cs with
        | none => none
        | some (e, rest) =>
            if e.natAbs < 2 ^ 31 then
              (Binary64.stepwise? negative digits (power + e)).map (·, rest)
            else if digits = 0 ∨ e < 0 then some (Binary64.zero negative, rest)
            else none
      else (Binary64.stepwise? negative digits power).map (·, c :: cs)
  | [] => (Binary64.stepwise? negative digits power).map (·, [])

/-- The rest of a literal after its point: digits into the number while they
fit, the others without effect. There is at least one. -/
def fraction? (negative : Bool) (digits : Nat) (power : Int) (cs : List Char) :
    Option (Binary64 × List Char) :=
  match cs with
  | [] => none
  | c :: _ =>
      if ¬ Decimal.isDigit c then none
      else
        let (digits, taken, rest) := takeBounded digits 0 cs
        finishFloat? negative digits (power - taken) (rest.dropWhile Decimal.isDigit)

/-- The rest of a literal whose whole part was read as `digits`, with
`dropped` more digits that did not fit. Without a point, an exponent or
dropped digits it is an integer, if it lies in the range and is not a
negative zero. -/
def afterWhole? (negative : Bool) (digits dropped : Nat) (cs : List Char) :
    Option (Number × List Char) :=
  let asFloat := (finishFloat? negative digits dropped cs).map fun (x, rest) =>
    (Number.float x, rest)
  match cs with
  | '.' :: rest => (fraction? negative digits dropped rest).map fun (x, rest) => (.float x, rest)
  | 'e' :: _ => asFloat
  | 'E' :: _ => asFloat
  | _ =>
      if 0 < dropped ∨ (negative ∧ digits = 0) then asFloat
      else
        match Number.ofInt? (if negative then -(digits : Int) else digits) with
        | some n => some (n, cs)
        | none => asFloat

/-- A number, once its sign is read. A zero at the front stands alone. -/
def unsigned? (negative : Bool) : List Char → Option (Number × List Char)
  | [] => none
  | c :: cs =>
      if c = '0' then
        match cs with
        | d :: _ => if Decimal.isDigit d then none else afterWhole? negative 0 0 cs
        | [] => afterWhole? negative 0 0 cs
      else if Decimal.isDigit c then
        let (digits, _, rest) := takeBounded 0 0 (c :: cs)
        let (dropped, rest) := Decimal.takeDigits rest
        afterWhole? negative digits dropped.length rest
      else none

mutual

/-- A value after white space, with `depth` more levels allowed. -/
def value? : (budget depth : Nat) → List Char → Option (Value × List Char)
  | 0, _, _ => none
  | budget + 1, depth, cs =>
      match skipSpace cs with
      | 'n' :: 'u' :: 'l' :: 'l' :: rest => some (.null, rest)
      | 't' :: 'r' :: 'u' :: 'e' :: rest => some (.bool true, rest)
      | 'f' :: 'a' :: 'l' :: 's' :: 'e' :: rest => some (.bool false, rest)
      | '"' :: rest => (string? rest).map fun (s, rest) => (.string s, rest)
      | '-' :: rest => (unsigned? true rest).map fun (n, rest) => (.number n, rest)
      | '[' :: rest =>
          match depth with
          | 0 => none
          | depth + 1 =>
              match skipSpace rest with
              | ']' :: rest => some (.array [], rest)
              | rest => (items? budget depth rest []).map fun (vs, rest) => (.array vs, rest)
      | '\x7b' :: rest =>
          match depth with
          | 0 => none
          | depth + 1 =>
              match skipSpace rest with
              | '\x7d' :: rest => some (.object [], rest)
              | rest => (members? budget depth rest []).map fun (ms, rest) =>
                  (Value.ofMembers ms, rest)
      | c :: rest => (unsigned? false (c :: rest)).map fun (n, rest) => (.number n, rest)
      | [] => none

/-- Items up to the bracket that ends them; `done` holds those read, latest
first. -/
def items? : (budget depth : Nat) → List Char → (done : List Value) →
    Option (List Value × List Char)
  | 0, _, _, _ => none
  | budget + 1, depth, cs, done =>
      match value? budget depth cs with
      | none => none
      | some (v, rest) =>
          match skipSpace rest with
          | ',' :: rest => items? budget depth rest (v :: done)
          | ']' :: rest => some ((v :: done).reverse, rest)
          | _ => none

/-- Members up to the brace that ends them, in the order of the text; `done`
holds those read, latest first. -/
def members? : (budget depth : Nat) → List Char → (done : List (String × Value)) →
    Option (List (String × Value) × List Char)
  | 0, _, _, _ => none
  | budget + 1, depth, cs, done =>
      match skipSpace cs with
      | '"' :: rest =>
          match string? rest with
          | none => none
          | some (key, rest) =>
              match skipSpace rest with
              | ':' :: rest =>
                  match value? budget depth rest with
                  | none => none
                  | some (v, rest) =>
                      match skipSpace rest with
                      | ',' :: rest => members? budget depth rest ((key, v) :: done)
                      | '\x7d' :: rest => some (((key, v) :: done).reverse, rest)
                      | _ => none
              | _ => none
      | _ => none

end

end PolicyHost.Json.Reader

namespace PolicyHost.Json

/-- The value that a whole text spells, with at most `depth` levels of
arrays and objects. -/
def parseWithin? (depth : Nat) (cs : List Char) : Option Value :=
  match Reader.value? (cs.length + 1) depth cs with
  | some (v, rest) => if Reader.skipSpace rest = [] then some v else none
  | none => none

def parse? (text : String) : Option Value :=
  parseWithin? Reader.nestingLimit text.toList

/-- The value that bytes spell, which must be a text. -/
def ofBytes? (bytes : ByteArray) : Option Value :=
  (String.fromUTF8? bytes).bind parse?

/-- The members of a whole text that spells an object, in the order of the
text and with every repetition of a key. -/
def parseMembers? (text : String) : Option (List (String × Value)) :=
  let cs := text.toList
  match Reader.skipSpace cs with
  | '\x7b' :: rest =>
      match Reader.skipSpace rest with
      | '\x7d' :: rest => if Reader.skipSpace rest = [] then some [] else none
      | rest =>
          -- The object itself takes one level.
          match Reader.members? (cs.length + 1) (Reader.nestingLimit - 1) rest [] with
          | some (ms, rest) => if Reader.skipSpace rest = [] then some ms else none
          | none => none
  | _ => none

end PolicyHost.Json
