import PolicyHost.Number.Hexadecimal
import PolicyHost.Number.Power
import PolicyHost.Pattern.Written
import PolicyHost.Text.Search
import PolicyHost.Unicode.Derived

/-!
# Reading patterns

A reader of pattern texts by recursive descent. Each part is read from the
front of what is left of the text; a text that is no pattern has no tree.

With the free-spacing flag white space and comments are passed over between
the parts of a pattern, and also inside of most parts: in counts, in
hexadecimal escapes, in names of properties and in brackets. `Reading.advance`
takes a character and passes over what follows it; `Reading.drop` only takes
the character. Each rule below says by its choice where spaces may stand.

Every call takes at least one character, so a budget of one more than the
length of the text is never used up. Groups and brackets that are nested
deeper than the limit are refused on the way.
-/

namespace PolicyHost.Pattern

/-- What a reader of patterns remembers: the text that is left, whether
spacing is free, and the group names in use. -/
structure Reading where
  rest : List Char
  free : Bool := false
  names : List (List Char) := []

namespace Reading

def isSpace (c : Char) : Bool :=
  Unicode.spaceSet.mem c.toNat

/-- What is left after white space and comments; with `comment`, the end of a
comment is still to come. -/
def skipFree : (comment : Bool) → List Char → List Char
  | _, [] => []
  | true, c :: cs => skipFree (c != '\n') cs
  | false, c :: cs =>
      if isSpace c then skipFree false cs
      else if c = '#' then skipFree true cs
      else c :: cs

/-- Passes over white space and comments where spacing is free. -/
def skip (r : Reading) : Reading :=
  if r.free then { r with rest := skipFree false r.rest } else r

def drop (r : Reading) : Reading :=
  { r with rest := r.rest.drop 1 }

/-- One character further, and past what may be passed over. -/
def advance (r : Reading) : Reading :=
  r.drop.skip

/-- Takes characters for as long as they meet a condition, and after each one
passes over what may be passed over; `taken` holds those taken, latest
first. -/
def collect (p : Char → Bool) : (budget : Nat) → Reading → (taken : List Char) →
    List Char × Reading
  | 0, r, taken => (taken.reverse, r)
  | budget + 1, r, taken =>
      match r.rest with
      | [] => (taken.reverse, r)
      | c :: _ =>
          if p c then collect p budget r.advance (c :: taken) else (taken.reverse, r)

def takeWhile (p : Char → Bool) (r : Reading) : List Char × Reading :=
  collect p r.rest.length r []

/-- The character that decides whether a dash makes a range. Where spacing is
free it is the first one after the dash that is not blank, and inside of a
comment likewise; where there is none, the one right after the dash. -/
def afterDash? (r : Reading) : Option Char :=
  let next := r.rest.drop 1
  if r.free then
    match next.dropWhile isSpace with
    | '#' :: comment => (comment.dropWhile isSpace).head?.or next.head?
    | c :: _ => some c
    | [] => next.head?
  else next.head?

end Reading

/-! ## Escapes -/

/-- One thing that stands for characters or for a place. -/
inductive Piece where
  | literal (l : Literal)
  | escape (e : Escape)
  | assertion (a : Assertion)

/-- The characters that mean something in a pattern. -/
def isMeta (c : Char) : Bool :=
  ['\\', '.', '+', '*', '?', '(', ')', '|', '[', ']', '\x7b', '\x7d', '^', '$', '#', '&', '-',
    '~'].contains c

/-- Whether a backslash before a character makes it stand for itself: every
ASCII character that is no letter, no digit and no angle bracket. -/
def isEscapable (c : Char) : Bool :=
  isMeta c || (c.toNat < 128 && !c.isAlphanum && c != '<' && c != '>')

def lastCodePoint : Nat := 0x10ffff

def hexChar? (digits : List Char) : Option Char :=
  match Hexadecimal.number? digits with
  | some n =>
      if n < 0xd800 ∨ (0xdfff < n ∧ n ≤ lastCodePoint) then some (Char.ofNat n) else none
  | none => none

/-- A number of hexadecimal digits; `taken` holds those taken, latest first. -/
def hexDigits? : (width : Nat) → Reading → (taken : List Char) → Option (List Char × Reading)
  | 0, r, taken => some (taken.reverse, r)
  | width + 1, r, taken =>
      match r.rest with
      | [] => none
      | c :: _ =>
          if (Hexadecimal.value? c).isSome then hexDigits? width r.advance (c :: taken) else none

/-- What braces hold; the reading stands at the opening brace and is left at
the closing one. -/
def braced? (r : Reading) : Option (List Char × Reading) :=
  let (inside, r) := r.advance.takeWhile (· != '\x7d')
  if r.rest = [] then none else some (inside, r)

/-- The rest of a hexadecimal escape after its letter: digits in braces, or
`width` digits. -/
def hexEscape? (width : Nat) (r : Reading) : Option (Literal × Reading) :=
  let r := r.advance
  match r.rest with
  | '\x7b' :: _ => do
      let (digits, r) ← braced? r
      if digits = [] then none
      else
        let c ← hexChar? digits
        return (⟨c, false⟩, r.advance)
  | _ => do
      let (digits, r) ← hexDigits? width r []
      let c ← hexChar? digits
      -- Two digits outside of braces can stand for a byte.
      return (⟨c, width == 2⟩, r)

/-- The question that the text between the braces of a property class asks,
and whether it asks for the opposite. A property and its value are joined by
one of three signs, which are looked for in this order. -/
def queryOf (inside : List Char) : Query × Bool :=
  match Text.breakOn ['!', '='] inside with
  | some (property, value) => (.value property value, true)
  | none =>
      match Text.breakOn [':'] inside, Text.breakOn ['='] inside with
      | some (property, value), _ | none, some (property, value) => (.value property value, false)
      | none, none => (.name inside, false)

/-- The rest of a property class after its letter: a name in braces or a
single character. -/
def property? (negated : Bool) (r : Reading) : Option (Escape × Reading) :=
  let r := r.advance
  match r.rest with
  | [] => none
  | '\x7b' :: _ => do
      let (inside, r) ← braced? r
      let (query, opposite) := queryOf inside
      return (.property query (negated != opposite), r.drop)
  | c :: _ => if c = '\\' then none else some (.property (.name [c]) negated, r.drop)

def boundaryOfName? (name : List Char) : Option Assertion :=
  match String.ofList name with
  | "start" => some .wordStart
  | "end" => some .wordEnd
  | "start-half" => some .halfStart
  | "end-half" => some .halfEnd
  | _ => none

/-- The rest of an escape for a word boundary: one of four names in braces, or
nothing. Braces that begin with neither a letter nor a dash are left for a
repetition. -/
def boundary? (r : Reading) : Option (Assertion × Reading) :=
  match r.rest with
  | '\x7b' :: _ =>
      let isName := fun c : Char => c.isAlpha || c == '-'
      let inner := r.advance
      match inner.rest with
      | [] => none
      | c :: _ =>
          if isName c then
            let (name, after) := inner.takeWhile isName
            match after.rest with
            | '\x7d' :: _ => (boundaryOfName? name).map (·, after.drop)
            | _ => none
          else some (.boundary, r)
  | _ => some (.boundary, r)

/-- What a backslash and the characters after it stand for; the reading stands
after the backslash. -/
def escape? (r : Reading) : Option (Piece × Reading) :=
  match r.rest with
  | [] => none
  | c :: _ =>
      let simple (c : Char) : Option (Piece × Reading) := some (.literal ⟨c, false⟩, r.drop)
      let letter (k : LetterClass) (negated : Bool) : Option (Piece × Reading) :=
        some (.escape (.letter k negated), r.drop)
      let place (a : Assertion) : Option (Piece × Reading) := some (.assertion a, r.drop)
      match c with
      | 'x' => (hexEscape? 2 r).map fun (l, r) => (.literal l, r)
      | 'u' => (hexEscape? 4 r).map fun (l, r) => (.literal l, r)
      | 'U' => (hexEscape? 8 r).map fun (l, r) => (.literal l, r)
      | 'p' => (property? false r).map fun (e, r) => (.escape e, r)
      | 'P' => (property? true r).map fun (e, r) => (.escape e, r)
      | 'd' => letter .digit false
      | 'D' => letter .digit true
      | 's' => letter .space false
      | 'S' => letter .space true
      | 'w' => letter .word false
      | 'W' => letter .word true
      | 'a' => simple '\x07'
      | 'f' => simple '\x0c'
      | 't' => simple '\t'
      | 'n' => simple '\n'
      | 'r' => simple '\r'
      | 'v' => simple '\x0b'
      | 'A' => place .textStart
      | 'z' => place .textEnd
      | 'b' => (boundary? r.drop).map fun (a, r) => (.assertion a, r)
      | 'B' => place .notBoundary
      | '<' => place .wordStart
      | '>' => place .wordEnd
      | c => if isEscapable c then simple c else none

/-! ## Brackets -/

/-- Brackets under way: the items since the last operation, latest first, and
the operation that waits for them with what stands on its left. -/
structure Inside where
  items : List Brackets := []
  pending : Option (Brackets × SetOperation) := none

namespace Inside

def add (s : Inside) (item : Brackets) : Inside :=
  { s with items := item :: s.items }

/-- What was read so far; operations take the nearest parts first. -/
def value (s : Inside) : Brackets :=
  let right := Brackets.ofItems s.items.reverse
  match s.pending with
  | none => right
  | some (left, op) => .operation op left right

/-- Begins the right side of an operation. -/
def operate (s : Inside) (op : SetOperation) : Inside :=
  ⟨[], some (s.value, op)⟩

end Inside

def AsciiClass.ofName? (name : List Char) : Option AsciiClass :=
  match String.ofList name with
  | "alnum" => some .alnum
  | "alpha" => some .alpha
  | "ascii" => some .ascii
  | "blank" => some .blank
  | "cntrl" => some .cntrl
  | "digit" => some .digit
  | "graph" => some .graph
  | "lower" => some .lower
  | "print" => some .print
  | "punct" => some .punct
  | "space" => some .space
  | "upper" => some .upper
  | "word" => some .word
  | "xdigit" => some .xdigit
  | _ => none

/-- A named class of ASCII characters such as `[:alpha:]` at the front of a
text, in which no space is passed over. -/
def asciiClass? : List Char → Option (Brackets × List Char)
  | '[' :: ':' :: cs =>
      let (negated, cs) := match cs with
        | '^' :: cs => (true, cs)
        | cs => (false, cs)
      match cs.dropWhile (· != ':') with
      | ':' :: ']' :: rest =>
          (AsciiClass.ofName? (cs.takeWhile (· != ':'))).map fun k => (.ascii k negated, rest)
      | _ => none
  | _ => none

def item? (r : Reading) : Option (Piece × Reading) :=
  match r.rest with
  | [] => none
  | '\\' :: _ => escape? r.drop
  | c :: _ => some (.literal ⟨c, false⟩, r.drop)

/-- An item of brackets that is no end of a range; a place is none. -/
def Piece.alone? : Piece → Option Brackets
  | .literal l => some (.literal l)
  | .escape e => some (.escape e)
  | .assertion _ => none

/-- An item or a range of brackets. Both ends of a range are characters. -/
def range? (r : Reading) : Option (Brackets × Reading) := do
  let (first, r) ← item? r
  let r := r.skip
  match r.rest with
  | [] => none
  | c :: _ =>
      let next := r.afterDash?
      -- A dash makes no range before another dash or at the end of the brackets.
      if c ≠ '-' ∨ next = some ']' ∨ next = some '-' then
        let item ← first.alone?
        return (item, r)
      else
        let (second, r) ← item? r.advance
        match first, second with
        | .literal a, .literal b =>
            if a.char ≤ b.char then return (.range a b, r) else none
        | _, _ => none

/-- Takes the dashes at the front of brackets, which stand for themselves. -/
def leadingDashes : (budget : Nat) → Reading → Inside → Reading × Inside
  | 0, r, s => (r, s)
  | budget + 1, r, s =>
      match r.rest with
      | '-' :: _ => leadingDashes budget r.advance (s.add (.literal ⟨'-', false⟩))
      | _ => (r, s)

/-- The front of brackets from the opening one on: a circumflex for the
complement, dashes, and a closing bracket that stands for itself. -/
def openBrackets (r : Reading) : Bool × Inside × Reading :=
  let r := r.advance
  let (negated, r) := match r.rest with
    | '^' :: _ => (true, r.advance)
    | _ => (false, r)
  let (r, s) := leadingDashes r.rest.length r {}
  match s.items, r.rest with
  | [], ']' :: _ => (negated, s.add (.literal ⟨']', false⟩), r.advance)
  | _, _ => (negated, s, r)

/-- The rest of brackets up to the closing one, which may hold brackets of
their own up to `depth` deep. -/
def inside? : (budget depth : Nat) → Reading → Inside → Option (Brackets × Reading)
  | 0, _, _, _ => none
  | budget + 1, depth, r, s =>
      let r := r.skip
      match r.rest with
      | [] => none
      | ']' :: rest => some (s.value, { r with rest })
      | '[' :: _ =>
          match asciiClass? r.rest, depth with
          | some (item, rest), _ => inside? budget depth { r with rest } (s.add item)
          | none, 0 => none
          | none, depth + 1 =>
              let (negated, inner, r) := openBrackets r
              match inside? budget depth r inner with
              | none => none
              | some (b, r) => inside? budget (depth + 1) r (s.add (.bracketed negated b))
      | '&' :: '&' :: rest => inside? budget depth { r with rest } (s.operate .intersection)
      | '-' :: '-' :: rest => inside? budget depth { r with rest } (s.operate .difference)
      | '~' :: '~' :: rest => inside? budget depth { r with rest } (s.operate .symmetricDifference)
      | _ =>
          match range? r with
          | none => none
          | some (item, r) => inside? budget depth r (s.add item)

def bracketed? (r : Reading) : Option (Written × Reading) :=
  let (negated, s, inner) := openBrackets r
  (inside? (r.rest.length + 1) nestingLimit inner s).map fun (b, r) => (.bracketed negated b, r)

/-! ## Single parts, repetitions and groups -/

/-- A part that is neither a group, a bracketed class nor a repetition. -/
def primitive? (r : Reading) : Option (Written × Reading) :=
  match r.rest with
  | [] => none
  | '\\' :: _ =>
      (escape? r.drop).map fun (piece, r) =>
        match piece with
        | .literal l => (.literal l, r)
        | .escape e => (.escape e, r)
        | .assertion a => (.assertion a, r)
  | '.' :: _ => some (.dot, r.drop)
  | '^' :: _ => some (.assertion .lineStart, r.drop)
  | '$' :: _ => some (.assertion .lineEnd, r.drop)
  | c :: _ => some (.literal ⟨c, false⟩, r.drop)

/-- Whether a repetition is greedy: a question mark makes it lazy. -/
def greed (r : Reading) : Bool × Reading :=
  match r.rest with
  | '?' :: _ => (false, r.drop)
  | _ => (true, r)

/-- How often something may be repeated at most is less than this. -/
def countBound : Nat := 2 ^ 32

/-- A decimal number below the bound with white space around it. -/
def count? (r : Reading) : Option (Nat × Reading) :=
  let r := { r with rest := r.rest.dropWhile Reading.isSpace }
  let (digits, r) := r.takeWhile fun c => '0' ≤ c && c ≤ '9'
  let (_, r) := r.takeWhile Reading.isSpace
  let n := digits.foldl (fun n c => 10 * n + (c.toNat - '0'.toNat)) 0
  if digits = [] ∨ countBound ≤ n then none else some (n, r)

def closingBrace? (r : Reading) : Option Reading :=
  match r.rest with
  | '\x7d' :: _ => some r.advance
  | _ => none

def bounds? (r : Reading) : Option ((Nat × Option Nat) × Reading) := do
  let (least, r) ← count? r.advance
  match r.rest with
  | ',' :: _ =>
      let r := r.advance
      match r.rest with
      | '\x7d' :: _ => return ((least, none), r.advance)
      | _ =>
          let (most, r) ← count? r
          let r ← closingBrace? r
          if least ≤ most then return ((least, some most), r) else none
  | _ =>
      let r ← closingBrace? r
      return ((least, some least), r)

def isLetter (c : Char) : Bool :=
  Unicode.Property.alphabetic.set.mem c.toNat

def isNumber (c : Char) : Bool :=
  (Unicode.Category.setOf [.decimalNumber, .letterNumber, .otherNumber]).mem c.toNat

/-- The name of a group up to its closing bracket. No two groups have the same
name. -/
def groupName? (r : Reading) : Option Reading :=
  let name := r.rest.takeWhile (· != '>')
  match r.rest.dropWhile (· != '>'), name with
  | _ :: rest, c :: cs =>
      let first := c == '_' || isLetter c
      let others := cs.all fun c => ['_', '.', '[', ']'].contains c || isLetter c || isNumber c
      if first && others && !r.names.contains name then
        some { r with rest := rest, names := name :: r.names }
      else none
  | _, _ => none

def Flag.ofLetter? : Char → Option Flag
  | 'i' => some .ignoreCase
  | 'm' => some .multiLine
  | 's' => some .dotAll
  | 'R' => some .carriageReturn
  | 'U' => some .swapGreed
  | 'u' => some .unicode
  | 'x' => some .freeSpacing
  | _ => none

/-- Flags up to a colon or a closing parenthesis, each letter once and one
minus sign at most, which turns the flags after it off and is not the last
sign. `seen` holds the signs so far and `changes` what they say, both latest
first; the colon or the parenthesis is left. -/
def flags? : (cs : List Char) → (on : Bool) → (seen : List Char) → FlagChanges →
    Option (FlagChanges × List Char)
  | [], _, _, _ => none
  | c :: cs, on, seen, changes =>
      if c = ':' ∨ c = ')' then
        if seen.head? = some '-' then none else some (changes.reverse, c :: cs)
      else if seen.contains c then none
      else if c = '-' then flags? cs false (c :: seen) changes
      else
        match Flag.ofLetter? c with
        | none => none
        | some f => flags? cs on (c :: seen) ((f, on) :: changes)

/-- The reading after changes of flags, of which free spacing is the one that
it goes by. -/
def Reading.change (r : Reading) (changes : FlagChanges) : Reading :=
  { r with
    free := changes.foldl (fun free (f, on) => if f = .freeSpacing then on else free) r.free }

/-- What an opening parenthesis begins: a change of flags, or a group. -/
inductive Opening where
  | change (changes : FlagChanges)
  | group (remembered : Bool) (changes : FlagChanges)

/-- Reads what stands after an opening parenthesis. Conditions on what is
ahead or behind are no part of patterns. -/
def opening? (r : Reading) : Option (Opening × Reading) :=
  let r := r.skip
  match r.rest with
  | '?' :: '=' :: _ | '?' :: '!' :: _ => none
  | '?' :: '<' :: '=' :: _ | '?' :: '<' :: '!' :: _ => none
  | '?' :: 'P' :: '<' :: cs => (groupName? { r with rest := cs }).map (.group true [], ·)
  | '?' :: '<' :: cs => (groupName? { r with rest := cs }).map (.group true [], ·)
  | '?' :: cs =>
      match flags? cs true [] [] with
      | some (changes, ')' :: rest) =>
          -- Parentheses that change no flag are no pattern.
          if changes = [] then none
          else some (.change changes, Reading.change { r with rest } changes)
      | some (changes, _ :: rest) =>
          some (.group false changes, Reading.change { r with rest } changes)
      | _ => none
  | _ => some (.group true [], r)

/-- Reads branches up to a closing parenthesis or the end of the text, with
groups up to `depth` deep. `parts` holds the parts of the branch being read
and `branches` those before it, latest first. The text that is left begins
with the parenthesis. -/
def branches? : (budget depth : Nat) → Reading → (parts branches : List Written) →
    Option (Written × Reading)
  | 0, _, _, _, _ => none
  | budget + 1, depth, r, parts, branches =>
      let r := r.skip
      let repeated (least : Nat) (most : Option Nat) (r : Reading) : Option (Written × Reading) :=
        match parts with
        | body :: parts =>
            if body.repeatable then
              let (greedy, r) := greed r
              branches? budget depth r (.repetition body least most greedy :: parts) branches
            else none
        | [] => none
      match r.rest with
      | [] | ')' :: _ =>
          some (Written.ofBranches (Written.ofParts parts.reverse :: branches).reverse, r)
      | '|' :: _ =>
          branches? budget depth r.drop [] (Written.ofParts parts.reverse :: branches)
      | '(' :: _ =>
          match opening? r.drop, depth with
          | none, _ | some (.group _ _, _), 0 => none
          | some (.change changes, r), depth =>
              branches? budget depth r (.flags changes :: parts) branches
          | some (.group remembered changes, inner), depth + 1 =>
              match branches? budget depth inner [] [] with
              | some (body, { rest := ')' :: rest, names, .. }) =>
                  branches? budget (depth + 1) { r with rest, names }
                    (.group remembered changes body :: parts) branches
              | _ => none
      | '[' :: _ =>
          match bracketed? r with
          | none => none
          | some (w, r) => branches? budget depth r (w :: parts) branches
      | '?' :: _ => repeated 0 (some 1) r.drop
      | '*' :: _ => repeated 0 none r.drop
      | '+' :: _ => repeated 1 none r.drop
      | '\x7b' :: _ =>
          match bounds? r with
          | none => none
          | some ((least, most), r) => repeated least most r
      | _ =>
          match primitive? r with
          | none => none
          | some (w, r) => branches? budget depth r (w :: parts) branches

/-- The tree of a pattern that is nested within the limit. -/
def Written.ofText? (text : List Char) : Option Written :=
  match branches? (text.length + 1) nestingLimit { rest := text } [] [] with
  | some (w, { rest := [], .. }) => if w.fits nestingLimit then some w else none
  | _ => none

end PolicyHost.Pattern
