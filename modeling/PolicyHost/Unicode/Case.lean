import PolicyHost.Unicode.CaseTable
import PolicyHost.Unicode.Derived

/-!
# Upper and lower case

The full case mappings of texts, independent of language. A character may
become several. One mapping depends on what stands around: a capital sigma
that ends a word becomes the final form of the small letter.
-/

namespace PolicyHost.Unicode

def lowerChar (c : Char) : List Char :=
  let n := c.toNat
  if n < 0x80 then [if 'A' ≤ c ∧ c ≤ 'Z' then Char.ofNat (n + 32) else c]
  -- The dotted capital I becomes two characters.
  else if n = 0x130 then ['i', Char.ofNat 0x307]
  else
    match lowerRuns.find? (·.covers n) with
    | some run => [Char.ofNat ((n : Int) + run.shift).toNat]
    | none => [c]

def upperChar (c : Char) : List Char :=
  let n := c.toNat
  if n < 0x80 then [if 'a' ≤ c ∧ c ≤ 'z' then Char.ofNat (n - 32) else c]
  else
    match upperSequences.lookup n with
    | some ns => ns.map Char.ofNat
    | none =>
        match upperRuns.find? (·.covers n) with
        | some run => [Char.ofNat ((n : Int) + run.shift).toNat]
        | none => [c]

def capitalSigma : Char := Char.ofNat 0x3a3

/-- Whether the first character that is not passed over for case is a letter
with case. -/
def meetsCased (ignorable cased : CharSet) (cs : List Char) : Bool :=
  match cs.dropWhile (fun c => ignorable.mem c.toNat) with
  | c :: _ => cased.mem c.toNat
  | [] => false

/-- The small sigma for a capital one: the final form after a letter with
case and before none, where some characters are passed over. `before` is
read backwards. -/
def smallSigma (ignorable cased : CharSet) (before after : List Char) : Char :=
  if meetsCased ignorable cased before && !meetsCased ignorable cased after then Char.ofNat 0x3c2
  else Char.ofNat 0x3c3

/-- The lower case of a text whose part `before` is already passed and whose
lower case so far is `done`; both are kept latest first. -/
def toLower.go (ignorable cased : CharSet) : (cs before done : List Char) → List Char
  | [], _, done => done.reverse
  | c :: cs, before, done =>
      let mapped :=
        if c = capitalSigma then [smallSigma ignorable cased before cs] else lowerChar c
      go ignorable cased cs (c :: before) (mapped.reverse ++ done)

def toLower (cs : List Char) : List Char :=
  if cs.contains capitalSigma then
    toLower.go Property.caseIgnorable.set Property.cased.set cs [] []
  else cs.flatMap lowerChar

def toUpper (cs : List Char) : List Char :=
  cs.flatMap upperChar

end PolicyHost.Unicode
