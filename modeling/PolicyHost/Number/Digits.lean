/-!
# Decimal digits

Natural numbers and integers as runs of the characters `0` to `9`, and back.
The main statement is that reading the digits of a number gives the number.
-/

namespace PolicyHost.Decimal

def isDigit (c : Char) : Bool :=
  '0' ≤ c && c ≤ '9'

def digitValue (c : Char) : Nat :=
  c.toNat - '0'.toNat

def digitChar (d : Nat) : Char :=
  Char.ofNat ('0'.toNat + d)

/-- The digits of a natural number, the highest first and without leading
zeros. -/
def digits (n : Nat) : List Char :=
  if n < 10 then [digitChar n] else digits (n / 10) ++ [digitChar (n % 10)]

def ofDigits (cs : List Char) : Nat :=
  cs.foldl (fun n c => 10 * n + digitValue c) 0

/-- An integer in decimal: its digits, after a minus sign if it is negative. -/
def ofInt (n : Int) : List Char :=
  if n < 0 then '-' :: digits n.natAbs else digits n.natAbs

def text (n : Nat) : String :=
  String.ofList (digits n)

def intText (n : Int) : String :=
  String.ofList (ofInt n)

theorem digitValue_digitChar {d : Nat} (h : d < 10) : digitValue (digitChar d) = d := by
  have hv : Nat.isValidChar ('0'.toNat + d) := .inl (by change 48 + d < 55296; omega)
  rw [digitValue, digitChar, Char.ofNat, dif_pos hv]
  change 48 + d - 48 = d
  omega

@[simp] theorem ofDigits_append_singleton (cs : List Char) (c : Char) :
    ofDigits (cs ++ [c]) = 10 * ofDigits cs + digitValue c := by
  simp [ofDigits]

theorem ofDigits_digits (n : Nat) : ofDigits (digits n) = n := by
  induction n using Nat.strongRecOn with
  | _ n ih =>
      rw [digits]
      split
      · next h => simp [ofDigits, digitValue_digitChar h]
      · next h =>
          rw [ofDigits_append_singleton, ih _ (by omega), digitValue_digitChar (by omega)]
          omega

end PolicyHost.Decimal
