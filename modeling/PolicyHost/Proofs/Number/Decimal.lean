import Mathlib.Data.List.TakeWhile
import PolicyHost.Number.Notation
import PolicyHost.Proofs.Json.Integers
import PolicyHost.Proofs.Json.Literal

/-!
# Integers in decimal

An integer is read back from its decimal text, also when zeros stand in front of its
digits (`integer?_padded`), so different integers have different texts (`ofInt_inj`).
As a floating point number the same text is read as the nearest one
(`real?_padded`), and a floating point number that is an integer is written without a
rounding of its own (`fixed_zero`).
-/

namespace PolicyHost.Decimal

variable {n : Int}

/-- An integer in decimal, with zeros between its sign and its digits. -/
def padded (zeros : Nat) (n : Int) : List Char :=
  (if n < 0 then ['-'] else []) ++ (List.replicate zeros '0' ++ digits n.natAbs)

theorem padded_zero (n : Int) : padded 0 n = ofInt n := by
  rw [padded, ofInt, List.replicate_zero, List.nil_append]
  split <;> rfl

theorem isDigit_of_mem_padding {zeros n : Nat} {c : Char}
    (h : c ∈ List.replicate zeros '0' ++ digits n) : isDigit c = true := by
  rcases List.mem_append.mp h with hzero | hdigit
  · rw [List.eq_of_mem_replicate hzero]
    rfl
  · exact isDigit_of_mem_digits hdigit

theorem digits_ne_nil (n : Nat) : digits n ≠ [] := by
  rcases digits_head n with ⟨-, h⟩ | ⟨c, cs, h, -⟩
  · rw [h]
    exact List.cons_ne_nil _ _
  · rw [h]
    exact List.cons_ne_nil _ _

theorem padding_ne_nil (zeros n : Nat) : List.replicate zeros '0' ++ digits n ≠ [] :=
  List.append_ne_nil_of_right_ne_nil _ (digits_ne_nil n)

theorem ofDigits_padding (zeros n : Nat) : ofDigits (List.replicate zeros '0' ++ digits n) = n := by
  induction zeros with
  | zero => exact ofDigits_digits n
  | succ zeros ih => exact ih

/-- A number below a power of ten has no more digits than that power has zeros. -/
theorem length_digits_le {k n : Nat} (h : n < 10 ^ (k + 1)) : (digits n).length ≤ k + 1 := by
  induction k generalizing n with
  | zero =>
      have hsingle : n < 10 := h
      rw [digits, if_pos hsingle]
      exact Nat.le_refl 1
  | succ k ih =>
      rw [digits]
      split
      · exact Nat.le_add_left 1 _
      · rw [List.length_append]
        exact Nat.succ_le_succ (ih (by omega))

/-! ## Reading -/

theorem takeSign_of_digits {ds : List Char} (h : ∀ d ∈ ds, isDigit d = true) :
    takeSign ds = (false, ds) := by
  rw [takeSign.eq_def]
  split
  · exact absurd (h '-' List.mem_cons_self) (by decide)
  · exact absurd (h '+' List.mem_cons_self) (by decide)
  · rfl

theorem takeSign_padded (zeros : Nat) (n : Int) :
    takeSign (padded zeros n) =
      (decide (n < 0), List.replicate zeros '0' ++ digits n.natAbs) := by
  rw [padded]
  by_cases hn : n < 0
  · rw [if_pos hn, decide_eq_true hn]
    rfl
  · rw [if_neg hn, decide_eq_false hn]
    exact takeSign_of_digits fun _ => isDigit_of_mem_padding

/-- An integer is read back from its text, whatever zeros are in front of it. -/
theorem integer?_padded (zeros : Nat) (n : Int) : integer? (padded zeros n) = some n := by
  have hdigits : (List.replicate zeros '0' ++ digits n.natAbs).all isDigit = true :=
    List.all_eq_true.mpr fun _ => isDigit_of_mem_padding
  have hread : ¬ (List.replicate zeros '0' ++ digits n.natAbs = [] ∨
      ¬ (List.replicate zeros '0' ++ digits n.natAbs).all isDigit = true) := by
    rw [not_or]
    exact ⟨padding_ne_nil zeros n.natAbs, not_not_intro hdigits⟩
  rw [integer?, takeSign_padded]
  simp only [if_neg hread, ofDigits_padding, decide_eq_true_eq, Option.some.injEq]
  split <;> omega

theorem ofInt_inj {m : Int} (h : ofInt m = ofInt n) : m = n := by
  rw [← padded_zero, ← padded_zero] at h
  have hread := integer?_padded 0 m
  rw [h, integer?_padded] at hread
  exact (Option.some.inj hread).symm

/-- A natural number of 64 bits is far from the range that is decided by length. -/
theorem nearest?_natural (negative : Bool) {m : Nat} (h : m < 2 ^ 64) :
    Binary64.nearest? negative m 0 = Binary64.ofRatio? negative m 1 := by
  by_cases hm : m = 0
  · rw [hm]
    rfl
  · have hlength := length_digits_le (k := 19) (n := m) (by omega)
    rw [Binary64.nearest?, if_neg hm]
    simp only [Int.add_zero]
    rw [if_neg (by omega), if_neg (by omega), if_neg (Int.lt_irrefl 0)]
    exact congrArg (Binary64.ofRatio? negative · 1) (Nat.mul_one m)

/-- As a floating point number the text of an integer of 64 bits is the nearest one. -/
theorem real?_padded (zeros : Nat) (hn : -2 ^ 63 ≤ n ∧ n < 2 ^ 64) :
    real? (padded zeros n) = some (Binary64.ofInt? n) := by
  have hwhole : takeDigits (List.replicate zeros '0' ++ digits n.natAbs) =
      (List.replicate zeros '0' ++ digits n.natAbs, []) := by
    rw [takeDigits, List.takeWhile_eq_self_iff.mpr fun _ => isDigit_of_mem_padding,
      List.dropWhile_eq_nil_iff.mpr fun _ => isDigit_of_mem_padding]
  rw [real?, takeSign_padded]
  simp only [hwhole, exponent?, padding_ne_nil, false_and, if_false, List.append_nil,
    ofDigits_padding, Option.map_some, List.length_nil]
  exact congrArg some (nearest?_natural _ (by omega))

end PolicyHost.Decimal

namespace PolicyHost.Binary64

/-- A floating point number that is an integer is written as that integer when it is
written without places. -/
theorem fixed_zero {x : Binary64} {a : Int} (h : x.toInt? = some a) :
    x.fixed 0 = x.sign ++ Decimal.digits a.natAbs := by
  have hnumerator := (numerator_of_toInt? h).1
  have hrounded : roundQuotient (x.numerator * 10 ^ 0) x.denominator = a.natAbs := by
    rw [Nat.pow_zero, Nat.mul_one, hnumerator, roundQuotient_mul_self _ x.denominator_pos]
  have hpositive := List.length_pos_iff.mpr (Decimal.digits_ne_nil a.natAbs)
  have hnone : 0 + 1 - (Decimal.digits a.natAbs).length = 0 := by omega
  simp only [fixed, hrounded, hnone, List.replicate_zero, List.nil_append, Nat.sub_zero,
    List.take_length, if_true, List.append_nil]

theorem isIntegral_of_toInt? {x : Binary64} {a : Int} (h : x.toInt? = some a) :
    x.isIntegral = true := by
  rw [toInt?] at h
  split at h
  · assumption
  · cases h

end PolicyHost.Binary64

namespace PolicyHost.Json.Number

variable {n : Int}

theorem ofInt?_eq (hn : -2 ^ 63 ≤ n ∧ n < 2 ^ 64) :
    Binary64.ofInt? n = some (integer n hn).toBinary64 := by
  have hfinite : Binary64.nearestMagnitude n.natAbs 1 < 2047 * 2 ^ 52 :=
    Binary64.nearestMagnitude_finite (by omega)
  rw [toBinary64, Binary64.ofInt?, Binary64.ofRatio?, dif_pos hfinite]
  rfl

theorem negative_integer (hn : -2 ^ 63 ≤ n ∧ n < 2 ^ 64) :
    (integer n hn).toBinary64.negative = decide (n < 0) := by
  have hform := ofInt?_eq hn
  rw [Binary64.ofInt?, Binary64.ofRatio?] at hform
  split at hform
  · rw [← Option.some.inj hform]
  · cases hform

end PolicyHost.Json.Number
