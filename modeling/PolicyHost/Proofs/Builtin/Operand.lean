import PolicyHost.Builtin.Operand
import PolicyHost.Proofs.Json.Integers

/-!
# Integers as values and operands

An integer is a value of its own in the range from `-2 ^ 63` to `2 ^ 64 - 1`. A natural
number below a bound is read from such a value and from no other, and an operand of the
signed 64-bit range is read as itself.
-/

namespace PolicyHost.Builtin

open Json

variable {n t : Int}

theorem isInt64_iff : Number.isInt64 n = true ↔ -2 ^ 63 ≤ n ∧ n < 2 ^ 63 := by
  simp only [Number.isInt64, Bool.and_eq_true, decide_eq_true_eq]

theorem ofInt_eq (hn : -2 ^ 63 ≤ n ∧ n < 2 ^ 64) : Value.ofInt n = .number (.integer n hn) := by
  rw [Value.ofInt, Number.ofInt?, dif_pos hn, Option.getD_some]

theorem ofInt_inj (hn : -2 ^ 63 ≤ n ∧ n < 2 ^ 64) (ht : -2 ^ 63 ≤ t ∧ t < 2 ^ 64)
    (h : Value.ofInt n = Value.ofInt t) : n = t := by
  rw [ofInt_eq hn, ofInt_eq ht] at h
  cases h
  rfl

theorem natBelow?_lt {v : Value} {bound n : Nat} (h : v.natBelow? bound = some n) : n < bound := by
  rw [Value.natBelow?.eq_def] at h
  split at h
  · split at h
    · next hrange =>
        cases h
        omega
    · cases h
  · cases h

/-- The natural numbers that a value can be read as are the integers in the range. -/
theorem natBelow?_eq_some {v : Value} {bound n : Nat} (hbound : bound ≤ 2 ^ 64) :
    v.natBelow? bound = some n ↔ n < bound ∧ v = .ofInt n := by
  constructor
  · intro h
    have hn := natBelow?_lt h
    rw [Value.natBelow?.eq_def] at h
    split at h
    · next k hk =>
        split at h
        · next hrange =>
            cases h
            have hsame : ((k.toNat : Nat) : Int) = k := Int.toNat_of_nonneg hrange.1
            refine ⟨hn, ?_⟩
            rw [hsame, ofInt_eq hk]
        · cases h
    · cases h
  · rintro ⟨hn, rfl⟩
    have hrange : (0 : Int) ≤ n ∧ (n : Int) < bound := ⟨Int.natCast_nonneg n, by omega⟩
    rw [ofInt_eq (by omega), Value.natBelow?, if_pos hrange, Int.toNat_natCast]

theorem integerOperand_ofInt (hn : -2 ^ 63 ≤ n ∧ n < 2 ^ 63) {operands : List Value}
    {position : Nat} (h : operands[position]? = some (.ofInt n)) (name : String) :
    integerOperand name operands position = .ok n := by
  have hwide : -2 ^ 63 ≤ n ∧ n < 2 ^ 64 := ⟨hn.1, by omega⟩
  have hform : (Number.integer n hwide).int64? = some n := by
    rw [Number.int64?_integer hwide, if_pos hn.2]
  rw [ofInt_eq hwide] at h
  simp only [integerOperand, operand, h, bind, Except.bind, hform]

end PolicyHost.Builtin
