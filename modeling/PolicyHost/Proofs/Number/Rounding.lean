import PolicyHost.Json.Number

/-!
# Rounding keeps the order

Integers are rounded to floating point numbers without changing places: of two
integers the smaller one has the smaller key, or both have the same. The
magnitude of an integer with `b + 1` binary digits lies between two bounds that
depend on `b` alone (`magnitude_bounds`), and the upper bound of one length is
at most the lower bound of the next. So only integers of one length have to be
compared, and these are rounded by one quotient.
-/

namespace PolicyHost

namespace Binary64

theorem roundQuotient_bounds (num den : Nat) :
    num / den ≤ roundQuotient num den ∧ roundQuotient num den ≤ num / den + 1 := by
  simp only [roundQuotient]
  have hparity : num / den % 2 < 2 := Nat.mod_lt _ (by decide)
  split
  · omega
  · split <;> omega

/-- A greater numerator is not rounded to a smaller integer. -/
theorem roundQuotient_mono {num num' : Nat} (den : Nat) (h : num ≤ num') :
    roundQuotient num den ≤ roundQuotient num' den := by
  have hquotients : num / den ≤ num' / den := Nat.div_le_div_right h
  rcases Nat.lt_or_eq_of_le hquotients with hlt | heq
  · have hupper := (roundQuotient_bounds num den).2
    have hlower := (roundQuotient_bounds num' den).1
    omega
  · have hsplit := Nat.div_add_mod num den
    have hsplit' := Nat.div_add_mod num' den
    rw [← heq] at hsplit'
    have hremainders : num % den ≤ num' % den := by omega
    have hparity : num / den % 2 < 2 := Nat.mod_lt _ (by decide)
    simp only [roundQuotient]
    rw [← heq]
    split <;> split <;> (try split) <;> (try split) <;> omega

theorem roundQuotient_one (n : Nat) : roundQuotient n 1 = n := by
  simp [roundQuotient, Nat.mod_one]

/-- The integer that the magnitude of `n` ends in, where `n` has `b + 1` binary
digits. -/
def rounded (b n : Nat) : Nat :=
  if b < 52 then n * 2 ^ (52 - b) else roundQuotient n (2 ^ (b - 52))

theorem scaleOf_one {n : Nat} (h : n ≠ 0) : scaleOf n 1 = (n.log2 : Int) - 52 := by
  have hone : Nat.log2 1 = 0 := by decide
  have hreached : 1 * 2 ^ ((n.log2 : Int) - (0 : Nat)).toNat ≤ n := by
    have hself := Nat.log2_self_le h
    simpa using hself
  have hnonneg : ¬ ((n.log2 : Int) - (0 : Nat) < 0) := by omega
  simp only [scaleOf, hone]
  rw [if_neg hnonneg, decide_eq_true hreached, if_pos rfl]
  omega

theorem nearestMagnitude_one {n : Nat} (h : n ≠ 0) :
    nearestMagnitude n 1 = (n.log2 + 1022) * 2 ^ 52 + rounded n.log2 n := by
  have hexponent : ((n.log2 : Int) - 52 + 1074).toNat = n.log2 + 1022 := by omega
  simp only [nearestMagnitude, scaleOf_one h, rounded]
  rw [if_neg h, hexponent]
  by_cases hb : n.log2 < 52
  · have hshift : (-((n.log2 : Int) - 52)).toNat = 52 - n.log2 := by omega
    rw [if_pos (by omega), if_pos hb, hshift, roundQuotient_one]
  · have hshift : ((n.log2 : Int) - 52).toNat = n.log2 - 52 := by omega
    rw [if_neg (by omega), if_neg hb, hshift, Nat.one_mul]

theorem pow_mul_pow {a b c : Nat} (h : a + b = c) : 2 ^ a * 2 ^ b = 2 ^ c := by
  rw [← h, Nat.pow_add]

theorem rounded_bounds {n : Nat} (h : n ≠ 0) :
    2 ^ 52 ≤ rounded n.log2 n ∧ rounded n.log2 n ≤ 2 ^ 53 := by
  have hlower := Nat.log2_self_le h
  have hupper := Nat.lt_log2_self (n := n)
  rw [rounded]
  by_cases hb : n.log2 < 52
  · rw [if_pos hb]
    constructor
    · rw [← pow_mul_pow (show n.log2 + (52 - n.log2) = 52 by omega)]
      exact Nat.mul_le_mul_right _ hlower
    · rw [← pow_mul_pow (show n.log2 + 1 + (52 - n.log2) = 53 by omega)]
      exact Nat.mul_le_mul_right _ (Nat.le_of_lt hupper)
  · have hpositive : 0 < 2 ^ (n.log2 - 52) := Nat.two_pow_pos _
    have hquotient : 2 ^ 52 ≤ n / 2 ^ (n.log2 - 52) := by
      rw [Nat.le_div_iff_mul_le hpositive, pow_mul_pow (show 52 + (n.log2 - 52) = n.log2 by omega)]
      exact hlower
    have hquotient' : n / 2 ^ (n.log2 - 52) < 2 ^ 53 := by
      rw [Nat.div_lt_iff_lt_mul hpositive,
        pow_mul_pow (show 53 + (n.log2 - 52) = n.log2 + 1 by omega)]
      exact hupper
    obtain ⟨hleast, hmost⟩ := roundQuotient_bounds n (2 ^ (n.log2 - 52))
    rw [if_neg hb]
    omega

/-- The magnitude of an integer lies between two bounds that its number of
binary digits decides. -/
theorem magnitude_bounds {n : Nat} (h : n ≠ 0) :
    (n.log2 + 1023) * 2 ^ 52 ≤ nearestMagnitude n 1 ∧
      nearestMagnitude n 1 ≤ (n.log2 + 1024) * 2 ^ 52 := by
  obtain ⟨hlower, hupper⟩ := rounded_bounds h
  rw [nearestMagnitude_one h]
  omega

theorem rounded_mono {n m : Nat} (b : Nat) (h : n ≤ m) : rounded b n ≤ rounded b m := by
  rw [rounded, rounded]
  split
  · exact Nat.mul_le_mul_right _ h
  · exact roundQuotient_mono _ h

theorem log2_mono {n m : Nat} (hn : n ≠ 0) (h : n ≤ m) : n.log2 ≤ m.log2 := by
  have hm : m ≠ 0 := by omega
  rw [Nat.le_log2 hm]
  exact Nat.le_trans (Nat.log2_self_le hn) h

/-- A greater integer does not get a smaller magnitude. -/
theorem nearestMagnitude_mono {n m : Nat} (h : n ≤ m) :
    nearestMagnitude n 1 ≤ nearestMagnitude m 1 := by
  by_cases hn : n = 0
  · rw [hn]
    exact Nat.zero_le _
  · have hm : m ≠ 0 := by omega
    rcases Nat.lt_or_eq_of_le (log2_mono hn h) with hlt | heq
    · have hupper := (magnitude_bounds hn).2
      have hlower := (magnitude_bounds hm).1
      omega
    · rw [nearestMagnitude_one hn, nearestMagnitude_one hm, heq]
      exact Nat.add_le_add_left (rounded_mono _ h) _

theorem nearestMagnitude_finite {n : Nat} (h : n < 2 ^ 64) :
    nearestMagnitude n 1 < 2047 * 2 ^ 52 := by
  by_cases hn : n = 0
  · rw [hn]
    decide
  · have hlength : n.log2 < 64 := (Nat.log2_lt hn).mpr h
    have hupper := (magnitude_bounds hn).2
    omega

/-- Different numbers have different keys. -/
theorem key_inj {x y : Binary64} : x.key = y.key ↔ x = y := by
  constructor
  · intro h
    obtain ⟨negative, magnitude, hlt⟩ := x
    obtain ⟨negative', magnitude', hlt'⟩ := y
    simp only [key] at h
    cases negative <;> cases negative' <;> simp at h ⊢ <;> omega
  · intro h
    rw [h]

end Binary64

namespace Json.Number

/-- The key of an integer's floating point form. -/
theorem key_integer (n : Int) (h : -2 ^ 63 ≤ n ∧ n < 2 ^ 64) :
    (integer n h).toBinary64.key =
      if n < 0 then -1 - (Binary64.nearestMagnitude n.natAbs 1 : Int)
      else Binary64.nearestMagnitude n.natAbs 1 := by
  have hfinite : Binary64.nearestMagnitude n.natAbs 1 < 2047 * 2 ^ 52 :=
    Binary64.nearestMagnitude_finite (by omega)
  rw [toBinary64, Binary64.ofInt?, Binary64.ofRatio?, dif_pos hfinite]
  simp [Binary64.key]

/-- Rounding keeps the order of integers. -/
theorem key_mono {m n : Int} (hm : -2 ^ 63 ≤ m ∧ m < 2 ^ 64) (hn : -2 ^ 63 ≤ n ∧ n < 2 ^ 64)
    (h : m ≤ n) : (integer m hm).toBinary64.key ≤ (integer n hn).toBinary64.key := by
  rw [key_integer, key_integer]
  by_cases hnegative : n < 0
  · have hsizes := Binary64.nearestMagnitude_mono (show n.natAbs ≤ m.natAbs by omega)
    rw [if_pos hnegative, if_pos (by omega)]
    omega
  · by_cases hnegative' : m < 0
    · rw [if_neg hnegative, if_pos hnegative']
      omega
    · have hsizes := Binary64.nearestMagnitude_mono (show m.natAbs ≤ n.natAbs by omega)
      rw [if_neg hnegative, if_neg hnegative']
      omega

end Json.Number

end PolicyHost
