import PolicyHost.Proofs.Number.Rounding

/-!
# The floating point number nearest to an integer

An integer is rounded to 53 binary digits: to the nearest multiple of what the
last of them counts, a tie to the even one. `nearestInt` says this in integers,
without a word on exponents and encodings, and the main statements of this
module say that it is what rounding does: the floating point form of an integer
is the integer that `nearestInt` gives (`toInt?_ofRatio?`), there is none exactly
when that integer is too large (`nearestMagnitude_lt_iff`), and two integers have
the same form exactly when `nearestInt` gives the same for both.

What stands between the two is one equation, `nearestNat_scaled`. It holds for
integers of all lengths, those that are written out in full and those that are
rounded, so nothing after it has to tell them apart.
-/

namespace PolicyHost

namespace Binary64

/-- What the last of the 53 leading binary digits of a number counts, and one for
a number with fewer digits. -/
def unit (n : Nat) : Nat :=
  2 ^ (n.log2 - 52)

/-- The nearest number with at most 53 binary digits before its trailing zeros; a
tie goes to the even multiple of the unit. -/
def nearestNat (n : Nat) : Nat :=
  roundQuotient n (unit n) * unit n

/-- The integer nearest to `n` that is a floating point number, if the range of
exponents is left out of account. -/
def nearestInt (n : Int) : Int :=
  n.sign * nearestNat n.natAbs

/-- The integer nearest to `n` that is a floating point number, if it is finite:
if it has at most 1024 binary digits. -/
def nearestInt? (n : Int) : Option Int :=
  if (nearestNat n.natAbs).log2 < 1024 then some (nearestInt n) else none

/-! ## Rounding quotients -/

theorem roundQuotient_mul_right (num den : Nat) {k : Nat} (h : 0 < k) :
    roundQuotient (num * k) (den * k) = roundQuotient num den := by
  have hmod : 2 * (num % den * k) = 2 * (num % den) * k := (Nat.mul_assoc _ _ _).symm
  have hlt : den * k < 2 * (num % den) * k ↔ den < 2 * (num % den) := Nat.mul_lt_mul_right h
  have heq : 2 * (num % den) * k = den * k ↔ 2 * (num % den) = den := Nat.mul_left_inj (by omega)
  simp only [roundQuotient]
  rw [Nat.mul_div_mul_right _ _ h, Nat.mul_mod_mul_right, hmod]
  simp only [hlt, heq]

theorem roundQuotient_mul_self (q : Nat) {den : Nat} (h : 0 < den) :
    roundQuotient (q * den) den = q := by
  have hone := roundQuotient_mul_right q 1 h
  rwa [Nat.one_mul, roundQuotient_one] at hone

/-- A rounded quotient is off by at most one half. -/
theorem roundQuotient_error (num : Nat) {den : Nat} (h : 0 < den) :
    2 * (roundQuotient num den * den) ≤ 2 * num + den ∧
      2 * num ≤ 2 * (roundQuotient num den * den) + den := by
  have hsplit := Nat.div_add_mod num den
  have hless := Nat.mod_lt num h
  have hnext : (num / den + 1) * den = den * (num / den) + den := by
    rw [Nat.succ_mul, Nat.mul_comm]
  have hself : num / den * den = den * (num / den) := Nat.mul_comm _ _
  have hparity : num / den % 2 = 0 ∨ num / den % 2 = 1 := Nat.mod_two_eq_zero_or_one _
  simp only [roundQuotient]
  split
  · rw [hnext]
    omega
  · split
    · rcases hparity with heven | hodd
      · rw [heven, Nat.add_zero, hself]
        omega
      · rw [hodd, hnext]
        omega
    · rw [hself]
      omega

/-! ## Natural numbers -/

variable {n m : Nat}

theorem unit_pos (n : Nat) : 0 < unit n :=
  Nat.two_pow_pos _

theorem nearestNat_of_short (h : n.log2 ≤ 52) : nearestNat n = n := by
  have hunit : unit n = 1 := by
    rw [unit, Nat.sub_eq_zero_of_le h]
    rfl
  rw [nearestNat, hunit, roundQuotient_one, Nat.mul_one]

theorem nearestNat_zero : nearestNat 0 = 0 :=
  nearestNat_of_short (by decide)

/-- The number that is rounded to, against the 53 digits that a magnitude ends
in. One of the two powers is always one. -/
theorem nearestNat_scaled (n : Nat) :
    nearestNat n * 2 ^ (52 - n.log2) = rounded n.log2 n * 2 ^ (n.log2 - 52) := by
  by_cases hb : n.log2 < 52
  · rw [nearestNat_of_short (by omega), rounded, if_pos hb,
      Nat.sub_eq_zero_of_le (show n.log2 ≤ 52 by omega), Nat.pow_zero, Nat.mul_one]
  · rw [rounded, if_neg hb, nearestNat, unit, Nat.sub_eq_zero_of_le (show 52 ≤ n.log2 by omega),
      Nat.pow_zero, Nat.mul_one]

theorem pow_mul_pow_eq {a b c d : Nat} (h : a + b = c + d) : 2 ^ a * 2 ^ b = 2 ^ c * 2 ^ d := by
  rw [pow_mul_pow h, pow_mul_pow rfl]

/-- Rounding keeps a number among those of its length, the next power of two
included. -/
theorem nearestNat_bounds (h : n ≠ 0) :
    2 ^ n.log2 ≤ nearestNat n ∧ nearestNat n ≤ 2 ^ (n.log2 + 1) := by
  obtain ⟨hlower, hupper⟩ := rounded_bounds h
  have hleast : 2 ^ n.log2 * 2 ^ (52 - n.log2) = 2 ^ 52 * 2 ^ (n.log2 - 52) :=
    pow_mul_pow_eq (by omega)
  have hgreatest : 2 ^ (n.log2 + 1) * 2 ^ (52 - n.log2) = 2 ^ 53 * 2 ^ (n.log2 - 52) :=
    pow_mul_pow_eq (by omega)
  constructor
  · refine Nat.le_of_mul_le_mul_right ?_ (Nat.two_pow_pos (52 - n.log2))
    rw [hleast, nearestNat_scaled]
    exact Nat.mul_le_mul_right _ hlower
  · refine Nat.le_of_mul_le_mul_right ?_ (Nat.two_pow_pos (52 - n.log2))
    rw [hgreatest, nearestNat_scaled]
    exact Nat.mul_le_mul_right _ hupper

theorem nearestNat_ne_zero (h : n ≠ 0) : nearestNat n ≠ 0 := by
  have hlower := (nearestNat_bounds h).1
  have hpositive := Nat.two_pow_pos n.log2
  omega

/-- The number that is rounded to has the same length, or a digit is carried. -/
theorem nearestNat_cases (h : n ≠ 0) :
    (rounded n.log2 n < 2 ^ 53 ∧ (nearestNat n).log2 = n.log2) ∨
      (rounded n.log2 n = 2 ^ 53 ∧ nearestNat n = 2 ^ (n.log2 + 1)) := by
  have hscaled := nearestNat_scaled n
  have hgreatest : 2 ^ (n.log2 + 1) * 2 ^ (52 - n.log2) = 2 ^ 53 * 2 ^ (n.log2 - 52) :=
    pow_mul_pow_eq (by omega)
  rcases Nat.lt_or_eq_of_le (rounded_bounds h).2 with hlt | heq
  · have hshorter : nearestNat n < 2 ^ (n.log2 + 1) := by
      refine Nat.lt_of_mul_lt_mul_right (a := 2 ^ (52 - n.log2)) ?_
      rw [hscaled, hgreatest]
      exact Nat.mul_lt_mul_of_pos_right hlt (Nat.two_pow_pos _)
    exact Or.inl ⟨hlt, (Nat.log2_eq_iff (nearestNat_ne_zero h)).mpr
      ⟨(nearestNat_bounds h).1, hshorter⟩⟩
  · refine Or.inr ⟨heq, Nat.eq_of_mul_eq_mul_right (Nat.two_pow_pos (52 - n.log2)) ?_⟩
    rw [hscaled, heq, hgreatest]

theorem nearestNat_le_double (n : Nat) : nearestNat n ≤ 2 * n := by
  by_cases hn : n = 0
  · simp only [hn, nearestNat_zero, Nat.zero_le]
  · have hself := Nat.log2_self_le hn
    have hupper := (nearestNat_bounds hn).2
    rw [Nat.pow_succ] at hupper
    omega

theorem nearestNat_mono (h : n ≤ m) : nearestNat n ≤ nearestNat m := by
  by_cases hn : n = 0
  · rw [hn, nearestNat_zero]
    exact Nat.zero_le _
  · have hm : m ≠ 0 := by omega
    rcases Nat.lt_or_eq_of_le (log2_mono hn h) with hlt | heq
    · calc nearestNat n ≤ 2 ^ (n.log2 + 1) := (nearestNat_bounds hn).2
        _ ≤ 2 ^ m.log2 := Nat.pow_le_pow_right (by decide) hlt
        _ ≤ nearestNat m := (nearestNat_bounds hm).1
    · rw [nearestNat, nearestNat, unit, unit, heq]
      exact Nat.mul_le_mul_right _ (roundQuotient_mono _ h)

/-- Rounding is off by at most half a unit. -/
theorem nearestNat_error (n : Nat) :
    2 * nearestNat n ≤ 2 * n + unit n ∧ 2 * n ≤ 2 * nearestNat n + unit n :=
  roundQuotient_error n (unit_pos n)

theorem nearestNat_two_pow (k : Nat) : nearestNat (2 ^ k) = 2 ^ k := by
  have hsplit : 2 ^ (k - (k - 52)) * 2 ^ (k - 52) = 2 ^ k := pow_mul_pow (by omega)
  rw [nearestNat, unit, Nat.log2_two_pow]
  rw [← hsplit, roundQuotient_mul_self _ (Nat.two_pow_pos _)]

theorem nearestNat_idem (n : Nat) : nearestNat (nearestNat n) = nearestNat n := by
  by_cases hn : n = 0
  · rw [hn, nearestNat_zero, nearestNat_zero]
  · rcases nearestNat_cases hn with ⟨-, hlength⟩ | ⟨-, hcarry⟩
    · -- The unit is the same, and the first rounding came to a multiple of it.
      have hunit : unit (nearestNat n) = unit n := by rw [unit, unit, hlength]
      rw [nearestNat, hunit]
      exact congrArg (· * unit n) (roundQuotient_mul_self _ (unit_pos n))
    · rw [hcarry, nearestNat_two_pow]

theorem log2_lt_of_lt {k : Nat} (hk : 0 < k) (h : n < 2 ^ k) : n.log2 < k := by
  by_cases hn : n = 0
  · rw [hn]
    exact hk
  · exact (Nat.log2_lt hn).mpr h

/-! ## Magnitudes -/

/-- The quotient that a number is, where its magnitude is written with 53 digits
or with one more digit that was carried. -/
theorem numerator_of_magnitude {x : Binary64} {b r : Nat}
    (h : x.magnitude = (b + 1022) * 2 ^ 52 + r) (hlower : 2 ^ 52 ≤ r) (hupper : r ≤ 2 ^ 53) :
    x.numerator * 2 ^ (52 - b) = r * 2 ^ (b - 52) * x.denominator := by
  have hnormal : ¬ x.magnitude < 2 ^ 52 := by omega
  rcases Nat.lt_or_eq_of_le hupper with hlt | heq
  · have hsignificand : x.significand = r := by
      rw [significand, if_neg hnormal]
      omega
    have hexponent : x.exponent = (b : Int) - 52 := by
      rw [exponent]
      omega
    have hup : ((b : Int) - 52).toNat = b - 52 := by omega
    have hdown : (-((b : Int) - 52)).toNat = 52 - b := by omega
    rw [numerator, denominator, hsignificand, hexponent, hup, hdown]
  · have hsignificand : x.significand = 2 ^ 52 := by
      rw [significand, if_neg hnormal]
      omega
    have hexponent : x.exponent = (b : Int) - 51 := by
      rw [exponent]
      omega
    have hup : ((b : Int) - 51).toNat = b - 51 := by omega
    have hdown : (-((b : Int) - 51)).toNat = 51 - b := by omega
    rw [numerator, denominator, hsignificand, hexponent, hup, hdown, heq,
      pow_mul_pow (a := 52) rfl, pow_mul_pow (a := 53) rfl]
    exact pow_mul_pow_eq (by omega)

theorem numerator_of_nearest {x : Binary64} (h : x.magnitude = nearestMagnitude n 1) :
    x.numerator = nearestNat n * x.denominator := by
  by_cases hn : n = 0
  · have hzero : x.magnitude = 0 := by rw [h, hn]; rfl
    have hsignificand : x.significand = 0 := by
      rw [significand, hzero]
      rfl
    rw [numerator, hsignificand, hn, nearestNat_zero, Nat.zero_mul, Nat.zero_mul]
  · obtain ⟨hlower, hupper⟩ := rounded_bounds hn
    rw [nearestMagnitude_one hn] at h
    have hratio := numerator_of_magnitude h hlower hupper
    rw [← nearestNat_scaled, Nat.mul_right_comm] at hratio
    exact Nat.eq_of_mul_eq_mul_right (Nat.two_pow_pos _) hratio

/-- The magnitude is that of a finite number exactly when the nearest integer has
at most 1024 binary digits. -/
theorem nearestMagnitude_lt_iff (n : Nat) :
    nearestMagnitude n 1 < 2047 * 2 ^ 52 ↔ (nearestNat n).log2 < 1024 := by
  by_cases hn : n = 0
  · rw [hn, nearestNat_zero]
    exact iff_of_true (by decide) (by decide)
  · have hleast := (rounded_bounds hn).1
    rw [nearestMagnitude_one hn]
    rcases nearestNat_cases hn with ⟨hdigits, hlength⟩ | ⟨hdigits, hcarry⟩
    · rw [hlength]
      omega
    · rw [hcarry, Nat.log2_two_pow]
      omega

theorem log2_mul_two_pow (h : n ≠ 0) (k : Nat) : (n * 2 ^ k).log2 = n.log2 + k := by
  have hpositive : 0 < 2 ^ k := Nat.two_pow_pos k
  rw [Nat.log2_eq_iff (Nat.mul_ne_zero h (by omega)), Nat.pow_add, Nat.add_right_comm,
    Nat.pow_add 2 (n.log2 + 1)]
  exact ⟨Nat.mul_le_mul_right _ (Nat.log2_self_le h),
    Nat.mul_lt_mul_of_pos_right Nat.lt_log2_self hpositive⟩

theorem scaleOf_over (h : n ≠ 0) (k : Nat) : scaleOf (n * 2 ^ k) (2 ^ k) = scaleOf n 1 := by
  have hbits : ((n.log2 + k : Nat) : Int) - (k : Nat) = n.log2 := by omega
  have hnonneg : ¬ ((n.log2 : Int) < 0) := by omega
  have hreached : 2 ^ k * 2 ^ (n.log2 : Int).toNat ≤ n * 2 ^ k := by
    rw [Int.toNat_natCast, Nat.mul_comm]
    exact Nat.mul_le_mul_right _ (Nat.log2_self_le h)
  rw [scaleOf_one h]
  simp only [scaleOf, log2_mul_two_pow h, Nat.log2_two_pow, hbits]
  rw [if_neg hnonneg, decide_eq_true hreached, if_pos rfl]
  omega

/-- Rounding an integer depends on the integer alone and not on the denominator
that it is written over. -/
theorem nearestMagnitude_over (n k : Nat) :
    nearestMagnitude (n * 2 ^ k) (2 ^ k) = nearestMagnitude n 1 := by
  have hpositive : 0 < 2 ^ k := Nat.two_pow_pos k
  by_cases hn : n = 0
  · rw [hn, Nat.zero_mul, nearestMagnitude, nearestMagnitude, if_pos rfl, if_pos rfl]
  · simp only [nearestMagnitude, scaleOf_over hn]
    rw [if_neg (Nat.mul_ne_zero hn (by omega)), if_neg hn]
    refine congrArg (Nat.add _) ?_
    split
    · rw [Nat.mul_right_comm]
      simpa using roundQuotient_mul_right (n * 2 ^ (-scaleOf n 1).toNat) 1 hpositive
    · rw [Nat.mul_comm (2 ^ k) _, Nat.one_mul]
      exact roundQuotient_mul_right _ _ hpositive

theorem nearestMagnitude_nearestNat (n : Nat) :
    nearestMagnitude (nearestNat n) 1 = nearestMagnitude n 1 := by
  by_cases hn : n = 0
  · rw [hn, nearestNat_zero]
  · have hagain := nearestNat_scaled (nearestNat n)
    rw [nearestNat_idem] at hagain
    rw [nearestMagnitude_one hn, nearestMagnitude_one (nearestNat_ne_zero hn)]
    rcases nearestNat_cases hn with ⟨-, hlength⟩ | ⟨hdigits, hcarry⟩
    · have hscaled := nearestNat_scaled n
      rw [hlength] at hagain ⊢
      rw [Nat.eq_of_mul_eq_mul_right (Nat.two_pow_pos _) (hagain.symm.trans hscaled)]
    · -- A carry makes the number one digit longer and leaves the least 53 digits.
      have hleast : rounded (n.log2 + 1) (2 ^ (n.log2 + 1)) = 2 ^ 52 := by
        rw [hcarry, Nat.log2_two_pow] at hagain
        refine Nat.eq_of_mul_eq_mul_right (Nat.two_pow_pos (n.log2 + 1 - 52)) ?_
        rw [← hagain]
        exact pow_mul_pow_eq (by omega)
      rw [hcarry, Nat.log2_two_pow, hleast, hdigits]
      omega

/-! ## Integers -/

theorem natAbs_nearestInt (n : Int) : (nearestInt n).natAbs = nearestNat n.natAbs := by
  rw [nearestInt, Int.natAbs_mul, Int.natAbs_sign, Int.natAbs_natCast]
  split
  · next h => rw [h, Int.natAbs_zero, nearestNat_zero]
  · exact Nat.one_mul _

theorem nearestInt_of_nonneg {n : Int} (h : 0 ≤ n) : nearestInt n = nearestNat n.natAbs := by
  rcases Int.lt_or_eq_of_le h with hlt | rfl
  · rw [nearestInt, Int.sign_eq_one_of_pos hlt, Int.one_mul]
  · rfl

theorem nearestInt_of_neg {n : Int} (h : n < 0) : nearestInt n = -(nearestNat n.natAbs : Int) := by
  rw [nearestInt, Int.sign_eq_neg_one_of_neg h, Int.neg_mul, Int.one_mul]

theorem nearestInt_zero : nearestInt 0 = 0 :=
  rfl

theorem nearestInt_neg (n : Int) : nearestInt (-n) = -nearestInt n := by
  rw [nearestInt, nearestInt, Int.sign_neg, Int.natAbs_neg, Int.neg_mul]

/-- An integer whose size is a number of 53 digits is not rounded. -/
theorem nearestInt_eq_self {n : Int} (h : nearestNat n.natAbs = n.natAbs) : nearestInt n = n := by
  rw [nearestInt, h, Int.sign_mul_natAbs]

theorem nearestInt_mono {m n : Int} (h : m ≤ n) : nearestInt m ≤ nearestInt n := by
  by_cases hn : n < 0
  · have hsizes := nearestNat_mono (show n.natAbs ≤ m.natAbs by omega)
    rw [nearestInt_of_neg hn, nearestInt_of_neg (by omega)]
    omega
  · by_cases hm : m < 0
    · rw [nearestInt_of_neg hm, nearestInt_of_nonneg (by omega)]
      omega
    · have hsizes := nearestNat_mono (show m.natAbs ≤ n.natAbs by omega)
      rw [nearestInt_of_nonneg (by omega), nearestInt_of_nonneg (by omega)]
      omega

/-- Rounded integers compare as the integers do unless rounding made them equal. -/
theorem compare_nearestInt_iff {m n : Int} :
    compare (nearestInt m) (nearestInt n) = compare m n ↔ m = n ∨ nearestInt m ≠ nearestInt n := by
  constructor
  · intro h
    by_cases heq : nearestInt m = nearestInt n
    · rw [heq, Std.compare_self] at h
      exact Or.inl (Int.compare_eq_eq.mp h.symm)
    · exact Or.inr heq
  · rintro (rfl | hne)
    · rw [Std.compare_self, Std.compare_self]
    · rcases Int.lt_trichotomy m n with hlt | rfl | hgt
      · have hle := nearestInt_mono (Int.le_of_lt hlt)
        rw [Int.compare_eq_lt.mpr hlt, Int.compare_eq_lt.mpr (by omega)]
      · exact absurd rfl hne
      · have hle := nearestInt_mono (Int.le_of_lt hgt)
        rw [Int.compare_eq_gt.mpr hgt, Int.compare_eq_gt.mpr (by omega)]

/-- An integer that is rounded has the floating point form that it had. -/
theorem ofInt?_nearestInt (n : Int) : ofInt? (nearestInt n) = ofInt? n := by
  have hsign : nearestInt n < 0 ↔ n < 0 := by
    by_cases hn : n < 0
    · have hnonzero := nearestNat_ne_zero (show n.natAbs ≠ 0 by omega)
      rw [nearestInt_of_neg hn]
      omega
    · rw [nearestInt_of_nonneg (by omega)]
      omega
  simp only [ofInt?, ofRatio?, natAbs_nearestInt, nearestMagnitude_nearestNat, hsign]

/-! ## Floating point numbers that are integers -/

variable {x : Binary64} {a : Int}

theorem denominator_pos (x : Binary64) : 0 < x.denominator :=
  Nat.two_pow_pos _

theorem toInt?_of_numerator {m : Nat} (h : x.numerator = m * x.denominator) :
    x.toInt? = some (if x.negative then -(m : Int) else m) := by
  have hintegral : x.isIntegral = true := by
    rw [isIntegral, h, Nat.mul_mod_left]
    rfl
  rw [toInt?, if_pos hintegral, h, Nat.mul_div_cancel _ x.denominator_pos]

theorem numerator_of_toInt? (h : x.toInt? = some a) :
    x.numerator = a.natAbs * x.denominator ∧
      a = if x.negative then -(a.natAbs : Int) else a.natAbs := by
  rw [toInt?] at h
  split at h
  · next hintegral =>
      have hmod : x.numerator % x.denominator = 0 := by
        rw [isIntegral] at hintegral
        exact eq_of_beq hintegral
      have hdiv := Nat.div_mul_cancel (Nat.dvd_of_mod_eq_zero hmod)
      simp only [Option.some.injEq] at h
      subst h
      split
      · rw [Int.natAbs_neg, Int.natAbs_natCast]
        exact ⟨hdiv.symm, rfl⟩
      · rw [Int.natAbs_natCast]
        exact ⟨hdiv.symm, rfl⟩
  · cases h

/-- What an integer that is written over a power of two is rounded to. -/
theorem toInt?_ofRatio? (negative : Bool) (m k : Nat) :
    (ofRatio? negative (m * 2 ^ k) (2 ^ k)).map toInt? =
      (nearestInt? (if negative then -(m : Int) else m)).map some := by
  have hsize : (if negative then -(m : Int) else m).natAbs = m := by
    split
    · rw [Int.natAbs_neg, Int.natAbs_natCast]
    · exact Int.natAbs_natCast m
  have hsigned : nearestInt (if negative then -(m : Int) else m) =
      if negative then -(nearestNat m : Int) else nearestNat m := by
    cases negative with
    | false => exact nearestInt_of_nonneg (Int.natCast_nonneg m)
    | true =>
        simp only [if_true]
        rw [nearestInt_neg, nearestInt_of_nonneg (Int.natCast_nonneg m), Int.natAbs_natCast]
  rw [ofRatio?, nearestInt?, hsize]
  simp only [nearestMagnitude_over, nearestMagnitude_lt_iff]
  split
  · next hfinite =>
      rw [Option.map_some, Option.map_some, toInt?_of_numerator (numerator_of_nearest rfl),
        hsigned]
  · rfl

/-- The floating point form of an integer is the nearest integer. -/
theorem toInt?_ofInt? (n : Int) : (ofInt? n).map toInt? = (nearestInt? n).map some := by
  have hsigned : (if decide (n < 0) then -(n.natAbs : Int) else n.natAbs) = n := by
    by_cases hn : n < 0
    · rw [if_pos (decide_eq_true hn)]
      omega
    · rw [if_neg (by simpa using hn)]
      omega
  have hratio := toInt?_ofRatio? (decide (n < 0)) n.natAbs 0
  rw [hsigned, Nat.pow_zero, Nat.mul_one] at hratio
  exact hratio

end Binary64

end PolicyHost
