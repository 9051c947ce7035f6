import PolicyHost.Proofs.Number.Nearest

/-!
# Arithmetic on integers in floating point

Where two floating point numbers are integers, their sum and their product are
the nearest to the exact ones, so a computation that starts from integers can be
followed in integers: `toInt?` takes each operation to the exact one followed by
`nearestInt?` (`toInt?_add?`, `toInt?_mul?`), and with them every fold
(`foldlM_toInt?`). Signs of zero are lost on the way, which no integer shows.
-/

namespace PolicyHost

namespace Binary64

variable {x y : Binary64} {a b : Int}

/-- An integer over any power of two that its denominator divides. -/
theorem signedOver_of_toInt? (hx : x.toInt? = some a) {d : Nat} (hd : x.denominator ∣ d) :
    x.signedOver d = a * d := by
  obtain ⟨hnumerator, hsigned⟩ := numerator_of_toInt? hx
  have hsize : x.numerator * (d / x.denominator) = a.natAbs * d := by
    rw [hnumerator, Nat.mul_assoc, Nat.mul_div_cancel' hd]
  rw [signedOver, hsize]
  cases hnegative : x.negative with
  | false =>
      rw [hnegative] at hsigned
      simp only [Bool.false_eq_true, if_false] at hsigned ⊢
      rw [Int.natCast_mul, ← hsigned]
  | true =>
      rw [hnegative] at hsigned
      simp only [if_true] at hsigned ⊢
      rw [Int.natCast_mul, ← Int.neg_mul, ← hsigned]

theorem toInt?_add? (hx : x.toInt? = some a) (hy : y.toInt? = some b) :
    (add? x y).map toInt? = (nearestInt? (a + b)).map some := by
  obtain ⟨k, hk, hleft, hright⟩ : ∃ k, max x.denominator y.denominator = 2 ^ k ∧
      x.denominator ∣ 2 ^ k ∧ y.denominator ∣ 2 ^ k := by
    rcases Nat.le_total (-x.exponent).toNat (-y.exponent).toNat with hle | hle
    · exact ⟨_, Nat.max_eq_right (Nat.pow_le_pow_right (by decide) hle), Nat.pow_dvd_pow 2 hle,
        Nat.dvd_refl _⟩
    · exact ⟨_, Nat.max_eq_left (Nat.pow_le_pow_right (by decide) hle), Nat.dvd_refl _,
        Nat.pow_dvd_pow 2 hle⟩
  have htotal : x.signedOver (2 ^ k) + y.signedOver (2 ^ k) = (a + b) * (2 ^ k : Nat) := by
    rw [signedOver_of_toInt? hx hleft, signedOver_of_toInt? hy hright, Int.add_mul]
  have hpositive : (0 : Int) < (2 ^ k : Nat) := Int.natCast_pos.mpr (Nat.two_pow_pos k)
  have hzero : (a + b) * (2 ^ k : Nat) = 0 ↔ a + b = 0 := by
    rw [Int.mul_eq_zero]
    exact or_iff_left (by omega)
  have hnegative : (a + b) * (2 ^ k : Nat) < 0 ↔ a + b < 0 :=
    ⟨fun h => Int.neg_of_mul_neg_left h (by omega), fun h => Int.mul_neg_of_neg_of_pos h hpositive⟩
  simp only [add?, hk, htotal, Int.natAbs_mul, Int.natAbs_natCast, hzero, hnegative]
  rw [toInt?_ofRatio?]
  congr 2
  split
  · next h =>
      rw [h]
      split <;> rfl
  · simp only [decide_eq_true_eq]
    split <;> omega

theorem signed_mul (s t : Bool) (m n : Nat) :
    (if (s != t) = true then -((m * n : Nat) : Int) else (m * n : Nat)) =
      (if s then -(m : Int) else m) * (if t then -(n : Int) else n) := by
  rw [Int.natCast_mul]
  cases s <;> cases t
  · rfl
  · show -((m : Int) * n) = m * -n
    exact (Int.mul_neg _ _).symm
  · show -((m : Int) * n) = -m * n
    exact (Int.neg_mul _ _).symm
  · show (m : Int) * n = -m * -n
    exact (Int.neg_mul_neg _ _).symm

theorem toInt?_mul? (hx : x.toInt? = some a) (hy : y.toInt? = some b) :
    (mul? x y).map toInt? = (nearestInt? (a * b)).map some := by
  obtain ⟨hleft, ha⟩ := numerator_of_toInt? hx
  obtain ⟨hright, hb⟩ := numerator_of_toInt? hy
  have hdenominator : x.denominator * y.denominator =
      2 ^ ((-x.exponent).toNat + (-y.exponent).toNat) := (Nat.pow_add _ _ _).symm
  have hnumerator : x.numerator * y.numerator =
      (a * b).natAbs * (x.denominator * y.denominator) := by
    rw [hleft, hright, Int.natAbs_mul, Nat.mul_mul_mul_comm]
  have hsigned : (if (x.negative != y.negative) = true then -((a * b).natAbs : Int)
      else (a * b).natAbs) = a * b := by
    rw [Int.natAbs_mul, signed_mul, ← ha, ← hb]
  rw [mul?, hnumerator, hdenominator, toInt?_ofRatio?, hsigned]

/-- A fold over integers in floating point is the fold over the integers that
rounds every result, for an operation that rounds its own. -/
theorem foldlM_toInt? {operation : Binary64 → Binary64 → Option Binary64} {exact : Int → Int → Int}
    (hoperation : ∀ {x y a b}, x.toInt? = some a → y.toInt? = some b →
      (operation x y).map toInt? = (nearestInt? (exact a b)).map some)
    {xs : List Binary64} {as : List Int} (hxs : xs.map toInt? = as.map some)
    (hx : x.toInt? = some a) :
    (xs.foldlM operation x).map toInt? =
      (as.foldlM (fun t n => nearestInt? (exact t n)) a).map some := by
  induction as generalizing xs x a with
  | nil =>
      rw [List.map_nil, List.map_eq_nil_iff] at hxs
      rw [hxs]
      exact congrArg some hx
  | cons n as ih =>
      obtain ⟨y, ys, rfl⟩ : ∃ y ys, xs = y :: ys := by
        cases xs with
        | nil => cases hxs
        | cons y ys => exact ⟨y, ys, rfl⟩
      obtain ⟨hy, hys⟩ := List.cons.inj hxs
      have hstep := hoperation hx hy
      rw [List.foldlM_cons, List.foldlM_cons]
      cases hz : operation x y with
      | none =>
          rw [hz, Option.map_none] at hstep
          rw [Option.map_eq_none_iff.mp hstep.symm]
          rfl
      | some z =>
          rw [hz, Option.map_some] at hstep
          obtain ⟨t, ht, htz⟩ := Option.map_eq_some_iff.mp hstep.symm
          rw [ht]
          exact ih hys htz.symm

/-- The result of combining integers from left to right in floating point: the
integers are rounded first, and every result on the way. -/
def roundedFold (exact : Int → Int → Int) (start : Int) (ns : List Int) : Option Int :=
  (ns.map nearestInt).foldlM (fun t n => nearestInt? (exact t n)) start

end Binary64

end PolicyHost
