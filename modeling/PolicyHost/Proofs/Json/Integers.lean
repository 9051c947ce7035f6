import PolicyHost.Proofs.Json.Order
import PolicyHost.Proofs.Number.Nearest

/-!
# The order of integers

Integers of the signed 64-bit range are ordered by their value. As soon as one
of two integers lies past that range, both are rounded to floating point first
and the rounded integers are ordered (`compare_key`). Rounding keeps the order,
so two integers are never put the wrong way round, but different integers with
one floating point form count as equal. `order_integers` says which ones these
are, and that they are close together.
-/

namespace PolicyHost.Json

open Binary64

namespace Number

variable {x y : Int}

/-- An integer of 64 bits has a floating point form, and it is the nearest
integer. -/
theorem toInt?_integer (hx : -2 ^ 63 ≤ x ∧ x < 2 ^ 64) :
    (integer x hx).toBinary64.toInt? = some (nearestInt x) := by
  have hdouble := nearestNat_le_double x.natAbs
  have hlength : (nearestNat x.natAbs).log2 < 66 := log2_lt_of_lt (by decide) (by omega)
  have hfinite : (nearestNat x.natAbs).log2 < 1024 := by omega
  have hform := toInt?_ofInt? x
  rw [nearestInt?, if_pos hfinite, Option.map_some, Option.map_eq_some_iff] at hform
  obtain ⟨z, hz, hvalue⟩ := hform
  rw [toBinary64, hz, Option.getD_some, hvalue]

/-- Two integers have one floating point form exactly when they are rounded to
the same integer. -/
theorem key_eq_iff (hx : -2 ^ 63 ≤ x ∧ x < 2 ^ 64) (hy : -2 ^ 63 ≤ y ∧ y < 2 ^ 64) :
    (integer x hx).toBinary64.key = (integer y hy).toBinary64.key ↔
      nearestInt x = nearestInt y := by
  constructor
  · intro h
    have hvalue := toInt?_integer hx
    rw [key_inj.mp h, toInt?_integer hy, Option.some.injEq] at hvalue
    exact hvalue.symm
  · intro h
    rw [toBinary64, toBinary64, ← ofInt?_nearestInt x, h, ofInt?_nearestInt]

theorem compare_key (hx : -2 ^ 63 ≤ x ∧ x < 2 ^ 64) (hy : -2 ^ 63 ≤ y ∧ y < 2 ^ 64) :
    compare (integer x hx).toBinary64.key (integer y hy).toBinary64.key =
      compare (nearestInt x) (nearestInt y) := by
  by_cases heq : nearestInt x = nearestInt y
  · rw [heq, (key_eq_iff hx hy).mpr heq, Std.compare_self, Std.compare_self]
  · have hkeys := mt (key_eq_iff hx hy).mp heq
    rcases Int.le_total x y with hle | hle
    · have hkey := key_mono hx hy hle
      have hnearest := nearestInt_mono hle
      rw [Int.compare_eq_lt.mpr (by omega), Int.compare_eq_lt.mpr (by omega)]
    · have hkey := key_mono hy hx hle
      have hnearest := nearestInt_mono hle
      rw [Int.compare_eq_gt.mpr (by omega), Int.compare_eq_gt.mpr (by omega)]

theorem int64?_integer (hx : -2 ^ 63 ≤ x ∧ x < 2 ^ 64) :
    (integer x hx).int64? = if x < 2 ^ 63 then some x else none := by
  have hsigned : isInt64 x = true ↔ x < 2 ^ 63 := by
    simp only [isInt64, Bool.and_eq_true, decide_eq_true_eq]
    exact and_iff_right hx.1
  simp only [int64?, hsigned]

theorem order_integer (hx : -2 ^ 63 ≤ x ∧ x < 2 ^ 64) (hy : -2 ^ 63 ≤ y ∧ y < 2 ^ 64) :
    (integer x hx).order (integer y hy) =
      if x < 2 ^ 63 ∧ y < 2 ^ 63 then compare x y else compare (nearestInt x) (nearestInt y) := by
  have hleft := int64?_integer hx
  have hright := int64?_integer hy
  by_cases h : x < 2 ^ 63
  · by_cases h' : y < 2 ^ 63
    · rw [if_pos h] at hleft
      rw [if_pos h'] at hright
      rw [order_exact hleft hright, if_pos ⟨h, h'⟩]
    · rw [if_neg h'] at hright
      rw [order_rounded (Or.inr hright), compare_key, if_neg fun hboth => h' hboth.2]
  · rw [if_neg h] at hleft
    rw [order_rounded (Or.inl hleft), compare_key, if_neg fun hboth => h hboth.1]

/-- Rounding an integer of 64 bits moves it by at most 1024. -/
theorem nearestInt_error (hx : -2 ^ 63 ≤ x ∧ x < 2 ^ 64) :
    x - 1024 ≤ nearestInt x ∧ nearestInt x ≤ x + 1024 := by
  have hlength : x.natAbs.log2 < 64 := log2_lt_of_lt (by decide) (by omega)
  have hunit : unit x.natAbs ≤ 2 ^ 11 := Nat.pow_le_pow_right (by decide) (by omega)
  have herror := nearestNat_error x.natAbs
  by_cases hnegative : x < 0
  · rw [nearestInt_of_neg hnegative]
    omega
  · rw [nearestInt_of_nonneg (by omega)]
    omega

end Number

namespace Value

/-- The order of two integers is that of their values where both are below
`2 ^ 63`, and that of the integers that they are rounded to otherwise. So it is
the order of their values exactly when the two are the same, both below `2 ^ 63`
or rounded to different integers; all integers that are more than 2048 apart
are. -/
theorem order_integers {x y : Int} (hx : -2 ^ 63 ≤ x ∧ x < 2 ^ 64)
    (hy : -2 ^ 63 ≤ y ∧ y < 2 ^ 64) :
    order (.number (.integer x hx)) (.number (.integer y hy)) =
        (if x < 2 ^ 63 ∧ y < 2 ^ 63 then compare x y
          else compare (nearestInt x) (nearestInt y)) ∧
      (order (.number (.integer x hx)) (.number (.integer y hy)) = compare x y ↔
        x = y ∨ (x < 2 ^ 63 ∧ y < 2 ^ 63) ∨ nearestInt x ≠ nearestInt y) ∧
      (2048 < (x - y).natAbs →
        order (.number (.integer x hx)) (.number (.integer y hy)) = compare x y) := by
  have horder : order (.number (.integer x hx)) (.number (.integer y hy)) =
      if x < 2 ^ 63 ∧ y < 2 ^ 63 then compare x y
        else compare (nearestInt x) (nearestInt y) := by
    rw [order]
    exact Number.order_integer hx hy
  have hexact : order (.number (.integer x hx)) (.number (.integer y hy)) = compare x y ↔
      x = y ∨ (x < 2 ^ 63 ∧ y < 2 ^ 63) ∨ nearestInt x ≠ nearestInt y := by
    rw [horder]
    by_cases hsigned : x < 2 ^ 63 ∧ y < 2 ^ 63
    · rw [if_pos hsigned]
      exact iff_of_true rfl (Or.inr (Or.inl hsigned))
    · rw [if_neg hsigned, compare_nearestInt_iff, or_iff_right hsigned]
  refine ⟨horder, hexact, fun hapart => hexact.mpr (Or.inr (Or.inr ?_))⟩
  have hleft := Number.nearestInt_error hx
  have hright := Number.nearestInt_error hy
  omega

/-- The two ends of the range that is compared in floating point. -/
theorem order_integers_far :
    (2048 < ((2 ^ 63 : Int) - (2 ^ 64 - 1)).natAbs) ∧
      order (.number (.integer (2 ^ 63) (by decide)))
        (.number (.integer (2 ^ 64 - 1) (by decide))) =
        compare (2 ^ 63 : Int) (2 ^ 64 - 1) :=
  ⟨by decide, (order_integers (by decide) (by decide)).2.2 (by decide)⟩

/-- Neighbours past the signed range compare equal, and so do the last integer of
the range and the first one past it. -/
theorem order_unsigned_neighbours :
    order (.number (.integer (2 ^ 63) (by decide))) (.number (.integer (2 ^ 63 + 1) (by decide))) =
        .eq ∧
      order (.number (.integer (2 ^ 63 - 1) (by decide)))
        (.number (.integer (2 ^ 63) (by decide))) =
        .eq ∧
      compare (2 ^ 63 : Int) (2 ^ 63 + 1) = .lt := by
  decide

end Value

end PolicyHost.Json
