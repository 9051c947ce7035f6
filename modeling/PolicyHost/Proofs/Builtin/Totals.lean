import Mathlib
import PolicyHost.Builtin.Aggregate
import PolicyHost.Proofs.Builtin.Operand
import PolicyHost.Proofs.Number.Arithmetic

/-!
# Sums and products of integers

Items are added up or multiplied from left to right, and the result is exact as
long as all integers and all results on the way are signed 64-bit integers
(`Bounded`). Otherwise the work is done over in floating point, where every
integer and every result is rounded (`roundedFold`). Which of the two it is
hangs on the order of the items and not on the total alone.

For a sum this is all there is to say: it is exact where the partial sums stay
in range or the rounded ones happen to end in the total (`sum_integers`), and
arrays whose positive and negative parts stay in range on their own are the ones
for which the order is no matter.

A product can leave the range and come back to it in two ways only. One is the
product `-2 ^ 63`, all whose divisors are powers of two and are not rounded. The
other is a zero among the items, and then what counts is whether the rounded
product of the items before it is still finite (`product_integers`).
-/

namespace PolicyHost.Builtin

open Json Binary64

variable {ns : List Int} {n t : Int}

/-! ## Exact results -/

/-- All integers of a list and all results of combining the first of them are
signed 64-bit integers. -/
structure Bounded (exact : Int → Int → Int) (start : Int) (ns : List Int) : Prop where
  items : ∀ n ∈ ns, -2 ^ 63 ≤ n ∧ n < 2 ^ 63
  results : ∀ p, p <+: ns → -2 ^ 63 ≤ p.foldl exact start ∧ p.foldl exact start < 2 ^ 63

theorem int64?_ofInt (hn : -2 ^ 63 ≤ n ∧ n < 2 ^ 64) :
    int64? (.ofInt n) = if n < 2 ^ 63 then some n else none := by
  rw [ofInt_eq hn]
  exact Number.int64?_integer hn

theorem mapM_int64? (hns : ∀ n ∈ ns, -2 ^ 63 ≤ n ∧ n < 2 ^ 64) :
    (ns.map Value.ofInt).mapM int64? = if ∀ n ∈ ns, n < 2 ^ 63 then some ns else none := by
  induction ns with
  | nil => rfl
  | cons n ns ih =>
      obtain ⟨hn, hrest⟩ := List.forall_mem_cons.mp hns
      rw [List.map_cons, List.mapM_cons, int64?_ofInt hn, ih hrest]
      simp only [List.forall_mem_cons]
      by_cases hhead : n < 2 ^ 63
      · by_cases htail : ∀ m ∈ ns, m < 2 ^ 63
        · rw [if_pos hhead, if_pos htail, if_pos ⟨hhead, htail⟩]
          rfl
        · have hboth : ¬ (n < 2 ^ 63 ∧ ∀ m ∈ ns, m < 2 ^ 63) := fun h => htail h.2
          rw [if_pos hhead, if_neg htail, if_neg hboth]
          rfl
      · have hboth : ¬ (n < 2 ^ 63 ∧ ∀ m ∈ ns, m < 2 ^ 63) := fun h => hhead h.1
        rw [if_neg hhead, if_neg hboth]
        rfl

/-- Results that are checked one after the other give the last one exactly when
none of them leaves the range. -/
theorem foldlM_int64? {exact : Int → Int → Int} {start r : Int}
    (hstart : -2 ^ 63 ≤ start ∧ start < 2 ^ 63) :
    ns.foldlM (fun n m => Calendar.int64? (exact n m)) start = some r ↔
      ns.foldl exact start = r ∧
        ∀ p, p <+: ns → -2 ^ 63 ≤ p.foldl exact start ∧ p.foldl exact start < 2 ^ 63 := by
  induction ns generalizing start with
  | nil =>
      have hprefixes : ∀ p : List Int, p <+: [] →
          -2 ^ 63 ≤ p.foldl exact start ∧ p.foldl exact start < 2 ^ 63 := by
        intro p hp
        rw [List.prefix_nil.mp hp]
        exact hstart
      rw [List.foldlM_nil, and_iff_left hprefixes]
      exact Option.some_inj
  | cons n ns ih =>
      rw [List.foldlM_cons, List.foldl_cons, Calendar.int64?]
      by_cases hnext : -2 ^ 63 ≤ exact start n ∧ exact start n < 2 ^ 63
      · rw [if_pos hnext]
        refine (ih hnext).trans (and_congr_right fun _ => ⟨fun h p hp => ?_, fun h p hp => ?_⟩)
        · rcases List.prefix_cons_iff.mp hp with rfl | ⟨q, rfl, hq⟩
          · exact hstart
          · exact h q hq
        · exact h (n :: p) (List.cons_prefix_cons.mpr ⟨rfl, hp⟩)
      · rw [if_neg hnext]
        refine iff_of_false (fun h => by cases h) fun h => hnext ?_
        exact h.2 [n] (List.cons_prefix_cons.mpr ⟨rfl, List.nil_prefix⟩)

theorem foldExact?_eq_some_iff {exact : Int → Int → Int} {start r : Int}
    (hns : ∀ n ∈ ns, -2 ^ 63 ≤ n ∧ n < 2 ^ 64) (hstart : -2 ^ 63 ≤ start ∧ start < 2 ^ 63) :
    foldExact? exact start (ns.map .ofInt) = some r ↔
      Bounded exact start ns ∧ ns.foldl exact start = r := by
  rw [foldExact?, mapM_int64? hns]
  by_cases hitems : ∀ n ∈ ns, n < 2 ^ 63
  · rw [if_pos hitems]
    refine (foldlM_int64? hstart).trans ⟨fun h => ⟨⟨fun n hn => ?_, h.2⟩, h.1⟩,
      fun h => ⟨h.2, h.1.results⟩⟩
    exact ⟨(hns n hn).1, hitems n hn⟩
  · rw [if_neg hitems]
    exact iff_of_false (fun h => by cases h) fun h => hitems fun n hn => (h.1.items n hn).2

/-! ## Rounded results -/

/-- An operation in floating point that rounds an exact one, from a start that
floating point has. -/
structure Rounds (exact : Int → Int → Int) (rounded : Binary64 → Binary64 → Option Binary64)
    (start : Int) : Prop where
  start_range : -2 ^ 63 ≤ start ∧ start < 2 ^ 63
  start_form : (ofInt? start).map toInt? = some (some start)
  step : ∀ {x y a b}, x.toInt? = some a → y.toInt? = some b →
    (rounded x y).map toInt? = (nearestInt? (exact a b)).map some

theorem rounds_add : Rounds (· + ·) add? 0 :=
  ⟨by decide, toInt?_ofInt? 0, toInt?_add?⟩

theorem rounds_mul : Rounds (· * ·) mul? 1 :=
  ⟨by decide, toInt?_ofInt? 1, toInt?_mul?⟩

theorem mapM_numberElement (name : String) (hns : ∀ n ∈ ns, -2 ^ 63 ≤ n ∧ n < 2 ^ 64) :
    ∃ xs, (ns.map Value.ofInt).mapM (numberElement name) = .ok xs ∧
      xs.map toInt? = (ns.map nearestInt).map some := by
  induction ns with
  | nil => exact ⟨[], rfl, rfl⟩
  | cons n ns ih =>
      obtain ⟨hn, hrest⟩ := List.forall_mem_cons.mp hns
      obtain ⟨xs, hxs, hvalues⟩ := ih hrest
      refine ⟨(Number.integer n hn).toBinary64 :: xs, ?_, ?_⟩
      · rw [List.map_cons, List.mapM_cons, hxs, ofInt_eq hn]
        rfl
      · rw [List.map_cons, hvalues, Number.toInt?_integer hn]
        rfl

/-- The answer for a floating point number that is an integer is that integer, as
far as it is in the signed range. -/
theorem numberAnswer_eq_ofInt_iff {x : Option Binary64} {r : Option Int}
    (h : x.map toInt? = r.map some) (ht : -2 ^ 63 ≤ t ∧ t < 2 ^ 63) :
    numberAnswer x = some (.ofInt t) ↔ r = some t := by
  have ht' : -2 ^ 63 ≤ t ∧ t < 2 ^ 64 := by omega
  cases x with
  | none =>
      rw [Option.map_none, eq_comm, Option.map_eq_none_iff] at h
      rw [h]
      exact iff_of_false (fun h => by cases h) fun h => by cases h
  | some x =>
      obtain ⟨s, rfl, hs⟩ := Option.map_eq_some_iff.mp h.symm
      rw [numberAnswer, Option.map_some, Option.some.injEq, Option.some.injEq, Number.ofBinary64,
        ← hs]
      simp only [isInt64_iff]
      by_cases hrange : -2 ^ 63 ≤ s ∧ s < 2 ^ 63
      · have hs' : -2 ^ 63 ≤ s ∧ s < 2 ^ 64 := by omega
        rw [if_pos hrange, Number.ofInt?, dif_pos hs', Option.getD_some, ← ofInt_eq hs']
        exact ⟨ofInt_inj hs' ht', congrArg Value.ofInt⟩
      · rw [if_neg hrange, ofInt_eq ht']
        refine iff_of_false (fun h => by cases h) fun h => hrange ?_
        rw [h]
        exact ht

theorem numberAnswer_eq_none_iff {x : Option Binary64} {r : Option Int}
    (h : x.map toInt? = r.map some) : numberAnswer x = none ↔ r = none := by
  rw [numberAnswer, Option.map_eq_none_iff, ← Option.map_eq_none_iff (f := toInt?), h,
    Option.map_eq_none_iff]

section

variable (name : String) {exact : Int → Int → Int}
  {rounded : Binary64 → Binary64 → Option Binary64} {start : Int}

theorem combineAll_bounded (h : Rounds exact rounded start)
    (hns : ∀ n ∈ ns, -2 ^ 63 ≤ n ∧ n < 2 ^ 64) (hbounded : Bounded exact start ns) :
    combineAll name exact rounded start (ns.map .ofInt) =
      .ok (some (.ofInt (ns.foldl exact start))) := by
  have hexact := (foldExact?_eq_some_iff hns h.start_range).mpr ⟨hbounded, rfl⟩
  rw [combineAll, hexact]
  rfl

theorem combineAll_unbounded (h : Rounds exact rounded start)
    (hns : ∀ n ∈ ns, -2 ^ 63 ≤ n ∧ n < 2 ^ 64) (hunbounded : ¬ Bounded exact start ns) :
    ∃ x : Option Binary64, x.map toInt? = (roundedFold exact start ns).map some ∧
      combineAll name exact rounded start (ns.map .ofInt) = .ok (numberAnswer x) := by
  have hnone : foldExact? exact start (ns.map .ofInt) = none := by
    cases hexact : foldExact? exact start (ns.map .ofInt) with
    | none => rfl
    | some r => exact absurd ((foldExact?_eq_some_iff hns h.start_range).mp hexact).1 hunbounded
  obtain ⟨x, hx, hvalue⟩ := Option.map_eq_some_iff.mp h.start_form
  obtain ⟨xs, hxs, hvalues⟩ := mapM_numberElement name hns
  refine ⟨xs.foldlM rounded x, foldlM_toInt? h.step hvalues hvalue, ?_⟩
  rw [combineAll, hnone, hxs, hx]
  rfl

/-- A result in the signed range is exact where nothing leaves that range on the
way, or where the rounded results end in it. -/
theorem combineAll_eq_ofInt_iff (h : Rounds exact rounded start)
    (hns : ∀ n ∈ ns, -2 ^ 63 ≤ n ∧ n < 2 ^ 64)
    (hresult : -2 ^ 63 ≤ ns.foldl exact start ∧ ns.foldl exact start < 2 ^ 63) :
    combineAll name exact rounded start (ns.map .ofInt) =
        .ok (some (.ofInt (ns.foldl exact start))) ↔
      Bounded exact start ns ∨ roundedFold exact start ns = some (ns.foldl exact start) := by
  by_cases hbounded : Bounded exact start ns
  · exact iff_of_true (combineAll_bounded name h hns hbounded) (Or.inl hbounded)
  · obtain ⟨x, hvalue, hanswer⟩ := combineAll_unbounded name h hns hbounded
    rw [hanswer, or_iff_right hbounded, Except.ok.injEq, numberAnswer_eq_ofInt_iff hvalue hresult]

end

/-! ## Sums -/

theorem sum_exact_iff (hns : ∀ n ∈ ns, -2 ^ 63 ≤ n ∧ n < 2 ^ 64)
    (htotal : -2 ^ 63 ≤ ns.sum ∧ ns.sum < 2 ^ 63) :
    sum [.array (ns.map .ofInt)] = .ok (some (.ofInt ns.sum)) ↔
      Bounded (· + ·) 0 ns ∨ roundedFold (· + ·) 0 ns = some ns.sum := by
  rw [List.sum_eq_foldl] at htotal ⊢
  exact combineAll_eq_ofInt_iff "sum" rounds_add hns htotal

theorem sum_filter_cons (p : Int → Bool) (n : Int) (ns : List Int) :
    ((n :: ns).filter p).sum = (if p n then n else 0) + (ns.filter p).sum := by
  rw [List.filter_cons]
  split
  · rw [List.sum_cons]
  · rw [Int.zero_add]

/-- A sum over some of the integers lies between the sums of the negative and of
the positive ones. -/
theorem sum_between_parts {p ns : List Int} (h : p.Sublist ns) :
    (ns.filter (· < 0)).sum ≤ p.sum ∧ p.sum ≤ (ns.filter (0 < ·)).sum := by
  induction h with
  | slnil => exact ⟨Int.le_refl _, Int.le_refl _⟩
  | cons n _ ih =>
      simp only [sum_filter_cons, decide_eq_true_eq]
      split <;> split <;> omega
  | cons_cons n _ ih =>
      simp only [sum_filter_cons, decide_eq_true_eq, List.sum_cons]
      split <;> split <;> omega

/-- No arrangement of the integers leaves the signed range exactly when neither
the positive nor the negative ones do on their own. -/
theorem bounded_arrangements_iff :
    (∀ ms : List Int, ms.Perm ns → Bounded (· + ·) 0 ms) ↔
      -2 ^ 63 ≤ (ns.filter (· < 0)).sum ∧ (ns.filter (0 < ·)).sum < 2 ^ 63 := by
  constructor
  · intro h
    have hfirst (p : Int → Bool) : -2 ^ 63 ≤ (ns.filter p).sum ∧ (ns.filter p).sum < 2 ^ 63 := by
      rw [List.sum_eq_foldl]
      exact (h _ (List.filter_append_perm p ns)).results _ (List.prefix_append _ _)
    exact ⟨(hfirst _).1, (hfirst _).2⟩
  · intro ⟨hnegative, hpositive⟩ ms hperm
    rw [← (hperm.filter _).sum_eq] at hnegative hpositive
    have hpart {p : List Int} (hp : p.Sublist ms) : -2 ^ 63 ≤ p.sum ∧ p.sum < 2 ^ 63 := by
      have hbetween := sum_between_parts hp
      omega
    refine ⟨fun n hn => ?_, fun p hp => ?_⟩
    · simpa using hpart (List.singleton_sublist.mpr hn)
    · rw [← List.sum_eq_foldl]
      exact hpart hp.sublist

/-- A sum in the signed range is exact exactly where all integers and all partial
sums are in it, or where the rounded partial sums end in the total. It is exact
for every arrangement of the integers if the positive ones stay in the range on
their own and the negative ones do, and no other integers keep all partial sums
of all arrangements in it. -/
theorem sum_integers (hns : ∀ n ∈ ns, -2 ^ 63 ≤ n ∧ n < 2 ^ 64)
    (htotal : -2 ^ 63 ≤ ns.sum ∧ ns.sum < 2 ^ 63) :
    (sum [.array (ns.map .ofInt)] = .ok (some (.ofInt ns.sum)) ↔
      Bounded (· + ·) 0 ns ∨ roundedFold (· + ·) 0 ns = some ns.sum) ∧
    (-2 ^ 63 ≤ (ns.filter (· < 0)).sum ∧ (ns.filter (0 < ·)).sum < 2 ^ 63 →
      ∀ ms : List Int, ms.Perm ns →
        sum [.array (ms.map .ofInt)] = .ok (some (.ofInt ns.sum))) ∧
    ((∀ ms : List Int, ms.Perm ns → Bounded (· + ·) 0 ms) ↔
      -2 ^ 63 ≤ (ns.filter (· < 0)).sum ∧ (ns.filter (0 < ·)).sum < 2 ^ 63) := by
  refine ⟨sum_exact_iff hns htotal, fun hparts ms hperm => ?_, bounded_arrangements_iff⟩
  have hms : ∀ n ∈ ms, -2 ^ 63 ≤ n ∧ n < 2 ^ 64 := fun n hn => hns n (hperm.mem_iff.mp hn)
  rw [← hperm.sum_eq] at htotal ⊢
  exact (sum_exact_iff hms htotal).mpr (Or.inl (bounded_arrangements_iff.mpr hparts ms hperm))

/-- The largest integer and the smallest one as a sum of others, in any order. -/
theorem sum_integers_extremes :
    let ns : List Int := [2 ^ 62, -2 ^ 63, 2 ^ 62 - 1]
    ((∀ n ∈ ns, -2 ^ 63 ≤ n ∧ n < 2 ^ 64) ∧ -2 ^ 63 ≤ ns.sum ∧ ns.sum < 2 ^ 63) ∧
      (-2 ^ 63 ≤ (ns.filter (· < 0)).sum ∧ (ns.filter (0 < ·)).sum < 2 ^ 63) ∧
      ∀ ms : List Int, ms.Perm ns → sum [.array (ms.map .ofInt)] = .ok (some (.ofInt (-1))) := by
  intro ns
  have hns : ∀ n ∈ ns, -2 ^ 63 ≤ n ∧ n < 2 ^ 64 := by decide
  have htotal : -2 ^ 63 ≤ ns.sum ∧ ns.sum < 2 ^ 63 := by decide
  have hparts : -2 ^ 63 ≤ (ns.filter (· < 0)).sum ∧ (ns.filter (0 < ·)).sum < 2 ^ 63 := by decide
  exact ⟨⟨hns, htotal⟩, hparts, (sum_integers hns htotal).2.1 hparts⟩

/-- The greatest signed integer is lost when one is added to it before one is
taken away, and kept when the order is the other way round. -/
theorem sum_depends_on_order :
    let ns : List Int := [2 ^ 63 - 1, 1, -1]
    let ms : List Int := [2 ^ 63 - 1, -1, 1]
    ms.Perm ns ∧ ns.sum = 2 ^ 63 - 1 ∧
      sum [.array (ns.map .ofInt)] ≠ .ok (some (.ofInt (2 ^ 63 - 1))) ∧
      sum [.array (ms.map .ofInt)] = .ok (some (.ofInt (2 ^ 63 - 1))) := by
  intro ns ms
  have hns : ∀ n ∈ ns, -2 ^ 63 ≤ n ∧ n < 2 ^ 64 := by decide
  refine ⟨by decide, by decide, fun h => ?_, rfl⟩
  rcases (sum_exact_iff hns (by decide)).mp h with hbounded | hrounded
  · exact absurd (hbounded.results [2 ^ 63 - 1, 1] (by decide)) (by decide)
  · exact absurd hrounded (by decide)

/-! ## Products -/

/-- The divisors of `2 ^ 63` are powers of two, which are not rounded. -/
theorem nearestNat_of_dvd {m : Nat} (h : m ∣ 2 ^ 63) : nearestNat m = m := by
  obtain ⟨k, -, rfl⟩ := (Nat.dvd_prime_pow Nat.prime_two).mp h
  exact nearestNat_two_pow k

theorem nearestInt?_of_dvd (h : n ∣ 2 ^ 63) : nearestInt? n = some n := by
  have hsize : n.natAbs ∣ 2 ^ 63 := Int.natAbs_dvd_natAbs.mpr h
  have hle := Nat.le_of_dvd (by decide) hsize
  have hlength : n.natAbs.log2 < 64 := log2_lt_of_lt (by decide) (by omega)
  have hself := nearestNat_of_dvd hsize
  rw [nearestInt?, hself, if_pos (by omega), nearestInt_eq_self hself]

/-- Where the product divides `2 ^ 63`, nothing is rounded on the way to it. -/
theorem foldlM_mul_of_dvd (h : t * ns.prod ∣ 2 ^ 63) :
    (ns.map nearestInt).foldlM (fun t n => nearestInt? (t * n)) t = some (t * ns.prod) := by
  induction ns generalizing t with
  | nil =>
      rw [List.prod_nil, Int.mul_one]
      rfl
  | cons n ns ih =>
      rw [List.prod_cons, ← Int.mul_assoc] at h ⊢
      have hproduct : t * n ∣ 2 ^ 63 := (Int.dvd_mul_right _ _).trans h
      have hfactor : n ∣ 2 ^ 63 := (Int.dvd_mul_left _ _).trans hproduct
      have hself := nearestInt_eq_self (nearestNat_of_dvd (Int.natAbs_dvd_natAbs.mpr hfactor))
      rw [List.map_cons, List.foldlM_cons, hself, nearestInt?_of_dvd hproduct]
      exact ih h

/-- Without a zero the only product that comes back to the signed range is its
least integer. -/
theorem prod_of_unbounded (hzero : 0 ∉ ns) (htotal : -2 ^ 63 ≤ ns.prod ∧ ns.prod < 2 ^ 63)
    (h : ¬ Bounded (· * ·) 1 ns) : ns.prod = -2 ^ 63 := by
  by_contra hne
  have hnonzero : ns.prod ≠ 0 := List.prod_ne_zero hzero
  have hdivisor {d : Int} (hd : d ∣ ns.prod) : -2 ^ 63 ≤ d ∧ d < 2 ^ 63 := by
    have hle := Nat.le_of_dvd (by omega) (Int.natAbs_dvd_natAbs.mpr hd)
    omega
  refine h ⟨fun n hn => hdivisor (List.dvd_prod hn), fun p hp => ?_⟩
  obtain ⟨rest, rfl⟩ := hp
  rw [← List.prod_eq_foldl]
  refine hdivisor ?_
  rw [List.prod_append]
  exact Int.dvd_mul_right _ _

/-- One factor more. Rounding the factor and the product doubles them at most,
which the third power of a factor makes up for unless the factor is one; and one
changes nothing. -/
theorem nearestNat_mul_le_cube {c m b : Nat} (hself : nearestNat c = c) (hc : c ≤ b ^ 3)
    (hm : m ≠ 0) : nearestNat (c * nearestNat m) ≤ (b * m) ^ 3 := by
  by_cases hone : m = 1
  · have hshort : nearestNat 1 = 1 := nearestNat_of_short (by decide)
    rw [hone, hshort, Nat.mul_one, Nat.mul_one, hself]
    exact hc
  · have hsquare : 4 ≤ m * m := Nat.mul_le_mul (show 2 ≤ m by omega) (show 2 ≤ m by omega)
    calc nearestNat (c * nearestNat m) ≤ 2 * (c * nearestNat m) := nearestNat_le_double _
      _ ≤ 2 * (c * (2 * m)) :=
          Nat.mul_le_mul_left _ (Nat.mul_le_mul_left _ (nearestNat_le_double m))
      _ = c * (4 * m) := by ring
      _ ≤ b ^ 3 * (m * m * m) := Nat.mul_le_mul hc (Nat.mul_le_mul_right _ hsquare)
      _ = (b * m) ^ 3 := by ring

/-- The rounded product of integers that are not zero is at most the third power
of the exact one, and so it is finite where that one is no longer than 64 digits. -/
theorem foldlM_mul_isSome {b : Int} (hself : nearestNat t.natAbs = t.natAbs)
    (hcube : t.natAbs ≤ b.natAbs ^ 3) (hzero : 0 ∉ ns) (hbound : (b * ns.prod).natAbs ≤ 2 ^ 63) :
    ((ns.map nearestInt).foldlM (fun t n => nearestInt? (t * n)) t).isSome := by
  induction ns generalizing t b with
  | nil => rfl
  | cons n ns ih =>
      obtain ⟨hn, hrest⟩ := not_or.mp (mt List.mem_cons.mpr hzero)
      have hnonzero : ns.prod ≠ 0 := List.prod_ne_zero hrest
      rw [List.prod_cons, ← Int.mul_assoc] at hbound
      have hnext : (b * n).natAbs ≤ 2 ^ 63 := by
        rw [Int.natAbs_mul] at hbound
        exact Nat.le_trans (Nat.le_mul_of_pos_right _ (by omega)) hbound
      have hsize : (t * nearestInt n).natAbs = t.natAbs * nearestNat n.natAbs := by
        rw [Int.natAbs_mul, natAbs_nearestInt]
      have hle : nearestNat (t * nearestInt n).natAbs ≤ (b * n).natAbs ^ 3 := by
        rw [hsize, Int.natAbs_mul]
        exact nearestNat_mul_le_cube hself hcube (by omega)
      have hthird : (b * n).natAbs ^ 3 ≤ (2 ^ 63) ^ 3 := Nat.pow_le_pow_left hnext 3
      have hlength : (nearestNat (t * nearestInt n).natAbs).log2 < 190 :=
        log2_lt_of_lt (by decide) (by omega)
      rw [List.map_cons, List.foldlM_cons, nearestInt?, if_pos (by omega)]
      refine ih ?_ ?_ hrest hbound
      · rw [natAbs_nearestInt, nearestNat_idem]
      · rw [natAbs_nearestInt]
        exact hle

theorem roundedFold_mul_isSome (hzero : 0 ∉ ns) (hbound : -2 ^ 63 ≤ ns.prod ∧ ns.prod < 2 ^ 63) :
    (roundedFold (· * ·) 1 ns).isSome := by
  refine foldlM_mul_isSome (b := 1) (nearestNat_of_short (by decide)) (by decide) hzero ?_
  rw [Int.one_mul]
  omega

theorem foldlM_mul_zero (ns : List Int) :
    ns.foldlM (fun t n => nearestInt? (t * n)) 0 = some 0 := by
  induction ns with
  | nil => rfl
  | cons n ns ih =>
      rw [List.foldlM_cons, Int.zero_mul]
      exact ih

theorem takeWhile_of_zero_not_mem (h : 0 ∉ ns) : ns.takeWhile (· ≠ 0) = ns :=
  List.takeWhile_eq_self_iff.mpr fun _ hn => decide_eq_true fun hzero => h (hzero ▸ hn)

/-- A rounded product ends in the exact one of the signed range, unless it is no
longer finite before it comes to a zero. -/
theorem roundedFold_mul (htotal : -2 ^ 63 ≤ ns.prod ∧ ns.prod < 2 ^ 63)
    (h : ¬ Bounded (· * ·) 1 ns) :
    roundedFold (· * ·) 1 ns =
      (roundedFold (· * ·) 1 (ns.takeWhile (· ≠ 0))).map fun _ => ns.prod := by
  by_cases hzero : 0 ∈ ns
  · obtain ⟨before, after, rfl, hbefore⟩ := List.eq_append_cons_of_mem hzero
    have htake : (before ++ 0 :: after).takeWhile (· ≠ 0) = before := by
      have hnonzero : ∀ n ∈ before, decide (n ≠ 0) = true := fun n hn =>
        decide_eq_true fun h => hbefore (h ▸ hn)
      rw [List.takeWhile_append_of_pos hnonzero]
      simp
    have hproduct : (before ++ 0 :: after).prod = 0 := List.prod_eq_zero hzero
    rw [htake, hproduct, roundedFold, List.map_append, List.foldlM_append, List.map_cons]
    simp only [List.foldlM_cons, nearestInt_zero, Int.mul_zero]
    rw [← roundedFold]
    cases roundedFold (· * ·) 1 before with
    | none => rfl
    | some t => exact foldlM_mul_zero (after.map nearestInt)
  · have hproduct := prod_of_unbounded hzero htotal h
    have hself : roundedFold (· * ·) 1 ns = some ns.prod := by
      rw [roundedFold, foldlM_mul_of_dvd, Int.one_mul]
      rw [Int.one_mul, hproduct]
      decide
    rw [takeWhile_of_zero_not_mem hzero, hself]
    rfl

/-- The items before the first zero have a finite rounded product if they are all
the items or if no result on the way leaves the signed range. -/
theorem before_zero_isSome (htotal : -2 ^ 63 ≤ ns.prod ∧ ns.prod < 2 ^ 63)
    (h : 0 ∉ ns ∨ Bounded (· * ·) 1 ns) :
    (roundedFold (· * ·) 1 (ns.takeWhile (· ≠ 0))).isSome := by
  rcases h with hzero | hbounded
  · rw [takeWhile_of_zero_not_mem hzero]
    exact roundedFold_mul_isSome hzero htotal
  · have hbefore : 0 ∉ ns.takeWhile (· ≠ 0) := by
      intro hmem
      have hnonzero := List.mem_takeWhile_imp hmem
      exact of_decide_eq_true hnonzero rfl
    have hresult := hbounded.results _ (List.takeWhile_prefix (· ≠ 0))
    rw [← List.prod_eq_foldl] at hresult
    exact roundedFold_mul_isSome hbefore hresult

/-- A product in the signed range is exact, or there is no value. There is none
exactly where the rounded product of the items before the first zero is not
finite, which asks for a zero among the items and for an exact product that
leaves the signed range before it. -/
theorem product_integers (hns : ∀ n ∈ ns, -2 ^ 63 ≤ n ∧ n < 2 ^ 64)
    (htotal : -2 ^ 63 ≤ ns.prod ∧ ns.prod < 2 ^ 63) :
    product [.array (ns.map .ofInt)] =
        .ok (if (roundedFold (· * ·) 1 (ns.takeWhile (· ≠ 0))).isSome then some (.ofInt ns.prod)
          else none) ∧
      (0 ∉ ns ∨ Bounded (· * ·) 1 ns →
        product [.array (ns.map .ofInt)] = .ok (some (.ofInt ns.prod))) := by
  have hanswer : product [.array (ns.map .ofInt)] =
      .ok (if (roundedFold (· * ·) 1 (ns.takeWhile (· ≠ 0))).isSome then some (.ofInt ns.prod)
        else none) := by
    by_cases hbounded : Bounded (· * ·) 1 ns
    · rw [if_pos (before_zero_isSome htotal (Or.inr hbounded)), List.prod_eq_foldl]
      exact combineAll_bounded "product" rounds_mul hns hbounded
    · obtain ⟨x, hvalue, hx⟩ := combineAll_unbounded "product" rounds_mul hns hbounded
      rw [roundedFold_mul htotal hbounded] at hvalue
      refine hx.trans (congrArg Except.ok ?_)
      cases hbefore : roundedFold (· * ·) 1 (ns.takeWhile (· ≠ 0)) with
      | none => exact (numberAnswer_eq_none_iff hvalue).mpr (by rw [hbefore]; rfl)
      | some t => exact (numberAnswer_eq_ofInt_iff hvalue htotal).mpr (by rw [hbefore]; rfl)
  refine ⟨hanswer, fun h => ?_⟩
  rw [hanswer, if_pos (before_zero_isSome htotal h)]

/-- The product `-2 ^ 63` by way of `2 ^ 63`, and a zero behind a product of 186
binary digits. -/
theorem product_integers_returning :
    let ns : List Int := [2 ^ 62, 2, -1]
    let ms : List Int := [2 ^ 63, 2 ^ 62, -2 ^ 61, 0]
    ((∀ n ∈ ns, -2 ^ 63 ≤ n ∧ n < 2 ^ 64) ∧ -2 ^ 63 ≤ ns.prod ∧ ns.prod < 2 ^ 63) ∧ 0 ∉ ns ∧
      product [.array (ns.map .ofInt)] = .ok (some (.ofInt (-2 ^ 63))) ∧
      ((∀ m ∈ ms, -2 ^ 63 ≤ m ∧ m < 2 ^ 64) ∧ -2 ^ 63 ≤ ms.prod ∧ ms.prod < 2 ^ 63) ∧
      product [.array (ms.map .ofInt)] = .ok (some (.ofInt 0)) := by
  intro ns ms
  have hns : (∀ n ∈ ns, -2 ^ 63 ≤ n ∧ n < 2 ^ 64) ∧ -2 ^ 63 ≤ ns.prod ∧ ns.prod < 2 ^ 63 := by
    decide
  have hms : (∀ m ∈ ms, -2 ^ 63 ≤ m ∧ m < 2 ^ 64) ∧ -2 ^ 63 ≤ ms.prod ∧ ms.prod < 2 ^ 63 := by
    decide
  have hzero : 0 ∉ ns := by decide
  exact ⟨hns, hzero, (product_integers hns.1 hns.2).2 (Or.inl hzero), hms,
    (product_integers hms.1 hms.2).1⟩

/-- Seventeen factors of `2 ^ 62` and a zero have no product when the zero comes
last, and the product zero when it comes first. -/
theorem product_lost_before_zero :
    let ns : List Int := List.replicate 17 (2 ^ 62 : Int) ++ [0]
    let ms : List Int := 0 :: List.replicate 17 (2 ^ 62 : Int)
    ms.Perm ns ∧ ns.prod = 0 ∧
      product [.array (ns.map .ofInt)] = .ok none ∧
      product [.array (ms.map .ofInt)] = .ok (some (.ofInt 0)) := by
  intro ns ms
  have hns : ∀ n ∈ ns, -2 ^ 63 ≤ n ∧ n < 2 ^ 64 := by decide
  have hbounded : ¬ Bounded (· * ·) 1 ns := fun h =>
    absurd (h.results [2 ^ 62, 2 ^ 62] (by decide)) (by decide)
  have hrounded : roundedFold (· * ·) 1 ns = none := by decide +kernel
  obtain ⟨x, hvalue, hx⟩ := combineAll_unbounded "product" rounds_mul hns hbounded
  rw [hrounded] at hvalue
  have hnone := (numberAnswer_eq_none_iff hvalue).mpr rfl
  exact ⟨by decide, by decide, hx.trans (congrArg Except.ok hnone), rfl⟩

end PolicyHost.Builtin
