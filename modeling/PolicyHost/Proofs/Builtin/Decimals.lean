import PolicyHost.Builtin.Conversion
import PolicyHost.Proofs.Builtin.Format
import PolicyHost.Proofs.Builtin.Operand
import PolicyHost.Proofs.Number.Decimal

/-!
# Integers written and read in decimal

Two builtins take an integer to its decimal text and back, and both are exact up to
`2 ^ 63 - 1`. Beyond that both go through floating point. The format `%d` then writes the
nearest integer that is a floating point number (`sprintf_integer`), where `%v` and `%s`
write the integer itself. And a text is read as that floating point number, which is
no integer any more and the same for many texts (`toNumber_spelled`).
-/

namespace PolicyHost.Builtin

open Json Binary64

variable {m n : Int}

/-! ## Writing -/

theorem le_nearestInt (hn : 2 ^ 63 ≤ n) : 2 ^ 63 ≤ nearestInt n := by
  have hleast : nearestInt (2 ^ 63) = 2 ^ 63 := by decide
  have hmono := nearestInt_mono hn
  omega

/-- Past the signed range the integers that are floating point numbers are the multiples
of `2048`. -/
theorem nearestInt_eq_iff (hn : 2 ^ 63 ≤ n ∧ n < 2 ^ 64) : nearestInt n = n ↔ 2048 ∣ n := by
  have hlength : n.natAbs.log2 = 63 := (Nat.log2_eq_iff (by omega)).mpr (by omega)
  have hunit : unit n.natAbs = 2048 := by
    rw [unit, hlength]
    rfl
  rw [nearestInt_of_nonneg (by omega), nearestNat, hunit]
  constructor
  · intro h
    omega
  · rintro ⟨k, rfl⟩
    have hsize : (2048 * k).natAbs = k.natAbs * 2048 := by omega
    rw [hsize, roundQuotient_mul_self _ (by decide)]
    omega

theorem formatInteger_integer (hn : -2 ^ 63 ≤ n ∧ n < 2 ^ 64) :
    formatInteger (.integer n hn) = Decimal.ofInt (if n < 2 ^ 63 then n else nearestInt n) := by
  rw [formatInteger, Number.int64?_integer hn]
  by_cases hsigned : n < 2 ^ 63
  · rw [if_pos hsigned, if_pos hsigned]
  · have hvalue := Number.toInt?_integer hn
    have hnearest := le_nearestInt (Int.not_lt.mp hsigned)
    have hpositive : ¬ n < 0 := by omega
    have hpositive' : ¬ nearestInt n < 0 := by omega
    rw [if_neg hsigned, if_neg hsigned]
    simp only [isIntegral_of_toInt? hvalue, if_true]
    rw [fixed_zero hvalue, sign, Number.negative_integer, decide_eq_false hpositive,
      Decimal.ofInt, if_neg hpositive']
    rfl

/-- A format of one directive writes the value and nothing else. -/
theorem sprintf_directive {verb : Char} (h : verb ≠ '.') (h' : verb ≠ '%') (v : Value) :
    sprintf [.string (String.ofList ['%', verb]), .array [v]] =
      written (formatValue none verb v) := by
  rw [sprintf_string, String.toList_ofList, format, segments_directive (takePrecision_of_ne h),
    segments_nil, fill_value h', fill_nil]
  simp only [Option.map_some, List.append_nil, Option.bind_fun_some]

theorem sprintf_exact {verb : Char} (h : verb = 'v' ∨ verb = 's')
    (hn : -2 ^ 63 ≤ n ∧ n < 2 ^ 64) :
    sprintf [.string (String.ofList ['%', verb]), .array [.ofInt n]] =
      .ok (some (.string (Decimal.intText n))) := by
  have hverb : verb ≠ '.' ∧ verb ≠ '%' := by
    rcases h with rfl | rfl <;> decide
  rw [ofInt_eq hn, sprintf_directive hverb.1 hverb.2, formatValue, if_pos h]
  rfl

theorem sprintf_rounded (hn : -2 ^ 63 ≤ n ∧ n < 2 ^ 64) :
    sprintf [.string (String.ofList ['%', 'd']), .array [.ofInt n]] =
      .ok (some (.string (Decimal.intText (if n < 2 ^ 63 then n else nearestInt n)))) := by
  rw [sprintf_directive (by decide) (by decide), ofInt_eq hn, Decimal.intText,
    ← formatInteger_integer hn]
  rfl

/-- With `%v` and `%s` an integer is written exactly. With `%d` it is below `2 ^ 63`, and
from there on the nearest floating point number is written in its place; so `%d` is
exact up to `2 ^ 63 - 1` and for the multiples of `2048`, and for no other integers. -/
theorem sprintf_integer (hn : -2 ^ 63 ≤ n ∧ n < 2 ^ 64) :
    (sprintf [.string "%v", .array [.ofInt n]] = .ok (some (.string (Decimal.intText n))) ∧
      sprintf [.string "%s", .array [.ofInt n]] = .ok (some (.string (Decimal.intText n)))) ∧
    sprintf [.string "%d", .array [.ofInt n]] =
      .ok (some (.string (Decimal.intText (if n < 2 ^ 63 then n else nearestInt n)))) ∧
    (sprintf [.string "%d", .array [.ofInt n]] = .ok (some (.string (Decimal.intText n))) ↔
      n < 2 ^ 63 ∨ 2048 ∣ n) := by
  have hrounded := sprintf_rounded hn
  refine ⟨⟨sprintf_exact (Or.inl rfl) hn, sprintf_exact (Or.inr rfl) hn⟩, hrounded, ?_⟩
  have hsame : Decimal.intText (if n < 2 ^ 63 then n else nearestInt n) = Decimal.intText n ↔
      (if n < 2 ^ 63 then n else nearestInt n) = n :=
    ⟨fun h => Decimal.ofInt_inj (String.ofList_injective h), congrArg Decimal.intText⟩
  refine hrounded ▸ ?_
  simp only [Except.ok.injEq, Option.some.injEq, Value.string.injEq, hsame]
  split
  · next hsigned => exact iff_of_true rfl (Or.inl hsigned)
  · next hsigned =>
      rw [or_iff_right hsigned, nearestInt_eq_iff ⟨Int.not_lt.mp hsigned, hn.2⟩]

/-- A multiple of `2048` past the signed range. -/
theorem sprintf_integer_multiple :
    let n : Int := 9223372036854777856
    (-2 ^ 63 ≤ n ∧ n < 2 ^ 64) ∧
      sprintf [.string "%d", .array [.ofInt n]] = .ok (some (.string (Decimal.intText n))) := by
  intro n
  have hn : -2 ^ 63 ≤ n ∧ n < 2 ^ 64 := by decide
  exact ⟨hn, (sprintf_integer hn).2.2.mpr (Or.inr (by decide))⟩

/-- The first integer that `%d` does not write exactly, and how `%v` writes it. -/
theorem sprintf_rounds :
    sprintf [.string "%d", .array [.ofInt 9223372036854775809]] =
        .ok (some (.string "9223372036854775808")) ∧
      sprintf [.string "%v", .array [.ofInt 9223372036854775809]] =
        .ok (some (.string "9223372036854775809")) := by
  have hn : -2 ^ 63 ≤ (9223372036854775809 : Int) ∧ (9223372036854775809 : Int) < 2 ^ 64 := by
    decide
  have hnearest : (if (9223372036854775809 : Int) < 2 ^ 63 then 9223372036854775809
      else nearestInt 9223372036854775809) = 9223372036854775808 := by
    decide
  have hrounded : Decimal.intText 9223372036854775808 = "9223372036854775808" := by
    simp [Decimal.intText, Decimal.ofInt, Decimal.digits, Decimal.digitChar]
  have hexact : Decimal.intText 9223372036854775809 = "9223372036854775809" := by
    simp [Decimal.intText, Decimal.ofInt, Decimal.digits, Decimal.digitChar]
  refine ⟨(sprintf_rounded hn).trans ?_, (sprintf_exact (Or.inl rfl) hn).trans ?_⟩
  · rw [hnearest, hrounded]
  · rw [hexact]

/-! ## Reading -/

/-- A text spells an integer: the digits of the integer behind its sign, with any number
of zeros in front of them, and any white space around the whole. -/
def Spells (s : String) (n : Int) : Prop :=
  ∃ before zeros after, s.toList = before ++ Decimal.padded zeros n ++ after ∧
    ∀ c ∈ before ++ after, Text.isBlank c = true

theorem spells_of_toList_eq {s : String} (h : s.toList = Decimal.ofInt n) : Spells s n := by
  refine ⟨[], 0, [], ?_, List.forall_mem_nil _⟩
  rw [h, Decimal.padded_zero, List.nil_append, List.append_nil]

theorem isBlank_of_isDigit {c : Char} (h : Decimal.isDigit c = true) : Text.isBlank c = false := by
  rw [Decimal.isDigit, Bool.and_eq_true, decide_eq_true_eq, decide_eq_true_eq] at h
  have hleast : 48 ≤ c.toNat := h.1
  have hmost : c.toNat ≤ 57 := h.2
  simp [Text.isBlank]
  omega

theorem isBlank_of_mem_padded {zeros : Nat} {c : Char} (h : c ∈ Decimal.padded zeros n) :
    Text.isBlank c = false := by
  rcases List.mem_append.mp h with hsign | hdigit
  · split at hsign
    · rw [List.mem_singleton.mp hsign]
      rfl
    · cases hsign
  · exact isBlank_of_isDigit (Decimal.isDigit_of_mem_padding hdigit)

theorem dropWhile_isBlank {before cs : List Char} (after : List Char) (hne : cs ≠ [])
    (hbefore : ∀ c ∈ before, Text.isBlank c = true) (hcs : ∀ c ∈ cs, Text.isBlank c = false) :
    (before ++ cs ++ after).dropWhile Text.isBlank = cs ++ after := by
  obtain ⟨c, rest, rfl⟩ := List.exists_cons_of_ne_nil hne
  have hhead : ¬ Text.isBlank c = true := by
    rw [hcs c List.mem_cons_self]
    exact Bool.false_ne_true
  rw [List.append_assoc, List.dropWhile_append_of_pos hbefore, List.cons_append,
    List.dropWhile_cons_of_neg hhead]

/-- Trimming takes the white space off that is around a text and not in it. -/
theorem trim_append {before cs after : List Char} (hne : cs ≠ [])
    (h : ∀ c ∈ before ++ after, Text.isBlank c = true)
    (hcs : ∀ c ∈ cs, Text.isBlank c = false) : Text.trim (before ++ cs ++ after) = cs := by
  obtain ⟨hbefore, hafter⟩ := List.forall_mem_append.mp h
  have hbehind : ∀ c ∈ after.reverse, Text.isBlank c = true := fun c hc =>
    hafter c (List.mem_reverse.mp hc)
  have hcs' : ∀ c ∈ cs.reverse, Text.isBlank c = false := fun c hc =>
    hcs c (List.mem_reverse.mp hc)
  have hback := dropWhile_isBlank [] (mt List.reverse_eq_nil_iff.mp hne) hbehind hcs'
  rw [List.append_nil, List.append_nil] at hback
  rw [Text.trim, dropWhile_isBlank after hne hbefore hcs, List.reverse_append, hback,
    List.reverse_reverse]

theorem numberOfText?_padded (zeros : Nat) (hn : -2 ^ 63 ≤ n ∧ n < 2 ^ 64) :
    numberOfText? (Decimal.padded zeros n) =
      some (.number (if n < 2 ^ 63 then .integer n hn
        else .float (Number.integer n hn).toBinary64)) := by
  rw [numberOfText?, Decimal.integer?_padded, Option.bind_some, Calendar.int64?]
  by_cases hsigned : n < 2 ^ 63
  · rw [if_pos ⟨hn.1, hsigned⟩, if_pos hsigned, ← ofInt_eq hn]
  · have hvalue := Number.toInt?_integer hn
    have hnearest := le_nearestInt (Int.not_lt.mp hsigned)
    rw [if_neg fun h => hsigned h.2, if_neg hsigned]
    simp only [Decimal.real?_padded zeros hn, Number.ofInt?_eq hn, Option.bind_some, numberAnswer,
      Option.map_some, Number.ofBinary64, hvalue]
    have hlarge : ¬ Number.isInt64 (nearestInt n) = true := fun h => by
      have hrange := isInt64_iff.mp h
      omega
    rw [if_neg hlarge]

theorem toNumber_of_spells {s : String} (hs : Spells s n) (hn : -2 ^ 63 ≤ n ∧ n < 2 ^ 64) :
    toNumber [.string s] = .ok (some (.number (if n < 2 ^ 63 then .integer n hn
      else .float (Number.integer n hn).toBinary64))) := by
  obtain ⟨before, zeros, after, hs, hblank⟩ := hs
  have hne : Decimal.padded zeros n ≠ [] :=
    List.append_ne_nil_of_right_ne_nil _ (Decimal.padding_ne_nil zeros n.natAbs)
  have htrim := trim_append hne hblank fun _ => isBlank_of_mem_padded
  rw [← numberOfText?_padded zeros hn, ← htrim, ← hs]
  rfl

theorem toNumber_ofInt (n : Int) : toNumber [.ofInt n] = .ok (some (.ofInt n)) :=
  rfl

theorem toNumber_eq_ofInt_iff {t : String} (ht : Spells t n) (hn : -2 ^ 63 ≤ n ∧ n < 2 ^ 64) :
    toNumber [.string t] = .ok (some (.ofInt n)) ↔ n < 2 ^ 63 := by
  rw [toNumber_of_spells ht hn, ofInt_eq hn]
  by_cases hsigned : n < 2 ^ 63
  · rw [if_pos hsigned]
    exact iff_of_true rfl hsigned
  · rw [if_neg hsigned]
    exact iff_of_false (fun h => by cases h) hsigned

theorem toNumber_eq_iff {s t : String} (hs : Spells s m) (ht : Spells t n)
    (hm : -2 ^ 63 ≤ m ∧ m < 2 ^ 64) (hn : -2 ^ 63 ≤ n ∧ n < 2 ^ 64) :
    toNumber [.string s] = toNumber [.string t] ↔
      m = n ∨ (2 ^ 63 ≤ m ∧ 2 ^ 63 ≤ n ∧ nearestInt m = nearestInt n) := by
  rw [toNumber_of_spells hs hm, toNumber_of_spells ht hn]
  simp only [Except.ok.injEq, Option.some.injEq, Value.number.injEq]
  by_cases hsigned : m < 2 ^ 63 <;> by_cases hsigned' : n < 2 ^ 63
  · rw [if_pos hsigned, if_pos hsigned', Number.integer.injEq]
    exact (or_iff_left fun h => by omega).symm
  · rw [if_pos hsigned, if_neg hsigned']
    exact iff_of_false (fun h => by cases h) (by omega)
  · rw [if_neg hsigned, if_pos hsigned']
    exact iff_of_false (fun h => by cases h) (by omega)
  · rw [if_neg hsigned, if_neg hsigned', Number.float.injEq, ← key_inj, Number.key_eq_iff]
    refine ⟨fun h => Or.inr ⟨Int.not_lt.mp hsigned, Int.not_lt.mp hsigned', h⟩, ?_⟩
    rintro (rfl | ⟨-, -, h⟩)
    · rfl
    · exact h

/-- An integer is its own number, and below `2 ^ 63` its texts are read as it. From there
on they are read as the nearest floating point number, which is no integer, so that
texts of different integers are read as one number where the nearest is the same. -/
theorem toNumber_spelled {s t : String} (hm : -2 ^ 63 ≤ m ∧ m < 2 ^ 64)
    (hn : -2 ^ 63 ≤ n ∧ n < 2 ^ 64) (hs : Spells s m) (ht : Spells t n) :
    toNumber [.ofInt n] = .ok (some (.ofInt n)) ∧
    (toNumber [.string t] = .ok (some (.ofInt n)) ↔ n < 2 ^ 63) ∧
    (2 ^ 63 ≤ n → ∃ x : Binary64, x.toInt? = some (nearestInt n) ∧
      toNumber [.string t] = .ok (some (.number (.float x)))) ∧
    (toNumber [.string s] = toNumber [.string t] ↔
      m = n ∨ (2 ^ 63 ≤ m ∧ 2 ^ 63 ≤ n ∧ nearestInt m = nearestInt n)) := by
  refine ⟨toNumber_ofInt n, toNumber_eq_ofInt_iff ht hn, fun hlarge => ?_,
    toNumber_eq_iff hs ht hm hn⟩
  refine ⟨_, Number.toInt?_integer hn, ?_⟩
  rw [toNumber_of_spells ht hn, if_neg (Int.not_lt.mpr hlarge)]

/-- Seven zeros in front of a number and white space on both sides. -/
theorem toNumber_spelled_zeros :
    let m : Int := -9223372036854775808
    let n : Int := 9223372036854775807
    ((-2 ^ 63 ≤ m ∧ m < 2 ^ 64) ∧ (-2 ^ 63 ≤ n ∧ n < 2 ^ 64) ∧
      Spells " -00000009223372036854775808\n" m ∧ Spells "9223372036854775807" n) ∧
      toNumber [.string "9223372036854775807"] = .ok (some (.ofInt n)) ∧
      toNumber [.string " -00000009223372036854775808\n"] ≠
        toNumber [.string "9223372036854775807"] := by
  intro m n
  have hm : -2 ^ 63 ≤ m ∧ m < 2 ^ 64 := by decide
  have hn : -2 ^ 63 ≤ n ∧ n < 2 ^ 64 := by decide
  have hs : Spells " -00000009223372036854775808\n" m :=
    ⟨[' '], 7, ['\n'], by simp [m, Decimal.padded, Decimal.digits, Decimal.digitChar],
      List.all_eq_true.mp rfl⟩
  have ht : Spells "9223372036854775807" n :=
    spells_of_toList_eq (by simp [n, Decimal.ofInt, Decimal.digits, Decimal.digitChar])
  have hread := toNumber_spelled hm hn hs ht
  refine ⟨⟨hm, hn, hs, ht⟩, hread.2.1.mpr (by decide), fun h => ?_⟩
  exact absurd (hread.2.2.2.mp h) (by decide)

/-- Two neighbours past the signed range are read as one number, and it is neither of
them. -/
theorem toNumber_merges :
    toNumber [.string "9223372036854775808"] = toNumber [.string "9223372036854775809"] ∧
      toNumber [.string "9223372036854775808"] ≠ .ok (some (.ofInt 9223372036854775808)) ∧
      toNumber [.string "9223372036854775809"] ≠ .ok (some (.ofInt 9223372036854775809)) := by
  have hm : -2 ^ 63 ≤ (9223372036854775808 : Int) ∧ (9223372036854775808 : Int) < 2 ^ 64 := by
    decide
  have hn : -2 ^ 63 ≤ (9223372036854775809 : Int) ∧ (9223372036854775809 : Int) < 2 ^ 64 := by
    decide
  have hs : Spells "9223372036854775808" 9223372036854775808 :=
    spells_of_toList_eq (by simp [Decimal.ofInt, Decimal.digits, Decimal.digitChar])
  have ht : Spells "9223372036854775809" 9223372036854775809 :=
    spells_of_toList_eq (by simp [Decimal.ofInt, Decimal.digits, Decimal.digitChar])
  exact ⟨(toNumber_eq_iff hs ht hm hn).mpr (Or.inr (by decide)),
    mt (toNumber_eq_ofInt_iff hs hm).mp (by decide),
    mt (toNumber_eq_ofInt_iff ht hn).mp (by decide)⟩

end PolicyHost.Builtin
