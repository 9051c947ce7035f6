import PolicyHost.Builtin.Aggregate
import PolicyHost.Builtin.Text
import PolicyHost.Proofs.Builtin.Operand

/-!
# Slices of strings

A slice leaves characters out and takes some of the rest. A negative length takes
all of it, and a slice never asks for more than there is, so that cutting a
string in two loses nothing and a slice of the rest of a string is a slice of the
string (`substring_slices`).
-/

namespace PolicyHost.Builtin

open Json

section

variable {cs : List Char} {i : Nat} {n : Int}

theorem slice_of_neg (h : n < 0) : slice cs i n = cs.drop i := by
  rw [slice, if_pos h]

theorem slice_of_nonneg (h : 0 ≤ n) : slice cs i n = (cs.drop i).take n.toNat := by
  rw [slice, if_neg (Int.not_lt.mpr h)]

theorem slice_append (cs : List Char) (i : Nat) : slice cs 0 i ++ slice cs i (-1) = cs := by
  rw [slice_of_nonneg (Int.natCast_nonneg i), slice_of_neg (by decide), List.drop_zero,
    Int.toNat_natCast, List.take_append_drop]

theorem length_slice (h : 0 ≤ n) : (slice cs i n).length = Min.min n.toNat (cs.length - i) := by
  rw [slice_of_nonneg h, List.length_take, List.length_drop]

theorem slice_slice (cs : List Char) (i j : Nat) (n : Int) :
    slice (slice cs i (-1)) j n = slice cs (i + j) n := by
  have hrest : slice cs i (-1) = cs.drop i := slice_of_neg (by decide)
  rw [hrest, slice, slice, List.drop_drop]

end

theorem substring_ofInt (s : String) {a l : Int} (ha : -2 ^ 63 ≤ a ∧ a < 2 ^ 63)
    (hl : -2 ^ 63 ≤ l ∧ l < 2 ^ 63) :
    substring [.string s, .ofInt a, .ofInt l] =
      if a < 0 then .error (.refused "substring" .negativeOffset)
      else .ok (some (text (slice s.toList a.toNat l))) := by
  have hstart : integerOperand "substring" [.string s, .ofInt a, .ofInt l] 1 = .ok a :=
    integerOperand_ofInt ha rfl _
  have hlength : integerOperand "substring" [.string s, .ofInt a, .ofInt l] 2 = .ok l :=
    integerOperand_ofInt hl rfl _
  simp only [substring, textOperand, operand, List.getElem?_cons_zero, bind, Except.bind, hstart,
    hlength]
  split <;> rfl

/-- A slice that begins inside a text or behind it. -/
theorem substring_of_nonneg (s : String) {a l : Int} (ha : 0 ≤ a ∧ a < 2 ^ 63)
    (hl : -2 ^ 63 ≤ l ∧ l < 2 ^ 63) :
    substring [.string s, .ofInt a, .ofInt l] =
      .ok (some (.string (String.ofList (slice s.toList a.toNat l)))) := by
  rw [substring_ofInt s ⟨by omega, ha.2⟩ hl, if_neg (Int.not_lt.mpr ha.1)]
  rfl

/-- A slice that would begin in front of the string is refused. Otherwise the two
parts of a string that is cut at a place make it up, a slice has as many characters
as its length says if there are so many, every negative length takes all there are,
and a slice of the part behind a place is a slice of the string. -/
theorem substring_slices (s : String) {a l : Int} (ha : -2 ^ 63 ≤ a ∧ a < 2 ^ 63)
    (hl : -2 ^ 63 ≤ l ∧ l < 2 ^ 63) :
    (a < 0 → substring [.string s, .ofInt a, .ofInt l] =
      .error (.refused "substring" .negativeOffset)) ∧
    (0 ≤ a →
      (∃ front back : String,
        substring [.string s, .ofInt 0, .ofInt a] = .ok (some (.string front)) ∧
        substring [.string s, .ofInt a, .ofInt (-1)] = .ok (some (.string back)) ∧
        front ++ back = s) ∧
      (∃ r : String, substring [.string s, .ofInt a, .ofInt l] = .ok (some (.string r)) ∧
        (0 ≤ l → count [.string s] = .ok (some (.ofInt s.length)) ∧
          (r.length : Int) = Min.min l (Max.max 0 (s.length - a))) ∧
        (l < 0 → substring [.string s, .ofInt a, .ofInt (-1)] = .ok (some (.string r)))) ∧
      ∀ b : Int, 0 ≤ b → a + b < 2 ^ 63 → ∃ rest r : String,
        substring [.string s, .ofInt a, .ofInt (-1)] = .ok (some (.string rest)) ∧
        substring [.string rest, .ofInt b, .ofInt l] = .ok (some (.string r)) ∧
        substring [.string s, .ofInt (a + b), .ofInt l] = .ok (some (.string r))) := by
  have hone : -2 ^ 63 ≤ (-1 : Int) ∧ (-1 : Int) < 2 ^ 63 := by decide
  constructor
  · intro hneg
    rw [substring_ofInt s ha hl, if_pos hneg]
  · intro hnonneg
    have hstart : 0 ≤ a ∧ a < 2 ^ 63 := ⟨hnonneg, ha.2⟩
    have hall := substring_of_nonneg s hstart hone
    have hslice := substring_of_nonneg s hstart hl
    refine ⟨?_, ?_, fun b hb hsum => ?_⟩
    · refine ⟨_, _, substring_of_nonneg s (by decide) ha, hall, ?_⟩
      have hplace : slice s.toList (0 : Int).toNat a = slice s.toList 0 a.toNat := by
        rw [Int.toNat_of_nonneg hnonneg]
        rfl
      rw [hplace, ← String.ofList_append, slice_append, String.ofList_toList]
    · refine ⟨_, hslice, fun hlength => ⟨rfl, ?_⟩, fun hnegative => ?_⟩
      · rw [String.length_ofList, length_slice hlength, String.length_toList]
        omega
      · rw [hall, slice_of_neg hnegative, slice_of_neg (by decide)]
    · have hb' : 0 ≤ b ∧ b < 2 ^ 63 := ⟨hb, by omega⟩
      have hsum' : 0 ≤ a + b ∧ a + b < 2 ^ 63 := ⟨by omega, hsum⟩
      refine ⟨_, _, hall, substring_of_nonneg _ hb' hl, ?_⟩
      rw [substring_of_nonneg s hsum' hl, String.toList_ofList, slice_slice,
        Int.toNat_add hnonneg hb]

/-- A length beyond the end of a string whose second character has two bytes. -/
theorem substring_slices_clamped :
    ((-2 ^ 63 ≤ (2 : Int) ∧ (2 : Int) < 2 ^ 63) ∧ -2 ^ 63 ≤ (9 : Int) ∧ (9 : Int) < 2 ^ 63) ∧
      (∃ front back : String,
        substring [.string "héllo", .ofInt 0, .ofInt 2] = .ok (some (.string front)) ∧
        substring [.string "héllo", .ofInt 2, .ofInt (-1)] = .ok (some (.string back)) ∧
        front ++ back = "héllo") ∧
      (∃ r : String, substring [.string "héllo", .ofInt 2, .ofInt 9] = .ok (some (.string r)) ∧
        (r.length : Int) = 3) ∧
      ∃ rest r : String,
        substring [.string "héllo", .ofInt 2, .ofInt (-1)] = .ok (some (.string rest)) ∧
        substring [.string rest, .ofInt 1, .ofInt 9] = .ok (some (.string r)) ∧
        substring [.string "héllo", .ofInt (2 + 1), .ofInt 9] = .ok (some (.string r)) := by
  have ha : -2 ^ 63 ≤ (2 : Int) ∧ (2 : Int) < 2 ^ 63 := by decide
  have hl : -2 ^ 63 ≤ (9 : Int) ∧ (9 : Int) < 2 ^ 63 := by decide
  obtain ⟨hcut, ⟨r, hr, hcount, -⟩, hrest⟩ := (substring_slices "héllo" ha hl).2 (by decide)
  exact ⟨⟨ha, hl⟩, hcut, ⟨r, hr, (hcount (by decide)).2⟩, hrest 1 (by decide) (by decide)⟩

end PolicyHost.Builtin
