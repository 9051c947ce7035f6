import PolicyHost.Proofs.Builtin.Slicing
import PolicyHost.Proofs.Text.Bytes

/-!
# What a search in a string finds

A string occurs at a place of another one when the slice there is the string
(`OccursAt`). Searching, the test for either end and the index of an occurrence are
all said by slices (`search_by_slices`): the index is the least place, and there is
one exactly when the search succeeds. Finding the place among the bytes and counting
the characters in front of it gives the same index.

Places are operands of `substring`, which have to be signed 64-bit integers. So a
string has fewer than `2 ^ 63` characters here, which every string in the memory of
a 64-bit machine has.
-/

namespace PolicyHost.Builtin

open Json

/-- The slice of `s` at the place `i` that is as long as `t` is `t`, all of it inside `s`. -/
def OccursAt (t s : String) (i : Nat) : Prop :=
  i + t.length ≤ s.length ∧
    substring [.string s, .ofInt i, .ofInt t.length] = .ok (some (.string t))

variable {s t : String}

/-- A string occurs where a text is cut around it. -/
theorem occursAt_iff (hs : s.length < 2 ^ 63) {i : Nat} :
    OccursAt t s i ↔ ∃ a b, s.toList = a ++ t.toList ++ b ∧ a.length = i := by
  rw [Text.exists_cut_iff_slice, OccursAt, String.length_toList, String.length_toList]
  refine and_congr_right fun hfits => ?_
  have hplace : (0 : Int) ≤ i ∧ (i : Int) < 2 ^ 63 := by omega
  have hlength : -2 ^ 63 ≤ (t.length : Int) ∧ (t.length : Int) < 2 ^ 63 := by omega
  rw [substring_of_nonneg s hplace hlength, slice_of_nonneg (Int.natCast_nonneg _),
    Int.toNat_natCast, Int.toNat_natCast]
  constructor
  · intro h
    simp only [Except.ok.injEq, Option.some.injEq, Value.string.injEq] at h
    have hchars := congrArg String.toList h
    rwa [String.toList_ofList] at hchars
  · intro h
    rw [h, String.ofList_toList]

/-- The first cut is at the least place. -/
theorem occursAt_of_indexOf? (hs : s.length < 2 ^ 63) {i : Nat}
    (h : Text.indexOf? t.toList s.toList = some i) :
    OccursAt t s i ∧ ∀ j, OccursAt t s j → i ≤ j := by
  obtain ⟨a, b, hcut, hlength⟩ := Text.indexOf?_eq_some_iff.mp h
  refine ⟨(occursAt_iff hs).mpr ⟨a, b, hcut.1, hlength⟩, fun j hj => ?_⟩
  obtain ⟨a', b', hcut', rfl⟩ := (occursAt_iff hs).mp hj
  exact hlength ▸ hcut.2 a' b' hcut'

theorem not_occursAt_of_indexOf? (hs : s.length < 2 ^ 63)
    (h : Text.indexOf? t.toList s.toList = none) (j : Nat) : ¬ OccursAt t s j := by
  intro hj
  obtain ⟨a, b, hcut, -⟩ := (occursAt_iff hs).mp hj
  exact Text.indexOf?_eq_none_iff.mp h ⟨a, b, hcut.symm⟩

/-- A string ends with another one when that occurs as far from the end as it is long. -/
theorem suffix_iff_occursAt (hs : s.length < 2 ^ 63) :
    t.toList <:+ s.toList ↔ t.length ≤ s.length ∧ OccursAt t s (s.length - t.length) := by
  rw [occursAt_iff hs]
  constructor
  · rintro ⟨a, ha⟩
    have hlength := congrArg List.length ha
    rw [List.length_append, String.length_toList, String.length_toList] at hlength
    exact ⟨by omega, a, [], by rw [List.append_nil, ha], by omega⟩
  · rintro ⟨hle, a, b, hcut, hplace⟩
    have hlength := congrArg List.length hcut
    simp only [List.length_append, String.length_toList] at hlength
    obtain rfl : b = [] := List.eq_nil_of_length_eq_zero (by omega)
    exact ⟨a, by rw [hcut, List.append_nil]⟩

theorem byteIndex_eq (s t : String) :
    Text.indexOf? t.toUTF8.toList s.toUTF8.toList =
      (Text.indexOf? t.toList s.toList).map fun i =>
        (String.ofList (s.toList.take i)).utf8ByteSize := by
  simp only [Text.toUTF8_toList_eq, Text.indexOf?_bytesOf, Guest.utf8ByteSize_eq,
    String.toList_ofList]

/-- Among the bytes the index is the size of the characters in front. -/
theorem exists_front {i : Nat} (hi : i ≤ s.length)
    (h : Text.indexOf? t.toList s.toList = some i) :
    ∃ front : String, front.toList <+: s.toList ∧ front.length = i ∧
      Text.indexOf? t.toUTF8.toList s.toUTF8.toList = some front.utf8ByteSize := by
  refine ⟨String.ofList (s.toList.take i), ?_, ?_, ?_⟩
  · rw [String.toList_ofList]
    exact List.take_prefix i s.toList
  · rw [String.length_ofList, List.length_take_of_le (String.length_toList ▸ hi)]
  · rw [byteIndex_eq, h, Option.map_some]

theorem indexOf_strings (s t : String) :
    indexOf [.string s, .string t] =
      .ok (some (.ofInt (((Text.indexOf? t.toList s.toList).map Int.ofNat).getD (-1)))) :=
  rfl

/-- The index of an occurrence is zero exactly when it is the place `0`. -/
theorem indexOf_eq_zero_iff (hs : s.length < 2 ^ 63) :
    indexOf [.string s, .string t] = .ok (some (.ofInt 0)) ↔
      Text.indexOf? t.toList s.toList = some 0 := by
  rw [indexOf_strings]
  constructor
  · intro h
    have hvalue := Option.some.inj (Except.ok.inj h)
    cases hindex : Text.indexOf? t.toList s.toList with
    | none =>
        rw [hindex] at hvalue
        exact absurd (ofInt_inj (by decide) (by decide) hvalue) (by decide)
    | some i =>
        have hfits := (occursAt_of_indexOf? hs hindex).1.1
        rw [hindex] at hvalue
        have hzero : (i : Int) = 0 := ofInt_inj (by omega) (by decide) hvalue
        rw [Int.natCast_eq_zero.mp hzero]
  · intro h
    rw [h]
    rfl

/-- What a search finds, said by slices: where it succeeds the index is the least
place that the string occurs at, and the size of the characters in front of it is
the index among the bytes; where it fails the index is `-1` and there is no such
place. A string begins with what has the index zero, and it ends with what occurs
as far from its end as it is long. -/
theorem search_by_slices (s t : String) (hs : s.length < 2 ^ 63) :
    count [.string s] = .ok (some (.ofInt s.length)) ∧
    count [.string t] = .ok (some (.ofInt t.length)) ∧
    (∃ found : Bool, contains [.string s, .string t] = .ok (some (.bool found)) ∧
      (found = true → ∃ i : Nat,
        indexOf [.string s, .string t] = .ok (some (.ofInt i)) ∧
        OccursAt t s i ∧ (∀ j, OccursAt t s j → i ≤ j) ∧
        ∃ front : String, front.toList <+: s.toList ∧ front.length = i ∧
          Text.indexOf? t.toUTF8.toList s.toUTF8.toList = some front.utf8ByteSize) ∧
      (found = false →
        indexOf [.string s, .string t] = .ok (some (.ofInt (-1))) ∧
        (∀ j, ¬ OccursAt t s j) ∧
        Text.indexOf? t.toUTF8.toList s.toUTF8.toList = none)) ∧
    (∃ first : Bool, startsWith [.string s, .string t] = .ok (some (.bool first)) ∧
      (first = true ↔ indexOf [.string s, .string t] = .ok (some (.ofInt 0)))) ∧
    ∃ last : Bool, endsWith [.string s, .string t] = .ok (some (.bool last)) ∧
      (last = true ↔ t.length ≤ s.length ∧ OccursAt t s (s.length - t.length)) := by
  refine ⟨rfl, rfl, ⟨Text.contains t.toList s.toList, rfl, ?_, ?_⟩,
    ⟨Text.startsWith t.toList s.toList, rfl, ?_⟩, Text.endsWith t.toList s.toList, rfl, ?_⟩
  · intro hfound
    have hsome : Text.indexOf? t.toList s.toList ≠ none := fun h =>
      Text.indexOf?_eq_none_iff.mp h (Text.contains_iff.mp hfound)
    obtain ⟨i, hindex⟩ := Option.ne_none_iff_exists'.mp hsome
    obtain ⟨hoccurs, hleast⟩ := occursAt_of_indexOf? hs hindex
    have hi : i ≤ s.length := Nat.le_of_add_right_le hoccurs.1
    refine ⟨i, ?_, hoccurs, hleast, exists_front hi hindex⟩
    rw [indexOf_strings, hindex]
    rfl
  · intro hlost
    have hnone : Text.indexOf? t.toList s.toList = none := by
      refine Text.indexOf?_eq_none_iff.mpr fun hinfix => ?_
      rw [Text.contains_iff.mpr hinfix] at hlost
      cases hlost
    refine ⟨?_, not_occursAt_of_indexOf? hs hnone, ?_⟩
    · rw [indexOf_strings, hnone]
      rfl
    · rw [byteIndex_eq, hnone, Option.map_none]
  · rw [Text.startsWith_iff_indexOf?, indexOf_eq_zero_iff hs]
  · rw [Text.endsWith_iff, suffix_iff_occursAt hs]

/-- The occurrence stands behind a character of two bytes. -/
theorem search_by_slices_accent :
    "aéaé!".length < 2 ^ 63 ∧
      contains [.string "aéaé!", .string "é!"] = .ok (some (.bool true)) ∧
      ∃ i : Nat, indexOf [.string "aéaé!", .string "é!"] = .ok (some (.ofInt i)) ∧
        OccursAt "é!" "aéaé!" i ∧ (∀ j, OccursAt "é!" "aéaé!" j → i ≤ j) ∧
        ∃ front : String, front.toList <+: "aéaé!".toList ∧ front.length = i ∧
          Text.indexOf? "é!".toUTF8.toList "aéaé!".toUTF8.toList = some front.utf8ByteSize := by
  have hs : "aéaé!".length < 2 ^ 63 := by decide
  have hcontains : contains [.string "aéaé!", .string "é!"] = .ok (some (.bool true)) := rfl
  obtain ⟨-, -, ⟨found, hanswer, hfound, -⟩, -⟩ := search_by_slices "aéaé!" "é!" hs
  have htrue : found = true := by
    rw [hcontains] at hanswer
    cases hanswer
    rfl
  exact ⟨hs, hcontains, hfound htrue⟩

end PolicyHost.Builtin
