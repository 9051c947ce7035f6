import PolicyHost.Proofs.Guest.Encoding
import PolicyHost.Proofs.Text.Search

/-!
# Searching the bytes of a text

Texts are searched by their characters. A search of their bytes cuts at the same
place (`breakOn_bytesOf`), so the index of an occurrence may as well be found
among the bytes and counted in characters afterwards (`indexOf?_bytesOf`).

Two properties of UTF-8 carry that. The bytes of no character begin those of
another one (`Guest.utf8EncodeChar_append_inj`), and of the bytes of a character
only the first is one that characters begin with. Hence bytes that begin like a
character are found where a character begins (`cut_of_first_byte`), and the bytes
of a text only where the text itself is (`cut_of_bytes`).

Texts are also compared by their characters, and their bytes stand in the same order
(`toUTF8_lt_iff`).
-/

namespace PolicyHost.Text

open Guest (bytesOf bytesOf_cons bytesOf_append append_of_bytes toUTF8_toList)

variable {p s a b : List Char} {x y : List UInt8}

/-- A byte that characters begin with stands nowhere but at the start of one. -/
theorem cut_of_first_byte {first : UInt8} (hfirst : first.IsUTF8FirstByte)
    (h : bytesOf s = x ++ first :: y) :
    ∃ a b, s = a ++ b ∧ x = bytesOf a ∧ first :: y = bytesOf b := by
  induction s generalizing x with
  | nil => exact absurd h.symm (List.append_ne_nil_of_right_ne_nil x (List.cons_ne_nil first y))
  | cons c s ih =>
      cases x with
      | nil => exact ⟨[], c :: s, rfl, rfl, h.symm⟩
      | cons lead x =>
          rw [bytesOf_cons] at h
          rcases List.append_eq_append_iff.mp h with ⟨u, hu, hs⟩ | ⟨u, hu, hs⟩
          · -- The byte comes after the character, so it is found in the rest.
            obtain ⟨a, b, rfl, rfl, hb⟩ := ih hs
            exact ⟨c :: a, b, rfl, hu.trans (bytesOf_cons c a).symm, hb⟩
          · cases u with
            | nil =>
                rw [List.append_nil] at hu
                refine ⟨[c], s, rfl, ?_, hs⟩
                rw [bytesOf_cons, hu]
                exact (List.append_nil _).symm
            | cons first' u =>
                obtain ⟨rfl, -⟩ := List.cons.inj hs
                have hindex : (lead :: x).length < (String.utf8EncodeChar c).length := by
                  rw [hu]
                  simp
                have hbyte : (String.utf8EncodeChar c)[(lead :: x).length] = first := by
                  simp [hu]
                rw [← hbyte, UInt8.isUTF8FirstByte_getElem_utf8EncodeChar] at hfirst
                exact absurd hfirst (Nat.succ_ne_zero _)

/-- The bytes of a text that is not empty are found only where the text is. -/
theorem cut_of_bytes (hp : p ≠ []) (h : bytesOf s = x ++ bytesOf p ++ y) :
    ∃ a b, s = a ++ p ++ b ∧ x = bytesOf a ∧ y = bytesOf b := by
  obtain ⟨c, rest, rfl⟩ := List.exists_cons_of_ne_nil hp
  obtain ⟨first, tail, htail⟩ := List.exists_cons_of_ne_nil (String.utf8EncodeChar_ne_nil (c := c))
  have hfirst : first.IsUTF8FirstByte := by
    have hzero : 0 < (String.utf8EncodeChar c).length := by rw [htail]; exact Nat.succ_pos _
    have hbyte : (String.utf8EncodeChar c)[0] = first := by simp [htail]
    exact hbyte ▸ UInt8.isUTF8FirstByte_getElem_utf8EncodeChar.mpr rfl
  have hbytes : bytesOf s = x ++ first :: (tail ++ bytesOf rest ++ y) := by
    rw [h, bytesOf_cons, htail]
    simp
  obtain ⟨a, back, rfl, rfl, hback⟩ := cut_of_first_byte hfirst hbytes
  have hprefix : bytesOf back = bytesOf (c :: rest) ++ y := by
    rw [← hback, bytesOf_cons, htail]
    simp
  obtain ⟨b, rfl, hb⟩ := append_of_bytes hprefix
  exact ⟨a, b, (List.append_assoc a (c :: rest) b).symm, rfl, hb⟩

/-- The first occurrence of a text is that of its bytes. -/
theorem FirstCut.bytesOf (h : FirstCut p s a b) :
    FirstCut (bytesOf p) (bytesOf s) (bytesOf a) (bytesOf b) := by
  by_cases hp : p = []
  · subst hp
    obtain ⟨rfl, rfl⟩ := (firstCut_start rfl).mp h
    exact (firstCut_start rfl).mpr ⟨rfl, rfl⟩
  · refine ⟨by rw [h.1, bytesOf_append, bytesOf_append], fun x y hcut => ?_⟩
    obtain ⟨a', b', hs, rfl, rfl⟩ := cut_of_bytes hp hcut
    have hlength : a.length ≤ a'.length := h.2 a' b' hs
    have hfirst : a <+: s := ⟨p ++ b, by rw [h.1, List.append_assoc]⟩
    have hother : a' <+: s := ⟨p ++ b', by rw [hs, List.append_assoc]⟩
    have hprefix := List.prefix_of_prefix_length_le hfirst hother hlength
    obtain ⟨rest, rfl⟩ := hprefix
    rw [bytesOf_append, List.length_append]
    exact Nat.le_add_right _ _

theorem breakOn_bytesOf (p s : List Char) :
    breakOn (bytesOf p) (bytesOf s) =
      (breakOn p s).map fun cut => (bytesOf cut.1, bytesOf cut.2) := by
  cases h : breakOn p s with
  | none =>
      have hnone := breakOn_eq_none_iff.mp h
      refine breakOn_eq_none_iff.mpr fun ⟨x, y, hcut⟩ => ?_
      have hp : p ≠ [] := by
        rintro rfl
        exact hnone List.nil_infix
      obtain ⟨a, b, hs, -, -⟩ := cut_of_bytes hp hcut.symm
      exact hnone ⟨a, b, hs.symm⟩
  | some cut => exact breakOn_eq_some_iff.mpr (breakOn_eq_some_iff.mp h).bytesOf

/-- The index of a text among bytes is the size of the characters in front of it. -/
theorem indexOf?_bytesOf (p s : List Char) :
    indexOf? (bytesOf p) (bytesOf s) =
      (indexOf? p s).map fun i => (bytesOf (s.take i)).length := by
  rw [indexOf?, indexOf?, breakOn_bytesOf, Option.map_map, Option.map_map]
  cases h : breakOn p s with
  | none => rfl
  | some cut =>
      have hfront : s.take cut.1.length = cut.1 := by
        rw [(breakOn_eq_some_iff.mp h).1, List.append_assoc, List.take_left]
      simp only [Option.map_some, Function.comp_apply, hfront]

/-! ## The order of texts -/

theorem toUTF8_toList_eq (s : String) : s.toUTF8.toList = bytesOf s.toList := by
  rw [← toUTF8_toList, String.ofList_toList]

theorem utf8EncodeChar_append_lt {c d : Char} (h : c < d) (x y : List UInt8) :
    String.utf8EncodeChar c ++ x < String.utf8EncodeChar d ++ y := by
  have hlt : c.val.toNat < d.val.toNat := h
  have hlast : d.val.toNat < 0x110000 := by
    rcases d.valid with h | h <;> omega
  rw [String.utf8EncodeChar, String.utf8EncodeChar]
  generalize c.val.toNat = v at *
  generalize d.val.toNat = w at *
  generalize hrest : (x < y) = rest
  repeat' split
  all_goals
    simp only [List.cons_append, List.nil_append, List.cons_lt_cons_iff, UInt8.lt_iff_toNat_lt,
      ← UInt8.toNat_inj, UInt8.toNat_ofNat', hrest]
  -- Of two characters of four bytes the first group of bits that differs decides.
  on_goal -1 =>
    by_cases hhigh : v / 262144 = w / 262144
    · refine Or.inr ⟨by omega, ?_⟩
      by_cases hmiddle : v / 4096 = w / 4096
      · refine Or.inr ⟨by omega, ?_⟩
        by_cases hlow : v / 64 = w / 64
        · exact Or.inr ⟨by omega, Or.inl (by omega)⟩
        · exact Or.inl (by omega)
      · exact Or.inl (by omega)
    · exact Or.inl (by omega)
  all_goals omega

theorem bytesOf_lt {t : List Char} (h : s < t) : bytesOf s < bytesOf t := by
  induction s generalizing t with
  | nil =>
      cases t with
      | nil => exact absurd h (List.lt_irrefl _)
      | cons d t =>
          obtain ⟨first, rest, hbytes⟩ :=
            List.exists_cons_of_ne_nil (String.utf8EncodeChar_ne_nil (c := d))
          rw [bytesOf_cons, hbytes]
          exact List.nil_lt_cons _ _
  | cons c s ih =>
      cases t with
      | nil => exact absurd h (List.not_lt_nil _)
      | cons d t =>
          rw [bytesOf_cons, bytesOf_cons]
          rcases List.cons_lt_cons_iff.mp h with hchar | ⟨rfl, hrest⟩
          · exact utf8EncodeChar_append_lt hchar _ _
          · exact List.append_left_lt (ih hrest)

/-- Texts stand in the order of their bytes. -/
theorem toUTF8_lt_iff {a b : String} : a.toUTF8.toList < b.toUTF8.toList ↔ a < b := by
  rw [toUTF8_toList_eq, toUTF8_toList_eq]
  refine ⟨fun h => ?_, bytesOf_lt⟩
  by_contra hnot
  by_cases heq : a = b
  · rw [heq] at h
    exact List.lt_irrefl _ h
  · have hgt : b < a := Std.lt_of_le_of_ne (Std.not_lt.mp hnot) (Ne.symm heq)
    exact List.lt_asymm h (bytesOf_lt hgt)

theorem toUTF8_le_iff {a b : String} : a.toUTF8.toList ≤ b.toUTF8.toList ↔ a ≤ b := by
  exact not_congr toUTF8_lt_iff

end PolicyHost.Text
