import PolicyHost.Text.Search

/-!
# What is found, and where a text is cut

A search succeeds exactly when there is an occurrence (`breakOn_eq_none_iff`),
and it cuts at the first one: none begins earlier (`breakOn_eq_some_iff`). Both
follow the walk along the text, which either stops at the start of what is left
(`breakOn_start`) or leaves one element behind (`breakOn_cons`).

Splitting at a separator that is not empty is cutting as long as there is an
occurrence, and `split_of_whole` and `split_of_cut` are the two equations of
that. With `split_induction`, which follows the cuts, they carry what is proved
about splitting: joining the pieces gives the text back, and no piece contains
the separator, since it would have been cut there. The other way round a text
that was joined is cut where it was joined, as long as the separator is a single
element: a longer one can occur across the end of a piece.

Exchanging cuts where splitting does, so `replace` is nothing but joining the
pieces with the new text (`replace_eq_intercalate_split`), and what was written
in exchange is not looked at again.
-/

namespace PolicyHost.Text

/-! ## The first occurrence -/

section

variable {α : Type} {p s a b : List α} {c : α}

/-- `a` stands before the first occurrence of `p` in `s` and `b` behind it. -/
def FirstCut (p s a b : List α) : Prop :=
  s = a ++ p ++ b ∧ ∀ a' b', s = a' ++ p ++ b' → a.length ≤ a'.length

theorem firstCut_start {r : List α} (h : s = p ++ r) : FirstCut p s a b ↔ a = [] ∧ b = r := by
  constructor
  · rintro ⟨hcut, hfirst⟩
    obtain rfl : a = [] := List.eq_nil_of_length_eq_zero (Nat.le_zero.mp (hfirst [] r h))
    exact ⟨rfl, List.append_cancel_left (hcut.symm.trans h)⟩
  · rintro ⟨rfl, rfl⟩
    exact ⟨h, fun _ _ _ => Nat.zero_le _⟩

/-- Where a text does not begin with `p`, it is cut where the text behind its
first element is. -/
theorem firstCut_cons (h : ¬ p <+: c :: s) :
    FirstCut p (c :: s) a b ↔ ∃ rest, a = c :: rest ∧ FirstCut p s rest b := by
  have hstart {a' b' : List α} (hcut : c :: s = a' ++ p ++ b') :
      ∃ rest, a' = c :: rest ∧ s = rest ++ p ++ b' := by
    cases a' with
    | nil => exact absurd ⟨b', hcut.symm⟩ h
    | cons d rest =>
        obtain ⟨rfl, hrest⟩ := List.cons.inj hcut
        exact ⟨rest, rfl, hrest⟩
  constructor
  · rintro ⟨hcut, hfirst⟩
    obtain ⟨rest, rfl, hrest⟩ := hstart hcut
    refine ⟨rest, rfl, hrest, fun a' b' h' => ?_⟩
    exact Nat.le_of_succ_le_succ (hfirst (c :: a') b' (congrArg (c :: ·) h'))
  · rintro ⟨rest, rfl, hcut, hfirst⟩
    refine ⟨congrArg (c :: ·) hcut, fun a' b' h' => ?_⟩
    obtain ⟨rest', rfl, hrest'⟩ := hstart h'
    exact Nat.succ_le_succ (hfirst rest' b' hrest')

/-- Nothing is found in what stands before the first occurrence. -/
theorem FirstCut.not_infix_left (h : FirstCut p s a b) (hp : p ≠ []) : ¬ p <:+: a := by
  rintro ⟨u, v, rfl⟩
  have hearlier := h.2 u (v ++ p ++ b) (by rw [h.1]; simp only [List.append_assoc])
  have hlength := List.length_pos_iff.mpr hp
  simp only [List.length_append] at hearlier
  omega

/-- A single element is found first behind a part that does not contain it. -/
theorem firstCut_singleton (h : c ∉ a) : FirstCut [c] (a ++ [c] ++ b) a b := by
  refine ⟨rfl, fun a' b' heq => ?_⟩
  rw [List.append_assoc, List.append_assoc] at heq
  rcases List.append_eq_append_iff.mp heq with ⟨u, rfl, -⟩ | ⟨u, rfl, hu⟩
  · rw [List.length_append]
    exact Nat.le_add_right _ _
  · cases u with
    | nil => exact Nat.le_of_eq (congrArg List.length (List.append_nil a'))
    | cons d rest =>
        obtain ⟨rfl, -⟩ := List.cons.inj hu
        exact absurd (List.mem_append_right _ List.mem_cons_self) h

theorem not_mem_of_not_infix_singleton (h : ¬ [c] <:+: s) : c ∉ s := by
  intro hmem
  obtain ⟨u, v, rfl⟩ := List.append_of_mem hmem
  exact h ⟨u, v, by rw [List.append_assoc]; rfl⟩

/-- What a text begins with, from a place on, is cut out there. -/
theorem exists_cut_iff_slice {i : Nat} :
    (∃ a b, s = a ++ p ++ b ∧ a.length = i) ↔
      i + p.length ≤ s.length ∧ (s.drop i).take p.length = p := by
  constructor
  · rintro ⟨a, b, rfl, rfl⟩
    constructor
    · simp only [List.length_append]
      omega
    · rw [List.append_assoc, List.drop_left, List.take_left]
  · rintro ⟨hfits, hslice⟩
    have hrest := List.take_append_drop p.length (s.drop i)
    rw [hslice] at hrest
    refine ⟨s.take i, (s.drop i).drop p.length, ?_, ?_⟩
    · rw [List.append_assoc, hrest, List.take_append_drop]
    · exact List.length_take_of_le (by omega)

/-- Joining with nothing puts the texts one behind the other. -/
theorem nil_intercalate (xs : List (List α)) : ([] : List α).intercalate xs = xs.flatten := by
  induction xs with
  | nil => rfl
  | cons x xs ih =>
      cases xs with
      | nil => rw [List.intercalate_singleton, List.flatten_singleton]
      | cons y ys =>
          rw [List.intercalate_cons_cons, ih, List.append_nil]
          rfl

/-- Joining single elements writes the separator before each of them and behind
the last one. -/
theorem intercalate_singletons (new x s : List α) :
    new.intercalate (x :: (s.map ([·]) ++ [[]])) =
      x ++ (s.flatMap (fun c => new ++ [c]) ++ new) := by
  induction s generalizing x with
  | nil =>
      rw [List.map_nil, List.nil_append, List.intercalate_cons_cons, List.intercalate_singleton,
        List.append_nil, List.flatMap_nil, List.nil_append]
  | cons c s ih =>
      rw [List.map_cons, List.cons_append, List.intercalate_cons_cons, ih, List.flatMap_cons]
      simp only [List.append_assoc]

end

/-! ## Searching -/

variable {α : Type} [DecidableEq α] {p s a b : List α}

theorem after?_eq_none_iff : after? p s = none ↔ ¬ p <+: s := by
  rw [Option.eq_none_iff_forall_ne_some]
  constructor
  · rintro h ⟨r, hr⟩
    exact h r (after?_eq_some.mpr hr.symm)
  · intro h r hr
    exact h ⟨r, (after?_eq_some.mp hr).symm⟩

/-- What was left behind is put in front again. -/
theorem breakOn.go_eq (p s passed : List α) :
    breakOn.go p s passed = (breakOn p s).map fun cut => (passed.reverse ++ cut.1, cut.2) := by
  induction s generalizing passed with
  | nil =>
      simp only [breakOn, breakOn.go, Option.map_map]
      congr 1
      funext r
      simp
  | cons c s ih =>
      simp only [breakOn, breakOn.go]
      cases after? p (c :: s) with
      | some r => simp
      | none =>
          dsimp only
          rw [ih (c :: passed), ih [c], Option.map_map]
          congr 1
          funext cut
          simp

theorem breakOn_start {r : List α} (h : s = p ++ r) : breakOn p s = some ([], r) := by
  have hafter := after?_eq_some.mpr h
  cases s with
  | nil => rw [breakOn, breakOn.go, hafter]; rfl
  | cons c s => rw [breakOn, breakOn.go, hafter]; rfl

theorem breakOn_nil (h : ¬ p <+: []) : breakOn p ([] : List α) = none := by
  rw [breakOn, breakOn.go, after?_eq_none_iff.mpr h]
  rfl

theorem breakOn_cons {c : α} (h : ¬ p <+: c :: s) :
    breakOn p (c :: s) = (breakOn p s).map fun cut => (c :: cut.1, cut.2) := by
  rw [breakOn, breakOn.go, after?_eq_none_iff.mpr h]
  exact breakOn.go_eq p s [c]

theorem breakOn_eq_none_iff : breakOn p s = none ↔ ¬ p <:+: s := by
  induction s with
  | nil =>
      by_cases h : p <+: []
      · obtain ⟨r, hr⟩ := h
        rw [breakOn_start hr.symm]
        exact iff_of_false (by simp) (not_not_intro (List.IsPrefix.isInfix ⟨r, hr⟩))
      · rw [breakOn_nil h]
        exact iff_of_true rfl fun hinfix => h (List.infix_nil.mp hinfix ▸ List.nil_prefix)
  | cons c s ih =>
      rw [List.infix_cons_iff]
      by_cases h : p <+: c :: s
      · obtain ⟨r, hr⟩ := h
        rw [breakOn_start hr.symm]
        exact iff_of_false (by simp) (not_not_intro (Or.inl ⟨r, hr⟩))
      · rw [breakOn_cons h, Option.map_eq_none_iff, ih, or_iff_right h]

theorem breakOn_eq_some_iff : breakOn p s = some (a, b) ↔ FirstCut p s a b := by
  induction s generalizing a with
  | nil =>
      by_cases h : p <+: []
      · obtain ⟨r, hr⟩ := h
        rw [breakOn_start hr.symm, firstCut_start hr.symm]
        simp [eq_comm]
      · rw [breakOn_nil h]
        refine iff_of_false (by simp) fun hcut => h ?_
        obtain ⟨hleft, -⟩ := List.append_eq_nil_iff.mp hcut.1.symm
        exact (List.append_eq_nil_iff.mp hleft).2 ▸ List.nil_prefix
  | cons c s ih =>
      by_cases h : p <+: c :: s
      · obtain ⟨r, hr⟩ := h
        rw [breakOn_start hr.symm, firstCut_start hr.symm]
        simp [eq_comm]
      · rw [breakOn_cons h, firstCut_cons h, Option.map_eq_some_iff]
        constructor
        · rintro ⟨⟨rest, b'⟩, hcut, heq⟩
          obtain ⟨rfl, rfl⟩ := Prod.mk.inj heq
          exact ⟨rest, rfl, ih.mp hcut⟩
        · rintro ⟨rest, rfl, hcut⟩
          exact ⟨(rest, b), ih.mpr hcut, rfl⟩

/-! ## What a search tells -/

theorem contains_iff : contains p s = true ↔ p <:+: s := by
  rw [contains, Option.isSome_iff_ne_none, Ne, breakOn_eq_none_iff, Classical.not_not]

theorem startsWith_iff : startsWith p s = true ↔ p <+: s := by
  rw [startsWith, Option.isSome_iff_ne_none, Ne, after?_eq_none_iff, Classical.not_not]

theorem endsWith_iff : endsWith p s = true ↔ p <:+ s := by
  rw [endsWith, Option.isSome_iff_ne_none, Ne, after?_eq_none_iff, Classical.not_not,
    List.reverse_prefix]

theorem indexOf?_eq_none_iff : indexOf? p s = none ↔ ¬ p <:+: s := by
  rw [indexOf?, Option.map_eq_none_iff, breakOn_eq_none_iff]

/-- The index of a text is the length of what stands before its first occurrence. -/
theorem indexOf?_eq_some_iff {i : Nat} :
    indexOf? p s = some i ↔ ∃ a b, FirstCut p s a b ∧ a.length = i := by
  rw [indexOf?, Option.map_eq_some_iff]
  constructor
  · rintro ⟨⟨a, b⟩, hcut, hlength⟩
    exact ⟨a, b, breakOn_eq_some_iff.mp hcut, hlength⟩
  · rintro ⟨a, b, hcut, hlength⟩
    exact ⟨(a, b), breakOn_eq_some_iff.mpr hcut, hlength⟩

theorem startsWith_iff_indexOf? : startsWith p s = true ↔ indexOf? p s = some 0 := by
  rw [startsWith_iff, indexOf?_eq_some_iff]
  constructor
  · rintro ⟨r, hr⟩
    exact ⟨[], r, (firstCut_start hr.symm).mpr ⟨rfl, rfl⟩, rfl⟩
  · rintro ⟨a, b, hcut, hlength⟩
    obtain rfl : a = [] := List.eq_nil_of_length_eq_zero hlength
    exact ⟨b, hcut.1.symm⟩

/-! ## Splitting -/

theorem pieces_of_whole (hp : p ≠ []) (h : breakOn p s = none) (done : List (List α)) :
    pieces p hp s done = (s :: done).reverse := by
  rw [pieces]
  split
  · rfl
  · next hcut =>
      rw [h] at hcut
      cases hcut

theorem pieces_of_cut (hp : p ≠ []) (h : breakOn p s = some (a, b)) (done : List (List α)) :
    pieces p hp s done = pieces p hp b (a :: done) := by
  rw [pieces]
  split
  · next hnone =>
      rw [h] at hnone
      cases hnone
  · next hcut =>
      rw [h] at hcut
      cases hcut
      rfl

/-- What holds of a text without an occurrence, and of a text when it holds of
what stands behind the first occurrence, holds of every text. -/
theorem split_induction {motive : List α → Prop} (hp : p ≠ [])
    (whole : ∀ s, breakOn p s = none → motive s)
    (cut : ∀ s a b, breakOn p s = some (a, b) → motive b → motive s) (s : List α) : motive s :=
  match h : breakOn p s with
  | none => whole s h
  | some (a, b) => cut s a b h (split_induction hp whole cut b)
termination_by s.length
decreasing_by
  have hlength := congrArg List.length (breakOn_append h)
  have hpositive := List.length_pos_iff.mpr hp
  simp only [List.length_append] at hlength
  omega

/-- The pieces found before stand in front of the others. -/
theorem pieces_eq (hp : p ≠ []) (s : List α) (done : List (List α)) :
    pieces p hp s done = done.reverse ++ split p s := by
  rw [split, dif_neg hp]
  induction s using split_induction hp generalizing done with
  | whole s h =>
      rw [pieces_of_whole hp h, pieces_of_whole hp h]
      exact List.reverse_cons
  | cut s a b h ih =>
      rw [pieces_of_cut hp h, pieces_of_cut hp h, ih (a :: done), ih [a], List.reverse_cons,
        List.append_assoc]
      rfl

theorem split_of_whole (hp : p ≠ []) (h : breakOn p s = none) : split p s = [s] := by
  rw [split, dif_neg hp, pieces_of_whole hp h]
  rfl

theorem split_of_cut (hp : p ≠ []) (h : breakOn p s = some (a, b)) :
    split p s = a :: split p b := by
  rw [split, dif_neg hp, pieces_of_cut hp h, pieces_eq]
  rfl

theorem split_ne_nil (p s : List α) : split p s ≠ [] := by
  by_cases hp : p = []
  · rw [split, dif_pos hp]
    exact List.cons_ne_nil _ _
  · cases h : breakOn p s with
    | none =>
        rw [split_of_whole hp h]
        exact List.cons_ne_nil _ _
    | some cut =>
        rw [split_of_cut hp h]
        exact List.cons_ne_nil _ _

theorem intercalate_split (p s : List α) : p.intercalate (split p s) = s := by
  by_cases hp : p = []
  · have hone : s.flatMap ([·]) = s := List.flatMap_singleton' s
    rw [split, dif_pos hp, hp, nil_intercalate, List.flatten_cons, List.flatten_append,
      List.flatten_singleton, ← List.flatMap_def, hone, List.nil_append, List.append_nil]
  · induction s using split_induction hp with
    | whole s h => rw [split_of_whole hp h, List.intercalate_singleton]
    | cut s a b h ih =>
        obtain ⟨first, rest, hrest⟩ := List.exists_cons_of_ne_nil (split_ne_nil p b)
        rw [split_of_cut hp h, hrest, List.intercalate_cons_cons, ← hrest, ih,
          (breakOn_eq_some_iff.mp h).1]

theorem not_infix_of_mem_split (hp : p ≠ []) : ∀ x ∈ split p s, ¬ p <:+: x := by
  induction s using split_induction hp with
  | whole s h =>
      rw [split_of_whole hp h]
      exact List.forall_mem_singleton.mpr (breakOn_eq_none_iff.mp h)
  | cut s a b h ih =>
      rw [split_of_cut hp h]
      exact List.forall_mem_cons.mpr ⟨(breakOn_eq_some_iff.mp h).not_infix_left hp, ih⟩

/-- Texts without an element are the pieces of the text that is joined by it. -/
theorem split_intercalate {c : α} {xs : List (List α)} (hxs : xs ≠ [])
    (h : ∀ x ∈ xs, ¬ [c] <:+: x) : split [c] ([c].intercalate xs) = xs := by
  have hc : [c] ≠ [] := List.cons_ne_nil _ _
  induction xs with
  | nil => exact absurd rfl hxs
  | cons x xs ih =>
      obtain ⟨hx, hrest⟩ := List.forall_mem_cons.mp h
      cases xs with
      | nil => rw [List.intercalate_singleton, split_of_whole hc (breakOn_eq_none_iff.mpr hx)]
      | cons y ys =>
          have hcut := breakOn_eq_some_iff.mpr
            (firstCut_singleton (b := [c].intercalate (y :: ys))
              (not_mem_of_not_infix_singleton hx))
          rw [List.intercalate_cons_cons, split_of_cut hc hcut, ih (List.cons_ne_nil _ _) hrest]

/-! ## Exchanging -/

theorem exchange_of_whole (hp : p ≠ []) (h : breakOn p s = none) (new : List α)
    (done : List (List α)) : exchange p hp new s done = (s :: done).reverse.flatten := by
  rw [exchange]
  split
  · rfl
  · next hcut =>
      rw [h] at hcut
      cases hcut

theorem exchange_of_cut (hp : p ≠ []) (h : breakOn p s = some (a, b)) (new : List α)
    (done : List (List α)) :
    exchange p hp new s done = exchange p hp new b (new :: a :: done) := by
  rw [exchange]
  split
  · next hnone =>
      rw [h] at hnone
      cases hnone
  · next hcut =>
      rw [h] at hcut
      cases hcut
      rfl

/-- What was written before stands in front. -/
theorem exchange_eq (hp : p ≠ []) (new s : List α) (done : List (List α)) :
    exchange p hp new s done = done.reverse.flatten ++ replace p new s := by
  rw [replace, dif_neg hp]
  induction s using split_induction hp generalizing done with
  | whole s h =>
      rw [exchange_of_whole hp h, exchange_of_whole hp h, List.reverse_cons, List.flatten_append]
      rfl
  | cut s a b h ih =>
      rw [exchange_of_cut hp h, exchange_of_cut hp h, ih (new :: a :: done), ih [new, a]]
      simp only [List.reverse_cons, List.reverse_nil, List.nil_append, List.flatten_append,
        List.flatten_singleton, List.append_assoc]

theorem replace_of_whole (hp : p ≠ []) (h : breakOn p s = none) (new : List α) :
    replace p new s = s := by
  rw [replace, dif_neg hp, exchange_of_whole hp h, List.reverse_singleton, List.flatten_singleton]

theorem replace_of_cut (hp : p ≠ []) (h : breakOn p s = some (a, b)) (new : List α) :
    replace p new s = a ++ new ++ replace p new b := by
  rw [replace, dif_neg hp, exchange_of_cut hp h, exchange_eq]
  simp

theorem replace_eq_intercalate_split (old new s : List α) :
    replace old new s = new.intercalate (split old s) := by
  by_cases hold : old = []
  · rw [replace, dif_pos hold, split, dif_pos hold, intercalate_singletons, List.nil_append]
  · induction s using split_induction hold with
    | whole s h =>
        rw [replace_of_whole hold h, split_of_whole hold h, List.intercalate_singleton]
    | cut s a b h ih =>
        obtain ⟨first, rest, hrest⟩ := List.exists_cons_of_ne_nil (split_ne_nil old b)
        rw [replace_of_cut hold h, ih, split_of_cut hold h, hrest, List.intercalate_cons_cons]

theorem replace_of_not_infix {old : List α} (h : ¬ old <:+: s) (new : List α) :
    replace old new s = s := by
  refine replace_of_whole ?_ (breakOn_eq_none_iff.mpr h) new
  rintro rfl
  exact h (List.nil_infix)

theorem replace_self (old s : List α) : replace old old s = s := by
  rw [replace_eq_intercalate_split, intercalate_split]

end PolicyHost.Text
