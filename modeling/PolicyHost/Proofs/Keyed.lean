import Mathlib.Data.List.Induction
import Mathlib.Data.List.Nodup
import PolicyHost.Keyed

/-!
# What lists under keys hold

Looking up goes by the first entry of a key and inserting puts a key in its
place, so what a list holds is said by look-ups alone: after inserting, after
erasing, and after bringing pairs in one after the other, where the last pair of
a key counts (`get?_ofList`). That the keys increase is kept by all of them, and
then the entries are what look-ups find (`get?_eq_some`).
-/

namespace PolicyHost.Keyed

variable {κ α β : Type} {key k : κ} {value : α}

/-! ## Look-ups -/

section

variable [DecidableEq κ]

theorem get?_map (f : α → β) (key : κ) (list : Keyed κ α) :
    get? key (list.map fun entry => (entry.1, f entry.2)) = (get? key list).map f := by
  induction list with
  | nil => rfl
  | cons entry rest ih =>
      simp only [List.map_cons, get?]
      split
      · rfl
      · exact ih

theorem mem_of_get? {list : Keyed κ α} (h : get? key list = some value) :
    (key, value) ∈ list := by
  induction list with
  | nil => cases h
  | cons entry rest ih =>
      obtain ⟨k, v⟩ := entry
      rw [get?] at h
      split at h
      · next hkey =>
          cases h
          exact hkey ▸ List.mem_cons_self
      · exact List.mem_cons_of_mem _ (ih h)

/-- Where no two entries have one key, what stands under a key is found there. -/
theorem get?_eq_some_of_nodup {list : Keyed κ α} (h : (list.map (·.1)).Nodup) :
    get? key list = some value ↔ (key, value) ∈ list := by
  refine ⟨mem_of_get?, fun hmem => ?_⟩
  induction list with
  | nil => cases hmem
  | cons entry rest ih =>
      obtain ⟨hfirst, hrest⟩ := List.nodup_cons.mp h
      rw [get?]
      rcases List.mem_cons.mp hmem with rfl | hmem
      · rw [if_pos rfl]
      · have hne : key ≠ entry.1 := fun heq => hfirst (List.mem_map.mpr ⟨_, hmem, heq⟩)
        rw [if_neg hne]
        exact ih hrest hmem

theorem get?_eq_none {list : Keyed κ α} : get? key list = none ↔ ∀ entry ∈ list, entry.1 ≠ key := by
  induction list with
  | nil => simp [get?]
  | cons entry rest ih =>
      rw [get?, List.forall_mem_cons]
      split
      · next h => simp [h]
      · next h => rw [ih, and_iff_right (Ne.symm h)]

theorem get?_append (key : κ) (list rest : Keyed κ α) :
    get? key (list ++ rest) = (get? key list).or (get? key rest) := by
  induction list with
  | nil => rfl
  | cons entry list ih =>
      rw [List.cons_append, get?, get?]
      split
      · rfl
      · exact ih

theorem get?_erase (key k : κ) (list : Keyed κ α) :
    get? k (erase key list) = if k = key then none else get? k list := by
  induction list with
  | nil => split <;> rfl
  | cons entry rest ih =>
      obtain ⟨l, w⟩ := entry
      rw [erase, List.filter_cons]
      by_cases hl : l = key
      · rw [if_neg (by simpa using hl)]
        refine Eq.trans ih ?_
        split
        · rfl
        · next hk => rw [get?, if_neg (fun h => hk (h.trans hl))]
      · rw [if_pos (by simpa using hl), get?, get?]
        by_cases hk : k = l
        · rw [if_pos hk, if_pos hk, if_neg (fun h => hl (hk.symm.trans h))]
        · rw [if_neg hk, if_neg hk]
          exact ih

variable [LT κ] [DecidableLT κ]

theorem insert_map (f : α → β) (key : κ) (value : α) (list : Keyed κ α) :
    insert key (f value) (list.map fun entry => (entry.1, f entry.2)) =
      (insert key value list).map fun entry => (entry.1, f entry.2) := by
  induction list with
  | nil => rfl
  | cons entry rest ih =>
      simp only [List.map_cons, insert]
      split
      · rfl
      · split
        · rfl
        · rw [ih, List.map_cons]

theorem ofList_map (f : α → β) (pairs : List (κ × α)) :
    ofList (pairs.map fun entry => (entry.1, f entry.2)) =
      (ofList pairs).map fun entry => (entry.1, f entry.2) := by
  have hfold : ∀ done : Keyed κ α,
      (pairs.map fun entry => (entry.1, f entry.2)).foldl
          (fun list entry => insert entry.1 entry.2 list)
          (done.map fun entry => (entry.1, f entry.2)) =
        (pairs.foldl (fun list entry => insert entry.1 entry.2 list) done).map
          fun entry => (entry.1, f entry.2) := by
    induction pairs with
    | nil => exact fun _ => rfl
    | cons pair pairs ih =>
        intro done
        rw [List.map_cons, List.foldl_cons, List.foldl_cons]
        exact (congrArg (List.foldl _ · _) (insert_map f pair.1 pair.2 done)).trans (ih _)
  exact hfold []

theorem ofList_concat (pairs : List (κ × α)) (pair : κ × α) :
    ofList (pairs ++ [pair]) = insert pair.1 pair.2 (ofList pairs) := by
  rw [ofList, List.foldl_append]
  rfl

/-- Of several pairs with one key the last is found. -/
theorem get?_ofList (k : κ) (pairs : List (κ × α)) :
    get? k (ofList pairs) = get? k pairs.reverse := by
  induction pairs using List.reverseRecOn with
  | nil => rfl
  | append_singleton pairs pair ih =>
      rw [ofList_concat, get?_insert, ih, List.reverse_append]
      rfl

theorem mem_keys_insert {list : Keyed κ α} {entry : κ × α} (h : entry ∈ insert key value list) :
    entry.1 = key ∨ entry ∈ list := by
  induction list with
  | nil => exact Or.inl (congrArg Prod.fst (List.mem_singleton.mp h))
  | cons first rest ih =>
      rw [insert] at h
      split at h
      · rcases List.mem_cons.mp h with rfl | h
        · exact Or.inl rfl
        · exact Or.inr h
      · split at h
        · rcases List.mem_cons.mp h with rfl | h
          · exact Or.inl rfl
          · exact Or.inr (List.mem_cons_of_mem _ h)
        · rcases List.mem_cons.mp h with rfl | h
          · exact Or.inr List.mem_cons_self
          · exact (ih h).imp_right (List.mem_cons_of_mem _)

end

/-! ## Increasing keys -/

variable [LT κ] [LE κ] [Std.IsLinearOrder κ] [Std.LawfulOrderLT κ]

theorem increasing_iff {list : Keyed κ α} :
    Increasing list ↔ list.Pairwise fun entry later => entry.1 < later.1 := by
  induction list with
  | nil => exact iff_of_true trivial .nil
  | cons entry rest ih =>
      cases rest with
      | nil => exact iff_of_true trivial (List.pairwise_singleton _ _)
      | cons next rest =>
          rw [List.pairwise_cons, ← ih]
          refine ⟨fun h => ⟨fun later hlater => ?_, h.2⟩,
            fun h => ⟨h.1 next List.mem_cons_self, h.2⟩⟩
          rcases List.mem_cons.mp hlater with rfl | hlater
          · exact h.1
          · exact Std.lt_trans h.1 ((List.pairwise_cons.mp (ih.mp h.2)).1 later hlater)

theorem Increasing.tail {entry : κ × α} {rest : Keyed κ α} (h : Increasing (entry :: rest)) :
    Increasing rest :=
  increasing_iff.mpr (List.pairwise_cons.mp (increasing_iff.mp h)).2

theorem Increasing.nodup {list : Keyed κ α} (h : Increasing list) : (list.map (·.1)).Nodup := by
  refine List.pairwise_map.mpr ((increasing_iff.mp h).imp fun hlt (heq : _ = _) => ?_)
  rw [heq] at hlt
  exact Std.lt_irrefl hlt

variable [DecidableEq κ]

/-- What stands under a key is found there. -/
theorem get?_eq_some {list : Keyed κ α} (h : Increasing list) :
    get? key list = some value ↔ (key, value) ∈ list :=
  get?_eq_some_of_nodup h.nodup

theorem mem_map {list : Keyed κ α} (h : Increasing list) {f : κ × α → β} {b : β} :
    b ∈ List.map f list ↔ ∃ key value, get? key list = some value ∧ b = f (key, value) := by
  rw [List.mem_map]
  constructor
  · rintro ⟨⟨key, value⟩, hmem, rfl⟩
    exact ⟨key, value, (get?_eq_some h).mpr hmem, rfl⟩
  · rintro ⟨key, value, hget, rfl⟩
    exact ⟨(key, value), (get?_eq_some h).mp hget, rfl⟩

variable [DecidableLT κ]

theorem insert_of_lt {list : Keyed κ α} (h : ∀ entry ∈ list, entry.1 < key) :
    insert key value list = list ++ [(key, value)] := by
  induction list with
  | nil => rfl
  | cons entry rest ih =>
      have hlt := h entry List.mem_cons_self
      have hne : key ≠ entry.1 := fun heq => Std.lt_irrefl (heq ▸ hlt)
      have hnot : ¬ key < entry.1 := fun hgt => Std.lt_irrefl (Std.lt_trans hlt hgt)
      rw [insert, if_neg hnot, if_neg hne, ih fun e he => h e (List.mem_cons_of_mem _ he)]
      rfl

/-- Entries that stand in order are kept as they stand. -/
theorem ofList_of_increasing {list : Keyed κ α} (h : Increasing list) : ofList list = list := by
  induction list using List.reverseRecOn with
  | nil => rfl
  | append_singleton list entry ih =>
      obtain ⟨hlist, -, hlt⟩ := List.pairwise_append.mp (increasing_iff.mp h)
      rw [ofList_concat, ih (increasing_iff.mpr hlist)]
      exact insert_of_lt fun e he => hlt e he entry (List.mem_singleton_self _)

theorem Increasing.insert {list : Keyed κ α} (h : Increasing list) (key : κ) (value : α) :
    Increasing (insert key value list) := by
  induction list with
  | nil => trivial
  | cons entry rest ih =>
      have hrest := (List.pairwise_cons.mp (increasing_iff.mp h)).1
      rw [Keyed.insert]
      split
      · next hlt => exact ⟨hlt, h⟩
      · split
        · next heq =>
            refine increasing_iff.mpr (List.pairwise_cons.mpr ⟨fun later hlater => ?_, ?_⟩)
            · exact heq ▸ hrest later hlater
            · exact increasing_iff.mp h.tail
        · next hnot hne =>
            refine increasing_iff.mpr (List.pairwise_cons.mpr ⟨fun later hlater => ?_, ?_⟩)
            · rcases mem_keys_insert hlater with hkey | hlater
              · rw [hkey]
                exact Std.lt_of_le_of_ne (Std.not_lt.mp hnot) (Ne.symm hne)
              · exact hrest later hlater
            · exact increasing_iff.mp (ih h.tail)

theorem increasing_ofList (pairs : List (κ × α)) : Increasing (ofList pairs) := by
  induction pairs using List.reverseRecOn with
  | nil => trivial
  | append_singleton pairs pair ih =>
      rw [ofList_concat]
      exact ih.insert _ _

theorem mem_of_mem_ofList {pairs : List (κ × α)} {entry : κ × α} (h : entry ∈ ofList pairs) :
    entry ∈ pairs := by
  have hfound := (get?_eq_some (increasing_ofList pairs)).mpr h
  rw [get?_ofList] at hfound
  exact List.mem_reverse.mp (mem_of_get? hfound)

/-- A key that was there is not counted again. -/
theorem length_insert {list : Keyed κ α} (h : Increasing list) (key : κ) (value : α) :
    (insert key value list).length =
      if get? key list = none then list.length + 1 else list.length := by
  induction list with
  | nil => rfl
  | cons entry rest ih =>
      rw [insert, get?]
      by_cases hlt : key < entry.1
      · have hne : key ≠ entry.1 := fun heq => Std.lt_irrefl (heq ▸ hlt)
        have hnone : get? key rest = none := get?_eq_none.mpr fun later hlater heq =>
          Std.lt_irrefl (Std.lt_trans hlt
            (heq ▸ (List.pairwise_cons.mp (increasing_iff.mp h)).1 later hlater))
        rw [if_pos hlt, if_neg hne, if_pos hnone]
        rfl
      · rw [if_neg hlt]
        by_cases heq : key = entry.1
        · rw [if_pos heq, if_pos heq]
          rfl
        · rw [if_neg heq, if_neg heq, List.length_cons, List.length_cons, ih h.tail]
          split <;> rfl

/-- There are as many entries as pairs exactly when no two pairs have one key. -/
theorem length_ofList (pairs : List (κ × α)) :
    (ofList pairs).length ≤ pairs.length ∧
      ((ofList pairs).length = pairs.length ↔ (pairs.map (·.1)).Nodup) := by
  induction pairs using List.reverseRecOn with
  | nil => exact ⟨Nat.le_refl _, iff_of_true rfl .nil⟩
  | append_singleton pairs pair ih =>
      obtain ⟨hle, hiff⟩ := ih
      have hlength := length_insert (increasing_ofList pairs) pair.1 pair.2
      have hnone : get? pair.1 (ofList pairs) = none ↔ pair.1 ∉ pairs.map (·.1) := by
        rw [get?_ofList, get?_eq_none]
        simp only [List.mem_reverse, List.mem_map, not_exists, not_and]
      have hnodup : ((pairs ++ [pair]).map (·.1)).Nodup ↔
          (pairs.map (·.1)).Nodup ∧ pair.1 ∉ pairs.map (·.1) := by
        rw [List.map_append, List.map_singleton, ← List.concat_eq_append, List.nodup_concat]
        exact and_comm
      rw [ofList_concat, hlength, hnodup, ← hnone, ← hiff, List.length_append,
        List.length_singleton]
      split
      · next h => simp only [h, and_true]; omega
      · next h => simp only [h, and_false, iff_false]; omega

end PolicyHost.Keyed
