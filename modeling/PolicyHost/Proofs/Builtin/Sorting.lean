import Mathlib.Data.List.Induction
import PolicyHost.Builtin.Aggregate
import PolicyHost.Proofs.Json.Equality

/-!
# Sorting and choosing

`sorted` puts the items into place one after the other, from a list that runs
from its latest place to its first. `ranked` is that list, and one more item
changes it by one `place` (`ranked_concat`). The greatest and the least item are
followed along with it: the first of the list is at all times the last of the
greatest items, and its last is the first of the least ones.

Nothing here is about JSON. What is asked of the order is that it turns round
when its arguments are exchanged, which it does for all values, and that it is
transitive on the items at hand, which a class `S` of values stands for.
-/

namespace PolicyHost.Builtin

open Json

variable {S : Value → Prop} {items done : List Value} {v w : Value}

/-- The order is transitive on a class of values. -/
def TransitiveOn (S : Value → Prop) : Prop :=
  ∀ a b c, S a → S b → S c → a.order b ≠ .gt → b.order c ≠ .gt → a.order c ≠ .gt

/-- No item comes after one that follows it. -/
def Ascending (items : List Value) : Prop :=
  items.Pairwise fun a b => a.order b ≠ .gt

instance : DecidablePred Ascending := fun items =>
  inferInstanceAs (Decidable (items.Pairwise fun a b => a.order b ≠ .gt))

/-- No item comes before one that follows it. -/
def Descending (items : List Value) : Prop :=
  items.Pairwise fun a b => b.order a ≠ .gt

/-- The items that compare equal to a value, in the order in which they stand. -/
def equals (v : Value) (items : List Value) : List Value :=
  items.filter fun w => v.order w = .eq

theorem equals_cons (u v : Value) (items : List Value) :
    equals u (v :: items) = if u.order v = .eq then v :: equals u items else equals u items := by
  rw [equals, List.filter_cons, ← equals]
  simp only [decide_eq_true_eq]

theorem equals_concat (u v : Value) (items : List Value) :
    equals u (items ++ [v]) =
      if u.order v = .eq then equals u items ++ [v] else equals u items := by
  rw [equals, List.filter_append, ← equals, ← equals, equals_cons]
  split
  · rfl
  · exact List.append_nil _

theorem order_lt_iff_gt {a b : Value} : a.order b = .lt ↔ b.order a = .gt := by
  rw [Value.order_swap b a, Ordering.swap_eq_lt]

theorem order_ne_lt_iff {a b : Value} : a.order b ≠ .lt ↔ b.order a ≠ .gt :=
  not_congr order_lt_iff_gt

/-! ## One more item -/

theorem place_perm (v : Value) (done : List Value) : (place v done).Perm (v :: done) := by
  induction done with
  | nil => exact .refl _
  | cons w rest ih =>
      rw [place]
      split
      · exact (ih.cons w).trans (.swap v w rest)
      · exact .refl _

theorem place_descending (hS : TransitiveOn S) (hv : S v) (hdone : ∀ w ∈ done, S w)
    (h : Descending done) : Descending (place v done) := by
  induction done with
  | nil => exact List.pairwise_singleton _ _
  | cons w rest ih =>
      obtain ⟨hw, hrest⟩ := List.pairwise_cons.mp h
      have hmem : ∀ x ∈ rest, S x := fun x hx => hdone x (List.mem_cons_of_mem _ hx)
      rw [place]
      split
      · next hlt =>
          refine List.pairwise_cons.mpr ⟨fun x hx => ?_, ih hmem hrest⟩
          rcases List.mem_cons.mp ((place_perm v rest).mem_iff.mp hx) with rfl | hx
          · rw [hlt]
            decide
          · exact hw x hx
      · next hlt =>
          have hwv : w.order v ≠ .gt := order_ne_lt_iff.mp hlt
          refine List.pairwise_cons.mpr ⟨fun x hx => ?_, h⟩
          rcases List.mem_cons.mp hx with rfl | hx
          · exact hwv
          · exact hS x w v (hmem x hx) (hdone w List.mem_cons_self) hv (hw x hx) hwv

/-- A value goes past those only that it comes before, and so past none that
compares equal to it. -/
theorem equals_place {u : Value} (hS : TransitiveOn S) (hu : S u) (hv : S v)
    (hdone : ∀ w ∈ done, S w) : equals u (place v done) = equals u (v :: done) := by
  induction done with
  | nil => rfl
  | cons w rest ih =>
      have hrest := ih fun x hx => hdone x (List.mem_cons_of_mem _ hx)
      rw [place]
      split
      · next hlt =>
          rw [equals_cons, hrest, equals_cons, equals_cons, equals_cons]
          by_cases huv : u.order v = .eq
          · have huw : u.order w ≠ .eq := by
              intro huw
              have hwu : w.order u ≠ .gt := by
                rw [Value.order_swap u w, huw]
                decide
              have hwv := hS w u v (hdone w List.mem_cons_self) hu hv hwu (by rw [huv]; decide)
              exact hwv (order_lt_iff_gt.mp hlt)
            rw [if_neg huw, if_neg huw]
          · rw [if_neg huv, if_neg huv]
      · rfl

theorem head?_place (v : Value) (done : List Value) :
    (place v done).head? = some (match done.head? with
      | none => v
      | some best => if best.order v = .gt then best else v) := by
  cases done with
  | nil => rfl
  | cons w rest =>
      rw [place, List.head?_cons]
      simp only [order_lt_iff_gt]
      split <;> rfl

/-- Only a value that comes before the last one goes to the end, since it comes
before all of them then. -/
theorem getLast?_place (hS : TransitiveOn S) (hv : S v) (hdone : ∀ w ∈ done, S w)
    (h : Descending done) :
    (place v done).getLast? = some (match done.getLast? with
      | none => v
      | some best => if best.order v = .gt then v else best) := by
  induction done with
  | nil => rfl
  | cons w rest ih =>
      obtain ⟨hw, hrest⟩ := List.pairwise_cons.mp h
      have hmem : ∀ x ∈ rest, S x := fun x hx => hdone x (List.mem_cons_of_mem _ hx)
      have hstep := ih hmem hrest
      rw [place]
      split
      · next hlt =>
          rw [List.getLast?_cons, hstep, Option.getD_some]
          cases hlast : rest.getLast? with
          | none =>
              rw [List.getLast?_eq_none_iff.mp hlast, List.getLast?_singleton]
              simp only [if_pos (order_lt_iff_gt.mp hlt)]
          | some best => rw [List.getLast?_cons, hlast, Option.getD_some]
      · next hlt =>
          obtain ⟨best, hbest⟩ := Option.ne_none_iff_exists'.mp
            (mt List.getLast?_eq_none_iff.mp (List.cons_ne_nil w rest))
          have hle : best.order v ≠ .gt := by
            have hwv : w.order v ≠ .gt := order_ne_lt_iff.mp hlt
            rcases List.mem_cons.mp (List.mem_of_getLast? hbest) with rfl | hin
            · exact hwv
            · exact hS best w v (hmem best hin) (hdone w List.mem_cons_self) hv (hw best hin) hwv
          rw [List.getLast?_cons, hbest]
          simp only [Option.getD_some, if_neg hle]

/-! ## All items -/

/-- The items from the latest place to the first. -/
def ranked (items : List Value) : List Value :=
  items.foldl (fun done v => place v done) []

theorem ranked_concat (items : List Value) (v : Value) :
    ranked (items ++ [v]) = place v (ranked items) :=
  List.foldl_append

theorem greatest?_concat (items : List Value) (v : Value) :
    greatest? (items ++ [v]) = some (match greatest? items with
      | none => v
      | some best => if best.order v = .gt then best else v) := by
  cases items with
  | nil => rfl
  | cons first rest => exact congrArg some List.foldl_append

theorem least?_concat (items : List Value) (v : Value) :
    least? (items ++ [v]) = some (match least? items with
      | none => v
      | some best => if best.order v = .gt then v else best) := by
  cases items with
  | nil => rfl
  | cons first rest => exact congrArg some List.foldl_append

theorem ranked_perm (items : List Value) : (ranked items).Perm items := by
  induction items using List.reverseRecOn with
  | nil => exact .refl _
  | append_singleton items v ih =>
      rw [ranked_concat]
      exact (place_perm v _).trans ((ih.cons v).trans (List.perm_append_singleton v items).symm)

theorem head?_ranked (items : List Value) : (ranked items).head? = greatest? items := by
  induction items using List.reverseRecOn with
  | nil => rfl
  | append_singleton items v ih => rw [ranked_concat, head?_place, ih, greatest?_concat]

theorem mem_of_ranked {items : List Value} (hitems : ∀ v ∈ items, S v) :
    ∀ v ∈ ranked items, S v :=
  fun v hv => hitems v ((ranked_perm items).mem_iff.mp hv)

/-- Where the order is transitive, the list runs downwards, items that compare
equal stand in it the other way round, and the first of the least comes last. -/
theorem ranked_of_transitive (hS : TransitiveOn S) (hitems : ∀ v ∈ items, S v) :
    Descending (ranked items) ∧ (∀ u, S u → equals u (ranked items) = (equals u items).reverse) ∧
      (ranked items).getLast? = least? items := by
  induction items using List.reverseRecOn with
  | nil => exact ⟨List.Pairwise.nil, fun _ _ => rfl, rfl⟩
  | append_singleton items v ih =>
      have hv : S v := hitems v (List.mem_append_right _ (List.mem_singleton_self v))
      have hbefore : ∀ w ∈ items, S w := fun w hw => hitems w (List.mem_append_left _ hw)
      obtain ⟨hdescending, hequals, hlast⟩ := ih hbefore
      have hdone := mem_of_ranked hbefore
      rw [ranked_concat]
      refine ⟨place_descending hS hv hdone hdescending, fun u hu => ?_, ?_⟩
      · have hcons : equals u (v :: ranked items) = (equals u (items ++ [v])).reverse := by
          rw [equals_cons, equals_concat, hequals u hu]
          split
          · exact List.reverse_concat.symm
          · rfl
        rw [equals_place hS hu hv hdone, hcons]
      · rw [getLast?_place hS hv hdone hdescending, hlast, least?_concat]

/-! ## Sorting -/

theorem sorted_eq (items : List Value) : sorted items = (ranked items).reverse :=
  rfl

theorem sorted_perm (items : List Value) : (sorted items).Perm items :=
  (List.reverse_perm _).trans (ranked_perm items)

theorem sorted_ascending (hS : TransitiveOn S) (hitems : ∀ v ∈ items, S v) :
    Ascending (sorted items) :=
  List.pairwise_reverse.mpr (ranked_of_transitive hS hitems).1

/-- Items that compare equal stay as they were. -/
theorem equals_sorted {u : Value} (hS : TransitiveOn S) (hitems : ∀ v ∈ items, S v) (hu : S u) :
    equals u (sorted items) = equals u items := by
  have hranked := (ranked_of_transitive hS hitems).2.1 u hu
  rw [sorted_eq, equals, List.filter_reverse, ← equals, hranked, List.reverse_reverse]

theorem head?_sorted (hS : TransitiveOn S) (hitems : ∀ v ∈ items, S v) :
    (sorted items).head? = least? items := by
  rw [sorted_eq, List.head?_reverse]
  exact (ranked_of_transitive hS hitems).2.2

theorem getLast?_sorted (items : List Value) : (sorted items).getLast? = greatest? items := by
  rw [sorted_eq, List.getLast?_reverse, head?_ranked]

/-- Sorting and choosing agree wherever the order is transitive on the items.
The sorted items are those of the array, none of them comes after one that
follows it, and those that compare equal stand as they stood. The least item is
the first of them and the greatest is the last, as the same value and not only
as an equal one. Without items there is nothing to choose. -/
theorem sort_min_max_agree {items : List Value} (htransitive : TransitiveOn (· ∈ items)) :
    (∃ out, sort [.array items] = .ok (some (.array out)) ∧ out.Perm items ∧ Ascending out ∧
      (∀ v ∈ items, equals v out = equals v items) ∧
      min [.array items] = .ok out.head? ∧ max [.array items] = .ok out.getLast?) ∧
    sort [.array []] = .ok (some (.array [])) ∧ min [.array []] = .ok none ∧
      max [.array []] = .ok none := by
  have hitems : ∀ v ∈ items, v ∈ items := fun _ hv => hv
  refine ⟨⟨sorted items, rfl, sorted_perm items, sorted_ascending htransitive hitems,
    fun v hv => equals_sorted htransitive hitems hv, ?_, ?_⟩, rfl, rfl, rfl⟩
  · rw [head?_sorted htransitive hitems]
    rfl
  · rw [getLast?_sorted]
    rfl

/-- `1.0` and `1` compare equal and keep their order, so the first of them is
the least item of the three. -/
theorem sort_min_max_agree_equal_numbers :
    let one : Value := .number (.float ⟨false, 1023 * 2 ^ 52, by decide⟩)
    TransitiveOn (· ∈ [.ofInt 2, one, .ofInt 1]) ∧
      ∃ out, sort [.array [.ofInt 2, one, .ofInt 1]] = .ok (some (.array out)) ∧
        equals one out = [one, .ofInt 1] ∧
        min [.array [.ofInt 2, one, .ofInt 1]] = .ok out.head? ∧
        max [.array [.ofInt 2, one, .ofInt 1]] = .ok out.getLast? := by
  intro one
  have htransitive : TransitiveOn (· ∈ [.ofInt 2, one, .ofInt 1]) := by
    have hall : ∀ a ∈ [.ofInt 2, one, .ofInt 1], ∀ b ∈ [.ofInt 2, one, .ofInt 1],
        ∀ c ∈ [.ofInt 2, one, .ofInt 1],
          a.order b ≠ .gt → b.order c ≠ .gt → a.order c ≠ .gt := by
      decide
    exact fun a b c ha hb hc => hall a ha b hb c hc
  obtain ⟨⟨out, hsort, -, -, hequals, hmin, hmax⟩, -⟩ := sort_min_max_agree htransitive
  have hone : equals one [.ofInt 2, one, .ofInt 1] = [one, .ofInt 1] := rfl
  have hmem : one ∈ [.ofInt 2, one, .ofInt 1] := List.mem_cons_of_mem _ List.mem_cons_self
  exact ⟨htransitive, out, hsort, (hequals one hmem).trans hone, hmin, hmax⟩

/-! ## Sorting values over signed integers -/

theorem transitiveOn_signed : TransitiveOn (Value.Over Number.Signed) :=
  fun _ _ _ ha hb hc => Value.order_trans_signed ha hb hc

/-- Two ascending lists of the same values are one list, as no two of the values
compare equal. -/
theorem eq_of_ascending {items items' : List Value} (hitems : ∀ v ∈ items, v.Over Number.Signed)
    (hperm : items.Perm items') (h : Ascending items) (h' : Ascending items') :
    items = items' := by
  refine List.Perm.eq_of_pairwise (fun a b ha hb hab hba => ?_) h h' hperm
  have heq : a.order b = .eq := by
    rw [Value.order_swap a b] at hba
    cases hcmp : a.order b with
    | lt => exact absurd (by rw [hcmp]; rfl) hba
    | eq => rfl
    | gt => exact absurd hcmp hab
  exact Value.eq_of_order a b (hitems a ha) (hitems b (hperm.mem_iff.mpr hb)) heq

/-- On the values over signed integers the order is linear, with the types in
their order, and so sorting depends on nothing but the items: it is the same for
all arrangements of them and leaves a sorted array alone. -/
theorem signed_sort_canonical :
    (∀ a b : Value, a.Over Number.Signed → b.Over Number.Signed → (a.order b = .eq ↔ a = b)) ∧
    (∀ a b : Value, b.order a = (a.order b).swap) ∧
    (∀ a b c : Value, a.Over Number.Signed → b.Over Number.Signed → c.Over Number.Signed →
      a.order b ≠ .gt → b.order c ≠ .gt → a.order c ≠ .gt) ∧
    (∀ a b : Value, Value.typesInOrder.idxOf a.typeName < Value.typesInOrder.idxOf b.typeName →
      a.order b = .lt) ∧
    (∀ items items' : List Value, (∀ v ∈ items, v.Over Number.Signed) → items.Perm items' →
      sort [.array items] = sort [.array items']) ∧
    (∀ items : List Value, (∀ v ∈ items, v.Over Number.Signed) → Ascending items →
      sort [.array items] = .ok (some (.array items))) := by
  have hsorted {items : List Value} (hitems : ∀ v ∈ items, v.Over Number.Signed) :
      Ascending (sorted items) ∧ ∀ v ∈ sorted items, v.Over Number.Signed :=
    ⟨sorted_ascending transitiveOn_signed hitems,
      fun v hv => hitems v ((sorted_perm items).mem_iff.mp hv)⟩
  have hsort (items : List Value) : sort [.array items] = .ok (some (.array (sorted items))) := rfl
  refine ⟨fun a b ha hb => Value.order_eq_iff ha hb, Value.order_swap,
    fun a b c ha hb hc => Value.order_trans_signed ha hb hc, fun a b => Value.order_of_types,
    fun items items' hitems hperm => ?_, fun items hitems h => ?_⟩
  · have hitems' : ∀ v ∈ items', v.Over Number.Signed :=
      fun v hv => hitems v (hperm.mem_iff.mpr hv)
    have hsame : (sorted items).Perm (sorted items') :=
      (sorted_perm items).trans (hperm.trans (sorted_perm items').symm)
    rw [hsort, hsort, eq_of_ascending (hsorted hitems).2 hsame (hsorted hitems).1
      (hsorted hitems').1]
  · rw [hsort, eq_of_ascending (hsorted hitems).2 (sorted_perm items) (hsorted hitems).1 h]

/-- A number, an array and an object, in this order and the other way round. -/
theorem signed_sort_canonical_reversed :
    let items : List Value := [.ofInt (-3), .array [.ofInt 1], .object [("a", .null)]]
    sort [.array items.reverse] = sort [.array items] ∧
      sort [.array items] = .ok (some (.array items)) := by
  intro items
  have hsigned : ∀ v ∈ items, v.Over Number.Signed := by
    intro v hv
    simp only [items, List.mem_cons, List.not_mem_nil, or_false] at hv
    rcases hv with rfl | rfl | rfl
    · exact ⟨-3, rfl⟩
    · exact ⟨⟨1, rfl⟩, trivial⟩
    · exact ⟨trivial, trivial⟩
  have hascending : Ascending items := by
    decide
  obtain ⟨-, -, -, -, hperm, hself⟩ := signed_sort_canonical
  exact ⟨(hperm items items.reverse hsigned items.reverse_perm.symm).symm,
    hself items hsigned hascending⟩

end PolicyHost.Builtin
