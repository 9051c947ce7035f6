import PolicyHost.Json.Order
import PolicyHost.Proofs.Number.Rounding

/-!
# The laws of the order of values

The order of values is reflexive, and exchanging two values turns it round.
Whether it is transitive hangs on the numbers alone. Integers of the signed
64-bit range are compared with each other exactly and with every other number
in floating point, so a number of another kind that has the floating point form
of two such integers is equal to both of them, while they are not equal to each
other. `order_preorder` says that this is all that can go wrong: over numbers
without such a triple, and over no others, the order is transitive.

Transitivity itself is no induction hypothesis that would do. Lists are compared
item by item, and where two items are equal the rest decides, so a triple of
items has to be read from each of its ends. What is carried through the
induction is `Level`, which treats the three steps of a round trip alike.
-/

namespace PolicyHost.Json

/-- A round trip through three values that never goes down never goes up. -/
def Level (o₁ o₂ o₃ : Ordering) : Prop :=
  o₁ ≠ .gt → o₂ ≠ .gt → o₃ ≠ .gt → o₁ = .eq ∧ o₂ = .eq ∧ o₃ = .eq

namespace Level

variable {o₁ o₂ o₃ p₁ p₂ p₃ : Ordering}

theorem rotate (h : Level o₁ o₂ o₃) : Level o₂ o₃ o₁ := by
  intro h₂ h₃ h₁
  obtain ⟨e₁, e₂, e₃⟩ := h h₁ h₂ h₃
  exact ⟨e₂, e₃, e₁⟩

theorem of_gt (h : o₁ = .gt ∨ o₂ = .gt ∨ o₃ = .gt) : Level o₁ o₂ o₃ := by
  intro h₁ h₂ h₃
  rcases h with h | h | h
  · exact absurd h h₁
  · exact absurd h h₂
  · exact absurd h h₃

theorem ne_gt_of_then (h : o₁.then p₁ ≠ .gt) : o₁ ≠ .gt := by
  rintro rfl
  exact h rfl

/-- Where the first steps are level, what comes after them decides. -/
theorem andThen (h : Level o₁ o₂ o₃) (h' : Level p₁ p₂ p₃) :
    Level (o₁.then p₁) (o₂.then p₂) (o₃.then p₃) := by
  intro h₁ h₂ h₃
  obtain ⟨rfl, rfl, rfl⟩ := h (ne_gt_of_then h₁) (ne_gt_of_then h₂) (ne_gt_of_then h₃)
  exact h' h₁ h₂ h₃

/-- In a transitive order all round trips are level. -/
theorem of_trans {α : Type} [Ord α] [Std.TransOrd α] (a b c : α) :
    Level (compare a b) (compare b c) (compare c a) := by
  intro h₁ h₂ h₃
  have hab := Ordering.isLE_iff_ne_gt.mpr h₁
  have hbc := Ordering.isLE_iff_ne_gt.mpr h₂
  have hca := Ordering.isLE_iff_ne_gt.mpr h₃
  have hba := Std.TransCmp.isLE_trans hbc hca
  have hcb := Std.TransCmp.isLE_trans hca hab
  have hac := Std.TransCmp.isLE_trans hab hbc
  exact ⟨Std.OrientedCmp.isLE_antisymm hab hba, Std.OrientedCmp.isLE_antisymm hbc hcb,
    Std.OrientedCmp.isLE_antisymm hca hac⟩

/-- Level round trips make an order transitive that turns round when its
arguments are exchanged. -/
theorem trans (h : Level o₁ o₂ o₃.swap) (h₁ : o₁ ≠ .gt) (h₂ : o₂ ≠ .gt) : o₃ ≠ .gt := by
  rintro rfl
  obtain ⟨-, -, h₃⟩ := h h₁ h₂ (by decide)
  cases h₃

end Level

/-! ## Numbers -/

namespace Number

variable {x y z : Number} {m n : Int}

theorem order_exact (hx : x.int64? = some m) (hy : y.int64? = some n) :
    x.order y = compare m n := by
  rw [order, hx, hy]

theorem order_rounded (h : x.int64? = none ∨ y.int64? = none) :
    x.order y = compare x.toBinary64.key y.toBinary64.key := by
  rw [order]
  split
  · next hx hy =>
      rcases h with h | h
      · rw [h] at hx
        cases hx
      · rw [h] at hy
        cases hy
  · rfl

theorem order_self (x : Number) : x.order x = .eq := by
  cases h : x.int64? with
  | some n =>
      rw [order_exact h h]
      exact Std.ReflCmp.compare_self
  | none =>
      rw [order_rounded (Or.inl h)]
      exact Std.ReflCmp.compare_self

theorem order_swap (x y : Number) : y.order x = (x.order y).swap := by
  cases hx : x.int64? with
  | none =>
      rw [order_rounded (Or.inl hx), order_rounded (Or.inr hx)]
      exact Std.OrientedCmp.eq_swap
  | some m =>
      cases hy : y.int64? with
      | none =>
          rw [order_rounded (Or.inl hy), order_rounded (Or.inr hy)]
          exact Std.OrientedCmp.eq_swap
      | some n =>
          rw [order_exact hx hy, order_exact hy hx]
          exact Std.OrientedCmp.eq_swap

/-- Rounding keeps the order of the integers that are compared exactly. -/
theorem key_le_of_int64 (hx : x.int64? = some m) (hy : y.int64? = some n) (h : m ≤ n) :
    x.toBinary64.key ≤ y.toBinary64.key := by
  cases x with
  | float x => cases hx
  | integer i hi =>
      cases y with
      | float y => cases hy
      | integer j hj =>
          have him : i = m := by
            rw [int64?] at hx
            split at hx
            · exact Option.some.inj hx
            · cases hx
          have hjn : j = n := by
            rw [int64?] at hy
            split at hy
            · exact Option.some.inj hy
            · cases hy
          exact key_mono hi hj (him ▸ hjn ▸ h)

/-- No number of a class, unless it is an integer of the signed 64-bit range,
has the floating point form of two different such integers of the class. -/
def Clear (S : Number → Prop) : Prop :=
  ∀ x y z m n, S x → S y → S z → x.int64? = some m → z.int64? = some n → y.int64? = none →
    x.toBinary64 = y.toBinary64 → z.toBinary64 = y.toBinary64 → m = n

/-- Two integers that are compared exactly, and a number that is not. -/
theorem level_mixed {S : Number → Prop} (hS : Clear S) (hx : S x) (hy : S y) (hz : S z)
    (hm : x.int64? = some m) (hn : y.int64? = some n) (hnone : z.int64? = none) :
    Level (x.order y) (y.order z) (z.order x) := by
  intro h₁ h₂ h₃
  rw [order_exact hm hn] at h₁ ⊢
  rw [order_rounded (Or.inr hnone)] at h₂ ⊢
  rw [order_rounded (Or.inl hnone)] at h₃ ⊢
  have hle := Int.isLE_compare.mp (Ordering.isLE_iff_ne_gt.mpr h₁)
  have hyz := Int.isLE_compare.mp (Ordering.isLE_iff_ne_gt.mpr h₂)
  have hzx := Int.isLE_compare.mp (Ordering.isLE_iff_ne_gt.mpr h₃)
  have hxy := key_le_of_int64 hm hn hle
  have hkx : x.toBinary64.key = z.toBinary64.key := by omega
  have hky : y.toBinary64.key = z.toBinary64.key := by omega
  have heq : m = n := hS x z y m n hx hz hy hm hn hnone (Binary64.key_inj.mp hkx)
    (Binary64.key_inj.mp hky)
  rw [Int.compare_eq_eq, Int.compare_eq_eq, Int.compare_eq_eq]
  exact ⟨heq, hky, hkx.symm⟩

theorem level_order {S : Number → Prop} (hS : Clear S) (hx : S x) (hy : S y) (hz : S z) :
    Level (x.order y) (y.order z) (z.order x) := by
  have hrounded (hxy : x.int64? = none ∨ y.int64? = none) (hyz : y.int64? = none ∨ z.int64? = none)
      (hzx : z.int64? = none ∨ x.int64? = none) : Level (x.order y) (y.order z) (z.order x) := by
    rw [order_rounded hxy, order_rounded hyz, order_rounded hzx]
    exact .of_trans _ _ _
  cases hm : x.int64? with
  | none =>
      cases hn : y.int64? with
      | none => exact hrounded (Or.inl hm) (Or.inl hn) (Or.inr hm)
      | some n =>
          cases hk : z.int64? with
          | none => exact hrounded (Or.inl hm) (Or.inr hk) (Or.inl hk)
          | some k => exact (level_mixed hS hy hz hx hn hk hm).rotate.rotate
  | some m =>
      cases hn : y.int64? with
      | none =>
          cases hk : z.int64? with
          | none => exact hrounded (Or.inr hn) (Or.inl hn) (Or.inl hk)
          | some k => exact (level_mixed hS hz hx hy hk hm hn).rotate
      | some n =>
          cases hk : z.int64? with
          | none => exact level_mixed hS hx hy hz hm hn hk
          | some k =>
              rw [order_exact hm hn, order_exact hn hk, order_exact hk hm]
              exact .of_trans _ _ _

end Number

/-! ## Values -/

namespace Value

theorem order_of_rank_lt {a b : Value} (h : a.rank < b.rank) : order a b = .lt := by
  have hlt : compare a.rank b.rank = .lt := Nat.compare_eq_lt.mpr h
  cases a <;> cases b <;> first | exact hlt | exact absurd h (Nat.lt_irrefl _)

theorem order_of_lt_rank {a b : Value} (h : b.rank < a.rank) : order a b = .gt := by
  have hgt : compare a.rank b.rank = .gt := Nat.compare_eq_gt.mpr h
  cases a <;> cases b <;> first | exact hgt | exact absurd h (Nat.lt_irrefl _)

/-- Two values of the same type. -/
inductive Kindred : Value → Value → Prop
  | null : Kindred .null .null
  | bool (x y : Bool) : Kindred (.bool x) (.bool y)
  | number (x y : Number) : Kindred (.number x) (.number y)
  | string (s t : String) : Kindred (.string s) (.string t)
  | array (as bs : List Value) : Kindred (.array as) (.array bs)
  | object (ms ns : List (String × Value)) : Kindred (.object ms) (.object ns)

theorem kindred_of_rank {a b : Value} (h : a.rank = b.rank) : Kindred a b := by
  cases a <;> cases b <;> first | constructor | simp [rank] at h

mutual

theorem order_self : ∀ a : Value, order a a = .eq
  | .null => rfl
  | .bool _ => Std.compare_self
  | .number x => x.order_self
  | .string _ => Std.compare_self
  | .array items => orderItems_self items
  | .object members => orderMembers_self members

theorem orderItems_self : ∀ items : List Value, orderItems items items = .eq
  | [] => rfl
  | a :: rest => by
      rw [orderItems, order_self a, orderItems_self rest]
      rfl

theorem orderMembers_self : ∀ members : List (String × Value), orderMembers members members = .eq
  | [] => rfl
  | (k, v) :: rest => by
      rw [orderMembers, Std.compare_self, order_self v, orderMembers_self rest]
      rfl

end

mutual

/-- The order turns round when its arguments are exchanged. -/
theorem order_swap (a b : Value) : order b a = (order a b).swap := by
  rcases Nat.lt_trichotomy a.rank b.rank with h | h | h
  · rw [order_of_rank_lt h, order_of_lt_rank h]
    rfl
  · cases kindred_of_rank h with
    | null => rfl
    | bool x y =>
        show compare y x = (compare x y).swap
        exact Std.OrientedCmp.eq_swap
    | number x y => exact Number.order_swap x y
    | string s t =>
        show compare t s = (compare s t).swap
        exact Std.OrientedCmp.eq_swap
    | array as bs => exact orderItems_swap as bs
    | object ms ns => exact orderMembers_swap ms ns
  · rw [order_of_rank_lt h, order_of_lt_rank h]
    rfl

theorem orderItems_swap : ∀ as bs : List Value, orderItems bs as = (orderItems as bs).swap
  | [], [] => rfl
  | [], _ :: _ => rfl
  | _ :: _, [] => rfl
  | a :: as, b :: bs => by
      rw [orderItems, orderItems, order_swap a b, orderItems_swap as bs, Ordering.swap_then]

theorem orderMembers_swap : ∀ ms ns : List (String × Value),
    orderMembers ns ms = (orderMembers ms ns).swap
  | [], [] => rfl
  | [], _ :: _ => rfl
  | _ :: _, [] => rfl
  | (k, v) :: ms, (l, w) :: ns => by
      have hkey : compare l k = (compare k l).swap := Std.OrientedCmp.eq_swap
      rw [orderMembers, orderMembers, hkey, order_swap v w, orderMembers_swap ms ns,
        Ordering.swap_then, Ordering.swap_then]

end

mutual

/-- Every number in the value is of a class. -/
def Over (S : Number → Prop) : Value → Prop
  | .number x => S x
  | .array items => AllOver S items
  | .object members => MembersOver S members
  | _ => True

@[inherit_doc Over]
def AllOver (S : Number → Prop) : List Value → Prop
  | [] => True
  | v :: rest => v.Over S ∧ AllOver S rest

@[inherit_doc Over]
def MembersOver (S : Number → Prop) : List (String × Value) → Prop
  | [] => True
  | (_, v) :: rest => v.Over S ∧ MembersOver S rest

end

theorem level_of_ranks {a b c : Value} (h : ¬ (a.rank = b.rank ∧ b.rank = c.rank)) :
    Level (order a b) (order b c) (order c a) := by
  refine .of_gt ?_
  by_cases hab : b.rank < a.rank
  · exact Or.inl (order_of_lt_rank hab)
  · by_cases hbc : c.rank < b.rank
    · exact Or.inr (Or.inl (order_of_lt_rank hbc))
    · exact Or.inr (Or.inr (order_of_lt_rank (by omega)))

mutual

/-- Over numbers that are clear, all round trips through values are level. -/
theorem level_order {S : Number → Prop} (hS : Number.Clear S) (a b c : Value) (ha : a.Over S)
    (hb : b.Over S) (hc : c.Over S) : Level (order a b) (order b c) (order c a) := by
  by_cases h : a.rank = b.rank ∧ b.rank = c.rank
  · cases kindred_of_rank h.1 with
    | null => cases kindred_of_rank h.2; exact fun _ _ _ => ⟨rfl, rfl, rfl⟩
    | bool x y => cases kindred_of_rank h.2; exact .of_trans x y _
    | number x y => cases kindred_of_rank h.2; exact Number.level_order hS ha hb hc
    | string s t => cases kindred_of_rank h.2; exact .of_trans s t _
    | array as bs => cases kindred_of_rank h.2; exact level_orderItems hS as bs _ ha hb hc
    | object ls ms => cases kindred_of_rank h.2; exact level_orderMembers hS ls ms _ ha hb hc
  · exact level_of_ranks h

theorem level_orderItems {S : Number → Prop} (hS : Number.Clear S) : ∀ as bs cs : List Value,
    AllOver S as → AllOver S bs → AllOver S cs →
      Level (orderItems as bs) (orderItems bs cs) (orderItems cs as)
  | [], [], [], _, _, _ => fun _ _ _ => ⟨rfl, rfl, rfl⟩
  | _ :: _, [], _, _, _, _ => .of_gt (Or.inl rfl)
  | _, _ :: _, [], _, _, _ => .of_gt (Or.inr (Or.inl rfl))
  | [], _, _ :: _, _, _, _ => .of_gt (Or.inr (Or.inr rfl))
  | a :: as, b :: bs, c :: cs, ha, hb, hc =>
      (level_order hS a b c ha.1 hb.1 hc.1).andThen
        (level_orderItems hS as bs cs ha.2 hb.2 hc.2)

theorem level_orderMembers {S : Number → Prop} (hS : Number.Clear S) :
    ∀ ls ms ns : List (String × Value), MembersOver S ls → MembersOver S ms → MembersOver S ns →
      Level (orderMembers ls ms) (orderMembers ms ns) (orderMembers ns ls)
  | [], [], [], _, _, _ => fun _ _ _ => ⟨rfl, rfl, rfl⟩
  | _ :: _, [], _, _, _, _ => .of_gt (Or.inl rfl)
  | _, _ :: _, [], _, _, _ => .of_gt (Or.inr (Or.inl rfl))
  | [], _, _ :: _, _, _, _ => .of_gt (Or.inr (Or.inr rfl))
  | (k, u) :: ls, (l, v) :: ms, (m, w) :: ns, hl, hm, hn =>
      (Level.of_trans k l m).andThen ((level_order hS u v w hl.1 hm.1 hn.1).andThen
        (level_orderMembers hS ls ms ns hl.2 hm.2 hn.2))

end

/-- Two integers with one floating point form, and a number that has that form
and is not compared exactly, make a round trip that is not level. -/
theorem clear_of_trans {S : Number → Prop}
    (h : ∀ a b c : Value, a.Over S → b.Over S → c.Over S → order a b ≠ .gt → order b c ≠ .gt →
      order a c ≠ .gt) : Number.Clear S := by
  intro x y z m n hx hy hz hm hn hnone hxy hzy
  have heq (u : Number) (hu : u.toBinary64 = y.toBinary64) : u.order y = .eq ∧ y.order u = .eq := by
    rw [Number.order_rounded (Or.inr hnone), Number.order_rounded (Or.inl hnone), hu]
    exact ⟨Std.compare_self, Std.compare_self⟩
  have hup : compare m n ≠ .gt := by
    rw [← Number.order_exact hm hn]
    exact h (.number x) (.number y) (.number z) hx hy hz (by simp [order, heq x hxy])
      (by simp [order, heq z hzy])
  have hdown : compare n m ≠ .gt := by
    rw [← Number.order_exact hn hm]
    exact h (.number z) (.number y) (.number x) hz hy hx (by simp [order, heq z hzy])
      (by simp [order, heq x hxy])
  have hle := Int.isLE_compare.mp (Ordering.isLE_iff_ne_gt.mpr hup)
  have hge := Int.isLE_compare.mp (Ordering.isLE_iff_ne_gt.mpr hdown)
  exact Int.le_antisymm hle hge

/-- The order of values is reflexive and turns round when its arguments are
exchanged, and it is transitive on the values over a class of numbers exactly
when no number outside the signed 64-bit integers has the floating point form of
two of them. -/
theorem order_preorder (S : Number → Prop) :
    (∀ a : Value, order a a = .eq) ∧ (∀ a b : Value, order b a = (order a b).swap) ∧
      (Number.Clear S ↔
        ∀ a b c : Value, a.Over S → b.Over S → c.Over S → order a b ≠ .gt → order b c ≠ .gt →
          order a c ≠ .gt) := by
  refine ⟨order_self, order_swap, ⟨?_, clear_of_trans⟩⟩
  intro hS a b c ha hb hc
  have hlevel := level_order hS a b c ha hb hc
  rw [order_swap a c] at hlevel
  exact hlevel.trans

/-- The integers `2 ^ 53 + 1` and `2 ^ 53` have one floating point form, which
is equal to both. -/
theorem order_not_transitive :
    order (.ofInt (2 ^ 53 + 1)) (.number (.float ⟨false, 1076 * 2 ^ 52, by decide⟩)) = .eq ∧
      order (.number (.float ⟨false, 1076 * 2 ^ 52, by decide⟩)) (.ofInt (2 ^ 53)) = .eq ∧
      order (.ofInt (2 ^ 53 + 1)) (.ofInt (2 ^ 53)) = .gt := by
  decide

end Value

end PolicyHost.Json
