import PolicyHost.Proofs.Json.Order

/-!
# Values that compare equal

Values can compare equal and be different, as `1` and `1.0` are, but only
through their numbers. Where all numbers are integers of the signed 64-bit range
there is no such pair (`eq_of_order`), and no number that could make the order
anything but transitive (`clear_signed`), so the values over these numbers are
ordered linearly.
-/

namespace PolicyHost.Json

/-- Integers of the signed 64-bit range, the numbers that are compared exactly. -/
def Number.Signed (x : Number) : Prop :=
  ∃ n, x.int64? = some n

theorem Number.clear_signed : Clear Signed := by
  rintro x y z m n - ⟨k, hk⟩ - - - hnone - -
  rw [hnone] at hk
  cases hk

theorem Number.int64?_eq {x : Number} {m : Int} (h : x.int64? = some m) :
    ∃ hm, x = .integer m hm := by
  cases x with
  | float x => cases h
  | integer i hi =>
      rw [int64?] at h
      split at h
      · cases h
        exact ⟨hi, rfl⟩
      · cases h

theorem Number.eq_of_order {x y : Number} (hx : x.Signed) (hy : y.Signed)
    (h : x.order y = .eq) : x = y := by
  obtain ⟨m, hm⟩ := hx
  obtain ⟨n, hn⟩ := hy
  rw [order_exact hm hn, Int.compare_eq_eq] at h
  subst h
  obtain ⟨_, rfl⟩ := int64?_eq hm
  obtain ⟨_, rfl⟩ := int64?_eq hn
  rfl

namespace Value

mutual

/-- Values over signed integers that compare equal are the same. -/
theorem eq_of_order (a b : Value) (ha : a.Over Number.Signed) (hb : b.Over Number.Signed)
    (h : order a b = .eq) : a = b := by
  have hrank : a.rank = b.rank := by
    rcases Nat.lt_trichotomy a.rank b.rank with hlt | heq | hgt
    · rw [order_of_rank_lt hlt] at h
      cases h
    · exact heq
    · rw [order_of_lt_rank hgt] at h
      cases h
  cases kindred_of_rank hrank with
  | null => rfl
  | bool x y => exact congrArg bool (Std.LawfulEqOrd.eq_of_compare h)
  | number x y => exact congrArg number (Number.eq_of_order ha hb h)
  | string s t => exact congrArg string (Std.LawfulEqOrd.eq_of_compare h)
  | array as bs => exact congrArg array (eq_of_orderItems as bs ha hb h)
  | object ms ns => exact congrArg object (eq_of_orderMembers ms ns ha hb h)

theorem eq_of_orderItems : ∀ as bs : List Value, AllOver Number.Signed as →
    AllOver Number.Signed bs → orderItems as bs = .eq → as = bs
  | [], [], _, _, _ => rfl
  | a :: as, b :: bs, ha, hb, h => by
      obtain ⟨hhead, htail⟩ := Ordering.then_eq_eq.mp h
      rw [eq_of_order a b ha.1 hb.1 hhead, eq_of_orderItems as bs ha.2 hb.2 htail]

theorem eq_of_orderMembers : ∀ ms ns : List (String × Value), MembersOver Number.Signed ms →
    MembersOver Number.Signed ns → orderMembers ms ns = .eq → ms = ns
  | [], [], _, _, _ => rfl
  | (k, v) :: ms, (l, w) :: ns, hm, hn, h => by
      obtain ⟨hkey, hrest⟩ := Ordering.then_eq_eq.mp h
      obtain ⟨hvalue, htail⟩ := Ordering.then_eq_eq.mp hrest
      rw [Std.LawfulEqOrd.eq_of_compare hkey, eq_of_order v w hm.1 hn.1 hvalue,
        eq_of_orderMembers ms ns hm.2 hn.2 htail]

end

theorem order_eq_iff {a b : Value} (ha : a.Over Number.Signed) (hb : b.Over Number.Signed) :
    order a b = .eq ↔ a = b := by
  constructor
  · exact eq_of_order a b ha hb
  · rintro rfl
    exact order_self a

/-- The order is transitive on the values over signed integers. -/
theorem order_trans_signed {a b c : Value} (ha : a.Over Number.Signed) (hb : b.Over Number.Signed)
    (hc : c.Over Number.Signed) (hab : order a b ≠ .gt) (hbc : order b c ≠ .gt) :
    order a c ≠ .gt := by
  have hlevel := level_order Number.clear_signed a b c ha hb hc
  rw [order_swap a c] at hlevel
  exact hlevel.trans hab hbc

/-- The names of the types in the order of their values. -/
def typesInOrder : List String :=
  ["null", "boolean", "number", "string", "array", "object"]

theorem idxOf_typeName (v : Value) : typesInOrder.idxOf v.typeName = v.rank := by
  cases v <;> rfl

/-- Values of different types are ordered by their types. -/
theorem order_of_types {a b : Value}
    (h : typesInOrder.idxOf a.typeName < typesInOrder.idxOf b.typeName) : order a b = .lt := by
  rw [idxOf_typeName, idxOf_typeName] at h
  exact order_of_rank_lt h

end Value

end PolicyHost.Json
