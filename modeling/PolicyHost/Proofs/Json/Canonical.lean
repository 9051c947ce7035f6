import PolicyHost.Json.Reader
import PolicyHost.Proofs.Keyed

/-!
# What texts can give

A text gives only values whose objects list their members by increasing key, and none
that is nested deeper than allowed (`formed_of_parseWithin?`). So the values that come out
of a guest are of this form, whatever the guest wrote.

The induction is on the budget of the reader, for values, items and members at once. The
items and members that were read before are kept in a list, so the statements about them
carry what is known of that list on.
-/

namespace PolicyHost.Json

namespace Value

/-! ## Predicates on all parts -/

theorem allCanonical_iff {vs : List Value} : AllCanonical vs ↔ ∀ v ∈ vs, v.Canonical := by
  induction vs with
  | nil => simp [AllCanonical]
  | cons v vs ih => simp [AllCanonical, ih]

theorem membersCanonical_iff {ms : List (String × Value)} :
    MembersCanonical ms ↔ ∀ m ∈ ms, m.2.Canonical := by
  induction ms with
  | nil => simp [MembersCanonical]
  | cons m ms ih => simp only [MembersCanonical, ih, List.forall_mem_cons]

theorem membersIntegerOnly_iff {ms : List (String × Value)} :
    MembersIntegerOnly ms ↔ ∀ m ∈ ms, m.2.IntegerOnly := by
  induction ms with
  | nil => simp [MembersIntegerOnly]
  | cons m ms ih => simp only [MembersIntegerOnly, ih, List.forall_mem_cons]

theorem listDepth_le_iff {vs : List Value} {levels : Nat} :
    listDepth vs ≤ levels ↔ ∀ v ∈ vs, v.depth ≤ levels := by
  induction vs with
  | nil => simp [listDepth]
  | cons v vs ih => simp only [listDepth, Nat.max_le, ih, List.forall_mem_cons]

theorem membersDepth_le_iff {ms : List (String × Value)} {levels : Nat} :
    membersDepth ms ≤ levels ↔ ∀ m ∈ ms, m.2.depth ≤ levels := by
  induction ms with
  | nil => simp [membersDepth]
  | cons m ms ih => simp only [membersDepth, Nat.max_le, ih, List.forall_mem_cons]

end Value

/-- A value that a text with so many levels can give. -/
structure Formed (levels : Nat) (v : Value) : Prop where
  canonical : v.Canonical
  depth : v.depth ≤ levels

theorem formed_array {levels : Nat} {vs : List Value} (h : ∀ v ∈ vs, Formed levels v) :
    Formed (levels + 1) (.array vs) where
  canonical := Value.allCanonical_iff.mpr fun v hv => (h v hv).canonical
  depth := Nat.succ_le_succ (Value.listDepth_le_iff.mpr fun v hv => (h v hv).depth)

theorem formed_ofMembers {levels : Nat} {ms : List (String × Value)}
    (h : ∀ m ∈ ms, Formed levels m.2) : Formed (levels + 1) (.ofMembers ms) where
  canonical := ⟨Keyed.increasing_ofList ms, Value.membersCanonical_iff.mpr fun m hm =>
    (h m (Keyed.mem_of_mem_ofList hm)).canonical⟩
  depth := Nat.succ_le_succ (Value.membersDepth_le_iff.mpr fun m hm =>
    (h m (Keyed.mem_of_mem_ofList hm)).depth)

namespace Reader

/-- Within a budget the reader gives formed values, and items and members that are formed when
those read before are. -/
structure GivesFormed (budget : Nat) : Prop where
  value {depth cs v rest} : value? budget depth cs = some (v, rest) → Formed depth v
  items {depth cs done vs rest} : items? budget depth cs done = some (vs, rest) →
    (∀ v ∈ done, Formed depth v) → ∀ v ∈ vs, Formed depth v
  members {depth cs done ms rest} : members? budget depth cs done = some (ms, rest) →
    (∀ m ∈ done, Formed depth m.2) → ∀ m ∈ ms, Formed depth m.2

namespace GivesFormed

variable {budget depth : Nat} {cs rest : List Char}

theorem zero : GivesFormed 0 where
  value h := by cases h
  items h := by cases h
  members h := by cases h

theorem value_succ (ih : GivesFormed budget) {v : Value}
    (h : value? (budget + 1) depth cs = some (v, rest)) : Formed depth v := by
  rw [value?] at h
  split at h
  case h_1 | h_2 | h_3 =>
    cases h
    exact ⟨trivial, Nat.zero_le _⟩
  case h_4 | h_5 | h_8 =>
    obtain ⟨p, -, hp⟩ := Option.map_eq_some_iff.mp h
    cases hp
    exact ⟨trivial, Nat.zero_le _⟩
  case h_6 =>
    split at h
    · cases h
    · split at h
      · cases h
        exact formed_array fun v hv => by cases hv
      · obtain ⟨p, hp, heq⟩ := Option.map_eq_some_iff.mp h
        cases heq
        exact formed_array (ih.items hp fun v hv => by cases hv)
  case h_7 =>
    split at h
    · cases h
    · split at h
      · cases h
        exact ⟨⟨trivial, trivial⟩, Nat.succ_le_succ (Nat.zero_le _)⟩
      · obtain ⟨p, hp, heq⟩ := Option.map_eq_some_iff.mp h
        cases heq
        exact formed_ofMembers (ih.members hp fun m hm => by cases hm)
  case h_9 => cases h

theorem items_succ (ih : GivesFormed budget) {done vs : List Value}
    (h : items? (budget + 1) depth cs done = some (vs, rest))
    (hdone : ∀ v ∈ done, Formed depth v) : ∀ v ∈ vs, Formed depth v := by
  rw [items?] at h
  split at h
  · cases h
  · next v left hv =>
      have hmore : ∀ w ∈ v :: done, Formed depth w :=
        List.forall_mem_cons.mpr ⟨ih.value hv, hdone⟩
      split at h
      · exact ih.items h hmore
      · cases h
        exact fun w hw => hmore w (List.mem_reverse.mp hw)
      · cases h

theorem members_succ (ih : GivesFormed budget) {done ms : List (String × Value)}
    (h : members? (budget + 1) depth cs done = some (ms, rest))
    (hdone : ∀ m ∈ done, Formed depth m.2) : ∀ m ∈ ms, Formed depth m.2 := by
  rw [members?] at h
  split at h
  · split at h
    · cases h
    · next key left hkey =>
        split at h
        · split at h
          · cases h
          · next v left hv =>
              have hmore : ∀ m ∈ (key, v) :: done, Formed depth m.2 :=
                List.forall_mem_cons.mpr ⟨ih.value hv, hdone⟩
              split at h
              · exact ih.members h hmore
              · cases h
                exact fun m hm => hmore m (List.mem_reverse.mp hm)
              · cases h
        · cases h
  · cases h

end GivesFormed

theorem givesFormed (budget : Nat) : GivesFormed budget := by
  induction budget with
  | zero => exact .zero
  | succ budget ih => exact ⟨ih.value_succ, ih.items_succ, ih.members_succ⟩

end Reader

theorem formed_of_parseWithin? {depth : Nat} {cs : List Char} {v : Value}
    (h : parseWithin? depth cs = some v) : Formed depth v := by
  rw [parseWithin?] at h
  split at h
  · next w rest hread =>
      split at h
      · cases h
        exact (Reader.givesFormed _).value hread
      · cases h
  · cases h

theorem formed_of_parse? {text : String} {v : Value} (h : parse? text = some v) :
    Formed Reader.nestingLimit v :=
  formed_of_parseWithin? h

theorem formed_of_ofBytes? {bytes : ByteArray} {v : Value} (h : ofBytes? bytes = some v) :
    Formed Reader.nestingLimit v := by
  obtain ⟨text, -, hparse⟩ := Option.bind_eq_some_iff.mp h
  exact formed_of_parse? hparse

end PolicyHost.Json
