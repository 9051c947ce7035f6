import PolicyHost.Proofs.Builtin.Operand
import PolicyHost.Proofs.Guest.Tables

/-!
# Names and ids of builtins

A guest that tells its builtins gives every name an id, and a table should lead
from either to the other. From an id to its name and back to the id it does, on
every table that is resolved. From a name to its id and back it leads to the
greatest name with that id (`resolve_names`): the names are taken in order, and
each takes the slot of its id from the names before it. So the names that lose
their slot are not told as missing either, and a table has fewer slots than
names as soon as two names share an id.
-/

namespace PolicyHost.Guest

open Json Builtin

variable {ids : Keyed String UInt32} {id : UInt32} {name : String} {registry : Registry}

/-! ## The name of an id -/

theorem nameOf?_cons (entry : String × UInt32) (ids : Keyed String UInt32) (id : UInt32) :
    nameOf? (entry :: ids) id =
      (nameOf? ids id).or (if id = entry.2 then some entry.1 else none) := by
  rw [nameOf?, nameOf?, Keyed.get?_ofList, Keyed.get?_ofList, List.map_cons, List.reverse_cons,
    Keyed.get?_append]
  rfl

theorem nameOf?_eq_none : nameOf? ids id = none ↔ ∀ name, (name, id) ∉ ids := by
  induction ids with
  | nil => exact iff_of_true rfl fun _ => List.not_mem_nil
  | cons entry ids ih =>
      obtain ⟨first, i⟩ := entry
      rw [nameOf?_cons, Option.or_eq_none_iff, ih]
      simp only [List.mem_cons, Prod.mk.injEq, not_or, ite_eq_right_iff, reduceCtorEq, imp_false]
      constructor
      · rintro ⟨hrest, hne⟩ name
        exact ⟨fun h => hne h.2, hrest name⟩
      · intro h
        exact ⟨fun name => (h name).2, fun heq => (h first).1 ⟨rfl, heq⟩⟩

theorem nameOf?_greatest (h : Keyed.Increasing ids) (hname : nameOf? ids id = some name) :
    (name, id) ∈ ids ∧ ∀ later, (later, id) ∈ ids → later ≤ name := by
  induction ids with
  | nil => cases hname
  | cons entry ids ih =>
      obtain ⟨first, i⟩ := entry
      have hlater := (List.pairwise_cons.mp (Keyed.increasing_iff.mp h)).1
      rw [nameOf?_cons] at hname
      cases hrest : nameOf? ids id with
      | none =>
          rw [hrest, Option.none_or] at hname
          obtain ⟨rfl, hfirst⟩ := Option.ite_none_right_eq_some.mp hname
          cases hfirst
          refine ⟨List.mem_cons_self, fun later hlate => ?_⟩
          rcases List.mem_cons.mp hlate with heq | hlate
          · cases heq
            exact String.le_refl _
          · exact absurd hlate (nameOf?_eq_none.mp hrest later)
      | some found =>
          rw [hrest, Option.some_or] at hname
          cases hname
          obtain ⟨hmem, hgreatest⟩ := ih h.tail hrest
          refine ⟨List.mem_cons_of_mem _ hmem, fun later hlate => ?_⟩
          rcases List.mem_cons.mp hlate with heq | hlate
          · cases heq
            exact Std.le_of_lt (hlater _ hmem)
          · exact hgreatest later hlate

/-- The slot of an id is the greatest of its names. -/
theorem nameOf?_eq_some (h : Keyed.Increasing ids) :
    nameOf? ids id = some name ↔ (name, id) ∈ ids ∧ ∀ later, (later, id) ∈ ids → later ≤ name := by
  refine ⟨nameOf?_greatest h, fun ⟨hmem, hgreatest⟩ => ?_⟩
  cases hfound : nameOf? ids id with
  | none => exact absurd hmem (nameOf?_eq_none.mp hfound name)
  | some found =>
      obtain ⟨hfoundmem, habove⟩ := nameOf?_greatest h hfound
      exact congrArg some (String.le_antisymm (hgreatest found hfoundmem) (habove name hmem))

/-! ## What a guest tells -/

/-- A member of an object gives an entry its name and its id. -/
def Gives (m : String × Value) (entry : String × UInt32) : Prop :=
  entry.1 = m.1 ∧ m.2.natBelow? (2 ^ 32) = some entry.2.toNat

theorem gives_of_idsOfValue? {members : Members} (h : idsOfValue? (.object members) = some ids) :
    List.Forall₂ Gives members ids := by
  rw [idsOfValue?] at h
  induction members generalizing ids with
  | nil =>
      cases h
      exact .nil
  | cons m members ih =>
      obtain ⟨first, v⟩ := m
      rw [List.mapM_cons] at h
      obtain ⟨entry, hentry, h⟩ := Option.bind_eq_some_iff.mp h
      obtain ⟨rest, hrest, h⟩ := Option.bind_eq_some_iff.mp h
      obtain ⟨n, hn, rfl⟩ := Option.map_eq_some_iff.mp hentry
      cases h
      have hword : (UInt32.ofNat n).toNat = n := by
        rw [UInt32.toNat_ofNat']
        exact Nat.mod_eq_of_lt (natBelow?_lt hn)
      exact .cons ⟨rfl, hn.trans (congrArg some hword.symm)⟩ (ih hrest)

section

variable {members : Members} (h : List.Forall₂ Gives members ids)
include h

theorem names_of_gives : ids.map (·.1) = members.map (·.1) := by
  induction h with
  | nil => rfl
  | cons hentry _ ih => rw [List.map_cons, List.map_cons, hentry.1, ih]

theorem increasing_of_gives (hmembers : Keyed.Increasing members) : Keyed.Increasing ids := by
  have hpairwise := List.pairwise_map.mpr (Keyed.increasing_iff.mp hmembers)
  rw [← names_of_gives h] at hpairwise
  exact Keyed.increasing_iff.mpr (List.pairwise_map.mp hpairwise)

theorem exists_given {name : String} {v : Value} (hmem : (name, v) ∈ members) :
    ∃ id, (name, id) ∈ ids ∧ v.natBelow? (2 ^ 32) = some id.toNat := by
  induction h with
  | nil => cases hmem
  | @cons m entry _ _ hentry _ ih =>
      rcases List.mem_cons.mp hmem with rfl | hmem
      · obtain ⟨hname, hid⟩ := hentry
        exact ⟨entry.2, List.mem_cons.mpr (Or.inl (Prod.ext hname.symm rfl)), hid⟩
      · obtain ⟨id, hid, hn⟩ := ih hmem
        exact ⟨id, List.mem_cons_of_mem _ hid, hn⟩

end

/-! ## Tables of ids -/

theorem idOf?_ofIds (hids : Keyed.Increasing ids) :
    (BuiltinTable.ofIds registry ids).idOf? name = some ⟨id⟩ ↔ (name, id) ∈ ids := by
  rw [BuiltinTable.idOf?, ← Keyed.get?_eq_some hids]
  change (Keyed.get? name ids).map (⟨·⟩) = some (⟨id⟩ : BuiltinId) ↔ _
  cases Keyed.get? name ids <;> simp

theorem get?_slot {slot : Slot} : (BuiltinTable.ofIds registry ids).get? ⟨id⟩ = some slot ↔
    nameOf? ids id = some slot.name ∧ slot.entry = registry.get? slot.name := by
  rw [get?_ofIds, Option.map_eq_some_iff]
  constructor
  · rintro ⟨name, hname, rfl⟩
    exact ⟨hname, rfl⟩
  · rintro ⟨hname, hentry⟩
    refine ⟨slot.name, hname, ?_⟩
    rw [← hentry]

theorem increasing_slots : Keyed.Increasing (BuiltinTable.ofIds registry ids).slots :=
  Keyed.increasing_ofList _

theorem mem_slots {slot : Slot} : (id, slot) ∈ (BuiltinTable.ofIds registry ids).slots ↔
    nameOf? ids id = some slot.name ∧ slot.entry = registry.get? slot.name := by
  rw [← Keyed.get?_eq_some increasing_slots, ← get?_slot]
  rfl

theorem mem_unimplemented : name ∈ (BuiltinTable.ofIds registry ids).unimplemented ↔
    registry.get? name = none ∧ ∃ id, nameOf? ids id = some name := by
  rw [BuiltinTable.unimplemented, List.mem_map]
  constructor
  · rintro ⟨⟨id, slot⟩, hmem, rfl⟩
    obtain ⟨hmem, hnone⟩ := List.mem_filter.mp hmem
    obtain ⟨hname, hentry⟩ := mem_slots.mp hmem
    exact ⟨hentry ▸ Option.isNone_iff_eq_none.mp hnone, id, hname⟩
  · rintro ⟨hnone, id, hname⟩
    refine ⟨(id, ⟨name, none⟩), List.mem_filter.mpr ⟨?_, rfl⟩, rfl⟩
    exact mem_slots.mpr ⟨hname, hnone.symm⟩

/-- The name of a slot is the greatest of the names with its id. -/
theorem name_get?_ofIds (registry : Registry) (hids : Keyed.Increasing ids)
    (hmem : (name, id) ∈ ids) :
    ((BuiltinTable.ofIds registry ids).get? ⟨id⟩).map Slot.name = some name ↔
      ∀ later, (BuiltinTable.ofIds registry ids).idOf? later = some ⟨id⟩ → later ≤ name := by
  have hslot : ((BuiltinTable.ofIds registry ids).get? ⟨id⟩).map Slot.name = nameOf? ids id := by
    rw [get?_ofIds, Option.map_map]
    exact Option.map_id'
  rw [hslot, nameOf?_eq_some hids, and_iff_right hmem]
  exact forall_congr' fun later => imp_congr_left (idOf?_ofIds hids).symm

/-- A name is told as missing when it has the slot of its id and no definition. -/
theorem mem_unimplemented_iff (hids : Keyed.Increasing ids) (hmem : (name, id) ∈ ids) :
    name ∈ (BuiltinTable.ofIds registry ids).unimplemented ↔ registry.get? name = none ∧
      ((BuiltinTable.ofIds registry ids).get? ⟨id⟩).map Slot.name = some name := by
  rw [mem_unimplemented, get?_ofIds, Option.map_map]
  refine and_congr_right fun _ => ⟨?_, fun h => ⟨id, Option.map_id'.symm.trans h⟩⟩
  rintro ⟨other, hother⟩
  have hsame : (name, other) ∈ ids := ((nameOf?_eq_some hids).mp hother).1
  have heq : some other = some id := by
    rw [← (Keyed.get?_eq_some hids).mpr hsame, (Keyed.get?_eq_some hids).mpr hmem]
  cases heq
  exact Option.map_id'.trans hother

theorem size_ofIds : (BuiltinTable.ofIds registry ids).size = ids.length ↔
    (ids.map (·.2)).Nodup := by
  let slotOf (entry : String × UInt32) : UInt32 × Slot :=
    (entry.2, ⟨entry.1, registry.get? entry.1⟩)
  have hlength := (Keyed.length_ofList (ids.map slotOf)).2
  rw [List.length_map, List.map_map] at hlength
  exact hlength

theorem nodup_ids (hids : Keyed.Increasing ids) : (ids.map (·.2)).Nodup ↔
    ∀ name other id, (name, id) ∈ ids → (other, id) ∈ ids → name = other := by
  have hnodup : ids.Nodup := by
    refine (Keyed.increasing_iff.mp hids).imp fun {a b} (hlt : a.1 < b.1) => ?_
    rintro rfl
    exact String.lt_irrefl _ hlt
  rw [List.nodup_map_iff_inj_on hnodup]
  constructor
  · intro hinj name other id hname hother
    exact congrArg Prod.fst (hinj _ hname _ hother rfl)
  · rintro hone ⟨name, id⟩ hname ⟨other, _⟩ hother rfl
    rw [hone name other id hname hother]

/-! ## Resolved tables -/

/-- What a resolved table says of the members of the object. Ids lead to names and back. From names
to ids and back it leads to the greatest name with the id; that is the only name of the id that
can be told as missing, and there are as many slots as names when no two names have one id. -/
theorem resolve_names {registry : Registry} {members : Members} {t : BuiltinTable}
    (hmembers : Keyed.Increasing members)
    (h : BuiltinTable.resolve registry (.object members) = .ok t) :
    (∀ name id, t.idOf? name = some id → ∃ v, (name, v) ∈ members) ∧
    (∀ id slot, t.get? id = some slot →
      t.idOf? slot.name = some id ∧ slot.entry = registry.get? slot.name) ∧
    (∀ name v, (name, v) ∈ members → ∃ id, t.idOf? name = some id ∧
      v.natBelow? (2 ^ 32) = some id.value.toNat ∧
      ((t.get? id).map Slot.name = some name ↔ ∀ later, t.idOf? later = some id → later ≤ name) ∧
      (name ∈ t.unimplemented ↔ registry.get? name = none ∧
        ∀ later, t.idOf? later = some id → later ≤ name)) ∧
    (t.size = members.length ↔
      ∀ name other id, t.idOf? name = some id → t.idOf? other = some id → name = other) := by
  rw [BuiltinTable.resolve] at h
  cases hread : idsOfValue? (.object members) with
  | none =>
      rw [hread] at h
      cases h
  | some ids =>
      rw [hread] at h
      cases h
      have hgives := gives_of_idsOfValue? hread
      have hids := increasing_of_gives hgives hmembers
      have hidOf {name : String} {id : BuiltinId} :
          (BuiltinTable.ofIds registry ids).idOf? name = some id ↔ (name, id.value) ∈ ids :=
        idOf?_ofIds hids
      refine ⟨?_, ?_, ?_, ?_⟩
      · intro name id hid
        have hname : name ∈ ids.map (·.1) := List.mem_map_of_mem (f := (·.1)) (hidOf.mp hid)
        rw [names_of_gives hgives] at hname
        obtain ⟨⟨_, v⟩, hmem, rfl⟩ := List.mem_map.mp hname
        exact ⟨v, hmem⟩
      · intro id slot hslot
        obtain ⟨hname, hentry⟩ := get?_slot.mp hslot
        exact ⟨hidOf.mpr ((nameOf?_eq_some hids).mp hname).1, hentry⟩
      · intro name v hmem
        obtain ⟨id, hid, hv⟩ := exists_given hgives hmem
        have hgreatest := name_get?_ofIds registry hids hid
        exact ⟨⟨id⟩, hidOf.mpr hid, hv, hgreatest,
          (mem_unimplemented_iff hids hid).trans (and_congr_right fun _ => hgreatest)⟩
      · rw [hgives.length_eq, size_ofIds, nodup_ids hids]
        refine forall_congr' fun name => forall_congr' fun other => ?_
        exact ⟨fun h id hname hother => h id.value (hidOf.mp hname) (hidOf.mp hother),
          fun h id hname hother => h ⟨id⟩ (hidOf.mpr hname) (hidOf.mpr hother)⟩

/-- Two names with one id. -/
def sharing : Members :=
  [("absent", .ofInt 0), ("concat", .ofInt 0)]

theorem resolve_names_sharing : ∃ t, Keyed.Increasing sharing ∧
    BuiltinTable.resolve (.standard 0) (.object sharing) = .ok t ∧
    ∀ id slot, t.get? id = some slot →
      t.idOf? slot.name = some id ∧ slot.entry = (Registry.standard 0).get? slot.name := by
  have hsharing : Keyed.Increasing sharing := ⟨by decide, trivial⟩
  have hresolve : BuiltinTable.resolve (.standard 0) (.object sharing) =
      .ok (.ofIds (.standard 0) [("absent", 0), ("concat", 0)]) := rfl
  exact ⟨_, hsharing, hresolve, (resolve_names hsharing hresolve).2.1⟩

/-- The name that lost its slot is not told as missing, and does not count. -/
theorem shared_id_hides_missing : ∃ t,
    BuiltinTable.resolve (.standard 0) (.object sharing) = .ok t ∧
    t.idOf? "absent" = some ⟨0⟩ ∧ (t.get? ⟨0⟩).map Slot.name = some "concat" ∧
    (Registry.standard 0).get? "absent" = none ∧ t.unimplemented = [] ∧
    t.size = 1 ∧ sharing.length = 2 :=
  ⟨.ofIds (.standard 0) [("absent", 0), ("concat", 0)], rfl, by decide +kernel,
    by decide +kernel, rfl, by decide +kernel, by decide +kernel, rfl⟩

end PolicyHost.Guest
