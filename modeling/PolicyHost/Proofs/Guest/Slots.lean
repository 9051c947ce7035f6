import PolicyHost.Proofs.Guest.Resolution
import PolicyHost.Proofs.Text.Bytes

/-!
# What a table of builtins is built from

A guest tells its builtins as an object of ids, and nothing else is taken for one:
a member that is not an integer of 32 bits spoils the whole object. The table of such
an object has a slot for each id in it, in their order, and looks every name up that
the object has (`TableOf`). Where names share an id the slot goes to the last one, that
is to the one whose bytes are the greatest.
-/

namespace PolicyHost.Guest

open Json Builtin

variable {registry : Registry} {members : Members} {ids : Keyed String UInt32} {name : String}
  {id : UInt32} {v : Value}

/-! ## Objects of ids -/

/-- An object whose members are all integers of 32 bits without a sign. -/
def IsIdObject (v : Value) : Prop :=
  ∃ members, v = .object members ∧
    ∀ name w, (name, w) ∈ members → ∃ n : Nat, n < 2 ^ 32 ∧ w = .ofInt n

theorem idsOfValue?_of_forall (h : ∀ m ∈ members, ∃ n : Nat, n < 2 ^ 32 ∧ m.2 = .ofInt n) :
    ∃ ids, idsOfValue? (.object members) = some ids := by
  rw [idsOfValue?]
  induction members with
  | nil => exact ⟨[], rfl⟩
  | cons m members ih =>
      obtain ⟨n, hn, hm⟩ := h m List.mem_cons_self
      obtain ⟨ids, hids⟩ := ih fun m hmem => h m (List.mem_cons_of_mem _ hmem)
      have hid : m.2.natBelow? (2 ^ 32) = some n := (natBelow?_eq_some (by decide)).mpr ⟨hn, hm⟩
      refine ⟨(m.1, .ofNat n) :: ids, ?_⟩
      rw [List.mapM_cons, hids]
      simp only [hid]
      rfl

theorem isIdObject_iff : IsIdObject v ↔ ∃ ids, idsOfValue? v = some ids := by
  constructor
  · rintro ⟨members, rfl, h⟩
    exact idsOfValue?_of_forall fun m hmem => h m.1 m.2 hmem
  · rintro ⟨ids, h⟩
    cases v with
    | object members =>
        refine ⟨members, rfl, fun name w hmem => ?_⟩
        obtain ⟨id, -, hid⟩ := exists_given (gives_of_idsOfValue? h) hmem
        exact ⟨id.toNat, (natBelow?_eq_some (by decide)).mp hid⟩
    | _ => cases h

theorem ofInt_toNat_inj {i : UInt32} : Value.ofInt id.toNat = .ofInt i.toNat ↔ id = i := by
  have hid := id.toNat_lt
  have hi := i.toNat_lt
  refine ⟨fun h => ?_, fun h => by rw [h]⟩
  have hnat := ofInt_inj (by omega) (by omega) h
  exact UInt32.toNat_inj.mp (by omega)

theorem mem_ids (h : List.Forall₂ Gives members ids) :
    (name, id) ∈ ids ↔ (name, .ofInt id.toNat) ∈ members := by
  induction h with
  | nil => exact iff_of_false List.not_mem_nil List.not_mem_nil
  | cons hentry _ ih =>
      obtain ⟨hname, hid⟩ := hentry
      have hvalue := ((natBelow?_eq_some (by decide)).mp hid).2
      rw [List.mem_cons, List.mem_cons, ih, Prod.ext_iff, Prod.ext_iff, hname, hvalue,
        ofInt_toNat_inj]

/-! ## Slots -/

/-- What a table holds of the members of an object. -/
structure TableOf (registry : Registry) (members : Members) (t : BuiltinTable) : Prop where
  /-- The slots stand in the order of their ids. -/
  increasing : t.slots.Pairwise fun entry later => entry.1 < later.1
  /-- An id has a slot if it is the id of a name. -/
  ids : ∀ id, (∃ slot, (id, slot) ∈ t.slots) ↔ ∃ name, (name, .ofInt id.toNat) ∈ members
  /-- Of the names of an id its slot has the one whose bytes are the greatest, with the
  entry of that name. -/
  slot : ∀ id slot, (id, slot) ∈ t.slots →
    (slot.name, .ofInt id.toNat) ∈ members ∧
    (∀ name, (name, .ofInt id.toNat) ∈ members →
      name.toUTF8.toList ≤ slot.name.toUTF8.toList) ∧
    slot.entry = registry.get? slot.name
  get : ∀ id slot, t.get? id = some slot ↔ (id.value, slot) ∈ t.slots
  idOf : ∀ name id, t.idOf? name = some id ↔ (name, .ofInt id.value.toNat) ∈ members
  named : ∀ name, (t.idOf? name).isSome ↔ ∃ w, (name, w) ∈ members
  /-- Names are told as missing in the order of their ids, those of the slots without an
  entry and no others. -/
  missing : ∃ ids : List UInt32, ids.Pairwise (· < ·) ∧
    (∀ id, id ∈ ids ↔ ∃ slot, (id, slot) ∈ t.slots ∧ slot.entry = none) ∧
    t.unimplemented.map some = ids.map fun id => (t.get? ⟨id⟩).map Slot.name

theorem get?_eq_some_iff {id : BuiltinId} {slot : Slot} :
    (BuiltinTable.ofIds registry ids).get? id = some slot ↔
      (id.value, slot) ∈ (BuiltinTable.ofIds registry ids).slots :=
  Keyed.get?_eq_some increasing_slots

/-- The ids that name the missing builtins. -/
theorem exists_missing : ∃ missing : List UInt32, missing.Pairwise (· < ·) ∧
    (∀ id, id ∈ missing ↔
      ∃ slot, (id, slot) ∈ (BuiltinTable.ofIds registry ids).slots ∧ slot.entry = none) ∧
    (BuiltinTable.ofIds registry ids).unimplemented.map some =
      missing.map fun id => ((BuiltinTable.ofIds registry ids).get? ⟨id⟩).map Slot.name := by
  refine ⟨((BuiltinTable.ofIds registry ids).slots.filter (·.2.entry.isNone)).map (·.1),
    List.pairwise_map.mpr ((Keyed.increasing_iff.mp increasing_slots).filter _), fun id => ?_, ?_⟩
  · rw [List.mem_map]
    constructor
    · rintro ⟨entry, hentry, rfl⟩
      obtain ⟨hmem, hnone⟩ := List.mem_filter.mp hentry
      exact ⟨entry.2, hmem, Option.isNone_iff_eq_none.mp hnone⟩
    · rintro ⟨slot, hmem, hnone⟩
      exact ⟨(id, slot), List.mem_filter.mpr ⟨hmem, Option.isNone_iff_eq_none.mpr hnone⟩, rfl⟩
  · rw [BuiltinTable.unimplemented, List.map_map, List.map_map]
    refine List.map_congr_left fun entry hentry => ?_
    have hslot : (BuiltinTable.ofIds registry ids).get? ⟨entry.1⟩ = some entry.2 :=
      get?_eq_some_iff.mpr (List.mem_filter.mp hentry).1
    simp only [Function.comp_apply, hslot, Option.map_some]

section

variable (hgives : List.Forall₂ Gives members ids) (hids : Keyed.Increasing ids)
include hgives hids

theorem exists_slot_iff : (∃ slot, (id, slot) ∈ (BuiltinTable.ofIds registry ids).slots) ↔
    ∃ name, (name, .ofInt id.toNat) ∈ members := by
  constructor
  · rintro ⟨slot, hslot⟩
    have hname := ((nameOf?_eq_some hids).mp (mem_slots.mp hslot).1).1
    exact ⟨slot.name, (mem_ids hgives).mp hname⟩
  · rintro ⟨name, hname⟩
    have hsome : nameOf? ids id ≠ none := by
      intro hnone
      exact nameOf?_eq_none.mp hnone name ((mem_ids hgives).mpr hname)
    obtain ⟨last, hlast⟩ := Option.ne_none_iff_exists'.mp hsome
    exact ⟨⟨last, registry.get? last⟩, mem_slots.mpr ⟨hlast, rfl⟩⟩

theorem slot_of_mem {slot : Slot} (h : (id, slot) ∈ (BuiltinTable.ofIds registry ids).slots) :
    (slot.name, .ofInt id.toNat) ∈ members ∧
      (∀ name, (name, .ofInt id.toNat) ∈ members →
        name.toUTF8.toList ≤ slot.name.toUTF8.toList) ∧
      slot.entry = registry.get? slot.name := by
  obtain ⟨hname, hentry⟩ := mem_slots.mp h
  obtain ⟨hmem, hgreatest⟩ := (nameOf?_eq_some hids).mp hname
  refine ⟨(mem_ids hgives).mp hmem, ?_, hentry⟩
  intro name hname
  exact Text.toUTF8_le_iff.mpr (hgreatest name ((mem_ids hgives).mpr hname))

theorem idOf?_eq_some_iff {id : BuiltinId} :
    (BuiltinTable.ofIds registry ids).idOf? name = some id ↔
      (name, .ofInt id.value.toNat) ∈ members := by
  rw [← mem_ids hgives]
  exact idOf?_ofIds hids

theorem isSome_idOf? : ((BuiltinTable.ofIds registry ids).idOf? name).isSome ↔
    ∃ w, (name, w) ∈ members := by
  rw [Option.isSome_iff_exists]
  constructor
  · rintro ⟨id, hid⟩
    exact ⟨_, (idOf?_eq_some_iff hgives hids).mp hid⟩
  · rintro ⟨w, hw⟩
    obtain ⟨id, hid, -⟩ := exists_given hgives hw
    exact ⟨⟨id⟩, (idOf?_ofIds hids).mpr hid⟩

theorem tableOf_ofIds : TableOf registry members (.ofIds registry ids) where
  increasing := Keyed.increasing_iff.mp increasing_slots
  ids _ := exists_slot_iff hgives hids
  slot _ _ := slot_of_mem hgives hids
  get _ _ := get?_eq_some_iff
  idOf _ _ := idOf?_eq_some_iff hgives hids
  named _ := isSome_idOf? hgives hids
  missing := exists_missing

end

/-- An object of ids is resolved, and everything else refused; the table that comes out is
that of the members. -/
theorem resolve_slots (registry : Registry) {v : Value} (hv : v.Canonical) :
    ((∃ t, BuiltinTable.resolve registry v = .ok t) ↔ IsIdObject v) ∧
    (¬ IsIdObject v → BuiltinTable.resolve registry v = .error (.transfer (.badTable "builtin"))) ∧
    (∀ t, BuiltinTable.resolve registry v = .ok t →
      ∃ members, v = .object members ∧ TableOf registry members t) := by
  rw [BuiltinTable.resolve, isIdObject_iff]
  cases hread : idsOfValue? v with
  | none =>
      refine ⟨iff_of_false ?_ ?_, fun _ => rfl, ?_⟩
      · rintro ⟨t, h⟩
        cases h
      · rintro ⟨ids, h⟩
        cases h
      · intro t h
        cases h
  | some ids =>
      refine ⟨iff_of_true ⟨_, rfl⟩ ⟨ids, rfl⟩, fun hnot => absurd ⟨ids, rfl⟩ hnot, ?_⟩
      intro t h
      cases h
      obtain ⟨members, rfl, -⟩ := isIdObject_iff.mpr ⟨ids, hread⟩
      have hgives := gives_of_idsOfValue? hread
      exact ⟨members, rfl, tableOf_ofIds hgives (increasing_of_gives hgives hv.1)⟩

/-- Three names for two ids, at the ends of the range, and a registry that has one of them. -/
theorem resolve_slots_shared :
    let v : Value := .object
      [("absent", .ofInt 0), ("concat", .ofInt 4294967295), ("zero", .ofInt 0)]
    v.Canonical ∧ ∃ t, BuiltinTable.resolve (.standard 0) v = .ok t ∧
      (∃ members, v = .object members ∧ TableOf (.standard 0) members t) ∧
      t.unimplemented = ["zero"] := by
  intro v
  have hv : v.Canonical :=
    ⟨⟨by decide, by decide, trivial⟩, canonical_ofInt _, canonical_ofInt _, canonical_ofInt _,
      trivial⟩
  refine ⟨hv, _, rfl, ?_, ?_⟩
  · exact (resolve_slots (.standard 0) hv).2.2 _ rfl
  · decide +kernel

end PolicyHost.Guest
