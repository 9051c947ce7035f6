import PolicyHost.Proofs.Guest.Start
import PolicyHost.Proofs.Keyed

/-!
# Tables of builtins

Which builtin an id stands for is a matter of the guest's table, whatever the
registry holds, and the entry in its slot is what the registry has under the
name (`get?_ofIds`). So two registries that agree on a name answer alike to its
id, and a program that does not call a builtin has the same plan whatever its entry
is.
-/

namespace PolicyHost.Guest

open Json Builtin

/-! ## The slots of a table -/

/-- The name that an id has in a guest's table of builtins. -/
def nameOf? (ids : Keyed String UInt32) (id : UInt32) : Option String :=
  Keyed.get? id (.ofList (ids.map fun (name, id) => (id, name)))

/-- The slot of an id has the name that the guest gave it, and the entry that
the registry has under that name. -/
theorem get?_ofIds (registry : Registry) (ids : Keyed String UInt32) (id : UInt32) :
    (BuiltinTable.ofIds registry ids).get? ⟨id⟩ =
      (nameOf? ids id).map fun name => ⟨name, registry.get? name⟩ := by
  have hpairs : (ids.map fun (name, id) => (id, (⟨name, registry.get? name⟩ : Slot))) =
      (ids.map fun (name, id) => (id, name)).map
        fun entry => (entry.1, (⟨entry.2, registry.get? entry.2⟩ : Slot)) := by
    rw [List.map_map]
    rfl
  have hlist := Keyed.ofList_map (fun name => (⟨name, registry.get? name⟩ : Slot))
    (ids.map fun (name, id) => (id, name))
  rw [BuiltinTable.get?, BuiltinTable.ofIds, nameOf?, ← Keyed.get?_map, ← hlist, ← hpairs]

/-- Registries that agree on the name of an id fill its slot alike. -/
theorem get?_ofIds_congr {r r' : Registry} {ids : Keyed String UInt32} {id : UInt32}
    (h : ∀ name, nameOf? ids id = some name → r.get? name = r'.get? name) :
    (BuiltinTable.ofIds r ids).get? ⟨id⟩ = (BuiltinTable.ofIds r' ids).get? ⟨id⟩ := by
  rw [get?_ofIds, get?_ofIds]
  exact Option.map_congr fun name hname => by rw [h name hname]

/-! ## What plans have from a table -/

/-- Two registries have the same under every name but that of the clock. -/
def SameBut (r r' : Registry) : Prop :=
  ∀ name, name ≠ "time.now_ns" → r.get? name = r'.get? name

theorem SameBut.insert {r r' : Registry} (h : SameBut r r') (entry : Entry) :
    SameBut (r.insert entry) (r'.insert entry) := by
  intro name hname
  rw [Registry.get?, Registry.get?, Registry.insert, Registry.insert, Keyed.get?_insert,
    Keyed.get?_insert]
  split
  · rfl
  · exact h name hname

theorem SameBut.insert_clock {r r' : Registry} (h : SameBut r r') {entry entry' : Entry}
    (he : entry.name = "time.now_ns") (he' : entry'.name = "time.now_ns") :
    SameBut (r.insert entry) (r'.insert entry') := by
  intro name hname
  rw [Registry.get?, Registry.get?, Registry.insert, Registry.insert, Keyed.get?_insert,
    Keyed.get?_insert, he, he', if_neg hname, if_neg hname]
  exact h name hname

theorem SameBut.insertAll {r r' : Registry} (h : SameBut r r') (shipped : List Shipped) :
    SameBut (shipped.foldl (fun r b => r.insert b.entry) r)
      (shipped.foldl (fun r b => r.insert b.entry) r') := by
  induction shipped generalizing r r' with
  | nil => exact h
  | cons b rest ih => exact ih (h.insert b.entry)

/-- The standard registries of two instants differ in the clock only. -/
theorem standard_sameBut (instant instant' : Int) :
    SameBut (.standard instant) (.standard instant') := by
  have hcatalog (instant : Int) : catalog instant = (catalog 0).take 31 ++
      ⟨"time_now_ns", 0, fun _ => now instant⟩ :: (catalog 0).drop 32 := rfl
  have hname (instant : Int) :
      (Shipped.mk "time_now_ns" 0 fun _ => now instant).entry.name = "time.now_ns" := rfl
  have hfront : SameBut .empty .empty := fun _ _ => rfl
  rw [Registry.standard, Registry.standard, hcatalog instant, hcatalog instant',
    List.foldl_append, List.foldl_append]
  exact ((hfront.insertAll _).insert_clock (hname instant) (hname instant')).insertAll _

namespace Plan

variable {g : Description} {r r' : Registry} {ids : Keyed String UInt32} {strict : Bool}

theorem dispatch_congr {id : UInt32}
    (h : ∀ name, nameOf? ids id = some name → r.get? name = r'.get? name) :
    dispatch g ⟨some (.ofIds r ids), strict⟩ id = dispatch g ⟨some (.ofIds r' ids), strict⟩ id := by
  funext operands
  rw [dispatch, dispatch]
  simp only [get?_ofIds_congr h]
  rfl

/-- A program has the same plan for services that answer its calls alike. -/
theorem steps_congr {services services' : Services} {metered : Bool} {view : View}
    {register : Cell} {program : List Step}
    (h : ∀ id arguments, .builtin id arguments ∈ program →
      dispatch g services id = dispatch g services' id) :
    steps g services metered view register program =
      steps g services' metered view register program := by
  induction program generalizing register with
  | nil => rfl
  | cons step rest ih =>
      have hrest (register : Cell) : steps g services metered view register rest =
          steps g services' metered view register rest :=
        ih fun id arguments hm => h id arguments (List.mem_cons_of_mem _ hm)
      have hstep : Plan.step g services metered view register step =
          Plan.step g services' metered view register step := by
        cases step with
        | builtin id arguments => exact congrFun (h id arguments List.mem_cons_self) _
        | _ => rfl
      rw [steps, steps, hstep]
      exact congrArg _ (funext hrest)

end Plan

end PolicyHost.Guest
