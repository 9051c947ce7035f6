import PolicyHost.Proofs.Guest.Start
import PolicyHost.Proofs.Session.Serves
import PolicyHost.Proofs.Settings

/-!
# Sessions that were launched

A session of the sample that could be launched serves the empty object: its
texts are in place, its tables are those of the registry, and both checkpoints
lie behind the first empty object. `launch_serves` reads this off a launch that
succeeded, so it also says when one does not: with less than two pages of
memory, and without fuel.
-/

namespace PolicyHost.Session

open Json Guest Builtin

theorem initialBytes_le_of_validate {config : Config} (h : config.validate = .ok ()) :
    config.initialBytes ≤ config.memoryLimit.bytes :=
  (Config.inRange_of_validate h).initial

/-- A session of the sample as a launch leaves it, and as it stays beside its
store and its data. -/
structure Sampled (config : Config) (registry : Registry) (s : Session) : Prop where
  guest : s.guest = .described sample
  services : s.services = ⟨some (.ofIds registry builtinIds), config.strict⟩
  entrypoints : s.entrypoints = entrypointIds
  maxFuel : s.maxFuel = config.maxFuel
  base : s.base.toNat = 1029

theorem Sampled.keep {config : Config} {registry : Registry} {s t : Session}
    (h : Sampled config registry s) (hf : Fixed s t) : Sampled config registry t where
  guest := hf.guest.trans h.guest
  services := hf.services.trans h.services
  entrypoints := hf.entrypoints.trans h.entrypoints
  maxFuel := hf.maxFuel.trans h.maxFuel
  base := by rw [hf.base, h.base]

theorem Sampled.named {config : Config} {registry : Registry} {s : Session}
    (h : Sampled config registry s) {name : String} {id : EntrypointId}
    (hid : entrypointIds.get? name = some id) : (Target.named name).id? s = .ok (some id) := by
  rw [Target.id?, h.entrypoints, hid]

/-- Loading the first empty object sets both checkpoints behind it. -/
theorem prepare_run {config : Config} {t : Store} (tables : Tables)
    (hb : Booted config t) (hsize : 131072 ≤ t.memory.size) (hroom : Room t) :
    ∃ a u, prepare.run (ofTables (.described sample) config tables t) =
        (.ok (), { ofTables (.described sample) config tables u with
          data := a, base := u.heap, checkpoint := u.heap }) ∧
      Later 1024 t u ∧ Room u ∧ Shows 0 0 u ⟨a, encode (.object [])⟩ ∧ u.heap.toNat = 1029 := by
  obtain ⟨a, u, hrun, hl, hroom', hshows, -, hheap⟩ := load_empty sample_orderly hroom
    (by rw [hb.heap]; omega)
  rw [hb.heap] at hl hheap
  rw [length_encode_empty] at hheap
  have hload : (onGuest fun g host => load g host (.object [])).run
      (ofTables (.described sample) config tables { t with fuel := config.maxFuel }) =
        (.ok a, ofTables (.described sample) config tables u) := by
    rw [← hb.fuel]
    exact onGuest_run _ hrun
  have hpointer := heapPointer_run (s := ofTables (.described sample) config tables u)
    rfl (sample_orderly.not_trapping _) hroom'.fuel
  refine ⟨a, u, ?_, hl, hroom', hshows, hheap⟩
  rw [prepare, refuel, run_modify_bind]
  exact (run_bind_of_ok hload).trans ((run_bind_of_ok hpointer).trans run_modify)

/-- What a launch of the sample leaves serves the empty object. -/
theorem serves_prepared {config : Config} {t u : Store} {a : UInt32} (tables : Tables)
    (hb : Booted config t) (hsize : 131072 ≤ t.memory.size) (hl : Later 1024 t u) (hroom : Room u)
    (hshows : Shows 0 0 u ⟨a, encode (.object [])⟩) (hheap : u.heap.toNat = 1029) :
    Serves sample { ofTables (.described sample) config tables u with
      data := a, base := u.heap, checkpoint := u.heap } (.object []) := by
  have hfuel : config.maxFuel = u.fuel := (hl.fuel.trans hb.fuel).symm
  have hsame : Later u.heap.toNat u { u with fuel := config.maxFuel } :=
    ⟨.of_same rfl rfl, Nat.le_refl _, hfuel⟩
  have hcharted : Charted sample 0 0 u := hb.charted.keep (by rw [hb.heap]; exact hl)
  have hgrown := hl.size
  exact {
    guest := rfl
    orderly := sample_orderly
    room := hroom.later hsame hroom.heap
    charted := hcharted.keep hsame
    data := hshows.keep hsame
    ordered := Nat.le_refl _
    spare := by simp only [ofTables, hheap]; omega }

/-- With two pages of memory and some fuel the sample can be launched. -/
theorem launch_succeeds {config : Config} (registry : Registry)
    (hvalid : config.validate = .ok ()) (hlimit : config.memoryLimit.megabytes ≤ 1024)
    (hpages : 2 ≤ config.initialPages.toNat) (hfuel : config.maxFuel ≠ some 0) :
    ∃ s lines, launch (.described sample) config registry = (.ok s, lines) ∧
      Serves sample s (.object []) ∧ Sampled config registry s ∧ 131072 ≤ s.store.memory.size := by
  obtain ⟨t, hb, hboot⟩ := boot_run registry hpages
  have hfuelt : t.fuel ≠ some 0 := by
    rw [hb.fuel]
    exact hfuel
  have hfits := initialBytes_le_of_validate hvalid
  have hsize : 131072 ≤ t.memory.size := by
    have hgrown := hb.keeps.size
    have hinitial : ((described sample).initialStore config).memory.size =
      config.initialPages.toNat * 65536 := Memory.size_zeroed _
    omega
  have hroom : Room t := by
    refine ⟨by rw [hb.heap]; omega, hb.keeps.within ?_, ?_, hfuelt⟩
    · exact Nat.le_trans (Nat.le_of_eq (Memory.size_zeroed _)) hfits
    · rw [hb.keeps.limit]
      change config.memoryLimit.megabytes * 1024 * 1024 ≤ 2 ^ 30
      omega
  obtain ⟨a, u, hprepare, hl, hroom', hshows, hheap⟩ := prepare_run (sampleTables registry) hb hsize
    hroom
  have hserves := serves_prepared (sampleTables registry) hb hsize hl hroom' hshows hheap
  refine ⟨_, u.printed.reverse, ?_, hserves.takePrinted, ⟨rfl, rfl, rfl, rfl, hheap⟩,
    Nat.le_trans hsize hl.size⟩
  rw [launch, hboot, tellTables_run registry hfuelt hb.charted]
  simp only [hprepare]
  rfl

theorem validate_standard : ({} : Config).validate = .ok () := by
  simp [Config.validate, Config.initialBytes, MemoryLimit.bytes, MemoryLimit.standard, maxPages,
    Guest.pageSize]

theorem launch_standard (registry : Registry) :
    ∃ s lines, launch (.described sample) {} registry = (.ok s, lines) := by
  obtain ⟨s, lines, h, -⟩ := launch_succeeds registry validate_standard (by decide) (by decide)
    (by decide)
  exact ⟨s, lines, h⟩

/-- A session that was launched serves the empty object. -/
theorem launch_serves {config : Config} {registry : Registry} {s : Session} {lines : List String}
    (hvalid : config.validate = .ok ()) (hlimit : config.memoryLimit.megabytes ≤ 1024)
    (h : launch (.described sample) config registry = (.ok s, lines)) :
    Serves sample s (.object []) ∧ Sampled config registry s := by
  by_cases hpages : config.initialPages.toNat < 2
  · rw [launch, instantiate_small registry hpages] at h
    cases h
  have henough := Nat.le_of_not_lt hpages
  by_cases hfuel : config.maxFuel = some 0
  · obtain ⟨t, hb, hboot⟩ := boot_run registry henough
    rw [launch, hboot, tellTables_unfueled registry (hb.fuel.trans hfuel)] at h
    cases h
  obtain ⟨t, _, hlaunch, hserves, hsampled, -⟩ :=
    launch_succeeds registry hvalid hlimit henough hfuel
  rw [h] at hlaunch
  cases hlaunch
  exact ⟨hserves, hsampled⟩

end PolicyHost.Session
