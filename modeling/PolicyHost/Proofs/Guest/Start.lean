import PolicyHost.Guest.Instance
import PolicyHost.Proofs.Guest.Programs

/-!
# The start of a guest

A guest that starts puts its texts into a fresh memory and then tells its
tables. Texts that are laid out one behind the other all stand in the memory
afterwards (`placeSegments_run`), so that the constants of the guest are shown
from then on. For the sample `instantiate_sample` says what comes out: tables
that depend on the registry alone, and a store that depends on the
configuration alone.
-/

namespace PolicyHost.Guest

open Json Builtin

variable {g : Description} {host : Host} {s : Store}

/-! ## Texts in a fresh memory -/

/-- A text of a guest that is in its place. -/
structure InPlace (start stop : Nat) (m : Memory) (segment : Nat × List UInt8) : Prop where
  has : m.Has segment.1 (segment.2.dropLast ++ [0])
  zero : (0 : UInt8) ∉ segment.2.dropLast
  start : start ≤ segment.1
  stop : segment.1 + segment.2.dropLast.length + 1 ≤ stop

/-- Writing texts that are laid out puts all of them in place, and changes
nothing below the first. -/
theorem writeAll_run {segments : List (Nat × List UInt8)} {start stop : Nat}
    (h : laidOut start stop segments = true) (hstop : stop ≤ s.memory.size) :
    ∃ t, (segments.forM fun (a, bytes) => writeBytes a bytes).run s = (.ok (), t) ∧
      Keeps start s t ∧ t.heap = s.heap ∧ t.fuel = s.fuel ∧
      ∀ segment ∈ segments, InPlace start stop t.memory segment := by
  induction segments generalizing s start with
  | nil => exact ⟨s, rfl, .refl _ _, rfl, rfl, fun _ hs => absurd hs List.not_mem_nil⟩
  | cons segment rest ih =>
      obtain ⟨a, bytes⟩ := segment
      obtain ⟨ha, hbytes, hzero, hrest⟩ := laidOut_cons.mp h
      have hbelow : a + bytes.length ≤ stop := laidOut_le hrest
      have hfits : a + bytes.length ≤ s.memory.size := Nat.le_trans hbelow hstop
      obtain ⟨t, hrun, hk, hheap, hfuel, hall⟩ :=
        @ih { s with memory := s.memory.write a bytes } _ hrest (by simpa using hstop)
      refine ⟨t, ?_, ?_, hheap, hfuel, ?_⟩
      · rw [List.forM_eq_forM] at hrun ⊢
        rw [List.forM_cons, run_bind_of_ok (writeBytes_run hfits), hrun]
      · exact (Keeps.of_write hfits ha).trans (hk.lower (by omega))
      · intro segment hs
        rcases List.mem_cons.mp hs with rfl | hs
        · have hlength := congrArg List.length hbytes
          rw [List.length_append, List.length_singleton] at hlength
          refine ⟨?_, hzero, ha, by simp only; omega⟩
          simp only
          rw [hbytes]
          exact hk.has (Memory.has_write hfits) (Nat.le_refl _)
        · have hplaced := hall segment hs
          exact { hplaced with start := by have := hplaced.start; omega }

theorem get_zeroed (n x : Nat) : (Memory.zeroed n).get x = 0 := by
  simp only [Memory.get, Memory.zeroed, Array.getD_eq_getD_getElem?, Array.getElem?_replicate]
  split <;> rfl

/-- A guest whose texts are in place shows its constants, when nothing stands at
the null address. -/
theorem charted_of_inPlace {start stop : Nat} (hstart : 0 < start) (hle : start ≤ stop)
    (hstop : stop ≤ s.heap.toNat) (hnull : s.memory.get 0 = 0) (hsize : 0 < s.memory.size)
    (h : ∀ segment ∈ g.segments, InPlace start stop s.memory segment) : Charted g 0 0 s := by
  have hwide : s.heap.toNat < 2 ^ 32 := s.heap.toNat_lt
  intro c hc
  rcases List.mem_cons.mp hc with rfl | hc
  · refine ⟨⟨hsize, ?_⟩, List.not_mem_nil, ?_, Or.inr (Nat.zero_le _)⟩
    · change [s.memory.get 0] = [0]
      rw [hnull]
    · exact Nat.le_trans hstart (Nat.le_trans hle hstop)
  · obtain ⟨segment, hs, rfl⟩ := List.mem_map.mp hc
    have hplaced := h segment hs
    have hstops := hplaced.stop
    have haddress : (UInt32.ofNat segment.1).toNat = segment.1 := by
      rw [UInt32.toNat_ofNat']
      exact Nat.mod_eq_of_lt (by omega)
    refine ⟨?_, hplaced.zero, ?_, Or.inr (Nat.zero_le _)⟩
    · simp only [haddress]
      exact hplaced.has
    · simp only [Cell.stop, haddress]
      omega

/-! ## The sample -/

/-- The ids of the builtins that the sample calls, under their names. -/
def builtinIds : Keyed String UInt32 :=
  [("concat", 0), ("contains", 1), ("custom.missing", 2), ("replace", 4), ("time.add_date", 5),
   ("time.now_ns", 3)]

/-- The ids of the sample's entrypoints, under their names. -/
def entrypointIds : Keyed String EntrypointId :=
  [("abort", ⟨3⟩), ("add_date", ⟨10⟩), ("arity", ⟨11⟩), ("concat", ⟨2⟩), ("contains", ⟨7⟩),
   ("data", ⟨6⟩), ("echo", ⟨0⟩), ("missing", ⟨4⟩), ("now", ⟨8⟩), ("raw", ⟨1⟩), ("replace", ⟨9⟩),
   ("spin", ⟨13⟩), ("trace", ⟨5⟩), ("unknown", ⟨12⟩)]

/-- The members of a table of ids, as the sample writes it. -/
def tableMembers (ids : List (String × Nat)) : List (String × Value) :=
  ids.map fun (name, id) => (name, .ofInt id)

/-- The table of builtins in the order in which the sample tells it. -/
def builtinMembers : List (String × Value) :=
  tableMembers [("concat", 0), ("contains", 1), ("custom.missing", 2), ("time.now_ns", 3),
    ("replace", 4), ("time.add_date", 5)]

/-- The table of entrypoints in the order in which the sample tells it. -/
def entrypointMembers : List (String × Value) :=
  tableMembers [("echo", 0), ("raw", 1), ("concat", 2), ("abort", 3), ("missing", 4), ("trace", 5),
    ("data", 6), ("contains", 7), ("now", 8), ("replace", 9), ("add_date", 10), ("arity", 11),
    ("unknown", 12), ("spin", 13)]

theorem toText_builtinMembers : (Value.object builtinMembers).toText =
    "\x7b\"concat\":0,\"contains\":1,\"custom.missing\":2,\"time.now_ns\":3," ++
      "\"replace\":4,\"time.add_date\":5\x7d" := by
  rw [Value.toText]
  decide +kernel

set_option maxRecDepth 2000 in
theorem toText_entrypointMembers : (Value.object entrypointMembers).toText =
    "\x7b\"echo\":0,\"raw\":1,\"concat\":2,\"abort\":3,\"missing\":4,\"trace\":5," ++
      "\"data\":6,\"contains\":7,\"now\":8,\"replace\":9,\"add_date\":10,\"arity\":11," ++
      "\"unknown\":12,\"spin\":13\x7d" := by
  rw [Value.toText]
  decide +kernel

theorem builtins_constant :
    sample.constant sample.builtins = ⟨sample.builtins, encode (.object builtinMembers)⟩ :=
  sample_constant (a := 16) (by rw [toText_builtinMembers]; simp [sample])

theorem entrypoints_constant :
    sample.constant sample.entrypoints =
      ⟨sample.entrypoints, encode (.object entrypointMembers)⟩ :=
  sample_constant (a := 128) (by rw [toText_entrypointMembers]; simp [sample])

theorem tableMembers_plain (ids : List (String × Nat)) :
    Value.MembersCanonical (tableMembers ids) ∧ Value.MembersIntegerOnly (tableMembers ids) ∧
      Value.membersDepth (tableMembers ids) ≤ 0 :=
  members_exact fun m hm => by
    obtain ⟨entry, -, rfl⟩ := List.mem_map.mp hm
    exact exact_ofInt entry.2

/-- A table is read as the object with its members, in whatever order they are
written. -/
theorem decode?_table (entry : String × Nat) (ids : List (String × Nat)) :
    decode? (encode (.object (tableMembers (entry :: ids)))) =
      some (.ofMembers (tableMembers (entry :: ids))) := by
  obtain ⟨hc, hi, hd⟩ := tableMembers_plain (entry :: ids)
  rw [encode_eq, decode?_bytesOf]
  exact Value.parseWithin?_members hc hi (Nat.le_trans hd (Nat.zero_le _))

theorem idsOfValue?_builtins : idsOfValue? (.ofMembers builtinMembers) = some builtinIds := by
  decide +kernel

theorem entrypointsOfValue_entrypoints :
    entrypointsOfValue (.ofMembers entrypointMembers) = .ok entrypointIds := by
  have hids : idsOfValue? (.ofMembers entrypointMembers) =
      some (entrypointIds.map fun entry => (entry.1, entry.2.value)) := by decide +kernel
  rw [entrypointsOfValue, hids]
  rfl

/-- The tables that the sample tells. -/
def sampleTables (registry : Registry) : Tables :=
  ⟨.ofIds registry builtinIds, entrypointIds⟩

theorem sample_require (e : Export) : (described sample).require e = .ok () := by
  rw [require, if_neg (show e ∉ (described sample).absent from List.not_mem_nil),
    if_neg (show e ∉ (described sample).mistyped from List.not_mem_nil)]

theorem tellTables_run (registry : Registry) (hf : s.fuel ≠ some 0) (hc : Charted sample 0 0 s) :
    (tellTables (described sample) host registry).run s = (.ok (sampleTables registry), s) := by
  have hnames : ((described sample).builtins.invoke host).run s = (.ok sample.builtins, s) :=
    (call_run (e := .builtins) sample_orderly hf).trans rfl
  have hnames' : ((described sample).entrypoints.invoke host).run s =
      (.ok sample.entrypoints, s) :=
    (call_run (e := .entrypoints) sample_orderly hf).trans rfl
  have htable {a : UInt32} {entry : String × Nat} {ids : List (String × Nat)}
      (ha : sample.constant a = ⟨a, encode (.object (tableMembers (entry :: ids)))⟩) :
      (dump (described sample) host a).run s =
        (.ok (.ofMembers (tableMembers (entry :: ids))), s) := by
    have hshown := hc.constant a
    rw [ha] at hshown
    refine (dump_run sample_orderly hf hshown).trans ?_
    simp only [decode?_table]
  have hbuiltins : (dump (described sample) host sample.builtins).run s =
      (.ok (.ofMembers builtinMembers), s) :=
    htable builtins_constant
  have hentrypoints : (dump (described sample) host sample.entrypoints).run s =
      (.ok (.ofMembers entrypointMembers), s) :=
    htable entrypoints_constant
  have hresolve : BuiltinTable.resolve registry (.ofMembers builtinMembers) =
      .ok (.ofIds registry builtinIds) := by
    rw [BuiltinTable.resolve, idsOfValue?_builtins]
  rw [tellTables, run_bind_of_ok (lift_run (sample_require _)), run_bind_of_ok hnames,
    run_bind_of_ok hbuiltins, run_bind_of_ok (lift_run hresolve),
    if_neg (show Export.entrypoints ∉ (described sample).absent from List.not_mem_nil),
    run_bind_of_ok (lift_run (sample_require _)), run_bind_of_ok hnames',
    run_bind_of_ok hentrypoints, run_bind_of_ok (lift_run entrypointsOfValue_entrypoints)]
  rfl

/-- The store of the sample once its texts are in place. -/
structure Booted (config : Config) (s : Store) : Prop where
  keeps : Keeps 1 ((described sample).initialStore config) s
  heap : s.heap.toNat = 1024
  fuel : s.fuel = config.maxFuel
  charted : Charted sample 0 0 s

/-- With its two pages of memory the sample gets to where it tells its tables. -/
theorem boot_run {config : Config} (registry : Registry)
    (hpages : 2 ≤ config.initialPages.toNat) :
    ∃ t, Booted config t ∧ ((described sample).instantiate config registry).run
        ((described sample).initialStore config) =
      (tellTables (described sample) ((described sample).host ⟨none, config.strict⟩) registry).run
        t := by
  have hsize :
      ((described sample).initialStore config).memory.size = config.initialPages.toNat * 65536 :=
    Memory.size_zeroed _
  obtain ⟨t, hplace, hk, hheap, hfuel, hall⟩ :=
    writeAll_run (s := (described sample).initialStore config) sample_laidOut (by omega)
  have hgrown := hk.size
  have hstart : t.heap.toNat = 1024 := by
    rw [hheap]
    rfl
  have hcharted : Charted sample 0 0 t :=
    charted_of_inPlace (by decide) (by decide) (Nat.le_of_eq hstart.symm)
      ((hk.get 0 (by decide)).trans (get_zeroed _ _)) (by omega) hall
  refine ⟨t, ⟨hk, hstart, hfuel, hcharted⟩, ?_⟩
  have hlink : (described sample).link config = .ok () := by
    have henough : ¬ (config.initialPages.toNat < sample.minPages ∨ sample.pageBound.isSome) := by
      rintro (hfew | hbound)
      · exact absurd hfew (Nat.not_lt_of_le hpages)
      · cases hbound
    rw [link]
    exact if_neg henough
  have hboot (host : Host) :
      (boot (described sample) host).run ((described sample).initialStore config) = (.ok (), t) :=
    run_tryCatch_of_ok ((run_bind_of_ok hplace).trans rfl)
  have hpermit (e : Export) : (described sample).permit e = .ok () := by
    rw [permit, if_neg (show e ∉ (described sample).absent from List.not_mem_nil), sample_require]
  rw [instantiate, run_bind_of_ok (lift_run hlink), run_bind_of_ok (hboot _),
    run_bind_of_ok (run_forM_of_ok fun e _ => lift_run (sample_require e)),
    run_bind_of_ok (run_forM_of_ok fun e _ => lift_run (hpermit e))]

theorem instantiate_small {config : Config} (registry : Registry)
    (hpages : config.initialPages.toNat < 2) :
    ((described sample).instantiate config registry).run ((described sample).initialStore config) =
      (.error (.engine (.notLinked "memory")), (described sample).initialStore config) := by
  have hlink : (described sample).link config = .error (.engine (.notLinked "memory")) := by
    rw [link]
    exact if_pos (Or.inl hpages)
  rw [instantiate, run_bind_of_error (lift_run_error hlink)]

theorem tellTables_unfueled (registry : Registry) (hf : s.fuel = some 0) :
    (tellTables (described sample) host registry).run s = (.error (.trap .outOfFuel), s) := by
  have hcall : ((described sample).builtins.invoke host).run s =
      (.error (.trap .outOfFuel), s) := by
    rw [Code.invoke, run_get_bind, if_pos hf]
    rfl
  rw [tellTables, run_bind_of_ok (lift_run (sample_require _)), run_bind_of_error hcall]

end PolicyHost.Guest
