import Mathlib.Data.List.Perm.Basic
import PolicyHost.Config
import PolicyHost.Proofs.Builtin.Operand
import PolicyHost.Proofs.Guest.Encoding

/-!
# Settings made and settings read

A configuration is made from settings in one step, or it is read from a JSON text
that names them, and then checked. Both ways fill in what is absent and check the
ranges, but not at the same places: a text cannot be read when its memory limit is out
of range, and everything else is found by the check. `build_iff_parse` says that they
come to the same, wherever the members stand in the text.

A text is read by a fold over its members, which changes the configuration one setting
at a time. Changes of different settings commute, so the members can be put in the order
of the fields; there every field is set once or left at its default.
-/

namespace PolicyHost

open Json Builtin Guest

/-! ## The order of the members -/

/-- What a member does to a configuration. -/
inductive Change where
  | initialPages (n : UInt32)
  | memoryLimit (limit : MemoryLimit)
  | maxFuel (fuel : Option UInt64)
  | strict (b : Bool)
  | cacheCapacity (n : UInt64)

namespace Change

/-- The name of the setting. -/
def name : Change → String
  | initialPages _ => "initial_memory_pages"
  | memoryLimit _ => "memory_limit"
  | maxFuel _ => "max_fuel"
  | strict _ => "strict_builtin_errors"
  | cacheCapacity _ => "module_cache_capacity"

/-- The configuration with the change made. -/
def apply (c : Config) : Change → Config
  | initialPages n => { c with initialPages := n }
  | memoryLimit limit => { c with memoryLimit := limit }
  | maxFuel fuel => { c with maxFuel := fuel }
  | strict b => { c with strict := b }
  | cacheCapacity n => { c with cacheCapacity := n }

theorem apply_comm (c : Config) {a b : Change} (h : a.name ≠ b.name) :
    b.apply (a.apply c) = a.apply (b.apply c) := by
  cases a <;> cases b <;> first | rfl | exact absurd rfl h

end Change

namespace Config

/-- A member makes a change that does not depend on the configuration, or none can be made
of it. -/
theorem set?_eq_map (name : String) (v : Value) :
    ∃ change : Option Change, (∀ a ∈ change, a.name = name) ∧
      ∀ c : Config, c.set? name v = change.map (·.apply c) := by
  by_cases hname : name ∈ settingNames
  · simp only [settingNames, List.mem_cons, List.not_mem_nil, or_false] at hname
    rcases hname with rfl | rfl | rfl | rfl | rfl
    · refine ⟨(v.natBelow? (2 ^ 32)).map fun n => .initialPages (.ofNat n), ?_, fun c => ?_⟩
      · simp [Change.name]
      · simp only [set?, if_true, Option.map_map]
        rfl
    · refine ⟨(limitOfValue? v).map .memoryLimit, by simp [Change.name], fun c => ?_⟩
      simp only [set?, String.reduceEq, if_false, if_true, Option.map_map]
      rfl
    · by_cases hv : v = .null
      · exact ⟨some (.maxFuel none), by simp [Change.name], fun c => by rw [hv]; rfl⟩
      · refine ⟨(v.natBelow? (2 ^ 64)).map fun n => .maxFuel (some (.ofNat n)),
          by simp [Change.name], fun c => ?_⟩
        simp only [set?, String.reduceEq, if_false, if_true, Option.map_map]
        rfl
    · cases v with
      | bool b => exact ⟨some (.strict b), by simp [Change.name], fun c => rfl⟩
      | _ => exact ⟨none, by simp, fun c => rfl⟩
    · refine ⟨(v.natBelow? (2 ^ 64)).map fun n => .cacheCapacity (.ofNat n),
        by simp [Change.name], fun c => ?_⟩
      simp only [set?, String.reduceEq, if_false, if_true, Option.map_map]
      rfl
  · refine ⟨none, by simp, fun c => ?_⟩
    simp_all [set?, settingNames]

/-- Members for different settings can be read in either order. -/
theorem set?_comm (c : Config) {m n : String × Value} (h : m.1 ≠ n.1) :
    ((c.set? m.1 m.2).bind fun c => c.set? n.1 n.2) =
      (c.set? n.1 n.2).bind fun c => c.set? m.1 m.2 := by
  obtain ⟨a, ha, hm⟩ := set?_eq_map m.1 m.2
  obtain ⟨b, hb, hn⟩ := set?_eq_map n.1 n.2
  simp only [hm, hn]
  cases a with
  | none => cases b <;> rfl
  | some a =>
      cases b with
      | none => rfl
      | some b =>
          have hne : a.name ≠ b.name := by
            rw [ha a rfl, hb b rfl]
            exact h
          simp only [Option.map_some, Option.bind_some, Change.apply_comm c hne]

/-- Members are read to the same configuration in any order. -/
theorem foldlM_set?_perm {ms ns : List (String × Value)} (h : ms.Perm ns)
    (hnodup : (ms.map (·.1)).Nodup) (c : Config) :
    ms.foldlM (fun c (name, v) => c.set? name v) c =
      ns.foldlM (fun c (name, v) => c.set? name v) c := by
  induction h generalizing c with
  | nil => rfl
  | cons m _ ih =>
      simp only [List.foldlM_cons]
      exact congrArg _ (funext fun c => ih (List.nodup_cons.mp hnodup).2 c)
  | swap m n ms =>
      have hne : n.1 ≠ m.1 := fun heq =>
        (List.nodup_cons.mp hnodup).1 (List.mem_cons.mpr (Or.inl heq))
      simp only [List.foldlM_cons, ← bind_assoc]
      exact congrArg (· >>= _) (set?_comm c hne)
  | trans hleft _ ihleft ihright =>
      rw [ihleft hnodup, ihright ((hleft.map _).nodup_iff.mp hnodup)]

theorem ofMembers?_perm {ms ns : List (String × Value)} (h : ms.Perm ns) :
    ofMembers? ms = ofMembers? ns := by
  rw [ofMembers?, ofMembers?]
  by_cases hnodup : (ms.map (·.1)).Nodup
  · rw [if_pos hnodup, if_pos ((h.map _).nodup_iff.mp hnodup), foldlM_set?_perm h hnodup]
  · rw [if_neg hnodup, if_neg fun hn => hnodup ((h.map _).nodup_iff.mpr hn)]

end Config

/-! ## Every setting once -/

namespace Settings

/-- The values of the settings, in the order of their names. -/
def values (s : Settings) : List (Option Value) :=
  [s.initialPages.map fun n => .ofInt n.toNat, s.memoryLimit.map fun n => .ofInt n.toNat,
   s.maxFuel.map fun n => .ofInt n.toNat, s.strict.map .bool,
   s.cacheCapacity.map fun n => .ofInt n.toNat]

/-- The settings that are present, under their names. -/
def members (s : Settings) : List (String × Value) :=
  (Config.settingNames.zip s.values).filterMap fun (name, v) => v.map (name, ·)

theorem names_sublist (names : List String) (values : List (Option Value)) :
    (((names.zip values).filterMap fun (name, v) => v.map (name, ·)).map (·.1)).Sublist names := by
  induction names generalizing values with
  | nil => exact List.Sublist.refl _
  | cons name names ih =>
      match values with
      | [] => exact List.nil_sublist _
      | none :: values => exact (ih values).cons name
      | some v :: values => exact (ih values).cons_cons name

theorem nodup_members (s : Settings) : (s.members.map (·.1)).Nodup :=
  (names_sublist _ _).nodup (by decide)

/-- The memory limit, if it is in range. -/
def limit? (s : Settings) : Option MemoryLimit :=
  match s.memoryLimit with
  | some megabytes => (MemoryLimit.ofMegabytes megabytes.toNat).toOption
  | none => some .standard

/-- The configuration of the settings with a memory limit, before it is checked. -/
def configWith (s : Settings) (limit : MemoryLimit) : Config :=
  let standard : Config := {}
  { initialPages := s.initialPages.getD standard.initialPages
    memoryLimit := limit
    maxFuel := s.maxFuel
    strict := s.strict.getD standard.strict
    cacheCapacity := s.cacheCapacity.getD standard.cacheCapacity }

theorem checked_eq_ok {c d : Config} :
    (do d.validate; return d : Except Error Config) = .ok c ↔ d = c ∧ c.validate = .ok () := by
  cases h : d.validate with
  | error e =>
      refine iff_of_false (fun h => by cases h) ?_
      rintro ⟨rfl, hc⟩
      rw [h] at hc
      cases hc
  | ok _ =>
      refine ⟨fun heq => ?_, fun heq => congrArg _ heq.1⟩
      obtain rfl : d = c := Except.ok.inj heq
      exact ⟨rfl, h⟩

theorem build_eq_ok {s : Settings} {c : Config} :
    s.build = .ok c ↔ s.limit?.map s.configWith = some c ∧ c.validate = .ok () := by
  have hbuild (limit : MemoryLimit) :
      (do (s.configWith limit).validate; return s.configWith limit : Except Error Config) =
        .ok c ↔ (some limit).map s.configWith = some c ∧ c.validate = .ok () := by
    rw [checked_eq_ok, Option.map_some, Option.some_inj]
  cases hlimit : s.memoryLimit with
  | none =>
      rw [build, limit?, hlimit]
      exact hbuild .standard
  | some megabytes =>
      rw [build, limit?, hlimit]
      cases hrange : MemoryLimit.ofMegabytes megabytes.toNat with
      | error e =>
          simp only [hrange]
          exact iff_of_false (fun h => by cases h) fun h => by cases h.1
      | ok limit =>
          simp only [hrange]
          exact hbuild limit

theorem natBelow?_ofInt {bound n : Nat} (hbound : bound ≤ 2 ^ 64) (h : n < bound) :
    (Value.ofInt n).natBelow? bound = some n :=
  (natBelow?_eq_some hbound).mpr ⟨h, rfl⟩

/-- Sets one setting of a configuration, if there is a value for it. -/
def choose? (c : Config) (name : String) : Option Value → Option Config
  | some v => c.set? name v
  | none => some c

section

variable (c : Config)

theorem choose?_initialPages (o : Option UInt32) :
    choose? c "initial_memory_pages" (o.map fun n => .ofInt n.toNat) =
      some { c with initialPages := o.getD c.initialPages } := by
  cases o with
  | none => rfl
  | some n => simp [choose?, Config.set?, natBelow?_ofInt (by decide) n.toNat_lt]

theorem choose?_maxFuel (o : Option UInt64) :
    choose? c "max_fuel" (o.map fun n => .ofInt n.toNat) =
      some { c with maxFuel := o.or c.maxFuel } := by
  cases o with
  | none => rfl
  | some n =>
      have hread : (Value.ofInt n.toNat).natBelow? (2 ^ 64) = some n.toNat :=
        natBelow?_ofInt (by decide) n.toNat_lt
      have hrange : -2 ^ 63 ≤ (n.toNat : Int) ∧ (n.toNat : Int) < 2 ^ 64 :=
        ⟨by omega, by have := n.toNat_lt; omega⟩
      rw [ofInt_eq hrange] at hread
      simp only [choose?, Config.set?, String.reduceEq, if_false, if_true, Option.map_some,
        ofInt_eq hrange, hread, UInt64.ofNat_toNat, Option.some_or]

theorem choose?_strict (o : Option Bool) :
    choose? c "strict_builtin_errors" (o.map .bool) =
      some { c with strict := o.getD c.strict } := by
  cases o <;> rfl

theorem choose?_cacheCapacity (o : Option UInt64) :
    choose? c "module_cache_capacity" (o.map fun n => .ofInt n.toNat) =
      some { c with cacheCapacity := o.getD c.cacheCapacity } := by
  cases o with
  | none => rfl
  | some n => simp [choose?, Config.set?, natBelow?_ofInt (by decide) n.toNat_lt]

end

theorem choose?_memoryLimit (s : Settings) (c : Config) (h : c.memoryLimit = .standard) :
    choose? c "memory_limit" (s.memoryLimit.map fun n => .ofInt n.toNat) =
      s.limit?.map fun limit => { c with memoryLimit := limit } := by
  rw [limit?]
  cases s.memoryLimit with
  | none => simp [choose?, ← h]
  | some n =>
      simp [choose?, Config.set?, Config.limitOfValue?, natBelow?_ofInt (by decide) n.toNat_lt]

theorem foldlM_present (named : List (String × Option Value)) (c : Config) :
    (named.filterMap fun (name, v) => v.map (name, ·)).foldlM
        (fun c (name, v) => c.set? name v) c =
      named.foldlM (fun c (name, v) => choose? c name v) c := by
  rw [List.foldlM_filterMap]
  congr 1
  funext c (name, v)
  cases v <;> rfl

theorem foldlM_members (s : Settings) :
    s.members.foldlM (fun c (name, v) => c.set? name v) {} = s.limit?.map s.configWith := by
  rw [members, foldlM_present]
  simp only [Config.settingNames, values, List.zip_cons_cons, List.zip_nil_left,
    List.foldlM_cons, List.foldlM_nil, choose?_initialPages, choose?_memoryLimit, choose?_maxFuel,
    choose?_strict, choose?_cacheCapacity, Option.bind_eq_bind, Option.bind_some]
  cases s.limit? with
  | none => rfl
  | some limit => simp [configWith]

theorem ofMembers?_members (s : Settings) :
    Config.ofMembers? s.members = s.limit?.map s.configWith := by
  rw [Config.ofMembers?, if_pos s.nodup_members, foldlM_members]

end Settings

/-! ## Texts of settings -/

/-- A text is JSON for the object with the members, which stand in it in this order. -/
structure Spells (text : String) (members : List (String × Value)) : Prop where
  value : Json.parse? text = some (.ofMembers members)
  order : Json.parseMembers? text = some members

theorem Spells.parse? {text : String} {members : List (String × Value)} (h : Spells text members) :
    Config.parse? text = Config.ofMembers? members := by
  rw [Config.parse?, h.value]
  simp only [Value.ofMembers, h.order, Option.bind_some]

theorem spells_renderWith (sp : Spacing) {members : List (String × Value)}
    (h : ∀ m ∈ members, Exact 0 m.2) :
    Spells (String.ofList ((Value.object members).renderWith sp 0)) members := by
  obtain ⟨hc, hi, hd⟩ := members_exact h
  have hdepth : (Value.object members).depth ≤ Reader.nestingLimit :=
    Nat.succ_le_succ (Nat.le_trans hd (by decide))
  constructor
  · have hread := Value.parseWithin?_renderWith sp (v := .object members) hi Reader.nestingLimit
      blank_nil
    rw [List.append_nil, if_pos hdepth, Value.normal, Value.normalMembers_of_canonical _ hc]
      at hread
    rw [Json.parse?, String.toList_ofList, hread]
  · rw [Value.parseMembers?_renderWith sp hi (Nat.le_trans hd (Nat.zero_le _)),
      Value.normalMembers_of_canonical _ hc]

theorem Settings.exact_members (s : Settings) : ∀ m ∈ s.members, Exact 0 m.2 := by
  intro m hm
  obtain ⟨⟨name, o⟩, hmem, hm⟩ := List.mem_filterMap.mp hm
  obtain ⟨v, hv, rfl⟩ := Option.map_eq_some_iff.mp hm
  have hvalue : o ∈ s.values := (List.of_mem_zip hmem).2
  simp only [values, List.mem_cons, List.not_mem_nil, or_false] at hvalue
  rcases hvalue with rfl | rfl | rfl | rfl | rfl <;>
    obtain ⟨x, -, rfl⟩ := Option.map_eq_some_iff.mp hv
  case inr.inr.inr.inl => exact ⟨trivial, trivial, Nat.le_refl 0⟩
  all_goals exact exact_ofInt _

/-! ## Configurations that are in range -/

/-- The bytes of memory that a guest starts with, in words of 64 bits. -/
def Config.initialWord (c : Config) : UInt64 :=
  c.initialPages.toUInt64 * 65536

/-- The limit in bytes, in words of 64 bits. -/
def MemoryLimit.word (limit : MemoryLimit) : UInt64 :=
  .ofNat limit.megabytes * 1024 * 1024

/-- A configuration of which every number is in range, and the numbers of bytes can be had in
words. -/
structure Config.InRange (c : Config) : Prop where
  pages : 1 ≤ c.initialPages.toNat ∧ c.initialPages.toNat ≤ 65536
  initial : c.initialBytes ≤ c.memoryLimit.bytes
  limit : c.memoryLimit.bytes ≤ 2 ^ 32
  capacity : 1 ≤ c.cacheCapacity.toNat
  initialWord : c.initialWord.toNat = c.initialBytes
  limitWord : c.memoryLimit.word.toNat = c.memoryLimit.bytes

theorem Config.toNat_initialWord (c : Config) : c.initialWord.toNat = c.initialBytes := by
  have hpages := c.initialPages.toNat_lt
  simp only [initialWord, initialBytes, pageSize, UInt64.toNat_mul, UInt32.toNat_toUInt64,
    show (65536 : UInt64).toNat = 65536 from rfl]
  omega

theorem MemoryLimit.bytes_le (limit : MemoryLimit) : limit.bytes ≤ 2 ^ 32 := by
  have hrange := limit.inRange.2
  simp only [maxMegabytes] at hrange
  simp only [bytes]
  omega

theorem MemoryLimit.toNat_word (limit : MemoryLimit) : limit.word.toNat = limit.bytes := by
  have hrange := limit.inRange.2
  simp only [maxMegabytes] at hrange
  simp only [word, bytes, UInt64.toNat_mul, UInt64.toNat_ofNat',
    show (1024 : UInt64).toNat = 1024 from rfl]
  omega

theorem Config.inRange_of_validate {c : Config} (h : c.validate = .ok ()) : c.InRange := by
  rw [validate] at h
  split at h
  · cases h
  · next hpages =>
      split at h
      · cases h
      · next hlimit =>
          split at h
          · cases h
          · next hcapacity =>
              simp only [maxPages, not_or] at hpages
              have hpos : c.cacheCapacity.toNat ≠ 0 := fun h0 => hcapacity (UInt64.toNat.inj h0)
              exact {
                pages := by omega
                initial := Nat.le_of_not_lt hlimit
                limit := c.memoryLimit.bytes_le
                capacity := by omega
                initialWord := c.toNat_initialWord
                limitWord := c.memoryLimit.toNat_word }

/-! ## The two ways -/

/-- A configuration is made from settings exactly when one is read from a text with the same
settings, wherever they stand in it, and can be used; then it is the same, and it is in range.
Whatever the white space, the settings have a text. -/
theorem Settings.build_iff_parse (s : Settings) :
    (∀ members, members.Perm s.members →
      (∀ sp : Spacing,
        Spells (String.ofList ((Value.object members).renderWith sp 0)) members) ∧
      ∀ text, Spells text members → ∀ c,
        s.build = .ok c ↔ Config.parse? text = some c ∧ c.validate = .ok ()) ∧
    ∀ c, s.build = .ok c → c.InRange := by
  refine ⟨fun members hperm => ⟨fun sp => ?_, fun text htext c => ?_⟩, fun c hbuild => ?_⟩
  · exact spells_renderWith sp fun m hm => s.exact_members m (hperm.mem_iff.mp hm)
  · rw [build_eq_ok, htext.parse?, Config.ofMembers?_perm hperm, ofMembers?_members]
  · exact Config.inRange_of_validate (build_eq_ok.mp hbuild).2

/-- A memory of four gigabytes from the start is the most that can be set, and it can be set
both ways. -/
theorem Settings.build_and_parse_largest :
    let s : Settings :=
      { initialPages := some 65536, memoryLimit := some 4096, strict := some true }
    let text := String.ofList ((Value.object s.members.reverse).renderWith .indented 0)
    ∃ c, s.build = .ok c ∧ Config.parse? text = some c ∧ c.validate = .ok () ∧
      c.initialBytes = 2 ^ 32 ∧ c.InRange := by
  intro s text
  obtain ⟨hagree, hrange⟩ := s.build_iff_parse
  obtain ⟨hspells, hiff⟩ := hagree s.members.reverse (List.reverse_perm _)
  have hbuild : s.build =
      .ok { initialPages := 65536, memoryLimit := ⟨4096, by decide⟩, strict := true } := by
    refine build_eq_ok.mpr ⟨rfl, ?_⟩
    rw [Config.validate, if_neg (by decide), if_neg (by decide), if_neg (by decide)]
  obtain ⟨hparse, hvalid⟩ := (hiff text (hspells .indented) _).mp hbuild
  exact ⟨_, hbuild, hparse, hvalid, rfl, hrange _ hbuild⟩

end PolicyHost
