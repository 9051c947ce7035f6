import PolicyHost.Proofs.Guest.Placement
import PolicyHost.Proofs.Guest.Programs

/-!
# The answers of builtins

A guest calls a builtin by its id and gets an address, and there is one address
that stands for no value. `dispatch_run` says what the call comes to, in four
steps that can each be the last: the id has a slot, the slot has an entry, the
operands can be brought out, and the entry gives an answer. Up to the answer the
store is left alone.

A value that is the answer is brought in, and that never gives the null address.
What it gives instead is the address of the value's text, on every guest:
`has_of_loadText` is read off a run that gave a result, and so it asks nothing of
the room that there is in the memory.
-/

namespace PolicyHost.Guest

open Json Builtin

variable {g : Description} {host : Host} {s t : Store} {bytes : List UInt8}

/-! ## Reading back what was brought in -/

theorem Memory.Has.grow {m : Memory} {a : Nat} (h : m.Has a bytes) (pages : Nat) :
    (m.grow pages).Has a bytes :=
  h.of_agree (by rw [Memory.size_grow]; exact Nat.le_add_right _ _)
    fun _ _ _ => Memory.get_grow _ _ _

/-- What stands in the memory still stands there after an allocation. -/
theorem has_heapFrame : HeapFrame fun s t : Store => ∀ a bytes, s.memory.Has a bytes →
    t.memory.Has a bytes where
  refl _ _ _ h := h
  trans h h' a bytes hb := h' a bytes (h a bytes hb)
  heap _ _ _ _ h := h
  grow _ pages _ _ _ h := h.grow pages

/-- A text that the parser took was copied to the address that it answers with. -/
theorem has_of_parse {a count value : UInt32} (h : (parse g a count).run s = (.ok value, t))
    (hvalue : value ≠ 0) (hb : s.memory.Has a.toNat bytes) (hcount : count.toNat = bytes.length) :
    t.memory.Has value.toNat (bytes ++ [0]) := by
  obtain ⟨u, v, hallocate, hcopy, hend⟩ := parse_ok h hvalue
  have hsource : u.memory.Has a.toNat bytes :=
    (allocate_within has_heapFrame _).state_of_run hallocate _ _ hb
  rw [hcount] at hcopy hend
  obtain ⟨hfits, -, -⟩ := copy_ok hcopy
  rw [copy_run hsource hfits] at hcopy
  cases hcopy
  obtain ⟨hended, rfl⟩ := writeBytes_ok hend
  rw [Memory.size_write] at hended
  show ((u.memory.write _ bytes).write _ [0]).Has _ _
  rw [← Memory.write_append]
  refine Memory.has_write ?_
  rw [List.length_append, ← Nat.add_assoc]
  exact hended

/-- A text that was brought in stands at the address that it was given. -/
theorem has_of_loadText {a : UInt32} (h : (loadText (.described g) host bytes).run s = (.ok a, t)) :
    t.memory.Has a.toNat (bytes ++ [0]) := by
  obtain ⟨hlong, hvalue, place, u, -, hfits, hjsonParse⟩ := loadText_ok h
  have hparse : (parse g place (.ofNat bytes.length)).run
      { u with memory := u.memory.write place.toNat bytes } = (.ok a, t) := (call_ok hjsonParse).2
  exact has_of_parse hparse hvalue (Memory.has_write hfits) (toNat_length hlong)

/-- A guest that answers a call has fuel. -/
theorem fuel_of_invoke {α : Type} {code : Code α} {a : α}
    (h : (code.invoke host).run s = (.ok a, t)) : s.fuel ≠ some 0 := by
  intro hfuel
  rw [Code.invoke, run_get_bind, if_pos hfuel] at h
  cases h

theorem fuel_of_load {a : UInt32} {v : Value}
    (h : (load (.described g) host v).run s = (.ok a, t)) : t.fuel ≠ some 0 := by
  have hkept : t.fuel = s.fuel := (load_described s).state_of_run h
  rw [load_eq] at h
  obtain ⟨-, -, place, u, hmalloc, -⟩ := loadText_ok h
  exact hkept ▸ fuel_of_invoke hmalloc

theorem dump_of_has {a : UInt32} {text : List UInt8} {v : Value} (hanswers : Answers g .dump s)
    (hb : s.memory.Has a.toNat (text ++ [0])) (hzero : (0 : UInt8) ∉ text)
    (hdecode : decode? text = some v) : (dump (.described g) host a).run s = (.ok v, s) := by
  have htext : s.memory.textAt ⟨a⟩ = .ok text := by
    have hsize := hb.1
    rw [Memory.textAt_eq, if_neg (by simp only; omega), hb.text? hzero]
  have hplace : (((described g).jsonDump a).invoke host).run s = (.ok a, s) :=
    call_answered hanswers
  rw [dump, run_bind_of_ok hplace, run_get_bind, htext]
  simp only [hdecode]
  rfl

/-- A value that was brought in is brought out again as it was. -/
theorem dump_of_load {v : Value} {a : UInt32} (hdump : Export.dump ∉ g.trapping)
    (hv : Exact 127 v) (h : (load (.described g) host v).run s = (.ok a, t)) :
    (dump (.described g) host a).run t = (.ok v, t) := by
  have hfuel := fuel_of_load h
  rw [load_eq] at h
  exact dump_of_has ⟨hfuel, hdump⟩ (has_of_loadText h) (zero_not_mem_encode v) hv.decode?

/-! ## What a call comes to -/

/-- A failure by which an entry says that it has no answer. -/
inductive Lapse : Failure → Prop
  | type (name expected : String) (position : Nat) : Lapse (.type name expected position)
  | refused (name : String) (cause : Builtin.Refusal) : Lapse (.refused name cause)

/-- The error that any other failure is, for every host. -/
inductive Fatal : Failure → Error → Prop
  | arity (name : String) (expected actual : Nat) :
      Fatal (.arity name expected actual) (.builtinArity name expected actual)
  | crash (name : String) : Fatal (.crash name) (.crashed (Failure.crash name).message)

theorem lapse_or_fatal (failure : Failure) : Lapse failure ∨ ∃ e, Fatal failure e := by
  cases failure with
  | type | refused => exact Or.inl (by constructor)
  | arity | crash => exact Or.inr ⟨_, by constructor⟩

section Calls

variable {g : Guest} {table : BuiltinTable} {strict : Bool} {id : UInt32} {operands : List UInt32}
  {slot : Slot} {entry : Entry} {values : List Value}

theorem errorOf_lapse {services : Services} {failure : Failure} (h : Lapse failure) :
    services.errorOf entry failure =
      if services.strict then some (.builtinFailed entry.name failure.message) else none := by
  cases h <;> rfl

theorem errorOf_fatal {services : Services} {failure : Failure} {e : Error}
    (h : Fatal failure e) : services.errorOf entry failure = some e := by
  cases h <;> rfl

theorem settle_fatal {services : Services} {failure : Failure} {e : Error}
    (h : Fatal failure e) :
    (settle g services host entry (.error failure)).run s = (.error e, s) := by
  rw [settle_failure, errorOf_fatal h]

theorem settle_lapse {failure : Failure} (h : Lapse failure) :
    (settle g ⟨some table, strict⟩ host entry (.error failure)).run s =
      (if strict then .error (.builtinFailed entry.name failure.message) else .ok 0, s) := by
  rw [settle_failure, errorOf_lapse h]
  cases strict <;> rfl

/-- A value that was brought in does not have the null address. -/
theorem load_ne_null {v : Value} : ((load g host v).run s).1 ≠ .ok 0 := by
  intro hnull
  have hrun : (loadText g host (encode v)).run s = (.ok 0, ((load g host v).run s).2) := by
    rw [← load_eq]
    exact Prod.ext hnull rfl
  obtain ⟨-, hne, -⟩ := loadText_ok hrun
  exact hne rfl

/-- The null address stands for no value. -/
theorem settle_null {answer : Answer} :
    ((settle g ⟨some table, strict⟩ host entry answer).run s).1 = .ok 0 ↔
      answer = .ok none ∨ strict = false ∧ ∃ failure, Lapse failure ∧ answer = .error failure := by
  match answer with
  | .ok (some v) =>
      refine ⟨fun hnull => absurd hnull load_ne_null, ?_⟩
      rintro (h | ⟨-, failure, -, h⟩) <;> cases h
  | .ok none => exact ⟨fun _ => Or.inl rfl, fun _ => rfl⟩
  | .error failure =>
      rcases lapse_or_fatal failure with hlapse | ⟨e, hfatal⟩
      · rw [settle_lapse hlapse]
        cases strict with
        | true =>
            constructor
            · rintro ⟨⟩
            · rintro (h | ⟨h, -⟩) <;> cases h
        | false => exact ⟨fun _ => Or.inr ⟨rfl, failure, hlapse, rfl⟩, fun _ => rfl⟩
      · rw [settle_fatal hfatal]
        constructor
        · rintro ⟨⟩
        · rintro (h | ⟨-, failure, hlapse, h⟩)
          · cases h
          · cases h
            cases hlapse <;> cases hfatal

/-- Work that fails for want of the builtin of an id has no entry for it, however
deep the call that failed was. -/
theorem EvaluationFault.missing {name : Option String}
    (h : EvaluationFault ⟨some table, strict⟩ (.notImplemented ⟨id⟩ name)) :
    (name = none ∧ table.get? ⟨id⟩ = none) ∨
      ∃ slot, table.get? ⟨id⟩ = some slot ∧ slot.entry = none ∧ name = some slot.name := by
  cases h with
  | load h =>
      cases h with
      | halt h => cases h
  | dump h =>
      cases h with
      | halt h => cases h
  | withoutSlot ht hslot =>
      cases ht
      exact Or.inl ⟨rfl, hslot⟩
  | withoutEntry ht hslot hentry =>
      cases ht
      exact Or.inr ⟨_, hslot, hentry, rfl⟩
  | @failed entry failure _ h =>
      rcases lapse_or_fatal failure with hlapse | ⟨e, hfatal⟩
      · rw [errorOf_lapse hlapse] at h
        split at h <;> cases h
      · rw [errorOf_fatal hfatal] at h
        cases h
        cases hfatal

end Calls

/-- What the call of a builtin comes to, on every guest, with every table, for a
strict host and a lenient one, whatever the guest calls inside of the call. It fails
for want of the builtin exactly when the id has no slot, or one without an entry,
and then before any operand is read. Otherwise, when all operands can be brought
out, the null address is the answer exactly when the entry yields no value, or has a
lapse and the host is lenient. The value that an entry yields is never answered so,
and where the guest is described its address is that of a text which is brought out
as the value. A wrong number of operands is an error for every host. -/
theorem dispatch_answers (g : Guest) (table : BuiltinTable) (strict : Bool) (nesting : Nat)
    (id : UInt32) (operands : List UInt32) (s : Store) :
    let inner := dispatch g ⟨some table, strict⟩ nesting
    let called := (dispatch g ⟨some table, strict⟩ (nesting + 1) id operands).run s
    (called.1 = .error (.notImplemented ⟨id⟩ none) ↔ table.get? ⟨id⟩ = none) ∧
    (∀ name, called.1 = .error (.notImplemented ⟨id⟩ (some name)) ↔
      ∃ slot, table.get? ⟨id⟩ = some slot ∧ slot.entry = none ∧ slot.name = name) ∧
    (∀ name, called.1 = .error (.notImplemented ⟨id⟩ name) → called.2 = s) ∧
    ∀ slot entry values t, table.get? ⟨id⟩ = some slot → slot.entry = some entry →
      (operands.mapM (dump g inner)).run s = (.ok values, t) →
      (called.1 = .ok 0 ↔ entry.call values = .ok none ∨
        strict = false ∧ ∃ failure, Lapse failure ∧ entry.call values = .error failure) ∧
      (∀ v, entry.call values = .ok (some v) → called.1 ≠ .ok 0 ∧
        ∀ description, g = .described description → Export.dump ∉ description.trapping →
          ∀ a, called.1 = .ok a → v.Canonical → v.IntegerOnly → v.depth ≤ 127 →
          (dump g inner a).run called.2 = (.ok v, called.2)) ∧
      (∀ name expected actual, entry.call values = .error (.arity name expected actual) →
        called = (.error (.builtinArity name expected actual), t)) := by
  intro inner called
  have hcalled : called = (answer g ⟨some table, strict⟩ inner id operands).run s := rfl
  have hmissing (name : Option String) (h : called.1 = .error (.notImplemented ⟨id⟩ name)) :
      (name = none ∧ table.get? ⟨id⟩ = none) ∨
        ∃ slot, table.get? ⟨id⟩ = some slot ∧ slot.entry = none ∧ name = some slot.name :=
    ((dispatch_within moves_frame (nesting + 1) id operands s).error _ h).missing
  have hslotless (h : table.get? ⟨id⟩ = none) :
      called = (.error (.notImplemented ⟨id⟩ none), s) := by
    rw [hcalled, answer_without_slot rfl h]
    rfl
  have hentryless (slot : Slot) (hslot : table.get? ⟨id⟩ = some slot) (h : slot.entry = none) :
      called = (.error (.notImplemented ⟨id⟩ (some slot.name)), s) := by
    rw [hcalled, answer_without_entry rfl hslot h]
    rfl
  refine ⟨⟨fun h => ?_, fun h => ?_⟩, fun name => ⟨fun h => ?_, ?_⟩, fun name h => ?_, ?_⟩
  · rcases hmissing _ h with ⟨-, hslot⟩ | ⟨slot, -, -, hname⟩
    · exact hslot
    · cases hname
  · rw [hslotless h]
  · rcases hmissing _ h with ⟨hname, -⟩ | ⟨slot, hslot, hentry, hname⟩
    · cases hname
    · cases hname
      exact ⟨slot, hslot, hentry, rfl⟩
  · rintro ⟨slot, hslot, hentry, rfl⟩
    rw [hentryless slot hslot hentry]
  · rcases hmissing _ h with ⟨-, hslot⟩ | ⟨slot, hslot, hentry, -⟩
    · rw [hslotless hslot]
    · rw [hentryless slot hslot hentry]
  · intro slot entry values t hslot hentry hvalues
    have hsettle :
        called = (settle g ⟨some table, strict⟩ inner entry (entry.call values)).run t := by
      rw [hcalled, answer_entry rfl hslot hentry, run_bind_of_ok hvalues]
    rw [hsettle]
    refine ⟨settle_null, fun v hv => ?_, fun name expected actual he => ?_⟩
    · rw [hv]
      refine ⟨load_ne_null, ?_⟩
      rintro description rfl hdump a ha hc hi hd
      exact dump_of_load hdump ⟨hc, hi, hd⟩ (Prod.ext ha rfl)
    · rw [he]
      exact settle_fatal (.arity name expected actual)

/-- An entry that yields the empty object and one that yields no value. -/
theorem dispatch_answers_empty :
    let table : BuiltinTable :=
      ⟨[(0, ⟨"empty", some ⟨"empty", 0, fun _ => .ok (some (.object []))⟩⟩),
        (1, ⟨"nothing", some ⟨"nothing", 0, fun _ => .ok none⟩⟩)], []⟩
    let s : Store := { memory := .zeroed 1, peak := 65536, limit := 65536, heap := 1024 }
    let g : Guest := .described sample
    (∃ a t, (dispatch g ⟨some table, false⟩ 1 0 []).run s = (.ok a, t) ∧ a ≠ 0 ∧
      (dump g (dispatch g ⟨some table, false⟩ 0) a).run t = (.ok (.object []), t)) ∧
    ((dispatch g ⟨some table, false⟩ 1 1 []).run s).1 = .ok 0 := by
  intro table s g
  have hroom : Room s := ⟨by decide, by decide, by decide, by decide⟩
  obtain ⟨a, t, hload, -⟩ := load_empty sample_orderly hroom (by decide)
  have hrun : (dispatch g ⟨some table, false⟩ 1 0 []).run s = (.ok a, t) := hload
  constructor
  · obtain ⟨-, -, -, hanswers⟩ := dispatch_answers g table false 0 0 [] s
    obtain ⟨-, hvalue, -⟩ := hanswers _ _ [] s rfl rfl rfl
    obtain ⟨hne, hdump⟩ := hvalue (.object []) rfl
    rw [hrun] at hne hdump
    refine ⟨a, t, hrun, fun h0 => hne (congrArg Except.ok h0), ?_⟩
    exact hdump sample rfl (by decide) a rfl exact_empty.canonical exact_empty.integers (by decide)
  · obtain ⟨-, -, -, hanswers⟩ := dispatch_answers g table false 0 1 [] s
    exact (hanswers _ _ [] s rfl rfl rfl).1.mpr (Or.inl rfl)

end PolicyHost.Guest
