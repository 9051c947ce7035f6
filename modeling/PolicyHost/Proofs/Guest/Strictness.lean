import PolicyHost.Proofs.Guest.Effects

/-!
# Strict and lenient hosts

A host that is strict reports the failure of a builtin, where a lenient one goes
on without a value. A guest sees nothing else of this, whatever its code does and
however deep its calls of builtins are: `Alike` compares the same work under the
two hosts, and says that it goes the same way from every store, until a builtin
fails. Only what becomes of an answer depends on the host (`settle_alike`), so what
else has to be shown is how the comparison passes through work that is made of
other work, and that is the induction `Confined.alike` over what code is made of and
`dispatch_alike` over how deep the calls are.
-/

namespace PolicyHost.Guest

open Json Builtin

variable {α β : Type} {work again : Run α} {g : Guest} {table : Option BuiltinTable}

/-- An outcome is that a builtin failed. -/
def FailsBuiltin (r : Except Error α) : Prop :=
  ∃ name text, r = .error (.builtinFailed name text)

theorem FailsBuiltin.error {e : Error} (h : FailsBuiltin (.error e : Except Error α)) :
    FailsBuiltin (.error e : Except Error β) := by
  obtain ⟨name, text, he⟩ := h
  cases he
  exact ⟨name, text, rfl⟩

theorem FailsBuiltin.map {f : α → β} {r : Except Error α} (h : FailsBuiltin r) :
    FailsBuiltin (r.map f) := by
  obtain ⟨name, text, rfl⟩ := h
  exact ⟨name, text, rfl⟩

/-- From every store, the first work ends with the failure of a builtin, or the other
does the same as it. -/
def Alike (work again : Run α) : Prop :=
  ∀ s, FailsBuiltin (work.run s).1 ∨ again.run s = work.run s

theorem Alike.refl (work : Run α) : Alike work work :=
  fun _ => Or.inr rfl

theorem Alike.bind {next next' : α → Run β} (h : Alike work again)
    (hnext : ∀ a, Alike (next a) (next' a)) : Alike (work >>= next) (again >>= next') := by
  intro s
  cases hrun : work.run s with
  | mk r t =>
      have hs := h s
      rw [hrun] at hs
      cases r with
      | ok a =>
          rcases hs with ⟨_, _, hfails⟩ | hsame
          · cases hfails
          · rw [run_bind_of_ok hrun, run_bind_of_ok hsame]
            exact hnext a t
      | error e =>
          rw [run_bind_of_error hrun]
          rcases hs with hfails | hsame
          · exact Or.inl hfails.error
          · exact Or.inr (run_bind_of_error hsame)

theorem Alike.mapM {κ : Type} {f f' : κ → Run β} (h : ∀ k, Alike (f k) (f' k)) (ks : List κ) :
    Alike (ks.mapM f) (ks.mapM f') := by
  induction ks with
  | nil => exact .refl _
  | cons k ks ih =>
      rw [List.mapM_cons, List.mapM_cons]
      exact (h k).bind fun b => ih.bind fun bs => .refl _

/-- Hosts that answer every call alike, until a builtin fails under the first. -/
def Host.Alike (strict lenient : Host) : Prop :=
  ∀ id operands, Guest.Alike (strict id operands) (lenient id operands)

/-- Code notices of its host only how it answers. -/
theorem Confined.alike {burns : Bool} {work : Host → Run α} (h : Confined burns work)
    {strict lenient : Host} (hhost : strict.Alike lenient) :
    Alike (work strict) (work lenient) := by
  induction h with
  | bind _ _ ih ihnext => exact ih.bind ihnext
  | builtin id operands => exact hhost id operands
  | pure | look | stop | abort | print | grow | write | heap | globals | burn => exact .refl _

/-! ## Calls in both directions -/

section

variable {strict lenient : Host} (hhost : strict.Alike lenient)
include hhost

theorem Code.invoke_alike (code : Code α) : Alike (code.invoke strict) (code.invoke lenient) := by
  refine .bind (.refl _) fun s => ?_
  split
  · exact .refl _
  · exact code.confined.alike hhost

theorem storeText_alike (bytes : List UInt8) (a : UInt32) :
    Alike (storeText g strict bytes a) (storeText g lenient bytes a) := by
  have hparse : Alike
      (do
        let value ← (g.jsonParse a (.ofNat bytes.length)).invoke strict
        if value = 0 then throw (.refusedText ⟨a⟩ bytes.length)
        return value)
      (do
        let value ← (g.jsonParse a (.ofNat bytes.length)).invoke lenient
        if value = 0 then throw (.refusedText ⟨a⟩ bytes.length)
        return value) :=
    (Code.invoke_alike hhost _).bind fun value => .refl _
  refine .bind (.refl _) fun s => ?_
  split
  · exact .bind (.refl _) fun _ => hparse
  · exact .bind (.refl _) fun _ => hparse

theorem loadText_alike (bytes : List UInt8) :
    Alike (loadText g strict bytes) (loadText g lenient bytes) := by
  by_cases hlong : longestText < bytes.length
  · intro s
    rw [loadText_oversized hlong, loadText_oversized hlong]
    exact Or.inr rfl
  · rw [loadText_eq (Nat.le_of_not_lt hlong), loadText_eq (Nat.le_of_not_lt hlong)]
    exact (Code.invoke_alike hhost _).bind fun a => storeText_alike hhost bytes a

theorem load_alike (v : Value) : Alike (load g strict v) (load g lenient v) := by
  rw [load_eq, load_eq]
  exact loadText_alike hhost _

theorem dump_alike (a : UInt32) : Alike (dump g strict a) (dump g lenient a) :=
  (Code.invoke_alike hhost _).bind fun _ => .refl _

/-- Whether a builtin takes what it is given is for the host to judge only when
the builtin fails; a wrong number of operands is an error for every host. -/
theorem settle_alike (entry : Entry) (answer : Answer) :
    Alike (settle g ⟨table, true⟩ strict entry answer)
      (settle g ⟨table, false⟩ lenient entry answer) := by
  match answer with
  | .ok (some v) => exact load_alike hhost v
  | .ok none => exact .refl _
  | .error failure =>
      cases failure with
      | arity | crash => exact .refl _
      | type | refused => exact fun s => Or.inl ⟨_, _, rfl⟩

theorem answer_alike :
    (answer g ⟨table, true⟩ strict).Alike (answer g ⟨table, false⟩ lenient) := by
  intro id operands
  rcases answer_cases g ⟨table, true⟩ strict id operands with ⟨ht, heq⟩ | ⟨found, ht, hslot, heq⟩ |
    ⟨found, slot, ht, hslot, hentry, heq⟩ | ⟨found, slot, entry, ht, hslot, hentry, heq⟩
  · obtain rfl : table = none := ht
    rw [heq, answer_early rfl]
    exact .refl _
  · obtain rfl : table = some found := ht
    rw [heq, answer_without_slot rfl hslot]
    exact .refl _
  · obtain rfl : table = some found := ht
    rw [heq, answer_without_entry rfl hslot hentry]
    exact .refl _
  · obtain rfl : table = some found := ht
    rw [heq, answer_entry rfl hslot hentry]
    exact (Alike.mapM (fun a => dump_alike hhost a) operands).bind fun values =>
      settle_alike hhost entry _

end

/-- However deep the calls are, one inside of the other. -/
theorem dispatch_alike (nesting : Nat) :
    (dispatch g ⟨table, true⟩ nesting).Alike (dispatch g ⟨table, false⟩ nesting) := by
  induction nesting with
  | zero => exact fun _ _ => .refl _
  | succ nesting ih => exact answer_alike ih

theorem host_alike (g : Guest) (table : Option BuiltinTable) :
    (g.host ⟨table, true⟩).Alike (g.host ⟨table, false⟩) :=
  dispatch_alike g.nesting

/-! ## Starting -/

/-- Without a table every call of a builtin stops, under every host. -/
theorem host_early (strict strict' : Bool) : g.host ⟨none, strict⟩ = g.host ⟨none, strict'⟩ := by
  rw [host, host]
  cases g.nesting with
  | zero => rfl
  | succ nesting =>
      funext id operands
      rw [dispatch, dispatch, answer_early rfl, answer_early rfl]

theorem instantiate_strict (config : Config) (registry : Registry) (strict : Bool) :
    g.instantiate { config with strict } registry = g.instantiate config registry := by
  simp only [instantiate, host_early strict config.strict]
  rfl

/-! ## Lenient hosts -/

theorem EvaluationFault.not_failed {services : Services} (hlenient : services.strict = false)
    {name text : String} : ¬ EvaluationFault services (.builtinFailed name text) := by
  intro h
  cases h with
  | load h =>
      cases h with
      | halt h => cases h
  | dump h =>
      cases h with
      | halt h => cases h
  | @failed entry failure _ h =>
      cases failure with
      | arity | crash => cases h
      | type | refused =>
          rw [Services.errorOf, hlenient] at h
          · cases h
          · exact nofun
          · exact nofun

theorem StartFault.not_failed {services : Services} (hlenient : services.strict = false)
    {name text : String} : ¬ StartFault services (.builtinFailed name text) := by
  intro h
  cases h with
  | guest h => exact h.not_failed hlenient

end PolicyHost.Guest
