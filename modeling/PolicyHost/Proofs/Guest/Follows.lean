import PolicyHost.Proofs.Guest.Memory
import PolicyHost.Proofs.Guest.Plan

/-!
# Work that follows a plan

`Follows` says that a guest's work on a store does what a plan says, or stops
because the memory has no room for it. When it does what the plan says, the
outcome is the plan's, an error included, and the heap pointer moves by what
the plan takes; when it stops for want of room, the memory had fewer bytes than
the plan needs. In every case the bytes below a floor are what they were, so
values that were there before are still there.

The two rules `Follows.bind` and `Follows.step` take work apart. The first is
for work that has a plan of its own, the second for a beginning of which the
outcome is known and that moves neither the heap pointer nor the fuel.
-/

namespace PolicyHost

/-! ## What runs do -/

section Runs

variable {ε σ α β : Type} {work : ExceptT ε (StateM σ) α} {next : α → ExceptT ε (StateM σ) β}
  {s s' : σ}

theorem run_bind_of_ok {a : α} (h : work.run s = (.ok a, s')) :
    (work >>= next).run s = (next a).run s' := by
  change ExceptT.bindCont next (work.run s).1 (work.run s).2 = _
  rw [h]
  rfl

theorem run_bind_of_error {e : ε} (h : work.run s = (.error e, s')) :
    (work >>= next).run s = (.error e, s') := by
  change ExceptT.bindCont next (work.run s).1 (work.run s).2 = _
  rw [h]
  rfl

theorem run_bind_congr {w : ExceptT ε (StateM σ) α} (h : work.run s = w.run s) :
    (work >>= next).run s = (w >>= next).run s := by
  cases hrun : work.run s with
  | mk r s' =>
      cases r with
      | ok a => rw [run_bind_of_ok hrun, run_bind_of_ok (h.symm.trans hrun)]
      | error e => rw [run_bind_of_error hrun, run_bind_of_error (h.symm.trans hrun)]

theorem run_get : (get : ExceptT ε (StateM σ) σ).run s = (.ok s, s) := rfl

theorem run_modify {f : σ → σ} :
    (modify f : ExceptT ε (StateM σ) PUnit).run s = (.ok (), f s) := rfl

-- The next two are rewritten with, not computed with: unfolding both sides of
-- a test on the size of a memory takes forever.
theorem run_get_bind {next : σ → ExceptT ε (StateM σ) β} :
    (get >>= next).run s = (next s).run s :=
  run_bind_of_ok run_get

theorem run_modify_bind {f : σ → σ} {next : PUnit → ExceptT ε (StateM σ) β} :
    (modify f >>= next).run s = (next ()).run (f s) :=
  run_bind_of_ok run_modify

theorem lift_run {x : Except ε α} {a : α} (h : x = .ok a) :
    (x : ExceptT ε (StateM σ) α).run s = (.ok a, s) := by
  rw [h]
  rfl

theorem lift_run_error {x : Except ε α} {e : ε} (h : x = .error e) :
    (x : ExceptT ε (StateM σ) α).run s = (.error e, s) := by
  rw [h]
  rfl

theorem run_tryCatch_of_ok {a : α} {handle : ε → ExceptT ε (StateM σ) α}
    (h : work.run s = (.ok a, s')) : (tryCatch work handle).run s = (.ok a, s') := by
  rw [ExceptT.run] at h ⊢
  simp only [tryCatch, tryCatchThe, MonadExceptOf.tryCatch, ExceptT.tryCatch, ExceptT.mk, bind,
    StateT.bind, h]
  rfl

theorem run_forM_of_ok {κ : Type} {check : κ → ExceptT ε (StateM σ) PUnit} {keys : List κ}
    (h : ∀ k ∈ keys, (check k).run s = (.ok (), s)) : (keys.forM check).run s = (.ok (), s) := by
  induction keys with
  | nil => rfl
  | cons k keys ih =>
      rw [List.forM_eq_forM] at ih ⊢
      rw [List.forM_cons, run_bind_of_ok (h k List.mem_cons_self)]
      exact ih fun k hk => h k (List.mem_cons_of_mem _ hk)

end Runs

namespace Guest

/-! ## Room and what is kept -/

/-- A store that work can start from: the heap pointer lies inside the memory,
the memory within its limit, no heap pointer within the limit can wrap, and
there is fuel. -/
structure Room (s : Store) : Prop where
  heap : s.heap.toNat ≤ s.memory.size
  within : s.memory.size ≤ s.limit
  limit : s.limit ≤ 2 ^ 30
  fuel : s.fuel ≠ some 0

theorem Room.size_le {s : Store} (h : Room s) : s.memory.size ≤ 2 ^ 30 :=
  Nat.le_trans h.within h.limit

theorem Room.write {s : Store} (h : Room s) (a : Nat) (bytes : List UInt8) :
    Room { s with memory := s.memory.write a bytes } :=
  ⟨by simpa using h.heap, by simpa using h.within, h.limit, h.fuel⟩

/-- A call of the parser that is counted leaves the room. -/
theorem Room.counted {s : Store} (h : Room s) : Room { s with globals := s.globals + 1 } :=
  ⟨h.heap, h.within, h.limit, h.fuel⟩

/-- What work leaves as it was: the bytes below a floor, and the limit of the
memory, which does not shrink. -/
structure Keeps (floor : Nat) (s s' : Store) : Prop where
  get : ∀ x < floor, s'.memory.get x = s.memory.get x
  size : s.memory.size ≤ s'.memory.size
  limit : s'.limit = s.limit
  within : s.memory.size ≤ s.limit → s'.memory.size ≤ s'.limit

namespace Keeps

variable {floor mid : Nat} {s s' s'' : Store}

theorem refl (floor : Nat) (s : Store) : Keeps floor s s :=
  ⟨fun _ _ => rfl, Nat.le_refl _, rfl, id⟩

theorem trans (h : Keeps floor s s') (h' : Keeps floor s' s'') : Keeps floor s s'' where
  get x hx := (h'.get x hx).trans (h.get x hx)
  size := Nat.le_trans h.size h'.size
  limit := h'.limit.trans h.limit
  within hw := h'.within (h.within hw)

theorem lower (h : Keeps mid s s') (hf : floor ≤ mid) : Keeps floor s s' :=
  { h with get := fun x hx => h.get x (Nat.lt_of_lt_of_le hx hf) }

theorem has {bytes : List UInt8} {a : Nat} (h : Keeps floor s s') (hb : s.memory.Has a bytes)
    (hf : a + bytes.length ≤ floor) : s'.memory.Has a bytes :=
  hb.of_agree h.size fun x _ hx => h.get x (by omega)

/-- What changes neither the memory nor its limit keeps everything. -/
theorem of_same (hmemory : s'.memory = s.memory) (hlimit : s'.limit = s.limit) :
    Keeps floor s s' where
  get _ _ := by rw [hmemory]
  size := Nat.le_of_eq (congrArg Memory.size hmemory).symm
  limit := hlimit
  within hw := by rw [hmemory, hlimit]; exact hw

theorem of_grow {pages : Nat} (hmemory : s'.memory = s.memory.grow pages)
    (hlimit : s'.limit = s.limit) (hgranted : (s.memory.grow pages).size ≤ s.limit) :
    Keeps floor s s' where
  get x _ := by rw [hmemory, Memory.get_grow]
  size := by rw [hmemory, Memory.size_grow]; exact Nat.le_add_right _ _
  limit := hlimit
  within _ := by rw [hmemory, hlimit]; exact hgranted

theorem of_write {bytes : List UInt8} {a : Nat} (h : a + bytes.length ≤ s.memory.size)
    (hf : floor ≤ a) : Keeps floor s { s with memory := s.memory.write a bytes } where
  get x hx := Memory.get_write_of_outside h (by omega)
  size := by simp
  limit := rfl
  within hw := by simpa using hw

end Keeps

/-- A later store that work goes on with: the heap pointer has not gone back,
and the fuel is what it was. -/
structure Later (floor : Nat) (s s' : Store) : Prop extends Keeps floor s s' where
  heap : s.heap.toNat ≤ s'.heap.toNat
  fuel : s'.fuel = s.fuel

/-- What goes on from a store with room still has room, as long as its heap
pointer lies inside the memory. -/
theorem Room.later {floor : Nat} {s s' : Store} (h : Room s) (hl : Later floor s s')
    (hheap : s'.heap.toNat ≤ s'.memory.size) : Room s' :=
  ⟨hheap, hl.within h.within, hl.limit ▸ h.limit, hl.fuel ▸ h.fuel⟩

/-! ## Following -/

/-- What a guest stops with when its memory has no room: it gives up, or it reaches outside. -/
def Starved (cause : TrapCause) : Prop :=
  cause = .unreachable ∨ cause = .outOfBounds

/-- An error of work on a store is the planned one, unless the guest starved before it came to
that. -/
def Foretold {β : Type} (s : Store) (planned : Except Error β × Nat) (e : Error) : Prop :=
  planned.1 = .error e ∨
    ∃ cause, Starved cause ∧ e = .trap cause ∧ s.memory.size < s.heap.toNat + planned.2

theorem Foretold.of_room {β : Type} {s : Store} {planned : Except Error β × Nat} {e : Error}
    (h : Foretold s planned e) (hroom : s.heap.toNat + planned.2 ≤ s.memory.size) :
    planned.1 = .error e := by
  rcases h with hplan | ⟨cause, -, -, hsmall⟩
  · exact hplan
  · omega

/-- How the outcome of work on a store compares with the outcome of a plan. -/
inductive Agrees {α β : Type} (R : α → β → Store → Prop) (s : Store) :
    Except Error α × Store → Except Error β × Nat → Prop
  /-- Both give a result. -/
  | ok {a b s' taken} : s'.heap.toNat = s.heap.toNat + taken → s'.heap.toNat ≤ s'.memory.size →
      s'.fuel = s.fuel → R a b s' → Agrees R s (.ok a, s') (.ok b, taken)
  /-- Both end with the same error. -/
  | error {e s' taken} : s'.heap.toNat = s.heap.toNat + taken →
      (s'.fuel = s.fuel ∨ e = .trap .outOfFuel) → Agrees R s (.error e, s') (.error e, taken)
  /-- The memory has no room for what is planned. -/
  | exhausted {cause s' r taken} : Starved cause → s.memory.size < s.heap.toNat + taken →
      s'.fuel = s.fuel → Agrees R s (.error (.trap cause), s') (r, taken)

/-- Work that begins on a later store, after something was taken, compares from the first store
with what is planned in all. -/
theorem Agrees.after {α β : Type} {R : α → β → Store → Prop} {s s' : Store}
    {out : Except Error α × Store} {planned : Except Error β × Nat} {taken : Nat}
    (h : Agrees R s' out planned) (hheap : s'.heap.toNat = s.heap.toNat + taken)
    (hsize : s.memory.size ≤ s'.memory.size) (hfuel : s'.fuel = s.fuel) :
    Agrees R s out (planned.1, taken + planned.2) := by
  cases h with
  | ok hheap' hroom hfuel' hr =>
      exact .ok (by simp only; omega) hroom (hfuel'.trans hfuel) hr
  | error hheap' hfuel' =>
      exact .error (by simp only; omega) (hfuel'.imp_left fun h => h.trans hfuel)
  | exhausted hcause hsmall hfuel' =>
      exact .exhausted hcause (by simp only; omega) (hfuel'.trans hfuel)

/-- Work on a store follows a plan and keeps what is below a floor. -/
structure Follows {α β : Type} (floor : Nat) (R : α → β → Store → Prop) (work : Run α)
    (plan : Plan β) (s : Store) : Prop where
  keeps : Keeps floor s (work.run s).2
  agrees : Agrees R s (work.run s) (plan s.heap.toNat)

namespace Follows

variable {α β γ δ : Type} {floor mid : Nat} {R : α → β → Store → Prop} {work : Run α}
  {plan : Plan β} {s : Store}

theorem lower (h : Follows mid R work plan s) (hf : floor ≤ mid) : Follows floor R work plan s :=
  ⟨h.keeps.lower hf, h.agrees⟩

/-- What counts of work is how it runs. -/
theorem of_run_eq {w : Run α} (hrun : work.run s = w.run s)
    (h : Follows floor R w plan s) : Follows floor R work plan s := by
  obtain ⟨hkeeps, hagrees⟩ := h
  rw [← hrun] at hkeeps hagrees
  exact ⟨hkeeps, hagrees⟩

theorem weaken {R' : α → β → Store → Prop} (h : Follows floor R work plan s)
    (hR : ∀ a b s', Later floor s s' → R a b s' → R' a b s') :
    Follows floor R' work plan s := by
  refine ⟨h.keeps, ?_⟩
  have hkeeps := h.keeps
  have hagrees := h.agrees
  revert hkeeps hagrees
  generalize work.run s = out
  generalize plan s.heap.toNat = planned
  intro hkeeps hagrees
  cases hagrees with
  | ok hheap hroom hfuel hr =>
      exact .ok hheap hroom hfuel (hR _ _ _ ⟨hkeeps, by omega, hfuel⟩ hr)
  | error hheap hfuel => exact .error hheap hfuel
  | exhausted hcause hsize hfuel => exact .exhausted hcause hsize hfuel

theorem pure {a : α} {b : β} (hroom : Room s) (h : R a b s) :
    Follows floor R (pure a) (pure b) s :=
  ⟨.refl floor s, .ok rfl hroom.heap rfl h⟩

theorem fail {e : Error} (h : work.run s = (.error e, s)) :
    Follows floor R work (Plan.fail e : Plan β) s := by
  refine ⟨?_, ?_⟩
  · rw [h]
    exact .refl floor s
  · rw [h]
    exact .error rfl (Or.inl rfl)

theorem exhausted {cause : TrapCause} (hcause : Starved cause)
    (hrun : work.run s = (.error (.trap cause), s))
    (h : s.memory.size < s.heap.toNat + (plan s.heap.toNat).2) : Follows floor R work plan s := by
  refine ⟨?_, ?_⟩
  · rw [hrun]
    exact .refl floor s
  · rw [hrun]
    exact .exhausted hcause h rfl

/-- Work of a known outcome that leaves the heap pointer and the fuel alone,
where the plan takes nothing either. -/
theorem done {a : α} {b : β} {t : Store} (hroom : Room s) (hrun : work.run s = (.ok a, t))
    (hplan : plan s.heap.toNat = (.ok b, 0)) (hkeeps : Keeps floor s t)
    (hheap : t.heap = s.heap) (hfuel : t.fuel = s.fuel) (h : R a b t) :
    Follows floor R work plan s := by
  refine ⟨?_, ?_⟩
  · rw [hrun]
    exact hkeeps
  · rw [hrun, hplan]
    refine .ok (by rw [hheap, Nat.add_zero]) ?_ hfuel h
    rw [hheap]
    exact Nat.le_trans hroom.heap hkeeps.size

/-- Two pieces of work follow two plans one after the other. What comes second
starts from a store with room, in which what was below the first floor is as
it was. -/
theorem bind {Q : γ → δ → Store → Prop} {next : α → Run γ} {rest : β → Plan δ}
    (hroom : Room s) (h : Follows mid R work plan s) (hf : floor ≤ mid)
    (hnext : ∀ a b s', Room s' → Later mid s s' → R a b s' →
      Follows floor Q (next a) (rest b) s') :
    Follows floor Q (work >>= next) (plan >>= rest) s := by
  obtain ⟨hkeeps, hagrees⟩ := h
  have hlow := hkeeps.lower hf
  cases hw : work.run s with
  | mk r s' =>
    cases hp : plan s.heap.toNat with
    | mk q taken =>
      rw [hw] at hkeeps hlow
      rw [hw, hp] at hagrees
      cases hagrees with
      | @ok a b _ _ hheap hsize hfuel hr =>
          have hlater : Later mid s s' := ⟨hkeeps, by omega, hfuel⟩
          obtain ⟨hkeeps', hagrees'⟩ := hnext a b s' (hroom.later hlater hsize) hlater hr
          refine ⟨?_, ?_⟩
          · rw [run_bind_of_ok hw]
            exact hlow.trans hkeeps'
          · rw [run_bind_of_ok hw, Plan.bind_of_ok hp, ← hheap]
            exact hagrees'.after hheap hkeeps.size hfuel
      | error hheap hfuel =>
          refine ⟨?_, ?_⟩
          · rw [run_bind_of_error hw]
            exact hlow
          · rw [run_bind_of_error hw, Plan.bind_of_error hp]
            exact .error hheap hfuel
      | exhausted hcause hsmall hfuel =>
          have hmore : taken ≤ ((plan >>= rest) s.heap.toNat).2 := Plan.le_bind hp
          refine ⟨?_, ?_⟩
          · rw [run_bind_of_error hw]
            exact hlow
          · rw [run_bind_of_error hw]
            exact .exhausted hcause (Nat.lt_of_lt_of_le hsmall (Nat.add_le_add_left hmore _)) hfuel

theorem map {Q : γ → β → Store → Prop} {f : α → γ} (hroom : Room s)
    (h : Follows floor R work plan s) (hQ : ∀ a b s', R a b s' → Q (f a) b s') :
    Follows floor Q (f <$> work) plan s := by
  rw [← bind_pure plan]
  exact .bind hroom h (Nat.le_refl _) fun a b s' hroom' _ hr => .pure hroom' (hQ a b s' hr)

/-- Work that comes down to other work on a later store, with the heap pointer
and the fuel as they were, follows the same plan. -/
theorem step {w : Run α} {t : Store} (hrun : work.run s = w.run t)
    (hkeeps : Keeps floor s t) (hheap : t.heap = s.heap) (hfuel : t.fuel = s.fuel)
    (hnext : Follows floor R w plan t) : Follows floor R work plan s := by
  obtain ⟨hkeept, hagreet⟩ := hnext
  refine ⟨?_, ?_⟩
  · rw [hrun]
    exact hkeeps.trans hkeept
  · have hsame : t.heap.toNat = s.heap.toNat + 0 := congrArg UInt32.toNat hheap
    have hagree := hagreet.after hsame hkeeps.size hfuel
    rw [hrun, ← hheap]
    rwa [Nat.zero_add] at hagree

/-- The three ways in which work that follows a plan may end: as planned with a
result, as planned with an error, and for want of room. -/
theorem outcome (hroom : Room s) (h : Follows floor R work plan s) :
    (∃ a b t taken, work.run s = (.ok a, t) ∧ plan s.heap.toNat = (.ok b, taken) ∧
      t.heap.toNat = s.heap.toNat + taken ∧ Later floor s t ∧ Room t ∧ R a b t) ∨
    (∃ e t taken, work.run s = (.error e, t) ∧ plan s.heap.toNat = (.error e, taken) ∧
      t.heap.toNat = s.heap.toNat + taken ∧ Keeps floor s t ∧
      (t.fuel = s.fuel ∨ e = .trap .outOfFuel)) ∨
    (∃ cause t, Starved cause ∧ work.run s = (.error (.trap cause), t) ∧
      s.memory.size < s.heap.toNat + (plan s.heap.toNat).2 ∧ Keeps floor s t ∧
      t.fuel = s.fuel) := by
  obtain ⟨hkeeps, hagrees⟩ := h
  cases hw : work.run s with
  | mk r t =>
    cases hp : plan s.heap.toNat with
    | mk q taken =>
      rw [hw] at hkeeps
      rw [hw, hp] at hagrees
      cases hagrees with
      | @ok a b _ _ hheap hsize hfuel hr =>
          have hlater : Later floor s t := ⟨hkeeps, by omega, hfuel⟩
          exact Or.inl ⟨a, b, t, taken, rfl, rfl, hheap, hlater, hroom.later hlater hsize, hr⟩
      | @error e _ _ hheap hfuel =>
          exact Or.inr (Or.inl ⟨e, t, taken, rfl, rfl, hheap, hkeeps, hfuel⟩)
      | @exhausted cause _ _ _ hcause hsmall hfuel =>
          exact Or.inr (Or.inr ⟨cause, t, hcause, rfl, hsmall, hkeeps, hfuel⟩)

end Follows

end Guest

end PolicyHost
