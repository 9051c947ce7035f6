import PolicyHost.Proofs.Guest.Follows

/-!
# Work and the states that it leads to

Guests work on stores and hosts on sessions, and what either may leave behind
is said the same way. `Within R kind work s` is for work on a state `s`: it
comes to a state that is related to `s`, however it ends, and when it ends with
an error this is of a kind. `Provides P work` is about what work gives when it
ends with a result. The rules take work apart along its definition, so that only
the single moves of the work have to be looked at.
-/

namespace PolicyHost

variable {ε σ α β : Type}

/-- Work of two parts that gave a result: the first part gave one to go on with. -/
theorem run_bind_eq_ok {work : ExceptT ε (StateM σ) α}
    {next : α → ExceptT ε (StateM σ) β} {s t : σ} {b : β}
    (h : (work >>= next).run s = (.ok b, t)) :
    ∃ a u, work.run s = (.ok a, u) ∧ (next a).run u = (.ok b, t) := by
  cases hwork : work.run s with
  | mk r u =>
      cases r with
      | ok a =>
          rw [run_bind_of_ok hwork] at h
          exact ⟨a, u, rfl, h⟩
      | error e =>
          rw [run_bind_of_error hwork] at h
          cases h

/-- Work of two parts that failed: one of them did. -/
theorem run_bind_eq_error {work : ExceptT ε (StateM σ) α}
    {next : α → ExceptT ε (StateM σ) β} {s t : σ} {e : ε}
    (h : (work >>= next).run s = (.error e, t)) :
    work.run s = (.error e, t) ∨
      ∃ a u, work.run s = (.ok a, u) ∧ (next a).run u = (.error e, t) := by
  cases hwork : work.run s with
  | mk r u =>
      cases r with
      | ok a =>
          rw [run_bind_of_ok hwork] at h
          exact Or.inr ⟨a, u, rfl, h⟩
      | error e' =>
          rw [run_bind_of_error hwork] at h
          cases h
          exact Or.inl rfl

theorem run_bind_pure {work : ExceptT ε (StateM σ) α} {f : α → β} {s t : σ}
    {r : Except ε α} (h : work.run s = (r, t)) :
    (work >>= fun a => pure (f a)).run s = (r.map f, t) := by
  cases r with
  | ok a =>
      rw [run_bind_of_ok h]
      rfl
  | error e =>
      rw [run_bind_of_error h]
      rfl

theorem run_tryCatch_of_error {work : ExceptT ε (StateM σ) α}
    {handle : ε → ExceptT ε (StateM σ) α} {s t : σ} {e : ε}
    (h : work.run s = (.error e, t)) : (tryCatch work handle).run s = (handle e).run t := by
  rw [ExceptT.run] at h ⊢
  simp only [tryCatch, tryCatchThe, MonadExceptOf.tryCatch, ExceptT.tryCatch, ExceptT.mk, bind,
    StateT.bind, h]
  rfl

/-- A relation between the states before and after work. -/
structure Lasting (R : σ → σ → Prop) : Prop where
  refl : ∀ s, R s s
  trans : ∀ {s t u}, R s t → R t u → R s u

/-- From a state on, work comes to a related state, and when it ends with an
error this is of a kind. -/
structure Within (R : σ → σ → Prop) (kind : ε → Prop) (work : ExceptT ε (StateM σ) α)
    (s : σ) : Prop where
  state : R s (work.run s).2
  error : ∀ e, (work.run s).1 = .error e → kind e

namespace Within

variable {R : σ → σ → Prop} {kind kind' : ε → Prop} {work : ExceptT ε (StateM σ) α}
  {next : α → ExceptT ε (StateM σ) β} {s t : σ}

theorem weaken (h : Within R kind work s) (hkind : ∀ e, kind e → kind' e) :
    Within R kind' work s :=
  ⟨h.state, fun e he => hkind e (h.error e he)⟩

theorem state_of_run {r : Except ε α} (h : Within R kind work s)
    (hrun : work.run s = (r, t)) : R s t := by
  have hstate := h.state
  rw [hrun] at hstate
  exact hstate

theorem error_of_run {e : ε} (h : Within R kind work s) (hrun : work.run s = (.error e, t)) :
    kind e :=
  h.error e (congrArg Prod.fst hrun)

theorem of_ok {a : α} (hrun : work.run s = (.ok a, t)) (h : R s t) : Within R kind work s := by
  refine ⟨?_, ?_⟩
  · rw [hrun]
    exact h
  · intro e he
    rw [hrun] at he
    cases he

theorem of_error {e : ε} (hrun : work.run s = (.error e, t)) (h : R s t) (he : kind e) :
    Within R kind work s := by
  refine ⟨?_, ?_⟩
  · rw [hrun]
    exact h
  · intro e' he'
    rw [hrun] at he'
    cases he'
    exact he

theorem of_run_eq {w : ExceptT ε (StateM σ) α} (hrun : work.run s = w.run s)
    (h : Within R kind w s) : Within R kind work s := by
  obtain ⟨hstate, herror⟩ := h
  rw [← hrun] at hstate herror
  exact ⟨hstate, herror⟩

theorem modify {f : σ → σ} (h : R s (f s)) :
    Within R kind (modify f : ExceptT ε (StateM σ) PUnit) s :=
  .of_ok run_modify h

theorem get {next : σ → ExceptT ε (StateM σ) β} (h : Within R kind (next s) s) :
    Within R kind (get >>= next) s :=
  .of_run_eq run_get_bind h

variable (hR : Lasting R)
include hR

theorem pure (a : α) : Within R kind (pure a : ExceptT ε (StateM σ) α) s :=
  .of_ok rfl (hR.refl s)

theorem throw {e : ε} (he : kind e) :
    Within R kind (throw e : ExceptT ε (StateM σ) α) s :=
  .of_error rfl (hR.refl s) he

/-- What comes after a failure does not count. -/
theorem throw_bind {e : ε} (he : kind e) :
    Within R kind ((MonadExcept.throw e : ExceptT ε (StateM σ) α) >>= next) s :=
  .of_error (run_bind_of_error rfl) (hR.refl s) he

theorem lift {x : Except ε α} (h : ∀ e, x = .error e → kind e) :
    Within R kind (x : ExceptT ε (StateM σ) α) s := by
  cases hx : x with
  | ok a => exact .of_ok (lift_run rfl) (hR.refl s)
  | error e => exact .of_error (lift_run_error rfl) (hR.refl s) (h e hx)

/-- One piece of work after another, which starts from a related state. -/
theorem bind_related (h : Within R kind work s)
    (hnext : ∀ a t, R s t → Within R kind (next a) t) : Within R kind (work >>= next) s := by
  cases hw : work.run s with
  | mk r t =>
      have hstate := h.state_of_run hw
      cases r with
      | ok a =>
          obtain ⟨hstate', herror'⟩ := hnext a t hstate
          refine ⟨?_, ?_⟩
          · rw [run_bind_of_ok hw]
            exact hR.trans hstate hstate'
          · rw [run_bind_of_ok hw]
            exact herror'
      | error e => exact .of_error (run_bind_of_error hw) hstate (h.error_of_run hw)

theorem bind (h : Within R kind work s) (hnext : ∀ a t, Within R kind (next a) t) :
    Within R kind (work >>= next) s :=
  h.bind_related hR fun a t _ => hnext a t

/-- A handler goes on from an error of the kind. -/
theorem tryCatch {handle : ε → ExceptT ε (StateM σ) α} (h : Within R kind work s)
    (hhandle : ∀ e t, kind e → Within R kind' (handle e) t) :
    Within R kind' (tryCatch work handle) s := by
  cases hw : work.run s with
  | mk r t =>
      have hstate := h.state_of_run hw
      cases r with
      | ok a => exact .of_ok (run_tryCatch_of_ok hw) hstate
      | error e =>
          obtain ⟨hstate', herror'⟩ := hhandle e t (h.error_of_run hw)
          refine ⟨?_, ?_⟩
          · rw [run_tryCatch_of_error hw]
            exact hR.trans hstate hstate'
          · rw [run_tryCatch_of_error hw]
            exact herror'

theorem mapM {κ : Type} {f : κ → ExceptT ε (StateM σ) β}
    (h : ∀ k t, Within R kind (f k) t) (ks : List κ) (s : σ) : Within R kind (ks.mapM f) s := by
  induction ks generalizing s with
  | nil => exact .pure hR []
  | cons k ks ih =>
      rw [List.mapM_cons]
      exact .bind hR (h k s) fun b t => .bind hR (ih t) fun bs u => .pure hR (b :: bs)

theorem forM {κ : Type} {f : κ → ExceptT ε (StateM σ) PUnit}
    (h : ∀ k t, Within R kind (f k) t) (ks : List κ) (s : σ) : Within R kind (ks.forM f) s := by
  induction ks generalizing s with
  | nil => exact .pure hR ()
  | cons k ks ih => exact .bind hR (h k s) fun _ t => ih t

end Within

/-- Wherever it starts from, what the work gives has a property. -/
def Provides (P : α → Prop) (work : ExceptT ε (StateM σ) α) : Prop :=
  ∀ s a t, work.run s = (.ok a, t) → P a

namespace Provides

variable {P : β → Prop} {Q : α → Prop} {work : ExceptT ε (StateM σ) α}
  {next : α → ExceptT ε (StateM σ) β}

theorem pure {b : β} (h : P b) : Provides P (pure b : ExceptT ε (StateM σ) β) := by
  intro s a t hrun
  cases hrun
  exact h

theorem throw (e : ε) : Provides P (throw e : ExceptT ε (StateM σ) β) := by
  intro s a t hrun
  cases hrun

theorem lift {x : Except ε β} (h : ∀ b, x = .ok b → P b) :
    Provides P (x : ExceptT ε (StateM σ) β) := by
  intro s b t hrun
  cases hx : x with
  | ok a =>
      rw [lift_run hx] at hrun
      cases hrun
      exact h _ hx
  | error e =>
      rw [lift_run_error hx] at hrun
      cases hrun

/-- The last part of work has something to go on from. -/
theorem bind_of (hwork : Provides Q work) (h : ∀ a, Q a → Provides P (next a)) :
    Provides P (work >>= next) := by
  intro s b t hrun
  obtain ⟨a, u, hfirst, hrest⟩ := run_bind_eq_ok hrun
  exact h a (hwork s a u hfirst) u b t hrest

theorem bind (h : ∀ a, Provides P (next a)) : Provides P (work >>= next) :=
  .bind_of (fun _ _ _ _ => trivial : Provides (fun _ => True) work) fun a _ => h a

end Provides

end PolicyHost
