import PolicyHost.Proofs.Session.Independence

/-!
# Sessions that go on alike

Sessions are `Twins` when they serve the same data at the same place. What comes
of an operation on either is foretold by the same plan (`Twins.forecast`), so the
outcomes are the same and the sessions stay twins, unless a guest stops. A guest
that stops in an evaluation changes nothing that counts. One that stops while it
is given data or a path may part the twins, because how far it comes depends on
the memory that it happens to have. `Twins.agree` is the induction over the
operations.
-/

namespace PolicyHost.Session

open Json Guest Builtin

variable {config : Config} {registry registry' : Registry} {d v w : Value} {s t : Session}

/-! ## What is foretold -/

/-- What is foretold of an evaluation. -/
def plannedResult (s : Session) (d : Value) (target : Target) (p : Payload) :
    Except Error Value := do
  let id ← target.id? s
  let bytes ← p.encode
  (s.planned sample d id bytes).1

/-- What is foretold of an operation on a session that serves a value. -/
def forecast (s : Session) (d : Value) : Operation → Except Error Value
  | .setData .unencodable => .error (.transfer .unencodable)
  | .setData (.json w) => (s.plannedData sample w).1.map fun _ => .null
  | .evaluate target p => s.plannedResult d target p
  | .decide p => (s.plannedResult d .main p).map fun v => .bool (holds v)
  | op => do
      let code ← (op.plannedUpdate s sample).1
      if code ≠ 0 then throw (.trap (.updateCode code))
      return .null

theorem stopped_map {r : Except Error Value} (f : Value → Value) (h : Stopped r) :
    Stopped (r.map f) := by
  obtain ⟨cause, rfl⟩ := h
  exact ⟨cause, rfl⟩

theorem outcome_decide (s : Session) (p : Payload) :
    s.outcome (.decide p) = (s.outcome (.evaluate .main p)).map fun v => .bool (holds v) := by
  cases hrun : (evaluate .main p).run s with
  | mk r t =>
      have hperform : (perform (.decide p)).run s = (r.map fun v => .bool (holds v), t) :=
        run_bind_pure hrun
      rw [outcome, outcome, hperform, perform, hrun]

theorem evaluate_foretold (h : Serves sample s d) (target : Target) (p : Payload) :
    s.outcome (.evaluate target p) = s.plannedResult d target p ∨
      Stopped (s.outcome (.evaluate target p)) := by
  rw [plannedResult]
  cases hid : target.id? s with
  | error e =>
      left
      rw [outcome, perform, evaluate, run_get_bind, run_bind_of_error (lift_run_error hid)]
      rfl
  | ok id =>
      cases hbytes : p.encode with
      | error e =>
          left
          rw [outcome, perform, evaluate, run_get_bind, run_bind_of_ok (lift_run hid),
            run_bind_of_error (lift_run_error hbytes)]
          rfl
      | ok bytes =>
          rcases evaluate_reached h hid hbytes with hstop | ⟨hsame, -⟩
          · exact Or.inr hstop
          · exact Or.inl hsame

theorem setData_foretold (h : Serves sample s d) (p : Payload) :
    s.outcome (.setData p) = s.forecast d (.setData p) ∨ Stopped (s.outcome (.setData p)) := by
  cases p with
  | unencodable => exact Or.inl rfl
  | json w =>
      rw [forecast]
      rcases h.next_setData w with ⟨hok, ⟨c, hplan⟩, -⟩ |
        ⟨e, herror, hplan | ⟨cause, -, rfl, -⟩, -⟩
      · rw [hok, hplan]
        exact Or.inl rfl
      · rw [herror, hplan]
        exact Or.inl rfl
      · exact Or.inr ⟨cause, herror⟩

theorem updates_foretold (h : Serves sample s d) {op : Operation} (hop : op.updates = true) :
    s.outcome op = s.forecast d op ∨ Stopped (s.outcome op) := by
  have hforecast : s.forecast d op = (do
      let code ← (op.plannedUpdate s sample).1
      if code ≠ 0 then throw (.trap (.updateCode code))
      return .null) := by
    cases op with
    | addPath | removePath => rfl
    | setData | evaluate | decide => cases hop
  obtain ⟨r, houtcome, hends⟩ := h.next_updates hop
  rw [hforecast, houtcome]
  cases hends with
  | done hplan =>
      rw [hplan]
      exact Or.inl rfl
  | coded => exact Or.inr ⟨_, rfl⟩
  | failed hplan =>
      rcases hplan with hplan | ⟨cause, -, rfl, -⟩
      · rw [hplan]
        exact Or.inl rfl
      · exact Or.inr ⟨cause, rfl⟩

/-- An operation ends as is foretold, or the guest stops. -/
theorem outcome_foretold (h : Serves sample s d) (op : Operation) :
    s.outcome op = s.forecast d op ∨ Stopped (s.outcome op) := by
  cases op with
  | setData p => exact setData_foretold h p
  | evaluate target p => exact evaluate_foretold h target p
  | decide p =>
      rw [outcome_decide, forecast]
      exact (evaluate_foretold h .main p).imp (congrArg _) (stopped_map _)
  | addPath | removePath => exact updates_foretold h rfl

/-! ## Twins -/

/-- Two sessions of the sample that serve the same data at the same place. -/
structure Twins (config : Config) (registry registry' : Registry) (d : Value) (s t : Session) :
    Prop extends Alike s t where
  serves : Serves sample s d
  serves' : Serves sample t d
  sampled : Sampled config registry s
  sampled' : Sampled config registry' t

/-- Whether an operation asks for the clock. -/
def Operation.AsksClock : Operation → Prop
  | .evaluate target _ => target.AsksClock
  | _ => False

/-- The registries are the same, or differ in a clock that the operation does not ask for. -/
def Untimed (registry registry' : Registry) (op : Operation) : Prop :=
  registry = registry' ∨ (SameBut registry registry' ∧ ¬ op.AsksClock)

theorem Twins.plannedResult (h : Twins config registry registry' d s t) {target : Target}
    {p : Payload} (htimed : Untimed registry registry' (.evaluate target p)) :
    s.plannedResult d target p = t.plannedResult d target p := by
  have hid : target.id? s = target.id? t :=
    id?_congr (h.sampled.entrypoints.trans h.sampled'.entrypoints.symm) target
  have hplanned (id : Option EntrypointId) (hchosen : target.id? s = .ok id)
      (bytes : List UInt8) : s.planned sample d id bytes = t.planned sample d id bytes := by
    rcases htimed with rfl | ⟨hregistry, htarget⟩
    · rw [planned, planned, h.sampled.services, h.sampled'.services, h.sampled.maxFuel,
        h.sampled'.maxFuel, h.data, h.checkpoint]
    · exact planned_alike hregistry h.sampled h.sampled' h.toAlike
        (chosen_untimed htarget h.sampled.entrypoints hchosen) bytes
  rw [Session.plannedResult, Session.plannedResult, ← hid]
  cases hchosen : target.id? s with
  | error e => rfl
  | ok id =>
      have hrest (bytes : List UInt8) :
          (s.planned sample d id bytes).1 = (t.planned sample d id bytes).1 :=
        congrArg Prod.fst (hplanned id hchosen bytes)
      exact congrArg (p.encode >>= ·) (funext hrest)

theorem Twins.plannedData (h : Twins config registry registry' d s t) (w : Value) :
    s.plannedData sample w = t.plannedData sample w := by
  rw [Session.plannedData, Session.plannedData, h.base]

theorem Twins.plannedUpdate (h : Twins config registry registry' d s t) (op : Operation) :
    op.plannedUpdate s sample = op.plannedUpdate t sample := by
  cases op with
  | addPath | removePath =>
      simp only [Operation.plannedUpdate, Session.plannedUpdate, h.checkpoint]
  | setData | evaluate | decide => rfl

/-- The same is foretold of twins. -/
theorem Twins.forecast (h : Twins config registry registry' d s t) {op : Operation}
    (htimed : Untimed registry registry' op) : s.forecast d op = t.forecast d op := by
  cases op with
  | setData p =>
      cases p with
      | unencodable => rfl
      | json w => simp only [Session.forecast, h.plannedData]
  | evaluate target p => exact h.plannedResult htimed
  | decide p =>
      have hmain : Untimed registry registry' (.evaluate .main p) := htimed
      exact congrArg (Except.map _) (h.plannedResult hmain)
  | addPath | removePath => simp only [Session.forecast, h.plannedUpdate]

theorem Twins.outcome (h : Twins config registry registry' d s t) {op : Operation}
    (htimed : Untimed registry registry' op) (hs : ¬ Stopped (s.outcome op))
    (ht : ¬ Stopped (t.outcome op)) : s.outcome op = t.outcome op := by
  rw [(outcome_foretold h.serves op).resolve_right hs,
    (outcome_foretold h.serves' op).resolve_right ht, h.forecast htimed]

/-- Sessions in which the same data was set are twins, whatever they were before. -/
theorem twins_of_renewed {s' t' : Session} (hs : Sampled config registry s)
    (ht : Sampled config registry' t) (h : Renewed sample s w s') (h' : Renewed sample t w t') :
    Twins config registry registry' w s' t' where
  base := by
    rw [h.base, h'.base]
    exact UInt32.toNat_inj.mp (hs.base.trans ht.base.symm)
  checkpoint := by
    rw [← UInt32.toNat_inj, h.checkpoint, h'.checkpoint, hs.base, ht.base]
  data := by
    rw [h.data, h'.data, hs.base, ht.base]
  serves := h.serves
  serves' := h'.serves
  sampled := hs.keep h.toFixed
  sampled' := ht.keep h'.toFixed

theorem Twins.still {s' t' : Session} (h : Twins config registry registry' d s t)
    (hs : Serves sample s' d) (hstill : Still s s') (ht : Serves sample t' d)
    (hstill' : Still t t') :
    Twins config registry registry' d s' t' where
  base := hstill.base.trans (h.base.trans hstill'.base.symm)
  checkpoint := hstill.checkpoint.trans (h.checkpoint.trans hstill'.checkpoint.symm)
  data := hstill.data.trans (h.data.trans hstill'.data.symm)
  serves := hs
  serves' := ht
  sampled := h.sampled.keep hstill.toFixed
  sampled' := h.sampled'.keep hstill'.toFixed

/-- Evaluations leave twins, even where the guest stops in one of them. -/
theorem Twins.next_evaluates (h : Twins config registry registry' d s t) {op : Operation}
    (hop : op.evaluates = true) : Twins config registry registry' d (s.next op) (t.next op) := by
  obtain ⟨hserves, hstill⟩ := h.serves.next_still hop
  obtain ⟨hserves', hstill'⟩ := h.serves'.next_still hop
  exact h.still hserves hstill hserves' hstill'

theorem Twins.next_setData (h : Twins config registry registry' d s t) {p : Payload}
    (hsame : s.outcome (.setData p) = t.outcome (.setData p)) :
    ∃ d', Twins config registry registry' d' (s.next (.setData p)) (t.next (.setData p)) := by
  cases p with
  | unencodable =>
      exact ⟨d, h.still h.serves.takePrinted (still_takePrinted s) h.serves'.takePrinted
        (still_takePrinted t)⟩
  | json w =>
      -- The twins are new ones: what was set stands behind the base, whatever was there before.
      rcases h.serves.next_setData w with ⟨hok, -, hs, -⟩ | ⟨e, herror, -, hs, -⟩ <;>
        rcases h.serves'.next_setData w with ⟨hok', -, ht, -⟩ | ⟨e', herror', -, ht, -⟩
      · exact ⟨w, twins_of_renewed h.sampled h.sampled' hs ht⟩
      · rw [hok, herror'] at hsame
        cases hsame
      · rw [herror, hok'] at hsame
        cases hsame
      · exact ⟨.object [], twins_of_renewed h.sampled h.sampled' hs ht⟩

theorem Twins.next_updates (h : Twins config registry registry' d s t) {op : Operation}
    (hop : op.updates = true) (hsame : s.outcome op = t.outcome op) :
    Twins config registry registry' d (s.next op) (t.next op) := by
  obtain ⟨r, houtcome, hends⟩ := h.serves.next_updates hop
  obtain ⟨r', houtcome', hends'⟩ := h.serves'.next_updates hop
  rw [houtcome, houtcome'] at hsame
  rw [← h.plannedUpdate op] at hends'
  cases r with
  | ok _ =>
      cases r' with
      | error e => cases hsame
      | ok _ =>
          cases hends with
          | done hplan hs =>
              cases hends' with
              | done hplan' ht =>
                  exact {
                    base := hs.base.trans (h.base.trans ht.base.symm)
                    checkpoint := by
                      rw [← UInt32.toNat_inj, hs.checkpoint, ht.checkpoint, h.checkpoint]
                    data := hs.data.trans (h.data.trans ht.data.symm)
                    serves := hs.serves
                    serves' := ht.serves
                    sampled := h.sampled.keep hs.toFixed
                    sampled' := h.sampled'.keep ht.toFixed }
  | error e =>
      cases r' with
      | ok _ => cases hsame
      | error e' =>
          have hs := hends.untouched
          have ht := hends'.untouched
          exact h.still (hs.serves h.serves) hs.still (ht.serves h.serves') ht.still

/-! ## Going on -/

/-- Two sessions give the same outcomes to the operations of a list, one after
the other. Nothing is said of an operation that a guest stops in. It goes on
after an evaluation in any case, and after any other operation that came to the
same in both. Where it did not, a guest stopped in one of the sessions while it
was given something, so the two may have different data from then on. -/
def Agree (s t : Session) : List Operation → Prop
  | [] => True
  | op :: ops =>
      (¬ Stopped (s.outcome op) → ¬ Stopped (t.outcome op) → s.outcome op = t.outcome op) ∧
      (op.evaluates = true ∨ s.outcome op = t.outcome op → Agree (s.next op) (t.next op) ops)

theorem Twins.agree (h : Twins config registry registry' d s t) {ops : List Operation}
    (htimed : ∀ op ∈ ops, Untimed registry registry' op) : Agree s t ops := by
  induction ops generalizing d s t with
  | nil => trivial
  | cons op ops ih =>
      have hrest : ∀ op ∈ ops, Untimed registry registry' op :=
        fun op hop => htimed op (List.mem_cons_of_mem _ hop)
      refine ⟨h.outcome (htimed op List.mem_cons_self), fun hgoes => ?_⟩
      rcases op.families with hop | hop | ⟨p, rfl⟩
      · exact ih (h.next_evaluates hop) hrest
      · have hsame := hgoes.resolve_left fun hevaluates => by
          rw [op.not_updates hevaluates] at hop
          cases hop
        exact ih (h.next_updates hop hsame) hrest
      · obtain ⟨d', hnext⟩ := h.next_setData (hgoes.resolve_left Bool.false_ne_true)
        exact ih hnext hrest

end PolicyHost.Session
