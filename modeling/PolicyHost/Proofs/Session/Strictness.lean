import PolicyHost.Proofs.Guest.Strictness
import PolicyHost.Proofs.Session.Taint

/-!
# Strict and lenient sessions

The same operations on the same guest, with a strict host and with a lenient one.
`withStrict` changes the host of a session and nothing else. An act is `Compared`
if under the strict host it ends with the failure of a builtin or does what it
does under the lenient one, and all acts are, except for setting data.

That reports why the guest did not take the data, and keeps to itself why it did
not take the empty object afterwards. A guest whose parser calls builtins can let
one fail there, so that the strict session is tainted and the lenient one is not,
while both report the same (`reload_fails_unreported`). Up to the first operation
that fails with a builtin, in this way or openly, the two sessions report the same
and stay the same (`strict_together_lenient`).
-/

namespace PolicyHost.Session

open Json Guest

variable {α β : Type} {work : Act α} {next : α → Act β} {s t : Session} {v : Value}

/-- The session under a host that is strict, or is not. -/
def withStrict (s : Session) (strict : Bool) : Session :=
  { s with services := { s.services with strict } }

/-! ## Acts under two hosts -/

/-- An act on a strict session leaves it strict, and it ends with the failure of a builtin or does
the same on the lenient session. -/
def Compared (work : Act α) : Prop :=
  ∀ s : Session, s.services.strict = true → (work.run s).2.services.strict = true ∧
    (FailsBuiltin (work.run s).1 ∨
      work.run (s.withStrict false) = ((work.run s).1, (work.run s).2.withStrict false))

namespace Compared

theorem cases (h : Compared work) (hs : s.services.strict = true) {r : Except Error α}
    (hrun : work.run s = (r, t)) : t.services.strict = true ∧
      (FailsBuiltin r ∨ work.run (s.withStrict false) = (r, t.withStrict false)) := by
  have hboth := h s hs
  rw [hrun] at hboth
  exact hboth

theorem throw (e : Error) : Compared (throw e : Act α) :=
  fun _ hs => ⟨hs, Or.inr rfl⟩

theorem lift (x : Except Error α) : Compared (x : Act α) := by
  cases x with
  | ok a => exact fun _ hs => ⟨hs, Or.inr rfl⟩
  | error e => exact throw e

/-- A change that has nothing to do with the services. -/
theorem modify {f : Session → Session} (hkept : ∀ s, (f s).services = s.services)
    (hf : ∀ s, f (s.withStrict false) = (f s).withStrict false) :
    Compared (modify f : Act PUnit) := by
  intro s hs
  rw [run_modify, run_modify, hf]
  exact ⟨(congrArg Services.strict (hkept s)).trans hs, Or.inr rfl⟩

theorem get {next : Session → Act β}
    (hread : ∀ s, next (s.withStrict false) = next s) (hnext : ∀ s, Compared (next s)) :
    Compared (get >>= next) := by
  intro s hs
  rw [run_get_bind, run_get_bind, hread]
  exact hnext s s hs

theorem bind (h : Compared work) (hnext : ∀ a, Compared (next a)) : Compared (work >>= next) := by
  intro s hs
  cases hrun : work.run s with
  | mk r t =>
      obtain ⟨ht, hends⟩ := h.cases hs hrun
      cases r with
      | ok a =>
          rcases hends with ⟨_, _, hfails⟩ | hsame
          · cases hfails
          · rw [run_bind_of_ok hrun, run_bind_of_ok hsame]
            exact hnext a t ht
      | error e =>
          rw [run_bind_of_error hrun]
          refine ⟨ht, ?_⟩
          rcases hends with hfails | hsame
          · exact Or.inl hfails.error
          · exact Or.inr (run_bind_of_error hsame)

theorem onGuest {f : Guest → Host → Run α}
    (h : ∀ g strict lenient, Host.Alike strict lenient → Alike (f g strict) (f g lenient)) :
    Compared (onGuest f) := by
  intro s hs
  obtain ⟨guest, ⟨table, strict⟩, entrypoints, maxFuel, store, data, base, checkpoint, tainted⟩ := s
  obtain rfl : strict = true := hs
  refine ⟨rfl, ?_⟩
  rcases h guest _ _ (host_alike guest table) store with hfails | hsame
  · exact Or.inl hfails
  · refine Or.inr (onGuest_run f ?_)
    exact hsame

theorem code (f : Guest → Code α) :
    Compared (Session.onGuest fun g host => (f g).invoke host) :=
  .onGuest fun g _ _ h => Code.invoke_alike h (f g)

theorem load (v : Value) : Compared (Session.onGuest fun g host => load g host v) :=
  .onGuest fun _ _ _ h => load_alike h v

theorem heapPointer : Compared heapPointer :=
  .code fun g => g.getHeap

theorem rewind {place : Session → UInt32} (hplace : ∀ s, place (s.withStrict false) = place s) :
    Compared (rewind place) :=
  .bind (.modify (fun _ => rfl) fun _ => rfl) fun _ =>
    .get (fun s => congrArg setHeap (hplace s)) fun s => .code fun g => g.setHeap (place s)

/-- After an attempt it goes on from its result or its error. When a builtin failed in the attempt,
it has to go on to that failure. -/
theorem attempt {next : Except Error α → Act β} (h : Compared work)
    (hnext : ∀ r, Compared (next r))
    (hfails : ∀ e t, FailsBuiltin (.error e : Except Error α) →
      FailsBuiltin ((next (.error e)).run t).1) : Compared (attempt work >>= next) := by
  intro s hs
  cases hrun : work.run s with
  | mk r t =>
      obtain ⟨ht, hends⟩ := h.cases hs hrun
      by_cases hcrash : ∃ text, r = .error (.crashed text)
      · obtain ⟨text, rfl⟩ := hcrash
        rw [attempt_crashed hrun]
        rcases hends with ⟨_, _, hfails⟩ | hsame
        · cases hfails
        · exact ⟨ht, Or.inr (attempt_crashed hsame)⟩
      · have hends' (text : String) (hr : r = .error (.crashed text)) : False := hcrash ⟨text, hr⟩
        rw [attempt_run hrun hends']
        rcases hends with ⟨name, text, rfl⟩ | hsame
        · exact ⟨(hnext _ t ht).1, Or.inl (hfails _ t ⟨name, text, rfl⟩)⟩
        · rw [attempt_run hsame hends']
          exact hnext r t ht

end Compared

/-! ## Everything but setting data -/

theorem prepare_compared : Compared prepare :=
  .bind (.modify (fun _ => rfl) fun _ => rfl) fun _ => .bind (.load _) fun _ =>
    .bind .heapPointer fun _ => .modify (fun _ => rfl) fun _ => rfl

theorem loadEmpty_compared : Compared loadEmpty :=
  .get (fun _ => rfl) fun s => .bind (.code fun g => g.setHeap s.base) fun _ =>
    .bind (.load _) fun _ => .bind (.modify (fun _ => rfl) fun _ => rfl) fun _ =>
      .bind .heapPointer fun _ => .modify (fun _ => rfl) fun _ => rfl

theorem evaluateText_alike {g : Guest} {strict lenient : Host} (h : strict.Alike lenient)
    (data : UInt32) (id : Option EntrypointId) (bytes : List UInt8) :
    Alike (evaluateText data id bytes g strict) (evaluateText data id bytes g lenient) := by
  have hcall {α : Type} (code : Code α) := code.invoke_alike h
  have hrest (context : UInt32) :
      Alike
        (do
          let code ← (g.eval context).invoke strict
          if code ≠ 0 then stop (.evaluationCode code)
          let result ← (g.getResult context).invoke strict
          dump g strict result)
        (do
          let code ← (g.eval context).invoke lenient
          if code ≠ 0 then stop (.evaluationCode code)
          let result ← (g.getResult context).invoke lenient
          dump g lenient result) := by
    refine .bind (hcall _) fun code => ?_
    split
    · exact .bind (.refl _) fun _ => .bind (hcall _) fun result => dump_alike h result
    · exact .bind (hcall _) fun result => dump_alike h result
  refine .bind (loadText_alike h bytes) fun input => .bind (hcall _) fun context => ?_
  refine .bind (hcall _) fun _ => .bind (hcall _) fun _ => ?_
  cases id with
  | none => exact hrest context
  | some id => exact .bind (.refl _) fun _ => .bind (hcall _) fun _ => hrest context

theorem conclude_compared (r : Except Error Value) : Compared (conclude r) := by
  intro s hs
  rw [conclude_run, conclude_run]
  exact ⟨hs, Or.inr rfl⟩

theorem evaluate_compared (target : Target) (p : Payload) : Compared (evaluate target p) := by
  refine .get (fun s => by cases target <;> rfl) fun s => ?_
  refine .bind (.lift _) fun id => .bind (.lift _) fun bytes => ?_
  refine .bind (.rewind fun _ => rfl) fun _ => .get (fun _ => rfl) fun s => ?_
  have hask : Compared (attempt (onGuest (evaluateText s.data id bytes)) >>= conclude) := by
    refine .attempt (.onGuest fun g _ _ h => evaluateText_alike h s.data id bytes)
      conclude_compared fun e t he => ?_
    rw [conclude_run]
    exact he
  exact hask

theorem update_compared (path : List String)
    {apply : (data path : UInt32) → Guest → Host → Run Int}
    (happly : ∀ data place g strict lenient, Host.Alike strict lenient →
      Alike (apply data place g strict) (apply data place g lenient)) :
    Compared (update path apply) := by
  have hrecord : Compared (heapPointer >>= fun checkpoint =>
      modify fun s : Session => { s with checkpoint }) :=
    .bind .heapPointer fun _ => .modify (fun _ => rfl) fun _ => rfl
  refine .bind (.rewind fun _ => rfl) fun _ => .bind (.load _) fun place => ?_
  refine .get (fun _ => rfl) fun s => .bind (.onGuest (happly s.data place)) fun code => ?_
  split
  · refine .get (fun _ => rfl) fun s => .bind (.code fun g => g.setHeap s.checkpoint) fun _ => ?_
    exact .bind (.throw _) fun _ => hrecord
  · exact hrecord

theorem addPath_compared (path : List String) (p : Payload) : Compared (addPath path p) := by
  refine .get (fun _ => rfl) fun _ => .bind (.lift _) fun _ => .bind (.lift _) fun bytes => ?_
  refine update_compared path fun data place g strict lenient h => ?_
  exact .bind (loadText_alike h bytes) fun value => Code.invoke_alike h _

theorem removePath_compared (path : List String) : Compared (removePath path) :=
  .get (fun _ => rfl) fun _ => .bind (.lift _) fun _ =>
    update_compared path fun _ _ _ _ _ h => Code.invoke_alike h _

/-! ## Setting data -/

/-- When the empty object is loaded alike, the rest is alike. -/
theorem fallBack_same {e : Error} {r : Except Error Unit} (h : loadEmpty.run s = (r, t))
    (hsame : loadEmpty.run (s.withStrict false) = (r, t.withStrict false)) :
    (fallBack e).run (s.withStrict false) =
      (((fallBack e).run s).1, ((fallBack e).run s).2.withStrict false) := by
  cases r with
  | ok _ => rw [fallBack_taken e h, fallBack_taken e hsame]
  | error e' =>
      by_cases hcrash : ∃ text, e' = .crashed text
      · obtain ⟨text, rfl⟩ := hcrash
        rw [fallBack_crashed e h, fallBack_crashed e hsame]
      · have hends' (text : String) (he : e' = .crashed text) : False := hcrash ⟨text, he⟩
        rw [fallBack_refused e h hends', fallBack_refused e hsame hends']
        rfl

/-- A builtin failed in the loading of data, or of the empty object in its place. -/
def FailsLoading (s : Session) (v : Value) : Prop :=
  ∃ e r, Replaces s v e r ∧ (FailsBuiltin (.error e : Except Error Unit) ∨ FailsBuiltin r)

theorem record_compared (data : UInt32) :
    Compared (do
      modify fun s : Session => { s with data }
      let checkpoint ← heapPointer
      modify fun s : Session => { s with checkpoint, tainted := false }) :=
  .bind (.modify (fun _ => rfl) fun _ => rfl) fun _ => .bind .heapPointer fun _ =>
    .modify (fun _ => rfl) fun _ => rfl

/-- The guest did not take data. A builtin fails when the empty object is loaded, or what is done
about it is the same under the lenient host. -/
theorem fallBack_compared (hs : s.services.strict = true) {e : Error} {refused : Store}
    (h : Brings s v (.error e) refused) (hends : ∀ text, e ≠ .crashed text) :
    let u : Session := { s with store := refused, tainted := e.taints }
    FailsLoading s v ∨ (fallBack e).run (u.withStrict false) =
      (((fallBack e).run u).1, ((fallBack e).run u).2.withStrict false) := by
  intro u
  cases hempty : loadEmpty.run u with
  | mk r t =>
      obtain ⟨-, hfails | hsame⟩ := loadEmpty_compared.cases (s := u) hs hempty
      · exact Or.inl ⟨e, r, ⟨refused, h, hends, congrArg Prod.fst hempty⟩, Or.inr hfails⟩
      · exact Or.inr (fallBack_same hempty hsame)

theorem bringIn_compared (hs : s.services.strict = true) {moved : Store}
    (hmoved : (rewind (·.base)).run s = (.ok (), { s with store := moved })) :
    let u : Session := { s with store := moved }
    FailsBuiltin ((bringIn v).run u).1 ∨ FailsLoading s v ∨
      (bringIn v).run (u.withStrict false) =
        (((bringIn v).run u).1, ((bringIn v).run u).2.withStrict false) := by
  intro u
  rw [bringIn]
  cases hload : (load s.guest s.host v).run moved with
  | mk q loaded =>
      have hact := onGuest_run (fun g host => load g host v) (s := u) hload
      have hbrings : Brings s v q loaded := ⟨moved, hmoved, hload⟩
      obtain ⟨-, hends⟩ := (Compared.load v).cases (s := u) hs hact
      by_cases hcrash : ∃ text, q = .error (.crashed text)
      · obtain ⟨text, rfl⟩ := hcrash
        rw [attempt_crashed hact]
        rcases hends with ⟨_, _, hfails⟩ | hsame
        · cases hfails
        · exact Or.inr (Or.inr (attempt_crashed hsame))
      · have hends' (text : String) (hq : q = .error (.crashed text)) : False := hcrash ⟨text, hq⟩
        rcases hends with ⟨name, text, rfl⟩ | hsame
        · have hother (crash : String) : Error.builtinFailed name text ≠ .crashed crash := by
            intro he
            cases he
          refine Or.inr (Or.inl ⟨_, _, ⟨loaded, hbrings, hother, rfl⟩, Or.inl ?_⟩)
          exact ⟨name, text, rfl⟩
        · rw [attempt_run hact hends', attempt_run hsame hends']
          cases q with
          | ok data =>
              have hrecord := (record_compared data { s with store := loaded } hs).2
              exact hrecord.imp_right Or.inr
          | error e =>
              have hends (text : String) (he : e = .crashed text) : False :=
                hends' text (congrArg Except.error he)
              exact Or.inr (fallBack_compared hs hbrings hends)

/-- Setting data under the strict host ends with the failure of a builtin, or has one fail in a
loading, or does the same under the lenient host. -/
theorem setData_compared (hs : s.services.strict = true) (v : Value) :
    FailsBuiltin ((setData (.json v)).run s).1 ∨ FailsLoading s v ∨
      (setData (.json v)).run (s.withStrict false) =
        (((setData (.json v)).run s).1, ((setData (.json v)).run s).2.withStrict false) := by
  rw [setData, Payload.value, run_bind_of_ok (lift_run rfl), run_bind_of_ok (lift_run rfl)]
  have hrewind : Compared (rewind (·.base)) := .rewind fun _ => rfl
  cases hmoved : (rewind (·.base)).run s with
  | mk q u =>
      obtain ⟨moved, rfl⟩ := of_rewind_run hmoved
      obtain ⟨-, hends⟩ := hrewind.cases hs hmoved
      cases q with
      | error e =>
          rw [run_bind_of_error hmoved]
          rcases hends with hfails | hsame
          · exact Or.inl hfails.error
          · exact Or.inr (Or.inr (run_bind_of_error hsame))
      | ok _ =>
          rcases hends with ⟨_, _, hfails⟩ | hsame
          · cases hfails
          · rw [run_bind_of_ok hmoved, run_bind_of_ok hsame]
            exact bringIn_compared hs hmoved

/-! ## Every operation -/

/-- In an operation a builtin failed: it is reported, or it was in the loading of data. -/
def Falters (s : Session) (op : Operation) : Prop :=
  FailsBuiltin (s.outcome op) ∨ ∃ v, op = .setData (.json v) ∧ FailsLoading s v

theorem perform_compared (hs : s.services.strict = true) (op : Operation) :
    Falters s op ∨ (perform op).run (s.withStrict false) =
      (((perform op).run s).1, ((perform op).run s).2.withStrict false) := by
  have hreport {work : Act Value} (h : Compared work) (hwork : perform op = work) :
      Falters s op ∨ (perform op).run (s.withStrict false) =
        (((perform op).run s).1, ((perform op).run s).2.withStrict false) := by
    rcases (h s hs).2 with hfails | hsame
    · exact Or.inl (Or.inl (by rwa [outcome, hwork]))
    · exact Or.inr (by rwa [hwork])
  have hpure (a : Value) : Compared (pure a : Act Value) := fun _ hs => ⟨hs, Or.inr rfl⟩
  cases op with
  | setData p =>
      cases p with
      | unencodable => exact Or.inr rfl
      | json v =>
          cases hrun : (setData (.json v)).run s with
          | mk r t =>
              have hrun' := run_bind_pure (f := fun _ => Value.null) hrun
              have hends := setData_compared hs v
              rw [hrun] at hends
              rcases hends with hfails | hfails | hsame
              · refine Or.inl (Or.inl ?_)
                rw [(next_of_run (.setData (.json v)) hrun').2]
                exact hfails.map
              · exact Or.inl (Or.inr ⟨v, rfl, hfails⟩)
              · refine Or.inr ?_
                rw [perform, hrun']
                exact run_bind_pure hsame
  | evaluate target p => exact hreport (evaluate_compared target p) rfl
  | decide p => exact hreport (.bind (evaluate_compared .main p) fun _ => hpure _) rfl
  | addPath path p => exact hreport (.bind (addPath_compared path p) fun _ => hpure _) rfl
  | removePath path => exact hreport (.bind (removePath_compared path) fun _ => hpure _) rfl

/-- The lines that the guest prints during an operation. -/
def lines (s : Session) (op : Operation) : List String :=
  ((perform op).run s).2.takePrinted.1

/-- Two sessions perform operations: up to the first one in which a builtin fails in the first
session, they report the same, print the same, and become the same but for the host. They can be
seen to be the same, too, unless a builtin fails when the guest is asked for its heap pointer. -/
def Together (s t : Session) : List Operation → Prop
  | [] => True
  | op :: ops => Falters s op ∨
      (t.outcome op = s.outcome op ∧ t.lines op = s.lines op ∧
        t.next op = (s.next op).withStrict false ∧
        (FailsBuiltin (s.next op).look.1.heap ∨ (t.next op).look.1 = (s.next op).look.1) ∧
        Together (s.next op) (t.next op) ops)

theorem look_compared (hs : s.services.strict = true) :
    FailsBuiltin s.look.1.heap ∨ (s.withStrict false).look.1 = s.look.1 := by
  cases hrun : heapPointer.run s with
  | mk r t =>
      obtain ⟨-, hfails | hsame⟩ := Compared.heapPointer.cases hs hrun
      · refine Or.inl ?_
        simp only [look, hrun]
        exact hfails.map
      · refine Or.inr ?_
        simp only [look, hrun, hsame]
        rfl

/-- Induction over the operations: while no builtin failed, the sessions are the same but for the
host, which stays strict. -/
theorem together (hs : s.services.strict = true) (ops : List Operation) :
    Together s (s.withStrict false) ops := by
  induction ops generalizing s with
  | nil => trivial
  | cons op ops ih =>
      rcases perform_compared hs op with hfails | hsame
      · exact Or.inl hfails
      · have hnext : (s.withStrict false).next op = (s.next op).withStrict false := by
          rw [next, next, hsame]
          rfl
        have hstrict : (s.next op).services.strict = true :=
          (congrArg Services.strict (kept_next s op).services).trans hs
        refine Or.inr ⟨?_, ?_, hnext, ?_, ?_⟩
        · rw [outcome, outcome, hsame]
        · rw [lines, lines, hsame]
          rfl
        · rw [hnext]
          exact look_compared hstrict
        · rw [hnext]
          exact ih hstrict

/-! ## Lenient sessions -/

theorem OperationFault.not_failed {services : Services} (hlenient : services.strict = false)
    {name text : String} : ¬ OperationFault services (.builtinFailed name text) := by
  intro h
  cases h with
  | guest h => exact h.not_failed hlenient

theorem lenient_outcome (hlenient : s.services.strict = false) (op : Operation) :
    ¬ FailsBuiltin (s.outcome op) := by
  rintro ⟨name, text, hfails⟩
  exact ((perform_within op).error _ hfails).not_failed hlenient

theorem lenient_look (hlenient : s.services.strict = false) : ¬ FailsBuiltin s.look.1.heap := by
  rintro ⟨name, text, hfails⟩
  have hheap : (heapPointer.run s).1 = .error (.builtinFailed name text) := map_eq_error hfails
  exact ((Abides.heapPointer kept_frame s rfl).error _ hheap).not_failed hlenient

theorem lenient_launch {g : Guest} {config : Config} {registry : Builtin.Registry}
    (hlenient : config.strict = false) : ¬ FailsBuiltin (launch g config registry).1 := by
  rintro ⟨name, text, hfails⟩
  rw [launch] at hfails
  split at hfails
  · next e store hstart =>
      cases hfails
      have hfault := (instantiate_within moves_frame config registry).error_of_run hstart
      exact hfault.not_failed hlenient
  · next tables store hstart =>
      cases hprepare : prepare.run (ofTables g config tables store) with
      | mk r t =>
          rw [hprepare] at hfails
          have hr : r = .error (.builtinFailed name text) := map_eq_error hfails
          cases hr
          exact (prepare_within.error_of_run hprepare).not_failed hlenient

/-! ## Launches -/

theorem launch_compared (g : Guest) (config : Config) (registry : Builtin.Registry) :
    let strict := launch g { config with strict := true } registry
    FailsBuiltin strict.1 ∨ launch g { config with strict := false } registry =
      (strict.1.map (·.withStrict false), strict.2) := by
  intro strict
  cases hstart : (g.instantiate config registry).run (g.initialStore config) with
  | mk r store =>
      have hunder (strict : Bool) : (g.instantiate { config with strict } registry).run
          (g.initialStore { config with strict }) = (r, store) := by
        rw [instantiate_strict]
        exact hstart
      cases r with
      | error e =>
          refine Or.inr ?_
          simp only [strict, launch, hunder]
          rfl
      | ok tables =>
          cases hprepare : prepare.run (ofTables g { config with strict := true } tables store) with
          | mk r t =>
              obtain ⟨-, hfails | hsame⟩ := prepare_compared.cases rfl hprepare
              · refine Or.inl ?_
                simp only [strict, launch, hunder, hprepare]
                exact hfails.map
              · have hprepare' : prepare.run
                    (ofTables g { config with strict := false } tables store) =
                      (r, t.withStrict false) := hsame
                refine Or.inr ?_
                simp only [strict, launch, hunder, hprepare, hprepare']
                cases r <;> rfl

/-- On every guest and for all operations, a strict and a lenient session that are launched alike
stay together up to the first operation in which a builtin fails, and the lenient session never
reports the failure of a builtin. -/
theorem strict_together_lenient (g : Guest) (config : Config) (registry : Builtin.Registry)
    (ops : List Operation) :
    let strict := launch g { config with strict := true } registry
    let lenient := launch g { config with strict := false } registry
    (FailsBuiltin strict.1 ∨ (lenient = (strict.1.map (·.withStrict false), strict.2) ∧
        ∀ s, strict.1 = .ok s → Together s (s.withStrict false) ops)) ∧
      ¬ FailsBuiltin lenient.1 ∧
      ∀ t, lenient.1 = .ok t → ∀ op, ¬ FailsBuiltin ((t.after ops).outcome op) ∧
        ¬ FailsBuiltin (t.after ops).look.1.heap := by
  intro strict lenient
  have hstrict (config : Config) {s : Session} (h : (launch g config registry).1 = .ok s) :
      s.services.strict = config.strict := by
    cases hlaunch : launch g config registry with
    | mk r lines =>
        rw [hlaunch] at h
        cases h
        obtain ⟨tables, u, data, v, base, w, -, -, -, rfl⟩ := launch_ok hlaunch
        rfl
  refine ⟨?_, lenient_launch rfl, fun t ht op => ?_⟩
  · rcases launch_compared g config registry with hfails | hsame
    · exact Or.inl hfails
    · exact Or.inr ⟨hsame, fun s hs => together (hstrict _ hs) ops⟩
  · have hlenient : (t.after ops).services.strict = false :=
      (congrArg Services.strict (kept_after t ops).services).trans (hstrict _ ht)
    exact ⟨lenient_outcome hlenient op, lenient_look hlenient⟩

/-- A guest may refuse data, and call a builtin that fails when it is given the empty object in its
place. Both sessions report the refusal, and only the strict one is tainted. -/
theorem reload_fails_unreported :
    let registry : Builtin.Registry := .standard 0
    let op : Operation := .setData (.json (.ofInt 1))
    ∃ strict lenient lines lines',
      launch fickle { strict := true } registry = (.ok strict, lines) ∧
      launch fickle { strict := false } registry = (.ok lenient, lines') ∧
      strict.outcome op = .error (.refusedText ⟨261⟩ 1) ∧
      lenient.outcome op = .error (.refusedText ⟨261⟩ 1) ∧
      (strict.next op).tainted = true ∧ (lenient.next op).tainted = false := by
  intro registry op
  have hlaunch (strict : Bool) := launch_of_any fickle { strict } registry
    (fun s => failsWith (s.outcome op) (.refusedText ⟨261⟩ 1) && (s.next op).tainted == strict)
  obtain ⟨s, lines, hs, hseen⟩ := hlaunch true (by decide +kernel)
  obtain ⟨t, lines', ht, hseen'⟩ := hlaunch false (by decide +kernel)
  simp only [Bool.and_eq_true, beq_iff_eq] at hseen hseen'
  exact ⟨s, t, lines, lines', hs, ht, eq_error_of_failsWith hseen.1,
    eq_error_of_failsWith hseen'.1, hseen.2, hseen'.2⟩

end PolicyHost.Session
