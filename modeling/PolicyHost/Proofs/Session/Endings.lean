import PolicyHost.Proofs.Guest.Placement
import PolicyHost.Proofs.Session.Effects

/-!
# How operations end

For every kind of operation the ways to end are listed: `Evaluates` and `SetsData`
for any guest, and `Updates` for one that is described. They have one constructor
for each way, which says what is left of the session then and keeps the runs that
led there, so that what a run placed or failed with can be asked about later.

All operations begin by moving the heap pointer back (`rewind`), and in the end data
that was set is only recorded once the guest was asked where it ends. A guest can
fail in either of these calls too, if only because its fuel is used up.
-/

namespace PolicyHost.Session

open Json Guest

variable {α β : Type} {s t : Session}

theorem of_onGuest_run {f : Guest → Host → Run α} {r : Except Error α}
    (h : (onGuest f).run s = (r, t)) :
    ∃ u, (f s.guest s.host).run s.store = (r, u) ∧ t = { s with store := u } := by
  cases hrun : (f s.guest s.host).run s.store with
  | mk q u =>
      rw [onGuest_run f hrun] at h
      cases h
      exact ⟨u, rfl, rfl⟩

/-- Moving the heap pointer back is work with the guest. -/
theorem of_rewind_run {place : Session → UInt32} {r : Except Error Unit}
    (h : (rewind place).run s = (r, t)) : ∃ u, t = { s with store := u } := by
  rw [rewind, refuel, run_modify_bind, run_get_bind] at h
  obtain ⟨u, -, rfl⟩ := of_onGuest_run h
  exact ⟨u, rfl⟩

/-! ## Launches -/

section

variable {g : Guest} {config : Config} {registry : Builtin.Registry} {lines : List String}

/-- What a launch comes from: the guest was started, took the empty object, and told where its
heap pointer is. -/
theorem launch_ok (h : launch g config registry = (.ok s, lines)) : ∃ tables u data v base w,
    (g.instantiate config registry).run (g.initialStore config) = (.ok tables, u) ∧
    (load g (g.host ⟨some tables.builtins, config.strict⟩) (.object [])).run
      { u with fuel := config.maxFuel } = (.ok data, v) ∧
    (g.getHeap.invoke (g.host ⟨some tables.builtins, config.strict⟩)).run v = (.ok base, w) ∧
    s = { ofTables g config tables { w with printed := [] } with
      data, base, checkpoint := base } := by
  rw [launch] at h
  split at h
  · cases h
  · next tables u hstart =>
      cases hprepare : prepare.run (ofTables g config tables u) with
      | mk r t =>
          rw [hprepare] at h
          cases r with
          | error e => cases h
          | ok _ =>
              cases h
              rw [prepare, refuel, run_modify_bind] at hprepare
              obtain ⟨data, s₁, hload, hrest⟩ := run_bind_eq_ok hprepare
              obtain ⟨base, s₂, hpointer, hrecord⟩ := run_bind_eq_ok hrest
              obtain ⟨v, hwork, rfl⟩ := of_onGuest_run hload
              obtain ⟨w, htells, rfl⟩ := of_onGuest_run hpointer
              cases hrecord
              exact ⟨tables, u, data, v, base, w, hstart, hwork, htells, rfl⟩

theorem launch_checkpoint (h : launch g config registry = (.ok s, lines)) :
    s.checkpoint = s.base := by
  obtain ⟨tables, u, data, v, base, w, -, -, -, rfl⟩ := launch_ok h
  rfl

/-- Everything that a launch has the guest do are moves. -/
theorem launch_moves (h : launch g config registry = (.ok s, lines)) :
    Moves (g.initialStore config) s.store := by
  obtain ⟨tables, u, data, v, base, w, hstart, hload, htells, rfl⟩ := launch_ok h
  have hstarted := (instantiate_within moves_frame config registry).state_of_run hstart
  have hloaded := (Host.Within.load moves_frame (host_within moves_frame) _ _).state_of_run hload
  have htold := (Code.invoke_within moves_frame (host_within moves_frame) _ _).state_of_run htells
  exact (((hstarted.trans (moves_frame.fuel rfl u config.maxFuel)).trans hloaded).trans htold).trans
    (moves_frame.printed w [])

end

/-! ## Evaluations -/

/-- Whether an outcome is that the guest stopped. -/
def halts : Except Error α → Bool
  | .ok _ => false
  | .error e => e.taints

/-- What an evaluation makes of how the guest ended. -/
def conclude : Except Error Value → Act Value
  | .ok v => pure v
  | .error e => do
      if e.taints then modify fun s => { s with tainted := true }
      throw e

theorem conclude_run (r : Except Error Value) (s : Session) :
    (conclude r).run s = (r, { s with tainted := s.tainted || halts r }) := by
  cases r with
  | ok v =>
      have htaint : (s.tainted || halts (Except.ok v : Except Error Value)) = s.tainted :=
        Bool.or_false _
      rw [htaint]
      rfl
  | error e =>
      rw [conclude, halts]
      cases e.taints with
      | true =>
          rw [Bool.or_true]
          rfl
      | false =>
          rw [Bool.or_false]
          rfl

/-- How an evaluation can end, and what is left of the session then. -/
inductive Evaluates (s : Session) : Except Error Value → Session → Prop
  /-- There is no such entrypoint or no text of the input. -/
  | declined {e : Error} (h : e.taints = false) : Evaluates s (.error e) s
  /-- The guest does not move its heap pointer back. -/
  | stuck {e : Error} {store : Store}
      (h : (rewind (·.checkpoint)).run s = (.error e, { s with store })) :
      Evaluates s (.error e) { s with store }
  /-- The guest was asked. -/
  | ran {r : Except Error Value} {moved store : Store} {tainted : Bool}
      (h : (rewind (·.checkpoint)).run s = (.ok (), { s with store := moved }))
      (htainted : tainted = (s.tainted || halts r)) :
      Evaluates s r { s with store, tainted }

/-- Once the heap pointer is back, the guest is asked and its end is looked at. -/
theorem ask_ends {moved : Store}
    (h : (rewind (·.checkpoint)).run s = (.ok (), { s with store := moved }))
    (id : Option EntrypointId) (bytes : List UInt8) {r : Except Error Value}
    (hrun : (attempt (onGuest (evaluateText s.data id bytes)) >>= conclude).run
      { s with store := moved } = (r, t)) : Evaluates s r t := by
  cases hwork : (evaluateText s.data id bytes s.guest s.host).run moved with
  | mk q u =>
      have hact := onGuest_run (evaluateText s.data id bytes) (s := { s with store := moved }) hwork
      by_cases hcrash : ∃ text, q = .error (.crashed text)
      · obtain ⟨text, rfl⟩ := hcrash
        rw [attempt_crashed hact] at hrun
        cases hrun
        exact .ran h (Bool.or_false _).symm
      · rw [attempt_run hact fun text ht => hcrash ⟨text, ht⟩, conclude_run] at hrun
        cases hrun
        exact .ran h rfl

theorem evaluate_ends {target : Target} {p : Payload} {r : Except Error Value}
    (hrun : (evaluate target p).run s = (r, t)) : Evaluates s r t := by
  rw [evaluate, run_get_bind] at hrun
  cases hid : target.id? s with
  | error e =>
      rw [hid, run_bind_of_error (lift_run_error rfl)] at hrun
      cases hrun
      cases target with
      | main | numbered => cases hid
      | named name =>
          rw [Target.id?] at hid
          split at hid
          · cases hid
          · cases hid
            exact .declined rfl
  | ok id =>
      rw [hid, run_bind_of_ok (lift_run rfl)] at hrun
      cases p with
      | unencodable =>
          rw [Payload.encode, run_bind_of_error (lift_run_error rfl)] at hrun
          cases hrun
          exact .declined rfl
      | json v =>
          rw [Payload.encode, run_bind_of_ok (lift_run rfl)] at hrun
          cases hmoved : (rewind (·.checkpoint)).run s with
          | mk q u =>
              obtain ⟨moved, rfl⟩ := of_rewind_run hmoved
              cases q with
              | error e =>
                  rw [run_bind_of_error hmoved] at hrun
                  cases hrun
                  exact .stuck hmoved
              | ok _ =>
                  rw [run_bind_of_ok hmoved, run_get_bind] at hrun
                  exact ask_ends hmoved id (encode v) hrun

/-! ## Setting data -/

/-- With the heap pointer back at the base a value was brought to the guest, with an outcome. -/
def Brings (s : Session) (v : Value) (r : Except Error UInt32) (u : Store) : Prop :=
  ∃ moved, (rewind (·.base)).run s = (.ok (), { s with store := moved }) ∧
    (load s.guest s.host v).run moved = (r, u)

theorem Brings.unique {v : Value} {r r' : Except Error UInt32} {u u' : Store}
    (h : Brings s v r u) (h' : Brings s v r' u') : r = r' ∧ u = u' := by
  obtain ⟨moved, hmoved, hload⟩ := h
  obtain ⟨moved', hmoved', hload'⟩ := h'
  rw [hmoved] at hmoved'
  cases hmoved'
  rw [hload] at hload'
  cases hload'
  exact ⟨rfl, rfl⟩

/-- How setting data can end, and what is left of the session then. -/
inductive SetsData (s : Session) : Payload → Except Error Unit → Session → Prop
  /-- There is no text of the data. -/
  | declined : SetsData s .unencodable (.error (.transfer .unencodable)) s
  /-- The guest does not move its heap pointer back. -/
  | stuck {v : Value} {e : Error} {store : Store}
      (h : (rewind (·.base)).run s = (.error e, { s with store })) :
      SetsData s (.json v) (.error e) { s with store }
  /-- The guest takes the data, and tells where it ends. -/
  | taken {v : Value} {data checkpoint : UInt32} {loaded store : Store}
      (h : Brings s v (.ok data) loaded)
      (htells : (s.guest.getHeap.invoke s.host).run loaded = (.ok checkpoint, store)) :
      SetsData s (.json v) (.ok ()) { s with store, data, checkpoint, tainted := false }
  /-- The guest takes the data, and does not tell where it ends. -/
  | untold {v : Value} {data : UInt32} {e : Error} {loaded store : Store}
      (h : Brings s v (.ok data) loaded)
      (htells : (s.guest.getHeap.invoke s.host).run loaded = (.error e, store)) :
      SetsData s (.json v) (.error e) { s with store, data }
  /-- The host goes down. -/
  | crashed {v : Value} {text : String} {store : Store}
      (h : Brings s v (.error (.crashed text)) store) :
      SetsData s (.json v) (.error (.crashed text)) { s with store }
  /-- The guest does not take the data, and takes the empty object. -/
  | replaced {v : Value} {e : Error} {refused : Store} {t : Session}
      (h : Brings s v (.error e) refused) (hends : ∀ text, e ≠ .crashed text)
      (hempty : loadEmpty.run { s with store := refused, tainted := e.taints } = (.ok (), t)) :
      SetsData s (.json v) (.error e) t
  /-- The guest takes neither. -/
  | lost {v : Value} {e e' : Error} {refused : Store} {t : Session}
      (h : Brings s v (.error e) refused) (hends : ∀ text, e ≠ .crashed text)
      (hempty : loadEmpty.run { s with store := refused, tainted := e.taints } = (.error e', t))
      (hends' : ∀ text, e' ≠ .crashed text) :
      SetsData s (.json v) (.error e) { t with tainted := true }
  /-- The guest does not take the data, and the host goes down after that. -/
  | fallen {v : Value} {e : Error} {text : String} {refused : Store} {t : Session}
      (h : Brings s v (.error e) refused) (hends : ∀ text, e ≠ .crashed text)
      (hempty : loadEmpty.run { s with store := refused, tainted := e.taints } =
        (.error (.crashed text), t)) :
      SetsData s (.json v) (.error (.crashed text)) t

/-- Data that the guest took is recorded behind the heap pointer, if the guest tells it. -/
theorem record_ends {v : Value} {data : UInt32} {loaded : Store} (h : Brings s v (.ok data) loaded)
    {r : Except Error Unit}
    (hrun : (heapPointer >>= fun checkpoint =>
      modify fun s => { s with checkpoint, tainted := false }).run
        { s with store := loaded, data } = (r, t)) : SetsData s (.json v) r t := by
  cases htells : (s.guest.getHeap.invoke s.host).run loaded with
  | mk q u =>
      have hpointer := onGuest_run (fun g host => g.getHeap.invoke host)
        (s := { s with store := loaded, data }) htells
      cases q with
      | ok checkpoint =>
          rw [heapPointer, run_bind_of_ok hpointer] at hrun
          cases hrun
          exact .taken h htells
      | error e =>
          rw [heapPointer, run_bind_of_error hpointer] at hrun
          cases hrun
          exact .untold h htells

/-- The guest takes the empty object or not, once it did not take a value. -/
theorem fallBack_ends {v : Value} {e : Error} {refused : Store}
    (h : Brings s v (.error e) refused) (hends : ∀ text, e ≠ .crashed text) {r : Except Error Unit}
    (hrun : (fallBack e).run { s with store := refused, tainted := e.taints } = (r, t)) :
    SetsData s (.json v) r t := by
  cases hempty : loadEmpty.run { s with store := refused, tainted := e.taints } with
  | mk q u =>
      cases q with
      | ok _ =>
          rw [fallBack_taken e hempty] at hrun
          cases hrun
          exact .replaced h hends hempty
      | error e' =>
          by_cases hcrash : ∃ text, e' = .crashed text
          · obtain ⟨text, rfl⟩ := hcrash
            rw [fallBack_crashed e hempty] at hrun
            cases hrun
            exact .fallen h hends hempty
          · have hends' (text : String) (ht : e' = .crashed text) : False := hcrash ⟨text, ht⟩
            rw [fallBack_refused e hempty hends'] at hrun
            cases hrun
            exact .lost h hends hempty hends'

/-- Brings data to the guest once the heap pointer is back, and does what is done about its end. -/
def bringIn (v : Value) : Act Unit := do
  match ← attempt (onGuest fun g host => load g host v) with
  | .ok data =>
      modify fun s => { s with data }
      let checkpoint ← heapPointer
      modify fun s => { s with checkpoint, tainted := false }
  | .error e =>
      modify fun s => { s with tainted := e.taints }
      fallBack e

theorem bringIn_ends {v : Value} {moved : Store}
    (hmoved : (rewind (·.base)).run s = (.ok (), { s with store := moved })) {r : Except Error Unit}
    (hrun : (bringIn v).run { s with store := moved } = (r, t)) : SetsData s (.json v) r t := by
  rw [bringIn] at hrun
  cases hload : (load s.guest s.host v).run moved with
  | mk q u =>
      have hact := onGuest_run (fun g host => load g host v)
        (s := { s with store := moved }) hload
      have hbrings : Brings s v q u := ⟨moved, hmoved, hload⟩
      by_cases hcrash : ∃ text, q = .error (.crashed text)
      · obtain ⟨text, rfl⟩ := hcrash
        rw [attempt_crashed hact] at hrun
        cases hrun
        exact .crashed hbrings
      · rw [attempt_run hact fun text ht => hcrash ⟨text, ht⟩] at hrun
        cases q with
        | ok data => exact record_ends hbrings hrun
        | error e =>
            exact fallBack_ends hbrings (fun text ht => hcrash ⟨text, congrArg _ ht⟩) hrun

theorem setData_ends {p : Payload} {r : Except Error Unit} (hrun : (setData p).run s = (r, t)) :
    SetsData s p r t := by
  cases p with
  | unencodable =>
      rw [setData, Payload.value, run_bind_of_error (lift_run_error rfl)] at hrun
      cases hrun
      exact .declined
  | json v =>
      rw [setData, Payload.value, run_bind_of_ok (lift_run rfl)] at hrun
      cases hmoved : (rewind (·.base)).run s with
      | mk q u =>
          obtain ⟨moved, rfl⟩ := of_rewind_run hmoved
          cases q with
          | error e =>
              rw [run_bind_of_error hmoved] at hrun
              cases hrun
              exact .stuck hmoved
          | ok _ =>
              rw [run_bind_of_ok hmoved] at hrun
              exact bringIn_ends hmoved hrun

/-- When loading the empty object succeeds, it is the data, and it ends where the guest tells. -/
theorem loadEmpty_ok (h : loadEmpty.run s = (.ok (), t)) : ∃ moved data loaded checkpoint store,
    (setHeap s.base).run s = (.ok (), { s with store := moved }) ∧
    (load s.guest s.host (.object [])).run moved = (.ok data, loaded) ∧
    (s.guest.getHeap.invoke s.host).run loaded = (.ok checkpoint, store) ∧
    t = { s with store, data, checkpoint } := by
  rw [loadEmpty, run_get_bind] at h
  obtain ⟨⟨⟩, s₁, hset, h⟩ := run_bind_eq_ok h
  obtain ⟨moved, -, rfl⟩ := of_onGuest_run hset
  obtain ⟨data, s₂, hload, h⟩ := run_bind_eq_ok h
  obtain ⟨loaded, hwork, rfl⟩ := of_onGuest_run hload
  rw [run_modify_bind] at h
  obtain ⟨checkpoint, s₃, htells, h⟩ := run_bind_eq_ok h
  obtain ⟨store, htold, rfl⟩ := of_onGuest_run htells
  cases h
  exact ⟨moved, data, loaded, checkpoint, store, hset, hwork, htold, rfl⟩

/-- When loading the empty object fails, the checkpoint stays where it was. -/
theorem loadEmpty_error {e : Error} (h : loadEmpty.run s = (.error e, t)) :
    ∃ store data, t = { s with store, data } := by
  rw [loadEmpty, run_get_bind] at h
  rcases run_bind_eq_error h with hset | ⟨⟨⟩, s₁, hset, h⟩
  · obtain ⟨u, -, rfl⟩ := of_onGuest_run hset
    exact ⟨u, s.data, rfl⟩
  obtain ⟨moved, -, rfl⟩ := of_onGuest_run hset
  rcases run_bind_eq_error h with hload | ⟨data, s₂, hload, h⟩
  · obtain ⟨u, -, rfl⟩ := of_onGuest_run hload
    exact ⟨u, s.data, rfl⟩
  obtain ⟨loaded, -, rfl⟩ := of_onGuest_run hload
  rw [run_modify_bind] at h
  rcases run_bind_eq_error h with htells | ⟨checkpoint, s₃, -, h⟩
  · obtain ⟨u, -, rfl⟩ := of_onGuest_run htells
    exact ⟨u, data, rfl⟩
  · cases h

/-- An act knows nothing of the taint, and leaves it as it is. -/
def Unaware (work : Act α) : Prop :=
  ∀ (s : Session) (tainted : Bool),
    work.run { s with tainted } = ((work.run s).1, { (work.run s).2 with tainted })

namespace Unaware

theorem onGuest (f : Guest → Host → Run α) : Unaware (onGuest f) := fun _ _ => rfl

theorem bind {work : Act α} {next : α → Act β} (h : Unaware work)
    (hnext : ∀ a, Unaware (next a)) : Unaware (work >>= next) := by
  intro s tainted
  have hwork := h s tainted
  cases hrun : work.run s with
  | mk r t =>
      rw [hrun] at hwork
      cases r with
      | ok a =>
          rw [run_bind_of_ok hwork, run_bind_of_ok hrun]
          exact hnext a t tainted
      | error e => rw [run_bind_of_error hwork, run_bind_of_error hrun]

end Unaware

theorem loadEmpty_unaware : Unaware loadEmpty := by
  intro s tainted
  rw [loadEmpty, run_get_bind, run_get_bind]
  have hrest : Unaware (setHeap s.base >>= fun _ =>
      Session.onGuest (fun g host => load g host (.object [])) >>= fun data =>
      (modify fun s : Session => { s with data }) >>= fun _ =>
      heapPointer >>= fun checkpoint => modify fun s : Session => { s with checkpoint }) :=
    .bind (.onGuest _) fun _ => .bind (.onGuest _) fun _ => .bind (fun _ _ => rfl) fun _ =>
      .bind (.onGuest _) fun _ _ _ => rfl
  exact hrest s tainted

theorem loadEmpty_tainted {r : Except Error Unit} (h : loadEmpty.run s = (r, t)) :
    t.tainted = s.tainted := by
  have hrun := loadEmpty_unaware s s.tainted
  rw [h] at hrun
  exact congrArg (fun p => p.2.tainted) hrun

/-- Whether the guest takes the empty object after a value was brought to it and not taken. -/
def recovers (s : Session) (v : Value) : Bool :=
  let refused := ((rewind (·.base) >>= fun _ => onGuest fun g host => load g host v).run s).2
  (loadEmpty.run refused).1.isOk

theorem Brings.recovers {v : Value} {r : Except Error UInt32} {refused : Store}
    (h : Brings s v r refused) (tainted : Bool) :
    s.recovers v = (loadEmpty.run { s with store := refused, tainted }).1.isOk := by
  obtain ⟨moved, hmoved, hload⟩ := h
  have hact := onGuest_run (fun g host => load g host v) (s := { s with store := moved }) hload
  rw [Session.recovers, run_bind_of_ok hmoved, hact,
    loadEmpty_unaware { s with store := refused } tainted]

/-! ## Every operation -/

theorem map_eq_error {f : α → β} {r : Except Error α} {e : Error} (h : r.map f = .error e) :
    r = .error e := by
  cases r with
  | ok a => cases h
  | error e' =>
      cases h
      rfl

@[simp]
theorem takePrinted_tainted (s : Session) : s.takePrinted.2.tainted = s.tainted := rfl

/-- The next session is the one that the operation left, once its lines are taken. -/
theorem next_of_run (op : Operation) {r : Except Error Value} (h : (perform op).run s = (r, t)) :
    s.next op = t.takePrinted.2 ∧ s.outcome op = r := by
  rw [next, outcome, h]
  exact ⟨rfl, rfl⟩

/-- An evaluation reports what it ends with, in one form or the other. -/
theorem evaluates_next {op : Operation} (hop : op.evaluates = true) (s : Session) :
    ∃ r t, Evaluates s r t ∧ s.next op = t.takePrinted.2 ∧
      ∀ e, s.outcome op = .error e → r = .error e := by
  cases op with
  | evaluate target p =>
      cases hrun : (evaluate target p).run s with
      | mk r t =>
          obtain ⟨hnext, houtcome⟩ := next_of_run (.evaluate target p) hrun
          exact ⟨r, t, evaluate_ends hrun, hnext, fun e he => houtcome.symm.trans he⟩
  | decide p =>
      cases hrun : (evaluate .main p).run s with
      | mk r t =>
          obtain ⟨hnext, houtcome⟩ := next_of_run (.decide p)
            (run_bind_pure (f := fun v => Value.bool (holds v)) hrun)
          exact ⟨r, t, evaluate_ends hrun, hnext, fun e he =>
            map_eq_error (houtcome.symm.trans he)⟩
  | setData | addPath | removePath => cases hop

theorem setData_next (s : Session) (p : Payload) :
    ∃ r t, SetsData s p r t ∧ s.next (.setData p) = t.takePrinted.2 ∧
      s.outcome (.setData p) = r.map fun _ => .null := by
  cases hrun : (setData p).run s with
  | mk r t => exact ⟨r, t, setData_ends hrun, next_of_run (.setData p) (run_bind_pure hrun)⟩

/-- Path updates do not know of the taint. -/
theorem updates_tainted (s : Session) {op : Operation} (hop : op.updates = true) :
    (s.next op).tainted = s.tainted := by
  have hQ : Frame fun s t : Session => t.services = s.services ∧ t.tainted = s.tainted :=
    { refl := fun _ => ⟨rfl, rfl⟩
      trans := fun h h' => ⟨h'.1.trans h.1, h'.2.trans h.2⟩
      store := fun _ _ _ => ⟨rfl, rfl⟩
      services := fun h => h.1 }
  have habides : Abides (fun s t : Session => t.services = s.services ∧ t.tainted = s.tainted)
      s.services (perform op) := by
    cases op with
    | addPath path p =>
        exact .bind hQ (addPath_abides hQ (fun _ _ => ⟨rfl, rfl⟩) path p) fun _ => .pure hQ _
    | removePath path =>
        exact .bind hQ (removePath_abides hQ (fun _ _ => ⟨rfl, rfl⟩) path) fun _ => .pure hQ _
    | setData | evaluate | decide => cases hop
  exact (habides s rfl).state.2

end PolicyHost.Session
