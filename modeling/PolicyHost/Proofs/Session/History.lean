import PolicyHost.Proofs.Session.Launch
import PolicyHost.Proofs.Session.Operations

/-!
# Histories

A session goes through operations one after the other, as a service performs
them, and every one of them ends in some way. `dataAfter` says what the data
should be on the way: only what became of the operations that set it counts.
`Serves.after` is the induction over a history, and `evaluate_yields` what
every evaluation comes to wherever a history has led: what is planned, unless
the guest stops, which it does for want of room or of fuel.
-/

namespace PolicyHost.Session

open Json Guest

variable {g : Description} {s t : Session} {v w : Value}

/-- How an operation ends. -/
def outcome (s : Session) (op : Operation) : Except Error Value :=
  ((perform op).run s).1

/-- The session after an operation, once the lines that it printed are taken. -/
def next (s : Session) (op : Operation) : Session :=
  ((perform op).run s).2.takePrinted.2

/-- The session after operations one after the other. -/
def after (s : Session) : List Operation → Session
  | [] => s
  | op :: ops => (s.next op).after ops

/-- What the data is after operations, when it is a value before them. -/
def dataAfter (s : Session) (v : Value) : List Operation → Value
  | [] => v
  | op :: ops => (s.next op).dataAfter (op.dataAfter (s.outcome op) v) ops

theorem Serves.next (h : Serves g s v) (op : Operation) :
    Serves g (s.next op) (op.dataAfter (s.outcome op) v) ∧ Fixed s (s.next op) := by
  obtain ⟨r, t, hrun, hserves, hfixed⟩ := perform_serves h op
  rw [Session.next, outcome, hrun]
  exact ⟨hserves.takePrinted, hfixed.trans (still_takePrinted t).toFixed⟩

/-- Whatever the operations of a history do and however they end, the session
serves what the data should be. -/
theorem Serves.after (h : Serves g s v) (ops : List Operation) :
    Serves g (s.after ops) (s.dataAfter v ops) ∧ Fixed s (s.after ops) := by
  induction ops generalizing s v with
  | nil => exact ⟨h, .refl s⟩
  | cons op ops ih =>
      obtain ⟨hnext, hfixed⟩ := h.next op
      obtain ⟨hafter, hfixed'⟩ := ih hnext
      exact ⟨hafter, hfixed.trans hfixed'⟩

theorem after_append (s : Session) (ops rest : List Operation) :
    s.after (ops ++ rest) = (s.after ops).after rest := by
  induction ops generalizing s with
  | nil => rfl
  | cons op ops ih => exact ih (s.next op)

theorem launch_after {config : Config} {registry : Builtin.Registry} {lines : List String}
    (hvalid : config.validate = .ok ()) (hlimit : config.memoryLimit.megabytes ≤ 1024)
    (h : launch (.described sample) config registry = (.ok s, lines)) (ops : List Operation) :
    Serves sample (s.after ops) (s.dataAfter (.object []) ops) ∧
      Sampled config registry (s.after ops) := by
  obtain ⟨hserves, hsampled⟩ := launch_serves hvalid hlimit h
  obtain ⟨hafter, hfixed⟩ := hserves.after ops
  exact ⟨hafter, hsampled.keep hfixed⟩

/-! ## What evaluations come to -/

/-- Whether an operation evaluates only. -/
def Operation.evaluates : Operation → Bool
  | .evaluate _ _ | .decide _ => true
  | _ => false

theorem Operation.families (op : Operation) :
    op.evaluates = true ∨ op.updates = true ∨ ∃ p, op = .setData p := by
  cases op with
  | evaluate | decide => exact Or.inl rfl
  | addPath | removePath => exact Or.inr (Or.inl rfl)
  | setData p => exact Or.inr (Or.inr ⟨p, rfl⟩)

theorem Operation.not_updates {op : Operation} (h : op.evaluates = true) : op.updates = false := by
  cases op with
  | evaluate | decide => rfl
  | setData | addPath | removePath => cases h

/-- Evaluations leave the data where it is. -/
theorem Serves.next_still (h : Serves g s v) {op : Operation} (hop : op.evaluates = true) :
    Serves g (s.next op) v ∧ Still s (s.next op) := by
  cases op with
  | evaluate target p =>
      obtain ⟨r, t, hrun, hserves, hstill⟩ := evaluate_serves h target p
      rw [Session.next, perform, hrun]
      exact ⟨hserves.takePrinted, hstill.trans (still_takePrinted t)⟩
  | decide p =>
      obtain ⟨r, t, hrun, hserves, hstill⟩ := evaluate_serves h .main p
      have hperform : ((perform (.decide p)).run s).2 = t := by
        cases r with
        | ok a => rw [perform, run_bind_of_ok hrun]; rfl
        | error e => rw [perform, run_bind_of_error hrun]
      rw [Session.next, hperform]
      exact ⟨hserves.takePrinted, hstill.trans (still_takePrinted t)⟩
  | setData | addPath | removePath => cases hop

theorem Serves.after_still (h : Serves g s v) {ops : List Operation}
    (hops : ∀ op ∈ ops, op.evaluates = true) :
    Serves g (s.after ops) v ∧ Still s (s.after ops) := by
  induction ops generalizing s with
  | nil => exact ⟨h, .refl s⟩
  | cons op ops ih =>
      obtain ⟨hnext, hstill⟩ := h.next_still (hops op List.mem_cons_self)
      obtain ⟨hafter, hstill'⟩ := ih hnext fun op hop => hops op (List.mem_cons_of_mem _ hop)
      exact ⟨hafter, hstill.trans hstill'⟩

/-! ## What changes of the data come to -/

theorem Renewed.takePrinted (h : Renewed g s w t) : Renewed g s w t.takePrinted.2 :=
  ⟨h.toFixed.trans (still_takePrinted t).toFixed, h.serves.takePrinted, h.data, h.checkpoint,
    h.heap,
    h.size⟩

theorem Untouched.takePrinted (h : Untouched s t) : Untouched s t.takePrinted.2 := by
  obtain ⟨u, rfl, hk⟩ := h
  exact ⟨_, rfl, hk.trans (.of_same rfl rfl)⟩

theorem UpdateOutcome.takePrinted {planned : Except Error Int × Nat} {r : Except Error Unit}
    (h : UpdateOutcome g s v planned r t) : UpdateOutcome g s v planned r t.takePrinted.2 := by
  cases h with
  | done hplan h =>
      exact .done hplan ⟨h.toFixed.trans (still_takePrinted t).toFixed, h.serves.takePrinted,
        h.data,
        h.checkpoint, h.tainted⟩
  | coded hcode hplan h hheap => exact .coded hcode hplan h.takePrinted hheap
  | failed hplan h => exact .failed hplan h.takePrinted

theorem Serves.next_setData (h : Serves g s v) (w : Value) :
    (s.outcome (.setData (.json w)) = .ok .null ∧ (∃ c, (s.plannedData g w).1 = .ok c) ∧
      Renewed g s w (s.next (.setData (.json w))) ∧
      (s.next (.setData (.json w))).tainted = false) ∨
    (∃ e, s.outcome (.setData (.json w)) = .error e ∧
      Foretold (s.rewound s.base) (s.plannedData g w) e ∧
      Renewed g s (.object []) (s.next (.setData (.json w))) ∧
      (s.next (.setData (.json w))).tainted = e.taints) := by
  obtain ⟨r, t, hrun, hends⟩ := setData_outcome h w
  have hperform : (perform (.setData (.json w))).run s = (r.map fun _ => .null, t) :=
    run_bind_pure hrun
  rw [outcome, Session.next, hperform]
  rcases hends with ⟨rfl, hplan, ht, htainted⟩ | ⟨e, rfl, hplan, ht, htainted⟩
  · exact Or.inl ⟨rfl, hplan, ht.takePrinted, htainted⟩
  · exact Or.inr ⟨e, rfl, hplan, ht.takePrinted, htainted⟩

theorem Serves.next_setEmpty (h : Serves g s v) :
    s.outcome (.setData (.json (.object []))) = .ok .null ∧
      Renewed g s (.object []) (s.next (.setData (.json (.object [])))) ∧
      (s.next (.setData (.json (.object [])))).tainted = false := by
  obtain ⟨t, hrun, ht, htainted⟩ := setData_empty h
  have hperform : (perform (.setData (.json (.object [])))).run s = (.ok .null, t) :=
    run_bind_of_ok hrun
  rw [outcome, Session.next, hperform]
  exact ⟨rfl, ht.takePrinted, htainted⟩

theorem Serves.next_updates (h : Serves g s v) {op : Operation} (hop : op.updates = true) :
    ∃ r, s.outcome op = r.map (fun _ => .null) ∧
      UpdateOutcome g s v (op.plannedUpdate s g) r (s.next op) := by
  obtain ⟨r, t, hrun, hends⟩ := updates_outcome h hop
  rw [outcome, Session.next, hrun]
  exact ⟨r, rfl, hends.takePrinted⟩

/-! ## What evaluations yield -/

/-- Whether an outcome is that the guest stopped. -/
def Stopped (r : Except Error Value) : Prop :=
  ∃ cause, r = .error (.trap cause)

/-- An outcome is the expected one, or the guest stopped, which without a meter
takes a memory that has not as many bytes behind the checkpoint as are needed. -/
def Yields (s : Session) (needed : Nat) (expected r : Except Error Value) : Prop :=
  r = expected ∨
    (Stopped r ∧ (s.maxFuel = none → s.store.memory.size < s.checkpoint.toNat + needed))

/-- What is planned is what comes out, unless there is no room for it. Where it
comes out, no address of the plan wraps around, so what is expected needs to be
planned for that case only. -/
theorem evaluate_yields (h : Serves g s v) {target : Target} {id : Option EntrypointId}
    (hid : target.id? s = .ok id) {x : Value} {needed : Nat} {expected : Except Error Value}
    (hneeded : (s.planned g v id (encode x)).2 ≤ needed)
    (hexpected : s.checkpoint.toNat + (s.planned g v id (encode x)).2 < 2 ^ 32 →
      (s.planned g v id (encode x)).1 = expected) :
    Yields s needed expected (s.outcome (.evaluate target (.json x))) := by
  obtain ⟨r, u, tainted, hrun, -, hends⟩ := evaluate_outcome h hid
    (show (Payload.json x).encode = .ok (encode x) from rfl) (encode_ne_nil x)
    (zero_not_mem_encode x)
  rw [outcome, perform, hrun]
  rcases hends with ⟨rfl, hheap⟩ | ⟨cause, rfl, hsmall⟩
  · exact Or.inl (hexpected (hheap ▸ u.heap.toNat_lt))
  · exact Or.inr ⟨⟨cause, rfl⟩, fun _ => by omega⟩

end PolicyHost.Session
