import PolicyHost.Proofs.Guest.Effects
import PolicyHost.Proofs.Session.Serves
import PolicyHost.Proofs.Work

/-!
# Operations keep a session serving

Whatever becomes of an operation, the session serves a value afterwards.
Evaluations and path updates leave the data as it is, because what they bring in
stands above the checkpoint. Setting data makes it the value that was set, or
the empty object when the guest did not take the value, and for that the empty
object has to find room: it always does, behind the base. `perform_serves` puts
the operations together.
-/

namespace PolicyHost.Session

open Json Guest

variable {g : Description} {s t : Session} {v w : Value}

/-! ## Evaluations -/

/-- An evaluation is what the guest does with the heap pointer at the
checkpoint. -/
theorem evaluate_run (h : Serves g s v) {target : Target} {p : Payload} {id : Option EntrypointId}
    {bytes : List UInt8} {r : Except Error Value} {u : Store} (hid : target.id? s = .ok id)
    (hbytes : p.encode = .ok bytes)
    (hrun : (evaluateText s.data id bytes s.guest s.host).run (s.rewound s.checkpoint) =
      (r, u)) :
    ∃ tainted, (evaluate target p).run s = (r, { s with store := u, tainted }) := by
  have hwork := onGuest_run (evaluateText s.data id bytes)
    (s := { s with store := s.rewound s.checkpoint }) hrun
  rw [evaluate, run_get_bind, run_bind_of_ok (lift_run hid), run_bind_of_ok (lift_run hbytes),
    run_bind_of_ok (rewind_run h.guest (h.orderly.not_trapping _) h.room.fuel fun _ => rfl),
    run_get_bind]
  by_cases hcrash : ∃ text, r = .error (.crashed text)
  · obtain ⟨text, rfl⟩ := hcrash
    exact ⟨s.tainted, attempt_crashed hwork⟩
  rw [attempt_run hwork fun text ht => hcrash ⟨text, ht⟩]
  cases r with
  | ok a => exact ⟨s.tainted, rfl⟩
  | error e =>
      by_cases htaints : e.taints = true
      · exact ⟨true, by simp only [htaints, if_true]; rfl⟩
      · exact ⟨s.tainted, by simp only [htaints]; rfl⟩

/-- What is planned of an evaluation with the text of an input: its outcome, and
the bytes that it takes. -/
def planned (s : Session) (g : Description) (v : Value) (id : Option EntrypointId)
    (bytes : List UInt8) : Except Error Value × Nat :=
  Plan.evaluateText g s.services s.maxFuel.isSome ⟨s.data, encode v⟩ (chosen id) bytes
    s.checkpoint.toNat

theorem Serves.follows (h : Serves g s v) (id : Option EntrypointId) {bytes : List UInt8}
    (hne : bytes ≠ []) (hzero : (0 : UInt8) ∉ bytes) :
    Follows s.checkpoint.toNat (fun v w _ => v = w)
      (evaluateText s.data id bytes s.guest s.host)
      (Plan.evaluateText g s.services s.maxFuel.isSome ⟨s.data, encode v⟩ (chosen id) bytes)
      (s.rewound s.checkpoint) := by
  rw [h.guest, host_described h.guest]
  exact evaluateText_follows ⟨s.data, encode v⟩ id h.orderly h.room h.charted_checkpoint h.data hne
    hzero

/-- The outcome of an evaluation is the planned one, or the guest stops because
there is no room for what is planned. -/
theorem evaluate_outcome (h : Serves g s v) {target : Target} {p : Payload}
    {id : Option EntrypointId} {bytes : List UInt8} (hid : target.id? s = .ok id)
    (hbytes : p.encode = .ok bytes) (hne : bytes ≠ []) (hzero : (0 : UInt8) ∉ bytes) :
    ∃ r u tainted, (evaluate target p).run s = (r, { s with store := u, tainted }) ∧
      Keeps s.checkpoint.toNat (s.rewound s.checkpoint) u ∧
      ((r = (s.planned g v id bytes).1 ∧
          u.heap.toNat = s.checkpoint.toNat + (s.planned g v id bytes).2) ∨
        (∃ cause, r = .error (.trap cause) ∧
          s.store.memory.size < s.checkpoint.toNat + (s.planned g v id bytes).2)) := by
  have hfollows := h.follows id hne hzero
  rcases hfollows.outcome h.room with ⟨a, b, u, taken, hrun, hplan, hheap, hl, -, rfl⟩ |
    ⟨e, u, taken, hrun, hplan, hheap, hk, -⟩ | ⟨cause, u, -, hrun, hsmall, hk, -⟩
  · obtain ⟨tainted, hev⟩ := evaluate_run h hid hbytes hrun
    have hplanned : s.planned g v id bytes = (.ok a, taken) := hplan
    rw [hplanned]
    exact ⟨_, u, tainted, hev, hl.toKeeps, Or.inl ⟨rfl, hheap⟩⟩
  · obtain ⟨tainted, hev⟩ := evaluate_run h hid hbytes hrun
    have hplanned : s.planned g v id bytes = (.error e, taken) := hplan
    rw [hplanned]
    exact ⟨_, u, tainted, hev, hk, Or.inl ⟨rfl, hheap⟩⟩
  · obtain ⟨tainted, hev⟩ := evaluate_run h hid hbytes hrun
    exact ⟨_, u, tainted, hev, hk, Or.inr ⟨cause, rfl, hsmall⟩⟩

theorem encode_plain {p : Payload} {bytes : List UInt8} (h : p.encode = .ok bytes) :
    bytes ≠ [] ∧ (0 : UInt8) ∉ bytes := by
  cases p with
  | json v =>
      cases h
      exact ⟨encode_ne_nil v, zero_not_mem_encode v⟩
  | unencodable => cases h

/-- An evaluation leaves the data as it is and where it is, whatever comes of it. -/
theorem evaluate_serves (h : Serves g s v) (target : Target) (p : Payload) :
    ∃ r t, (evaluate target p).run s = (r, t) ∧ Serves g t v ∧ Still s t := by
  cases hid : target.id? s with
  | error e =>
      refine ⟨.error e, s, ?_, h, .refl s⟩
      rw [evaluate, run_get_bind, run_bind_of_error (lift_run_error hid)]
  | ok id =>
      cases hbytes : p.encode with
      | error e =>
          refine ⟨.error e, s, ?_, h, .refl s⟩
          rw [evaluate, run_get_bind, run_bind_of_ok (lift_run hid),
            run_bind_of_error (lift_run_error hbytes)]
      | ok bytes =>
          obtain ⟨hne, hzero⟩ := encode_plain hbytes
          obtain ⟨r, u, tainted, hrun, hk, -⟩ := evaluate_outcome h hid hbytes hne hzero
          exact ⟨r, _, hrun, h.goOn tainted hk, ⟨rfl, rfl, rfl, rfl, rfl⟩, rfl, rfl⟩

/-! ## Setting data -/

/-- What becomes of an error that the data was refused with: the guest is given
the empty object. -/
def fallBack (e : Error) : Act Unit := do
  match ← attempt loadEmpty with
  | .ok () => pure ()
  | .error _ => modify fun s => { s with tainted := true }
  throw e

theorem fallBack_taken (e : Error) (h : loadEmpty.run s = (.ok (), t)) :
    (fallBack e).run s = (.error e, t) := by
  rw [fallBack, attempt_run h nofun]
  rfl

theorem fallBack_refused (e : Error) {e' : Error} (h : loadEmpty.run s = (.error e', t))
    (hends : ∀ text, e' ≠ .crashed text) :
    (fallBack e).run s = (.error e, { t with tainted := true }) := by
  rw [fallBack, attempt_run h fun text ht => hends text (Except.error.inj ht)]
  rfl

theorem fallBack_crashed (e : Error) {text : String}
    (h : loadEmpty.run s = (.error (.crashed text), t)) :
    (fallBack e).run s = (.error (.crashed text), t) :=
  attempt_crashed h

theorem loads_described (hg : s.guest = .described g) (w : Value) (u : Store) :
    Within (fun u u' : Store => u'.fuel = u.fuel) LoadFault (load s.guest s.host w) u := by
  rw [hg]
  exact load_described u

section

variable {a : UInt32} {u : Store} {e : Error} (hg : s.guest = .described g)
  (hset : Export.setHeap ∉ g.trapping)
include hg hset

theorem loadEmpty_run_of_ok (htells : Export.getHeap ∉ g.trapping)
    (hfuel : s.store.fuel ≠ some 0)
    (h : (load s.guest s.host (.object [])).run { s.store with heap := s.base } = (.ok a, u)) :
    loadEmpty.run s = (.ok (), { s with store := u, data := a, checkpoint := u.heap }) := by
  have hkept : u.fuel = s.store.fuel :=
    (loads_described hg _ { s.store with heap := s.base }).state_of_run h
  have hload := onGuest_run (fun g host => load g host (.object []))
    (s := { s with store := { s.store with heap := s.base } }) h
  have hpointer := heapPointer_run (s := { s with store := u, data := a }) hg htells
    (hkept ▸ hfuel)
  rw [loadEmpty, run_get_bind, run_bind_of_ok (setHeap_run hg hset hfuel _), run_bind_of_ok hload,
    run_modify_bind, run_bind_of_ok hpointer]
  rfl

theorem loadEmpty_run_of_error (hfuel : s.store.fuel ≠ some 0)
    (h : (load s.guest s.host (.object [])).run { s.store with heap := s.base } = (.error e, u)) :
    loadEmpty.run s = (.error e, { s with store := u }) := by
  have hload := onGuest_run (fun g host => load g host (.object []))
    (s := { s with store := { s.store with heap := s.base } }) h
  rw [loadEmpty, run_get_bind, run_bind_of_ok (setHeap_run hg hset hfuel _),
    run_bind_of_error hload]

theorem setData_run_of_ok (htells : Export.getHeap ∉ g.trapping) (hfuel : s.maxFuel ≠ some 0)
    (h : (load s.guest s.host w).run (s.rewound s.base) = (.ok a, u)) :
    (setData (.json w)).run s =
      (.ok (), { s with store := u, data := a, checkpoint := u.heap, tainted := false }) := by
  have hkept : u.fuel = s.maxFuel := (loads_described hg _ (s.rewound s.base)).state_of_run h
  have hload := onGuest_run (fun g host => load g host w)
    (s := { s with store := s.rewound s.base }) h
  have hpointer := heapPointer_run (s := { s with store := u, data := a }) hg htells
    (hkept ▸ hfuel)
  have hvalue : (Payload.json w).value = .ok w := rfl
  rw [setData, run_bind_of_ok (lift_run hvalue),
    run_bind_of_ok (rewind_run hg hset hfuel fun _ => rfl), attempt_run hload nofun]
  simp only
  rw [run_modify_bind, run_bind_of_ok hpointer, run_modify]

theorem setData_run_of_error (hfuel : s.maxFuel ≠ some 0)
    (h : (load s.guest s.host w).run (s.rewound s.base) = (.error e, u)) :
    (setData (.json w)).run s = (fallBack e).run { s with store := u, tainted := e.taints } := by
  have hends := ((loads_described hg _ _).error_of_run h).ends
  have hload := onGuest_run (fun g host => load g host w)
    (s := { s with store := s.rewound s.base }) h
  have hvalue : (Payload.json w).value = .ok w := rfl
  rw [setData, run_bind_of_ok (lift_run hvalue),
    run_bind_of_ok (rewind_run hg hset hfuel fun _ => rfl),
    attempt_run hload fun text ht => hends text (Except.error.inj ht)]
  rfl

end

/-- A session after new data came in behind the base. Where the data stands and where it ends is
decided by the length of its text. -/
structure Renewed (g : Description) (s : Session) (w : Value) (t : Session) : Prop
    extends Fixed s t where
  serves : Serves g t w
  data : t.data = .ofNat (s.base.toNat + (encode w).length)
  checkpoint : t.checkpoint.toNat = s.base.toNat + (2 * (encode w).length + 1)
  heap : t.store.heap = t.checkpoint
  size : s.store.memory.size ≤ t.store.memory.size

theorem Serves.renewed (h : Serves g s v) {u u' : Store} {a : UInt32} (tainted : Bool)
    (hback : Later s.base.toNat (s.rewound s.base) u) (hheap : u.heap = s.base)
    (hcopied : Copied u (encode w) a u') :
    Renewed g s w { s with store := u', data := a, checkpoint := u'.heap, tainted } := by
  obtain ⟨hl, hroom, hshows, ha, htop⟩ := hcopied
  rw [hheap] at hl ha htop
  have hlater : Later s.base.toNat (s.rewound s.base) u' :=
    ⟨hback.toKeeps.trans hl.toKeeps, hheap ▸ hl.heap, hl.fuel.trans hback.fuel⟩
  exact ⟨⟨rfl, rfl, rfl, rfl, rfl⟩, h.renew tainted hlater hroom hshows, ha, htop, rfl,
    hlater.size⟩

theorem Serves.load_empty (h : Serves g s v) {u : Store} (hroom : Room u)
    (hspare : u.heap.toNat + 5 ≤ u.memory.size) :
    ∃ a u', (load s.guest s.host (.object [])).run u = (.ok a, u') ∧
      Copied u (encode (.object [])) a u' := by
  rw [h.guest]
  exact Guest.load_empty h.orderly hroom hspare

/-- Loading an empty object behind the base succeeds, whatever work before it
left above the base. -/
theorem loadEmpty_renews (h : Serves g s v) {u : Store} (tainted : Bool)
    (hk : Keeps s.base.toNat (s.rewound s.base) u) (hf : u.fuel = s.maxFuel) :
    ∃ t, loadEmpty.run { s with store := u, tainted } = (.ok (), t) ∧ Renewed g s (.object []) t ∧
      t.tainted = tainted := by
  have hback : Later s.base.toNat (s.rewound s.base) { u with heap := s.base } := by
    have hlater := later_rewound hk
    rw [← hf] at hlater
    exact hlater
  have hroom : Room { u with heap := s.base } :=
    h.room_base.later hback (Nat.le_trans h.room_base.heap hback.size)
  obtain ⟨a, u', hrun, hcopied⟩ := h.load_empty hroom (Nat.le_trans h.spare hback.size)
  exact ⟨_, loadEmpty_run_of_ok (s := { s with store := u, tainted }) h.guest
    (h.orderly.not_trapping _) (h.orderly.not_trapping _) hroom.fuel hrun,
    h.renewed tainted hback rfl hcopied, rfl⟩

/-- Setting data that the guest takes makes it the data. -/
theorem setData_taken (h : Serves g s v) {a : UInt32} {u : Store}
    (hrun : (load s.guest s.host w).run (s.rewound s.base) = (.ok a, u))
    (hcopied : Copied (s.rewound s.base) (encode w) a u) :
    ∃ t, (setData (.json w)).run s = (.ok (), t) ∧ Renewed g s w t ∧ t.tainted = false :=
  ⟨_, setData_run_of_ok h.guest (h.orderly.not_trapping _) (h.orderly.not_trapping _) h.room.fuel
    hrun, h.renewed false ⟨.refl _ _, Nat.le_refl _, rfl⟩ rfl hcopied, rfl⟩

/-- Setting data that the guest does not take makes the empty object the data,
and reports why. -/
theorem setData_refused (h : Serves g s v) {e : Error} {u : Store}
    (hrun : (load s.guest s.host w).run (s.rewound s.base) = (.error e, u))
    (hk : Keeps s.base.toNat (s.rewound s.base) u) (hf : u.fuel = s.maxFuel) :
    ∃ t, (setData (.json w)).run s = (.error e, t) ∧ Renewed g s (.object []) t ∧
      t.tainted = e.taints := by
  obtain ⟨t, hempty, hrenewed, htainted⟩ := loadEmpty_renews h e.taints hk hf
  refine ⟨t, ?_, hrenewed, htainted⟩
  rw [setData_run_of_error h.guest (h.orderly.not_trapping _) h.room.fuel hrun,
    fallBack_taken e hempty]

/-- What is planned of bringing a value in behind the base. -/
def plannedData (s : Session) (g : Description) (w : Value) : Except Error Cell × Nat :=
  Plan.load g w s.base.toNat

/-- Setting data makes it what was set, as is planned, or the empty object. -/
theorem setData_outcome (h : Serves g s v) (w : Value) :
    ∃ r t, (setData (.json w)).run s = (r, t) ∧
      ((r = .ok () ∧ (∃ c, (s.plannedData g w).1 = .ok c) ∧ Renewed g s w t ∧ t.tainted = false) ∨
        (∃ e, r = .error e ∧ Foretold (s.rewound s.base) (s.plannedData g w) e ∧
          Renewed g s (.object []) t ∧ t.tainted = e.taints)) := by
  have hcases := loadText_cases (s.host) h.orderly h.room_base (encode_ne_nil w)
    (zero_not_mem_encode w)
  rw [← load_eq, ← h.guest] at hcases
  rcases hcases with ⟨a, u, hrun, hcopied, hplan⟩ | ⟨e, u, hrun, hk, hf, hplan⟩
  · obtain ⟨t, hset, hrenewed, htainted⟩ := setData_taken h hrun hcopied
    exact ⟨_, t, hset, Or.inl ⟨rfl, ⟨_, hplan⟩, hrenewed, htainted⟩⟩
  · obtain ⟨t, hset, hrenewed, htainted⟩ := setData_refused h hrun hk hf
    exact ⟨_, t, hset, Or.inr ⟨e, rfl, hplan, hrenewed, htainted⟩⟩

/-- Setting an empty object always succeeds. -/
theorem setData_empty (h : Serves g s v) :
    ∃ t, (setData (.json (.object []))).run s = (.ok (), t) ∧ Renewed g s (.object []) t ∧
      t.tainted = false := by
  obtain ⟨a, u, hrun, hcopied⟩ := h.load_empty h.room_base h.spare
  exact setData_taken h hrun hcopied

/-! ## Updating paths -/

theorem print_all_run (addresses : List UInt32) (u : Store) :
    ∃ lines, (addresses.forM print).run u = (.ok (), { u with printed := lines }) := by
  induction addresses generalizing u with
  | nil => exact ⟨u.printed, rfl⟩
  | cons a rest ih =>
      obtain ⟨lines, hrest⟩ := ih { u with printed := u.memory.printedAt ⟨a⟩ ++ u.printed }
      refine ⟨lines, ?_⟩
      rw [List.forM_eq_forM] at hrest ⊢
      rw [List.forM_cons, run_bind_of_ok print_run, hrest]

theorem updatePath_run (change : PathUpdate) (arguments : List UInt32) (u : Store) :
    ∃ lines, (updatePath change arguments).run u =
      (.ok change.code, { u with printed := lines }) := by
  rw [updatePath]
  cases change.prints with
  | false => exact ⟨u.printed, rfl⟩
  | true =>
      obtain ⟨lines, hprint⟩ := print_all_run arguments u
      exact ⟨lines, run_bind_of_ok hprint⟩

/-- The guest answers an update with its code, and takes nothing for it. -/
theorem updatePath_follows {e : Export} {u : Store} (ho : g.Orderly) (hroom : Room u)
    (change : PathUpdate) (arguments : List UInt32) :
    Follows u.heap.toNat (fun code code' _ => code = code')
      (call g e (updatePath change arguments)) (pure change.code) u := by
  obtain ⟨lines, hrun⟩ := updatePath_run change arguments u
  exact .done hroom ((call_run ho hroom.fuel).trans hrun) rfl (.of_same rfl rfl) rfl rfl rfl

/-- What is planned of an update: the path is brought in, and then what comes with it. -/
def plannedUpdate (s : Session) (g : Description) (path : List String) (rest : Plan Int) :
    Except Error Int × Nat :=
  (Plan.load g (.array (path.map .string)) >>= fun _ => rest) s.checkpoint.toNat

/-- A session after its checkpoint went up, with the data where it was. -/
structure Extended (g : Description) (s : Session) (v : Value) (taken : Nat) (t : Session) : Prop
    extends Fixed s t where
  serves : Serves g t v
  data : t.data = s.data
  checkpoint : t.checkpoint.toNat = s.checkpoint.toNat + taken
  tainted : t.tainted = s.tainted

/-- A session after work that kept what is below the checkpoint, and recorded nothing. -/
def Untouched (s t : Session) : Prop :=
  ∃ u, t = { s with store := u } ∧ Keeps s.checkpoint.toNat (s.rewound s.checkpoint) u

theorem Untouched.refl (s : Session) : Untouched s s := ⟨s.store, rfl, .of_same rfl rfl⟩

theorem Untouched.serves (h : Serves g s v) (hu : Untouched s t) : Serves g t v := by
  obtain ⟨u, rfl, hk⟩ := hu
  exact h.goOn s.tainted hk

theorem Untouched.still (hu : Untouched s t) : Still s t := by
  obtain ⟨u, rfl, -⟩ := hu
  exact ⟨⟨rfl, rfl, rfl, rfl, rfl⟩, rfl, rfl⟩

/-- How an update ends of which it is planned that the guest answers with a code. -/
inductive UpdateOutcome (g : Description) (s : Session) (v : Value)
    (planned : Except Error Int × Nat) : Except Error Unit → Session → Prop
  /-- The code is zero. -/
  | done {t : Session} (hplan : planned.1 = .ok 0) (h : Extended g s v planned.2 t) :
      UpdateOutcome g s v planned (.ok ()) t
  /-- The code is another, and the heap pointer goes back. -/
  | coded {code : Int} {t : Session} (hcode : code ≠ 0) (hplan : planned.1 = .ok code)
      (h : Untouched s t) (hheap : t.store.heap = s.checkpoint) :
      UpdateOutcome g s v planned (.error (.trap (.updateCode code))) t
  /-- It does not come to a code. -/
  | failed {e : Error} {t : Session} (hplan : Foretold (s.rewound s.checkpoint) planned e)
      (h : Untouched s t) :
      UpdateOutcome g s v planned (.error e) t

/-- What the host makes of the code that an update is answered with. -/
def settle (code : Int) : Act Unit := do
  if code ≠ 0 then
    setHeap (← get).checkpoint
    throw (.trap (.updateCode code))
  let checkpoint ← heapPointer
  modify fun s => { s with checkpoint }

section

variable (hg : s.guest = .described g) (hfuel : s.store.fuel ≠ some 0)
include hg hfuel

theorem settle_zero (htells : Export.getHeap ∉ g.trapping) :
    (settle 0).run s = (.ok (), { s with checkpoint := s.store.heap }) := by
  rw [settle, if_neg (not_not_intro rfl), run_bind_of_ok (heapPointer_run hg htells hfuel),
    run_modify]

theorem settle_code (hset : Export.setHeap ∉ g.trapping) {code : Int} (hcode : code ≠ 0) :
    (settle code).run s = (.error (.trap (.updateCode code)),
      { s with store := { s.store with heap := s.checkpoint } }) := by
  rw [settle, if_pos hcode, run_get_bind, run_bind_of_ok (setHeap_run hg hset hfuel s.checkpoint)]
  rfl

end

section

variable {path : List String} {apply : (data path : UInt32) → Guest → Host → Run Int} {u : Store}
  (hg : s.guest = .described g) (hset : Export.setHeap ∉ g.trapping) (hfuel : s.maxFuel ≠ some 0)
include hg hset hfuel

theorem update_run_of_ok {code : Int}
    (h : (load s.guest s.host (.array (path.map .string)) >>= fun place =>
      apply s.data place s.guest s.host).run (s.rewound s.checkpoint) = (.ok code, u)) :
    (update path apply).run s = (settle code).run { s with store := u } := by
  obtain ⟨place, w, hload, happly⟩ := run_bind_eq_ok h
  have hplace := onGuest_run (fun g host => load g host (.array (path.map .string)))
    (s := { s with store := s.rewound s.checkpoint }) hload
  have hcode := onGuest_run (apply s.data place) (s := { s with store := w }) happly
  rw [update, run_bind_of_ok (rewind_run hg hset hfuel fun _ => rfl), run_bind_of_ok hplace,
    run_get_bind, run_bind_of_ok hcode]
  rfl

theorem update_run_of_error {e : Error}
    (h : (load s.guest s.host (.array (path.map .string)) >>= fun place =>
      apply s.data place s.guest s.host).run (s.rewound s.checkpoint) = (.error e, u)) :
    (update path apply).run s = (.error e, { s with store := u }) := by
  rw [update, run_bind_of_ok (rewind_run hg hset hfuel fun _ => rfl)]
  cases hload : (load s.guest s.host (.array (path.map .string))).run (s.rewound s.checkpoint) with
  | mk q w =>
      have hplace := onGuest_run (fun g host => load g host (.array (path.map .string)))
        (s := { s with store := s.rewound s.checkpoint }) hload
      cases q with
      | error e' =>
          rw [run_bind_of_error hload] at h
          cases h
          exact run_bind_of_error hplace
      | ok place =>
          rw [run_bind_of_ok hload] at h
          rw [run_bind_of_ok hplace, run_get_bind]
          exact run_bind_of_error (onGuest_run (apply s.data place) (s := { s with store := w }) h)

end

/-- Updating a path leaves the data as it is. When it succeeds the checkpoint
lies behind what was brought in, otherwise it stays. -/
theorem update_outcome (h : Serves g s v) (path : List String)
    {apply : (data path : UInt32) → Guest → Host → Run Int} {rest : Plan Int}
    (happly : ∀ place u host, Room u → Follows u.heap.toNat (fun code code' _ => code = code')
      (apply s.data place (.described g) host) rest u) :
    ∃ r t, (update path apply).run s = (r, t) ∧
      UpdateOutcome g s v (s.plannedUpdate g path rest) r t := by
  have hg := h.guest
  have hset : Export.setHeap ∉ g.trapping := h.orderly.not_trapping _
  have hload : Follows s.checkpoint.toNat (Brought 0 0 s.checkpoint)
      (load (.described g) s.host (.array (path.map .string))) _ (s.rewound s.checkpoint) :=
    load_follows h.orderly h.room (.array (path.map .string)) (Nat.zero_le _)
  have hfollows : Follows s.checkpoint.toNat (fun code code' _ => code = code')
      (load s.guest s.host (.array (path.map .string)) >>= fun place =>
        apply s.data place s.guest s.host)
      (Plan.load g (.array (path.map .string)) >>= fun _ => rest)
      (s.rewound s.checkpoint) := by
    rw [hg]
    exact .bind h.room hload (Nat.le_refl _) fun place _ u hroom hlater _ =>
      (happly place u s.host hroom).lower hlater.heap
  rcases hfollows.outcome h.room with ⟨code, _, u, taken, hrun, hplan, hheap, hl, hroom, rfl⟩ |
    ⟨e, u, taken, hrun, hplan, -, hk, -⟩ | ⟨cause, u, hcause, hrun, hsmall, hk, -⟩
  · have hplanned : s.plannedUpdate g path rest = (.ok code, taken) := hplan
    rw [update_run_of_ok hg hset h.room.fuel hrun]
    by_cases hzero : code = 0
    · subst hzero
      refine ⟨_, _, settle_zero hg hroom.fuel (h.orderly.not_trapping _), .done
        (congrArg Prod.fst hplanned) ⟨⟨rfl, rfl, rfl, rfl, rfl⟩, h.extend s.tainted hl hroom, rfl,
          ?_, rfl⟩⟩
      rw [hplanned]
      exact hheap
    · exact ⟨_, _, settle_code (s := { s with store := u }) hg hroom.fuel hset hzero,
        .coded hzero (congrArg Prod.fst hplanned) ⟨_, rfl, hl.toKeeps.trans (.of_same rfl rfl)⟩
          rfl⟩
  · exact ⟨_, _, update_run_of_error hg hset h.room.fuel hrun,
      .failed (Or.inl (congrArg Prod.fst hplan)) ⟨u, rfl, hk⟩⟩
  · exact ⟨_, _, update_run_of_error hg hset h.room.fuel hrun,
      .failed (Or.inr ⟨cause, hcause, rfl, hsmall⟩) ⟨u, rfl, hk⟩⟩

/-- An update that fails records nothing. -/
theorem UpdateOutcome.untouched {planned : Except Error Int × Nat} {e : Error}
    (hends : UpdateOutcome g s v planned (.error e) t) : Untouched s t := by
  cases hends with
  | coded _ _ hu => exact hu
  | failed _ hu => exact hu

theorem UpdateOutcome.serves (h : Serves g s v) {planned : Except Error Int × Nat}
    {r : Except Error Unit} (hends : UpdateOutcome g s v planned r t) :
    Serves g t v ∧ Fixed s t := by
  cases hends with
  | done _ hextended => exact ⟨hextended.serves, hextended.toFixed⟩
  | coded _ _ hu => exact ⟨hu.serves h, hu.still.toFixed⟩
  | failed _ hu => exact ⟨hu.serves h, hu.still.toFixed⟩

/-- Whether an operation updates a path of the data. -/
def Operation.updates : Operation → Bool
  | .addPath _ _ | .removePath _ => true
  | _ => false

/-- What is planned of an operation that updates a path. It can be turned down before the guest is
asked. -/
def Operation.plannedUpdate (s : Session) (g : Description) : Operation → Except Error Int × Nat
  | .addPath path p =>
      match demand (.described g) .addPath, p.encode with
      | .error e, _ | .ok (), .error e => (.error e, 0)
      | .ok (), .ok bytes => s.plannedUpdate g path do
          let _ ← Plan.loadText g bytes
          return g.addPath.code
  | .removePath path =>
      match demand (.described g) .removePath with
      | .error e => (.error e, 0)
      | .ok () => s.plannedUpdate g path (pure g.removePath.code)
  | _ => (.ok 0, 0)

theorem addPath_outcome (h : Serves g s v) (path : List String) (p : Payload) :
    ∃ r t, (addPath path p).run s = (r, t) ∧
      UpdateOutcome g s v ((Operation.addPath path p).plannedUpdate s g) r t := by
  rw [addPath, run_get_bind, Operation.plannedUpdate, h.guest]
  cases hdemand : demand (.described g) .addPath with
  | error e =>
      exact ⟨_, s, run_bind_of_error (lift_run_error rfl), .failed (Or.inl rfl) (.refl s)⟩
  | ok _ =>
      rw [run_bind_of_ok (lift_run rfl)]
      cases hbytes : p.encode with
      | error e =>
          exact ⟨_, s, run_bind_of_error (lift_run_error rfl), .failed (Or.inl rfl) (.refl s)⟩
      | ok bytes =>
          obtain ⟨hne, hzero⟩ := encode_plain hbytes
          rw [run_bind_of_ok (lift_run rfl)]
          refine update_outcome h path fun place u host hroom => ?_
          have hload : Follows u.heap.toNat (Brought 0 0 u.heap)
              (loadText (.described g) host bytes) _ u :=
            loadText_follows h.orderly hroom hne hzero (Nat.zero_le _)
          exact .bind hroom hload (Nat.le_refl _) fun value _ u' hroom' hlater _ =>
            (updatePath_follows h.orderly hroom' _ _).lower hlater.heap

theorem removePath_outcome (h : Serves g s v) (path : List String) :
    ∃ r t, (removePath path).run s = (r, t) ∧
      UpdateOutcome g s v ((Operation.removePath path).plannedUpdate s g) r t := by
  rw [removePath, run_get_bind, Operation.plannedUpdate, h.guest]
  cases hdemand : demand (.described g) .removePath with
  | error e =>
      exact ⟨_, s, run_bind_of_error (lift_run_error rfl), .failed (Or.inl rfl) (.refl s)⟩
  | ok _ =>
      rw [run_bind_of_ok (lift_run rfl)]
      exact update_outcome h path fun place u host hroom => updatePath_follows h.orderly hroom _ _

/-- Both kinds of updates end in the same ways. -/
theorem updates_outcome (h : Serves g s v) {op : Operation} (hop : op.updates = true) :
    ∃ r t, (perform op).run s = (r.map fun _ => .null, t) ∧
      UpdateOutcome g s v (op.plannedUpdate s g) r t := by
  cases op with
  | addPath path p =>
      obtain ⟨r, t, hrun, hends⟩ := addPath_outcome h path p
      exact ⟨r, t, run_bind_pure hrun, hends⟩
  | removePath path =>
      obtain ⟨r, t, hrun, hends⟩ := removePath_outcome h path
      exact ⟨r, t, run_bind_pure hrun, hends⟩
  | setData | evaluate | decide => cases hop

/-! ## All operations -/

/-- The data after an operation that ended with a result or an error. -/
def Operation.dataAfter (op : Operation) (r : Except Error Value) (v : Value) : Value :=
  match op, r with
  | .setData (.json w), .ok _ => w
  | .setData (.json _), .error _ => .object []
  | _, _ => v

theorem Operation.dataAfter_of_updates {op : Operation} (hop : op.updates = true)
    (r : Except Error Value) (v : Value) : op.dataAfter r v = v := by
  cases op with
  | addPath | removePath => rfl
  | setData | evaluate | decide => cases hop

/-- Whatever an operation does and however it ends, the session serves what the
data is afterwards. -/
theorem perform_serves (h : Serves g s v) (op : Operation) :
    ∃ r t, (perform op).run s = (r, t) ∧ Serves g t (op.dataAfter r v) ∧ Fixed s t := by
  have hupdate (hop : op.updates = true) :
      ∃ r t, (perform op).run s = (r, t) ∧ Serves g t (op.dataAfter r v) ∧ Fixed s t := by
    obtain ⟨r, t, hrun, hends⟩ := updates_outcome h hop
    refine ⟨_, t, hrun, ?_⟩
    rw [op.dataAfter_of_updates hop]
    exact hends.serves h
  cases op with
  | setData p =>
      cases p with
      | unencodable =>
          exact ⟨_, s, run_bind_of_error (run_bind_of_error (lift_run_error rfl)), h, .refl s⟩
      | json w =>
          obtain ⟨r, t, hrun, ⟨rfl, -, ht, -⟩ | ⟨e, rfl, -, ht, -⟩⟩ := setData_outcome h w
          · exact ⟨.ok .null, t, run_bind_of_ok hrun, ht.serves, ht.toFixed⟩
          · exact ⟨.error e, t, run_bind_of_error hrun, ht.serves, ht.toFixed⟩
  | evaluate target p =>
      obtain ⟨r, t, hrun, hserves, hstill⟩ := evaluate_serves h target p
      exact ⟨r, t, hrun, hserves, hstill.toFixed⟩
  | decide p =>
      obtain ⟨r, t, hrun, hserves, hstill⟩ := evaluate_serves h .main p
      exact ⟨_, t, run_bind_pure hrun, hserves, hstill.toFixed⟩
  | addPath | removePath => exact hupdate rfl

end PolicyHost.Session
