import PolicyHost.Proofs.Session.Endings

/-!
# Sessions of guests that are described

A guest that is described moves its heap pointer back and tells where it is whenever
it has fuel and does not stop there, and it takes no fuel but for running without end.
So a session that was launched finds it as it was, and of the ways in which setting
data can end only those are left that say something of the data. Path updates end in
one of two ways.
-/

namespace PolicyHost.Session

open Json Guest

variable {g : Description} {s t : Session}

/-- The guest is one that is described, has fuel, and tells where its heap pointer is. -/
structure Lively (g : Description) (s : Session) : Prop where
  guest : s.guest = .described g
  fuel : s.maxFuel ≠ some 0
  tells : Export.getHeap ∉ g.trapping

theorem Lively.keep (h : Lively g s) (hfixed : Fixed s t) : Lively g t where
  guest := hfixed.guest.trans h.guest
  fuel := hfixed.maxFuel ▸ h.fuel
  tells := h.tells

theorem setHeap_ok (hg : s.guest = .described g) {a : UInt32}
    (h : (setHeap a).run s = (.ok (), t)) :
    Export.setHeap ∉ g.trapping ∧ t = { s with store := { s.store with heap := a } } := by
  obtain ⟨u, hwork, rfl⟩ := of_onGuest_run h
  rw [hg] at hwork
  have hcall : (call g .setHeap (modify fun u => { u with heap := a })).run s.store =
      (.ok (), u) := hwork
  obtain ⟨hanswers, hrun⟩ := call_ok hcall
  cases hrun
  exact ⟨hanswers.2, rfl⟩

theorem getHeap_ok {host : Host} {u w : Store} {a : UInt32}
    (h : ((Guest.described g).getHeap.invoke host).run u = (.ok a, w)) :
    Answers g .getHeap u ∧ a = u.heap ∧ w = u := by
  have hcall : (call g .getHeap do return (← get).heap).run u = (.ok a, w) := h
  obtain ⟨hanswers, hrun⟩ := call_ok hcall
  cases hrun
  exact ⟨hanswers, rfl, rfl⟩

/-- A launch asks the guest for its heap pointer, with all the fuel. -/
theorem launch_lively {config : Config} {registry : Builtin.Registry} {lines : List String}
    (h : launch (.described g) config registry = (.ok s, lines)) : Lively g s := by
  obtain ⟨tables, u, data, v, base, w, -, hload, htells, rfl⟩ := launch_ok h
  obtain ⟨⟨hfuel, htells⟩, -, -⟩ := getHeap_ok htells
  have hkept : v.fuel = config.maxFuel :=
    (load_described { u with fuel := config.maxFuel }).state_of_run hload
  rw [hkept] at hfuel
  exact ⟨rfl, hfuel, htells⟩

/-! ## Setting data -/

section

variable {v : Value} {r : Except Error UInt32} {u : Store}

theorem Lively.rewind (h : Lively g s) (hset : Export.setHeap ∉ g.trapping)
    (place : Session → UInt32) (hplace : ∀ store, place { s with store } = place s) :
    (rewind place).run s = (.ok (), { s with store := s.rewound (place s) }) :=
  rewind_run h.guest hset h.fuel hplace

/-- The guest moves its heap pointer back if it does not stop there. -/
theorem Lively.rewinds (h : Lively g s) {place : Session → UInt32} {moved : Store}
    (hplace : ∀ store, place { s with store } = place s)
    (hmoved : (Session.rewind place).run s = (.ok (), { s with store := moved })) :
    Export.setHeap ∉ g.trapping ∧ moved = s.rewound (place s) := by
  rw [Session.rewind, refuel, run_modify_bind, run_get_bind] at hmoved
  obtain ⟨hset, hsame⟩ :=
    setHeap_ok (s := { s with store := { s.store with fuel := s.maxFuel } }) h.guest hmoved
  rw [hplace] at hsame
  exact ⟨hset, congrArg Session.store hsame⟩

theorem Lively.brings (h : Lively g s) (hbrings : Brings s v r u) :
    Export.setHeap ∉ g.trapping ∧ (load s.guest s.host v).run (s.rewound s.base) = (r, u) := by
  obtain ⟨moved, hmoved, hload⟩ := hbrings
  obtain ⟨hset, rfl⟩ := h.rewinds (fun _ => rfl) hmoved
  exact ⟨hset, hload⟩

end

/-- How setting data can end, and what is left of the session then, if the guest is described. -/
inductive Settles (g : Description) (s : Session) : Payload → Except Error Unit → Session → Prop
  /-- There is no text of the data. -/
  | declined : Settles g s .unencodable (.error (.transfer .unencodable)) s
  /-- The guest does not move its heap pointer back. -/
  | stuck {v : Value} {e : Error} {store : Store} (h : Export.setHeap ∈ g.trapping) :
      Settles g s (.json v) (.error e) { s with store }
  /-- The guest takes the data. -/
  | taken {v : Value} {data : UInt32} {store : Store} (h : Export.setHeap ∉ g.trapping)
      (hload : (load s.guest s.host v).run (s.rewound s.base) = (.ok data, store)) :
      Settles g s (.json v) (.ok ())
        { s with store, data, checkpoint := store.heap, tainted := false }
  /-- The guest does not take the data, and takes the empty object. -/
  | replaced {v : Value} {e : Error} {u : Store} {data : UInt32} {store : Store}
      (h : Export.setHeap ∉ g.trapping) (hrecovers : s.recovers v = true)
      (hload : (load s.guest s.host (.object [])).run { u with heap := s.base } =
        (.ok data, store)) :
      Settles g s (.json v) (.error e)
        { s with store, data, checkpoint := store.heap, tainted := e.taints }
  /-- The guest takes neither. -/
  | lost {v : Value} {e : Error} {store : Store} (h : Export.setHeap ∉ g.trapping)
      (hrecovers : s.recovers v = false) :
      Settles g s (.json v) (.error e) { s with store, tainted := true }

/-- The guest takes the empty object or not, and loading it leaves everything else as it was. -/
theorem loadEmpty_ends (hg : s.guest = .described g) (hset : Export.setHeap ∉ g.trapping)
    (htells : Export.getHeap ∉ g.trapping) (hfuel : s.store.fuel ≠ some 0) {r : Except Error Unit}
    (h : loadEmpty.run s = (r, t)) :
    (∃ data u, (load s.guest s.host (.object [])).run { s.store with heap := s.base } =
        (.ok data, u) ∧ r = .ok () ∧ t = { s with store := u, data, checkpoint := u.heap }) ∨
      ∃ e u, r = .error e ∧ t = { s with store := u } ∧ ∀ text, e ≠ .crashed text := by
  cases hload : (load s.guest s.host (.object [])).run { s.store with heap := s.base } with
  | mk q u =>
      cases q with
      | ok data =>
          rw [loadEmpty_run_of_ok hg hset htells hfuel hload] at h
          cases h
          exact Or.inl ⟨data, u, rfl, rfl, rfl⟩
      | error e =>
          rw [loadEmpty_run_of_error hg hset hfuel hload] at h
          cases h
          exact Or.inr ⟨e, u, rfl, rfl, ((loads_described hg _ _).error_of_run hload).ends⟩

section

variable {v : Value}

/-- Bringing data in takes no fuel. -/
theorem Lively.fueled (h : Lively g s) {r : Except Error UInt32} {u : Store}
    (hbrings : Brings s v r u) : u.fuel ≠ some 0 := by
  have hkept : u.fuel = s.maxFuel :=
    (loads_described h.guest v (s.rewound s.base)).state_of_run (h.brings hbrings).2
  exact hkept ▸ h.fuel

/-- What loading the empty object comes to when data was not taken. -/
theorem Lively.reloads (h : Lively g s) {e : Error} {refused : Store}
    (hbrings : Brings s v (.error e) refused) {r : Except Error Unit}
    (hempty : loadEmpty.run { s with store := refused, tainted := e.taints } = (r, t)) :
    s.recovers v = r.isOk ∧
      ((∃ data u, (load s.guest s.host (.object [])).run { refused with heap := s.base } =
          (.ok data, u) ∧ r = .ok () ∧
          t = { s with store := u, data, checkpoint := u.heap, tainted := e.taints }) ∨
        ∃ e' u, r = .error e' ∧ t = { s with store := u, tainted := e.taints } ∧
          ∀ text, e' ≠ .crashed text) := by
  refine ⟨?_, ?_⟩
  · rw [hbrings.recovers e.taints, hempty]
  · exact loadEmpty_ends (s := { s with store := refused, tainted := e.taints }) h.guest
      (h.brings hbrings).1 h.tells (h.fueled hbrings) hempty

end

theorem Lively.settles (h : Lively g s) {p : Payload} {r : Except Error Unit}
    (hends : SetsData s p r t) : Settles g s p r t := by
  cases hends with
  | declined => exact .declined
  | stuck hstuck =>
      refine .stuck ?_
      by_contra hset
      rw [h.rewind hset _ fun _ => rfl] at hstuck
      cases hstuck
  | taken hbrings htells =>
      obtain ⟨hset, hload⟩ := h.brings hbrings
      rw [h.guest] at htells
      obtain ⟨-, rfl, rfl⟩ := getHeap_ok htells
      exact .taken hset hload
  | untold hbrings htells =>
      rw [h.guest] at htells
      have htold : (call g .getHeap do return (← get).heap).run _ = _ :=
        call_answered ⟨h.fueled hbrings, h.tells⟩
      cases htold.symm.trans htells
  | crashed hbrings =>
      obtain ⟨-, hload⟩ := h.brings hbrings
      exact absurd rfl (((loads_described h.guest _ _).error_of_run hload).ends _)
  | replaced hbrings _ hempty =>
      obtain ⟨hrecovers, ⟨data, u, hload, -, rfl⟩ | ⟨_, _, hr, -⟩⟩ := h.reloads hbrings hempty
      · exact .replaced (h.brings hbrings).1 hrecovers hload
      · cases hr
  | lost hbrings _ hempty =>
      obtain ⟨hrecovers, ⟨_, _, -, hr, -⟩ | ⟨_, u, -, rfl, -⟩⟩ := h.reloads hbrings hempty
      · cases hr
      · exact .lost (h.brings hbrings).1 hrecovers
  | fallen hbrings _ hempty =>
      obtain ⟨-, ⟨_, _, -, hr, -⟩ | ⟨_, _, hr, -, hends⟩⟩ := h.reloads hbrings hempty
      · cases hr
      · cases hr
        exact absurd rfl (hends _)

theorem Lively.setData_next (h : Lively g s) (p : Payload) :
    ∃ r t, Settles g s p r t ∧ s.next (.setData p) = t.takePrinted.2 ∧
      s.outcome (.setData p) = r.map fun _ => .null := by
  obtain ⟨r, t, hends, hrest⟩ := Session.setData_next s p
  exact ⟨r, t, h.settles hends, hrest⟩

/-! ## Path updates -/

/-- How a path update can end, and what is left of the session then. -/
inductive Updates (s : Session) : Except Error Unit → Session → Prop
  /-- The guest did not update the path. -/
  | failed {e : Error} {store : Store} : Updates s (.error e) { s with store }
  /-- The path was brought in behind the data, and the update came after it. -/
  | done {path : List String} {place : UInt32} {u store : Store}
      (hload : (load s.guest s.host (.array (path.map Value.string))).run
        (s.rewound s.checkpoint) = (.ok place, u))
      (hraised : Raised u store) :
      Updates s (.ok ()) { s with store, checkpoint := store.heap }

/-- What an update that is answered with a code comes to: nothing, or a new checkpoint where the
heap pointer is. -/
theorem settle_ends (hg : s.guest = .described g) {code : Int} {r : Except Error Unit}
    (h : (settle code).run s = (r, t)) :
    (r = .ok () ∧ t = { s with checkpoint := s.store.heap }) ∨
      ∃ e store, r = .error e ∧ t = { s with store } := by
  rw [settle] at h
  split at h
  · rw [run_get_bind] at h
    cases hset : (setHeap s.checkpoint).run s with
    | mk q u =>
        obtain ⟨store, -, rfl⟩ := of_onGuest_run hset
        cases q with
        | ok _ =>
            rw [run_bind_of_ok hset] at h
            cases h
            exact Or.inr ⟨_, store, rfl, rfl⟩
        | error e =>
            rw [run_bind_of_error hset] at h
            cases h
            exact Or.inr ⟨e, store, rfl, rfl⟩
  · cases r with
    | ok _ =>
        obtain ⟨checkpoint, u, htells, hrecord⟩ := run_bind_eq_ok h
        obtain ⟨store, hwork, rfl⟩ := of_onGuest_run htells
        rw [hg] at hwork
        obtain ⟨-, rfl, rfl⟩ := getHeap_ok hwork
        cases hrecord
        exact Or.inl ⟨rfl, rfl⟩
    | error e =>
        rcases run_bind_eq_error h with htells | ⟨checkpoint, u, -, hrecord⟩
        · obtain ⟨store, -, rfl⟩ := of_onGuest_run htells
          exact Or.inr ⟨e, store, rfl, rfl⟩
        · cases hrecord

theorem Lively.update_ends (h : Lively g s) {path : List String}
    {apply : (data path : UInt32) → Guest → Host → Run Int}
    (happly : ∀ data place host u code v,
      (apply data place (.described g) host).run u = (.ok code, v) → Raised u v)
    {r : Except Error Unit} (hrun : (update path apply).run s = (r, t)) : Updates s r t := by
  by_cases hset : Export.setHeap ∈ g.trapping
  · cases hmoved : (Session.rewind (·.checkpoint)).run s with
    | mk q u =>
        obtain ⟨moved, rfl⟩ := of_rewind_run hmoved
        cases q with
        | ok _ => exact absurd hset (h.rewinds (fun _ => rfl) hmoved).1
        | error e =>
            rw [update, run_bind_of_error hmoved] at hrun
            cases hrun
            exact .failed
  cases hwork : (load s.guest s.host (.array (path.map .string)) >>= fun place =>
      apply s.data place s.guest s.host).run (s.rewound s.checkpoint) with
  | mk q u =>
      cases q with
      | error e =>
          rw [update_run_of_error h.guest hset h.fuel hwork] at hrun
          cases hrun
          exact .failed
      | ok code =>
          rw [update_run_of_ok h.guest hset h.fuel hwork] at hrun
          obtain ⟨place, w, hload, happlied⟩ := run_bind_eq_ok hwork
          rw [h.guest] at happlied
          rcases settle_ends (s := { s with store := u }) h.guest hrun with
            ⟨rfl, rfl⟩ | ⟨e, store, rfl, rfl⟩
          · exact .done hload (happly _ _ _ _ _ _ happlied)
          · exact .failed

theorem Lively.addPath_ends (h : Lively g s) {path : List String} {p : Payload}
    {r : Except Error Unit} (hrun : (addPath path p).run s = (r, t)) : Updates s r t := by
  rw [addPath, run_get_bind] at hrun
  cases hdemand : demand s.guest .addPath with
  | error e =>
      rw [hdemand, run_bind_of_error (lift_run_error rfl)] at hrun
      cases hrun
      exact .failed
  | ok _ =>
      rw [hdemand, run_bind_of_ok (lift_run rfl)] at hrun
      cases hbytes : p.encode with
      | error e =>
          rw [hbytes, run_bind_of_error (lift_run_error rfl)] at hrun
          cases hrun
          exact .failed
      | ok bytes =>
          rw [hbytes, run_bind_of_ok (lift_run rfl)] at hrun
          refine h.update_ends (fun data place host u code v hwork => ?_) hrun
          obtain ⟨value, w, hload, hinvoke⟩ := run_bind_eq_ok hwork
          have hcall : (call g .addPath (updatePath g.addPath [data, place, value])).run w =
              (.ok code, v) := hinvoke
          exact (loadText_raised hload).trans (updatePath_raised (call_ok hcall).2)

theorem Lively.removePath_ends (h : Lively g s) {path : List String} {r : Except Error Unit}
    (hrun : (removePath path).run s = (r, t)) : Updates s r t := by
  rw [removePath, run_get_bind] at hrun
  cases hdemand : demand s.guest .removePath with
  | error e =>
      rw [hdemand, run_bind_of_error (lift_run_error rfl)] at hrun
      cases hrun
      exact .failed
  | ok _ =>
      rw [hdemand, run_bind_of_ok (lift_run rfl)] at hrun
      refine h.update_ends (fun data place host u code v hinvoke => ?_) hrun
      have hcall : (call g .removePath (updatePath g.removePath [data, place])).run u =
          (.ok code, v) := hinvoke
      exact updatePath_raised (call_ok hcall).2

theorem Lively.updates_next (h : Lively g s) {op : Operation} (hop : op.updates = true) :
    ∃ r t, Updates s r t ∧ s.next op = t.takePrinted.2 ∧
      s.outcome op = r.map fun _ => .null := by
  cases op with
  | addPath path p =>
      cases hrun : (addPath path p).run s with
      | mk r t =>
          exact ⟨r, t, h.addPath_ends hrun, next_of_run (.addPath path p) (run_bind_pure hrun)⟩
  | removePath path =>
      cases hrun : (removePath path).run s with
      | mk r t =>
          exact ⟨r, t, h.removePath_ends hrun,
            next_of_run (.removePath path) (run_bind_pure hrun)⟩
  | setData | evaluate | decide => cases hop

end PolicyHost.Session
