import PolicyHost.Proofs.Session.Evaluation

/-!
# Sessions that serve a value

`Serves s v` says that a session is in order and has the value `v` as its data.
It speaks of the memory as an operation will find it, once the heap pointer has
gone back to one of the two checkpoints: behind the base the constants of the
guest are shown, behind the checkpoint the text of the data too. What lies
above the checkpoint does not matter, and neither does where the heap pointer
happens to stand.

An operation leaves the session serving in one of two ways. `Serves.goOn` is
for work that kept what is below the checkpoint, however it ended, and
`Serves.renew` for new data above the base.
-/

namespace PolicyHost.Session

open Json Guest

variable {g : Description} {s t : Session} {v w : Value}

/-- The store of a session after the guest got its fuel and the heap pointer
went back to an address. -/
def rewound (s : Session) (a : UInt32) : Store :=
  { s.store with heap := a, fuel := s.maxFuel }

/-- A session is in order and has a value as its data. -/
structure Serves (g : Description) (s : Session) (v : Value) : Prop where
  guest : s.guest = .described g
  orderly : g.Orderly
  room : Room (s.rewound s.checkpoint)
  charted : Charted g 0 0 (s.rewound s.base)
  data : Shows 0 0 (s.rewound s.checkpoint) ⟨s.data, encode v⟩
  ordered : s.base.toNat ≤ s.checkpoint.toNat
  /-- There is room for an empty object behind the base. -/
  spare : s.base.toNat + 5 ≤ s.store.memory.size

/-- What no operation changes. -/
structure Fixed (s t : Session) : Prop where
  guest : t.guest = s.guest
  services : t.services = s.services
  entrypoints : t.entrypoints = s.entrypoints
  maxFuel : t.maxFuel = s.maxFuel
  base : t.base = s.base

theorem Fixed.refl (s : Session) : Fixed s s := ⟨rfl, rfl, rfl, rfl, rfl⟩

theorem Fixed.trans {u : Session} (h : Fixed s t) (h' : Fixed t u) : Fixed s u where
  guest := h'.guest.trans h.guest
  services := h'.services.trans h.services
  entrypoints := h'.entrypoints.trans h.entrypoints
  maxFuel := h'.maxFuel.trans h.maxFuel
  base := h'.base.trans h.base

/-- What evaluations leave as it is, too: where the data stands. -/
structure Still (s t : Session) : Prop extends Fixed s t where
  data : t.data = s.data
  checkpoint : t.checkpoint = s.checkpoint

theorem Still.refl (s : Session) : Still s s := ⟨.refl s, rfl, rfl⟩

theorem Still.trans {u : Session} (h : Still s t) (h' : Still t u) : Still s u where
  toFixed := h.toFixed.trans h'.toFixed
  data := h'.data.trans h.data
  checkpoint := h'.checkpoint.trans h.checkpoint

/-! ## The two ways on -/

theorem keeps_rewound {floor : Nat} {a : UInt32} {u : Store} (hk : Keeps floor (s.rewound a) u)
    (b : UInt32) : Keeps floor (s.rewound b) u :=
  ⟨hk.get, hk.size, hk.limit, hk.within⟩

/-- What is kept from an address on is there when the heap pointer goes back to
that address. -/
theorem later_rewound {a : UInt32} {u : Store} (hk : Keeps a.toNat (s.rewound a) u) :
    Later a.toNat (s.rewound a) { u with heap := a, fuel := s.maxFuel } :=
  ⟨⟨hk.get, hk.size, hk.limit, hk.within⟩, Nat.le_refl _, rfl⟩

theorem Serves.room_base (h : Serves g s v) : Room (s.rewound s.base) :=
  ⟨Nat.le_trans h.ordered h.room.heap, h.room.within, h.room.limit, h.room.fuel⟩

theorem Serves.charted_checkpoint (h : Serves g s v) :
    Charted g 0 0 (s.rewound s.checkpoint) := by
  have hlater : Later s.base.toNat (s.rewound s.base) (s.rewound s.checkpoint) :=
    ⟨.of_same rfl rfl, h.ordered, rfl⟩
  exact h.charted.keep hlater

/-- Work that kept what is below the base leaves the constants where they are. -/
theorem Serves.charted_base (h : Serves g s v) {u : Store}
    (hk : Keeps s.base.toNat (s.rewound s.base) u) :
    Charted g 0 0 { u with heap := s.base, fuel := s.maxFuel } :=
  h.charted.keep (later_rewound hk)

/-- Work that kept what is below the checkpoint leaves the data where it is. -/
theorem Serves.goOn (h : Serves g s v) {u : Store} (tainted : Bool)
    (hk : Keeps s.checkpoint.toNat (s.rewound s.checkpoint) u) :
    Serves g { s with store := u, tainted } v where
  guest := h.guest
  orderly := h.orderly
  room := ⟨Nat.le_trans h.room.heap hk.size, hk.within h.room.within,
    (congrArg (· ≤ 2 ^ 30) hk.limit).mpr h.room.limit, h.room.fuel⟩
  charted := h.charted_base (keeps_rewound (hk.lower h.ordered) s.base)
  data := h.data.keep (later_rewound hk)
  ordered := h.ordered
  spare := Nat.le_trans h.spare hk.size

/-- New data that was brought in behind the base. -/
theorem Serves.renew (h : Serves g s v) {u : Store} {a : UInt32} (tainted : Bool)
    (hl : Later s.base.toNat (s.rewound s.base) u) (hroom : Room u)
    (hdata : Shows 0 0 u ⟨a, encode w⟩) :
    Serves g { s with store := u, data := a, checkpoint := u.heap, tainted } w := by
  have hsame : Later u.heap.toNat u { u with fuel := s.maxFuel } :=
    ⟨.of_same rfl rfl, Nat.le_refl _, hl.fuel.symm⟩
  exact {
    guest := h.guest
    orderly := h.orderly
    room := hroom.later hsame hroom.heap
    charted := h.charted_base hl.toKeeps
    data := hdata.keep hsame
    ordered := hl.heap
    spare := Nat.le_trans h.spare hl.size }

/-- Data that grew upwards: the old data is still there below the new
checkpoint. -/
theorem Serves.extend (h : Serves g s v) {u : Store} (tainted : Bool)
    (hl : Later s.checkpoint.toNat (s.rewound s.checkpoint) u) (hroom : Room u) :
    Serves g { s with store := u, checkpoint := u.heap, tainted } v := by
  have hbase : Later s.base.toNat (s.rewound s.base) u :=
    ⟨keeps_rewound (hl.lower h.ordered) s.base, Nat.le_trans h.ordered hl.heap, hl.fuel⟩
  exact h.renew tainted hbase hroom (h.data.keep hl)

/-- The data does not stand at the null address, where there is a zero. -/
theorem Serves.data_ne_zero (h : Serves g s v) : s.data ≠ 0 := by
  intro hdata
  have hnull := (h.charted_checkpoint.null.has.cons).1
  have htext := h.data.has_text
  cases hbytes : encode v with
  | nil => exact encode_ne_nil v hbytes
  | cons b bytes =>
      rw [hbytes, hdata] at htext
      have hzero := zero_not_mem_encode v
      rw [hbytes, ← htext.cons.1] at hzero
      exact hzero (hnull ▸ List.mem_cons_self)

theorem Serves.takePrinted (h : Serves g s v) : Serves g s.takePrinted.2 v :=
  h.goOn s.tainted (.of_same rfl rfl)

theorem still_takePrinted (s : Session) : Still s s.takePrinted.2 :=
  ⟨⟨rfl, rfl, rfl, rfl, rfl⟩, rfl, rfl⟩

/-! ## Acts -/

theorem onGuest_run {α : Type} (work : Guest → Host → Run α) {r : Except Error α} {u : Store}
    (h : (work s.guest s.host).run s.store = (r, u)) :
    (onGuest work).run s = (r, { s with store := u }) := by
  change (((work s.guest s.host).run s.store).1,
    { s with store := ((work s.guest s.host).run s.store).2 }) = _
  rw [h]

/-- An attempt of work that ends goes on with its result or its error. -/
theorem attempt_run {α β : Type} {work : Act α} {next : Except Error α → Act β}
    {r : Except Error α} (h : work.run s = (r, t)) (hends : ∀ text, r ≠ .error (.crashed text)) :
    (attempt work >>= next).run s = (next r).run t := by
  refine run_bind_of_ok ?_
  rw [attempt, ExceptT.run_mk, h]
  split
  · next heq =>
      cases heq
      exact absurd rfl (hends _)
  · next heq =>
      cases heq
      rfl

/-- When the host goes down there is nothing to go on with. -/
theorem attempt_crashed {α β : Type} {work : Act α} {next : Except Error α → Act β}
    {text : String} (h : work.run s = (.error (.crashed text), t)) :
    (attempt work >>= next).run s = (.error (.crashed text), t) := by
  refine run_bind_of_error ?_
  rw [attempt, ExceptT.run_mk, h]

/-- A guest that is described calls no builtin while it answers one. -/
theorem host_described (hg : s.guest = .described g) :
    s.host = answer (.described g) s.services fun _ _ => stop .stackExhausted := by
  rw [host, hg]
  rfl

theorem setHeap_run (hg : s.guest = .described g) (hset : Export.setHeap ∉ g.trapping)
    (hf : s.store.fuel ≠ some 0) (a : UInt32) :
    (setHeap a).run s = (.ok (), { s with store := { s.store with heap := a } }) := by
  refine onGuest_run _ ?_
  rw [hg]
  exact (call_answered ⟨hf, hset⟩).trans run_modify

theorem heapPointer_run (hg : s.guest = .described g) (htells : Export.getHeap ∉ g.trapping)
    (hf : s.store.fuel ≠ some 0) : heapPointer.run s = (.ok s.store.heap, s) := by
  refine onGuest_run _ ?_
  rw [hg]
  exact (call_answered ⟨hf, htells⟩).trans rfl

/-- Operations begin by giving the guest its fuel and moving the heap pointer
back. -/
theorem rewind_run {place : Session → UInt32} (hg : s.guest = .described g)
    (hset : Export.setHeap ∉ g.trapping) (hf : s.maxFuel ≠ some 0)
    (hplace : ∀ store, place { s with store } = place s) :
    (rewind place).run s = (.ok (), { s with store := s.rewound (place s) }) := by
  rw [rewind, refuel, run_modify_bind, run_get_bind, hplace]
  exact setHeap_run (s := { s with store := { s.store with fuel := s.maxFuel } }) hg hset hf
    (place s)

end PolicyHost.Session
