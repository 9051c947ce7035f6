import PolicyHost.Proofs.Guest.Length
import PolicyHost.Proofs.Guest.Orderly

/-!
# Texts in and out

The work that brings texts into an orderly guest and out of it follows its
plan. `allocate_follows` is where room may be missing; everything else writes
only what was allocated before. `loadText_follows` shows that the cell that
comes out of bringing a text in holds that text, and `dump_run` that a cell
that is shown is brought out as what its text spells.

A cell is shown (`Shows`) by a store when its text stands in the memory with
the zero that ends it, below the heap pointer. While an evaluation runs, its
context is a gap among the cells that nothing else may meet; the gap is given
by its two ends, and is empty where there is no context.
-/

namespace PolicyHost.Guest

open Json

/-! ## Cells that are shown -/

/-- A store shows a cell, which does not meet the gap from `lo` to `hi`. -/
structure Shows (lo hi : Nat) (s : Store) (c : Cell) : Prop where
  has : s.memory.Has c.address.toNat (c.text ++ [0])
  zero : (0 : UInt8) ∉ c.text
  below : c.stop ≤ s.heap.toNat
  apart : c.stop ≤ lo ∨ hi ≤ c.address.toNat

namespace Shows

variable {lo hi : Nat} {s s' : Store} {c : Cell}

theorem keep (h : Shows lo hi s c) (hk : Later s.heap.toNat s s') : Shows lo hi s' c := by
  refine ⟨hk.has h.has ?_, h.zero, Nat.le_trans h.below hk.heap, h.apart⟩
  have := h.below
  rw [Cell.stop] at this
  rw [List.length_append, List.length_singleton]
  omega

theorem has_text (h : Shows lo hi s c) : s.memory.Has c.address.toNat c.text :=
  (Memory.has_append.mp h.has).1

theorem text? (h : Shows lo hi s c) : s.memory.text? c.address.toNat = some c.text :=
  h.has.text? h.zero

theorem textAt (h : Shows lo hi s c) : s.memory.textAt ⟨c.address⟩ = .ok c.text := by
  have hsize := h.has.1
  rw [Memory.textAt_eq, if_neg (by simp only; omega), h.text?]

/-- What lies below the heap pointer does not meet a gap above it. -/
theorem above (h : Shows lo hi s c) (hi' : Nat) : Shows s.heap.toNat hi' s c :=
  ⟨h.has, h.zero, h.below, Or.inl h.below⟩

theorem fill (h : Shows lo hi s c) {a : Nat} {bytes : List UInt8} (ha : lo ≤ a)
    (hb : a + bytes.length ≤ hi) (hsize : a + bytes.length ≤ s.memory.size) :
    Shows lo hi { s with memory := s.memory.write a bytes } c := by
  refine ⟨h.has.write hsize ?_, h.zero, h.below, h.apart⟩
  have hapart := h.apart
  rw [Cell.stop] at hapart
  rw [List.length_append, List.length_singleton]
  omega

end Shows

/-! ## Parts of bringing a text in -/

section Parts

variable {g : Guest} {host : Host} {s : Store} {bytes : List UInt8}

/-- Has a text parsed that stands at an address. -/
def parseText (g : Guest) (host : Host) (bytes : List UInt8) (a : UInt32) : Run UInt32 := do
  let value ← (g.jsonParse a (.ofNat bytes.length)).invoke host
  if value = 0 then throw (.refusedText ⟨a⟩ bytes.length)
  return value

/-- Writes a text to bytes that there are for it, and has it parsed there. -/
def storeText (g : Guest) (host : Host) (bytes : List UInt8) (a : UInt32) : Run UInt32 := do
  if (← get).memory.holds a.toNat bytes.length then
    modify fun s => { s with memory := s.memory.write a.toNat bytes }
  else stop (.writeOutside bytes.length ⟨a⟩)
  parseText g host bytes a

theorem loadText_eq (h : bytes.length ≤ longestText) : loadText g host bytes =
    ((g.malloc (.ofNat bytes.length)).invoke host >>= storeText g host bytes) := by
  rw [loadText]
  dsimp only
  rw [if_neg (Nat.not_lt_of_le h)]
  rfl

theorem storeText_run {a : UInt32} (h : a.toNat + bytes.length ≤ s.memory.size) :
    (storeText g host bytes a).run s =
      (parseText g host bytes a).run { s with memory := s.memory.write a.toNat bytes } := by
  rw [storeText, run_get_bind, if_pos (by simpa [Memory.holds] using h)]
  rfl

theorem storeText_outside {a : UInt32} (h : ¬ a.toNat + bytes.length ≤ s.memory.size) :
    (storeText g host bytes a).run s =
      (.error (.trap (.writeOutside bytes.length ⟨a⟩)), s) := by
  rw [storeText, run_get_bind, if_neg (by simpa [Memory.holds] using h)]
  rfl

/-- A text that is too long does not reach the guest. -/
theorem loadText_oversized (h : longestText < bytes.length) :
    (loadText g host bytes).run s = (.error (.transfer (.oversized bytes.length)), s) := by
  rw [loadText]
  simp only [if_pos h]
  rfl

end Parts

/-! ## What single operations do -/

section Operations

variable {g : Description} {host : Host} {s : Store}

/-- A call of the host into a guest that is described. -/
def call {α : Type} (g : Description) (e : Export) (work : Run α) : Run α := do
  if (← get).fuel = some 0 then stop .outOfFuel else guarded g e work

/-- A guest gets to work when it is called: it has fuel, and the operation does
not only stop. -/
def Answers (g : Description) (e : Export) (s : Store) : Prop :=
  s.fuel ≠ some 0 ∧ e ∉ g.trapping

theorem call_answered {α : Type} {e : Export} {work : Run α} (h : Answers g e s) :
    (call g e work).run s = work.run s := by
  rw [call, run_get_bind, if_neg h.1, guarded, if_neg h.2]

theorem call_unanswered {α : Type} {e : Export} {work : Run α} (h : ¬ Answers g e s) :
    ∃ cause, (call g e work).run s = (.error (.trap cause), s) := by
  rw [call, run_get_bind]
  by_cases hfuel : s.fuel = some 0
  · rw [if_pos hfuel]
    exact ⟨_, rfl⟩
  · by_cases htrapping : e ∈ g.trapping
    · rw [if_neg hfuel, guarded, if_pos htrapping]
      exact ⟨_, rfl⟩
    · exact absurd ⟨hfuel, htrapping⟩ h

/-- With fuel a call of an orderly guest is the work behind it. -/
theorem call_run {α : Type} {e : Export} {work : Run α} (ho : g.Orderly) (hf : s.fuel ≠ some 0) :
    (call g e work).run s = work.run s :=
  call_answered ⟨hf, ho.not_trapping e⟩

theorem call_bind_run {α β : Type} {e : Export} {work : Run α} {next : α → Run β}
    (ho : g.Orderly) (hf : s.fuel ≠ some 0) :
    (call g e work >>= next).run s = (work >>= next).run s := by
  change ExceptT.bindCont next ((call g e work).run s).1 ((call g e work).run s).2 = _
  rw [call_run ho hf]
  rfl

theorem writeBytes_run {a : Nat} {bytes : List UInt8} (h : a + bytes.length ≤ s.memory.size) :
    (writeBytes a bytes).run s = (.ok (), { s with memory := s.memory.write a bytes }) := by
  rw [writeBytes, run_get_bind, if_pos (by simpa [Memory.holds] using h)]
  rfl

theorem copy_run {target source : Nat} {bytes : List UInt8} (hs : s.memory.Has source bytes)
    (ht : target + bytes.length ≤ s.memory.size) :
    (copy target source bytes.length).run s =
      (.ok (), { s with memory := s.memory.write target bytes }) := by
  rw [copy, run_get_bind, if_pos (by simpa [Memory.holds] using hs.1), run_get_bind, hs.2]
  exact writeBytes_run ht

theorem growMemory_refused {pages : Nat} (h : s.limit < s.memory.size + pages * pageSize) :
    (growMemory pages).run s = (.ok growthRefused, s) := by
  rw [growMemory, run_get_bind, run_get_bind, if_pos h]
  rfl

theorem growMemory_granted {pages : Nat} (h : ¬ s.limit < s.memory.size + pages * pageSize) :
    (growMemory pages).run s =
      (.ok (.ofNat s.memory.pages.size), { s with
        memory := s.memory.grow pages
        peak := max s.peak (s.memory.size + pages * pageSize) }) := by
  rw [growMemory, run_get_bind, run_get_bind, if_neg h]
  rfl

/-- No number of pages that a guest can have looks like a refusal. -/
theorem pages_ne_refused {m : Memory} (h : m.size ≤ 2 ^ 32) :
    UInt32.ofNat m.pages.size ≠ growthRefused := by
  intro heq
  have hsize : m.pages.size * 65536 ≤ 2 ^ 32 := h
  have hword : (UInt32.ofNat m.pages.size).toNat = m.pages.size := by
    rw [UInt32.toNat_ofNat']
    exact Nat.mod_eq_of_lt (by omega)
  have hrefused : growthRefused.toNat = 2 ^ 32 - 1 := rfl
  rw [heq, hrefused] at hword
  omega

/-- The pages that the allocator asks for when its heap runs out. -/
def missingPages (s : Store) (count : UInt32) : Nat :=
  ((s.heap + count - UInt32.ofNat s.memory.size) >>> 16).toNat + 1

theorem allocate_enough {count : UInt32} (ho : g.Orderly)
    (h : ¬ UInt32.ofNat s.memory.size < s.heap + count) :
    (allocate g count).run s = (.ok s.heap, { s with heap := s.heap + count }) := by
  rw [allocate, ho.refusesFrom, ho.grows, Option.any_none, if_neg Bool.false_ne_true]
  rw [run_get_bind, run_modify_bind, if_pos rfl, run_get_bind]
  rw [if_neg h]
  rfl

theorem allocate_refused {count : UInt32} (ho : g.Orderly)
    (h : UInt32.ofNat s.memory.size < s.heap + count)
    (hlimit : s.limit < s.memory.size + missingPages s count * pageSize) :
    (allocate g count).run s =
      (.error (.trap .unreachable), { s with heap := s.heap + count }) := by
  rw [allocate, ho.refusesFrom, ho.grows, Option.any_none, if_neg Bool.false_ne_true]
  rw [run_get_bind, run_modify_bind, if_pos rfl, run_get_bind]
  rw [if_pos h]
  exact run_bind_of_ok (growMemory_refused (s := { s with heap := s.heap + count }) hlimit)

theorem allocate_granted {count : UInt32} (ho : g.Orderly)
    (h : UInt32.ofNat s.memory.size < s.heap + count) (hsize : s.memory.size ≤ 2 ^ 32)
    (hlimit : ¬ s.limit < s.memory.size + missingPages s count * pageSize) :
    (allocate g count).run s =
      (.ok s.heap, { s with
        heap := s.heap + count, memory := s.memory.grow (missingPages s count),
        peak := max s.peak (s.memory.size + missingPages s count * pageSize) }) := by
  rw [allocate, ho.refusesFrom, ho.grows, Option.any_none, if_neg Bool.false_ne_true]
  rw [run_get_bind, run_modify_bind, if_pos rfl, run_get_bind]
  rw [if_pos h]
  refine (run_bind_of_ok
    (growMemory_granted (s := { s with heap := s.heap + count }) hlimit)).trans ?_
  rw [if_neg (pages_ne_refused hsize)]
  rfl

/-- The next addresses of the heap do not wrap where there is room. -/
theorem Room.toNat_add {count : UInt32} (hroom : Room s) (hcount : count.toNat ≤ 2 ^ 31) :
    (s.heap + count).toNat = s.heap.toNat + count.toNat := by
  have hheap := hroom.heap
  have hsize := hroom.size_le
  rw [UInt32.toNat_add]
  exact Nat.mod_eq_of_lt (by omega)

theorem Room.toNat_size (hroom : Room s) :
    (UInt32.ofNat s.memory.size).toNat = s.memory.size := by
  have hsize := hroom.size_le
  rw [UInt32.toNat_ofNat']
  exact Nat.mod_eq_of_lt (by omega)

/-- The allocator runs out exactly when the heap would leave the memory. -/
theorem Room.lacks_iff {count : UInt32} (hroom : Room s) (hcount : count.toNat ≤ 2 ^ 31) :
    UInt32.ofNat s.memory.size < s.heap + count ↔
      s.memory.size < s.heap.toNat + count.toNat := by
  rw [UInt32.lt_iff_toNat_lt, hroom.toNat_add hcount, hroom.toNat_size]

/-- The pages asked for are as many as the missing bytes need, and one more. -/
theorem Room.grown {count : UInt32} (hroom : Room s) (hcount : count.toNat ≤ 2 ^ 31)
    (h : UInt32.ofNat s.memory.size < s.heap + count) :
    s.heap.toNat + count.toNat ≤ s.memory.size + missingPages s count * pageSize := by
  have hpages : missingPages s count =
      (s.heap.toNat + count.toNat - s.memory.size) / 65536 + 1 := by
    rw [missingPages, UInt32.toNat_shiftRight, UInt32.toNat_sub_of_le _ _ (UInt32.le_of_lt h),
      hroom.toNat_add hcount, hroom.toNat_size]
    exact congrArg (· + 1) (Nat.shiftRight_eq_div_pow _ _)
  rw [hpages, pageSize]
  omega

theorem allocate_follows {count : UInt32} (ho : g.Orderly) (hroom : Room s)
    (hcount : count.toNat ≤ 2 ^ 31) :
    Follows s.heap.toNat
      (fun a b s' => a = s.heap ∧ b = s.heap ∧ s'.heap.toNat = s.heap.toNat + count.toNat)
      (allocate g count) (Plan.take count.toNat) s := by
  have htop := hroom.toNat_add hcount
  have hlt := hroom.lacks_iff hcount
  have hstart : Plan.take count.toNat s.heap.toNat = (.ok s.heap, count.toNat) := by
    rw [Plan.take_apply, UInt32.ofNat_toNat]
  by_cases h : UInt32.ofNat s.memory.size < s.heap + count
  · by_cases hl : s.limit < s.memory.size + missingPages s count * pageSize
    · constructor
      · rw [allocate_refused ho h hl]
        exact .of_same rfl rfl
      · rw [allocate_refused ho h hl, hstart]
        exact .exhausted (Or.inl rfl) (hlt.mp h) rfl
    · have hsize : s.memory.size ≤ 2 ^ 32 := Nat.le_trans hroom.size_le (by decide)
      have hgrown : s.heap.toNat + count.toNat ≤ (s.memory.grow (missingPages s count)).size := by
        rw [Memory.size_grow]
        exact hroom.grown hcount h
      have hgranted : (s.memory.grow (missingPages s count)).size ≤ s.limit := by
        rw [Memory.size_grow]
        exact Nat.le_of_not_lt hl
      constructor
      · rw [allocate_granted ho h hsize hl]
        exact .of_grow rfl rfl hgranted
      · rw [allocate_granted ho h hsize hl, hstart]
        exact .ok htop (by rw [htop]; exact hgrown) rfl ⟨rfl, rfl, htop⟩
  · have henough := mt hlt.mpr h
    constructor
    · rw [allocate_enough ho h]
      exact .of_same rfl rfl
    · rw [allocate_enough ho h, hstart]
      refine .ok htop ?_ rfl ⟨rfl, rfl, htop⟩
      rw [htop]
      exact Nat.le_of_not_lt henough

end Operations

/-! ## Bringing a text in -/

section Texts

variable {g : Description} {host : Host} {s : Store} {lo hi : Nat} {bytes : List UInt8}

/-- What comes out of bringing a text in: a cell above everything that was
there. -/
def Brought (lo hi : Nat) (heap : UInt32) (a : UInt32) (c : Cell) (s : Store) : Prop :=
  a = c.address ∧ Shows lo hi s c ∧ heap.toNat ≤ c.address.toNat

theorem refusal?_eq (ho : g.Orderly) :
    g.refusal? bytes = if (g.refusal? bytes).isSome then some .reject else none := by
  cases h : g.refusal? bytes with
  | none => rfl
  | some action =>
      rw [Description.refusal?] at h
      obtain ⟨r, hr, rfl⟩ := Option.map_eq_some_iff.mp h
      rw [(ho.refusals r (List.mem_of_find?_eq_some hr)).1]
      rfl

theorem peeks_le_of_refusal? (ho : g.Orderly) (h : (g.refusal? bytes).isSome = true) :
    g.peeks ≤ bytes.length := by
  rw [Description.refusal?, Option.isSome_map] at h
  obtain ⟨⟨start, action⟩, hr⟩ := Option.isSome_iff_exists.mp h
  have hprefix : start.isPrefixOf bytes = true :=
    List.find?_some (p := fun (r : List UInt8 × Refusal) => r.1.isPrefixOf bytes) hr
  have hlong : g.peeks ≤ start.length := (ho.refusals _ (List.mem_of_find?_eq_some hr)).2
  exact Nat.le_trans hlong (List.isPrefixOf_iff_prefix.mp hprefix).length_le

theorem parse_refused {a count : UInt32} (ho : g.Orderly) (hb : s.memory.Has a.toNat bytes)
    (hcount : count.toNat = bytes.length) (hrefused : (g.refusal? bytes).isSome = true) :
    (parse g a count).run s = (.ok 0, { s with globals := s.globals + 1 }) := by
  have hread : s.memory.read a.toNat count.toNat = bytes := by rw [hcount]; exact hb.2
  have hpeeks : s.memory.holds a.toNat g.peeks = true := by
    have := peeks_le_of_refusal? ho hrefused
    have := hb.1
    simp only [Memory.holds, decide_eq_true_eq]
    omega
  rw [parse, run_modify_bind, run_get_bind]
  simp only [ho.parseLimit, Option.any_none, Bool.false_eq_true, if_false, run_get_bind, hpeeks,
    if_true, hread]
  rw [refusal?_eq ho, if_pos hrefused]
  rfl

/-- The zero behind bytes that were written makes a cell of them. -/
theorem shows_write {s' : Store} {a : UInt32} (hsize : a.toNat + bytes.length + 1 ≤ s.memory.size)
    (hzero : (0 : UInt8) ∉ bytes) (hhi : hi ≤ a.toNat)
    (hmemory : s'.memory = s.memory.write a.toNat (bytes ++ [0]))
    (hbelow : a.toNat + bytes.length + 1 ≤ s'.heap.toNat) : Shows lo hi s' ⟨a, bytes⟩ := by
  refine ⟨?_, hzero, hbelow, Or.inr hhi⟩
  rw [hmemory]
  exact Memory.has_write (by rw [List.length_append, List.length_singleton]; omega)

theorem toNat_length (h : bytes.length ≤ longestText) :
    (UInt32.ofNat bytes.length).toNat = bytes.length := by
  rw [UInt32.toNat_ofNat']
  exact Nat.mod_eq_of_lt (by rw [longestText] at h; omega)

theorem toNat_succ {count : UInt32} (hcount : count.toNat = bytes.length)
    (hlong : bytes.length ≤ longestText) : (count + 1).toNat = bytes.length + 1 := by
  rw [UInt32.toNat_add, hcount]
  exact Nat.mod_eq_of_lt (by simp only [longestText] at hlong; change _ + 1 < _; omega)

/-- Copies a text of so many bytes, with a zero behind it, to new bytes. -/
def copyOut (g : Description) (a count : UInt32) : Run UInt32 := do
  let value ← allocate g (count + 1)
  copy value.toNat a.toNat count.toNat
  writeBytes (value.toNat + count.toNat) [0]
  return value

/-- A text and the zero behind it are copied in one write. -/
theorem copyBytes_run {value : UInt32} {source : Nat} (hb : s.memory.Has source bytes)
    (hfits : value.toNat + bytes.length + 1 ≤ s.memory.size) :
    (do
      copy value.toNat source bytes.length
      writeBytes (value.toNat + bytes.length) [0]
      return value : Run UInt32).run s =
        (.ok value, { s with memory := s.memory.write value.toNat (bytes ++ [0]) }) := by
  rw [run_bind_of_ok (copy_run hb (by omega)),
    run_bind_of_ok (writeBytes_run (by simp; omega)), Memory.write_append]
  rfl

theorem copyOut_follows {a count : UInt32} (ho : g.Orderly) (hroom : Room s)
    (hb : s.memory.Has a.toNat bytes) (hbelow : a.toNat + bytes.length ≤ s.heap.toNat)
    (hcount : count.toNat = bytes.length) (hlong : bytes.length ≤ longestText)
    (hzero : (0 : UInt8) ∉ bytes) (hhi : hi ≤ s.heap.toNat) :
    Follows s.heap.toNat (Brought lo hi s.heap) (copyOut g a count) (Plan.copyOf bytes) s := by
  have hcopied := toNat_succ hcount hlong
  rw [copyOut, Plan.copyOf, ← hcopied]
  refine .bind hroom (allocate_follows ho hroom ?_) (Nat.le_refl _) ?_
  · rw [hcopied]
    simp only [longestText] at hlong
    omega
  · rintro _ _ s₁ hroom₁ hlater ⟨rfl, rfl, htop⟩
    rw [hcopied] at htop
    rw [hcount]
    have hsize := hroom₁.heap
    have hfits : s.heap.toNat + bytes.length + 1 ≤ s₁.memory.size := by omega
    refine .done hroom₁ (copyBytes_run (hlater.has hb hbelow) hfits) rfl
      (.of_write ?_ (Nat.le_refl _)) rfl rfl ⟨rfl, ?_, Nat.le_refl _⟩
    · rw [List.length_append, List.length_singleton]
      omega
    · exact shows_write hfits hzero hhi rfl (by simp only; omega)

/-- The parser copies a text that it does not refuse. -/
theorem parse_taken {a count : UInt32} (ho : g.Orderly) (hb : s.memory.Has a.toNat bytes)
    (hcount : count.toNat = bytes.length) (htaken : (g.refusal? bytes).isSome = false)
    (hpeeks : s.memory.holds a.toNat g.peeks = true) :
    (parse g a count).run s = (copyOut g a count).run { s with globals := s.globals + 1 } := by
  have hread : s.memory.read a.toNat count.toNat = bytes := by rw [hcount]; exact hb.2
  have hnone : g.refusal? bytes = none := by rw [refusal?_eq ho, htaken]; rfl
  rw [parse, run_modify_bind, copyOut]
  simp only [ho.parseLimit, Option.any_none, Bool.false_eq_true, if_false, run_get_bind, hpeeks,
    if_true, hread, hnone]

/-- The parser looks at bytes behind a short text, which may lie outside the memory. -/
theorem parse_outside {a count : UInt32} (ho : g.Orderly)
    (hpeeks : ¬ s.memory.holds a.toNat g.peeks = true) :
    (parse g a count).run s =
      (.error (.trap .outOfBounds), { s with globals := s.globals + 1 }) := by
  rw [parse, run_modify_bind]
  simp only [ho.parseLimit, Option.any_none, Bool.false_eq_true, if_false, run_get_bind, hpeeks]
  rfl

theorem parse_follows {a count : UInt32} (ho : g.Orderly) (hroom : Room s)
    (hb : s.memory.Has a.toNat bytes) (hbelow : a.toNat + bytes.length ≤ s.heap.toNat)
    (hcount : count.toNat = bytes.length) (hlong : bytes.length ≤ longestText)
    (hne : bytes ≠ []) (hzero : (0 : UInt8) ∉ bytes) (hhi : hi ≤ s.heap.toNat)
    (htaken : (g.refusal? bytes).isSome = false) :
    Follows s.heap.toNat (Brought lo hi s.heap) (parse g a count) (Plan.copyOf bytes) s := by
  have hpos : 0 < bytes.length := List.length_pos_iff.mpr hne
  have hroom' : Room { s with globals := s.globals + 1 } := hroom.counted
  by_cases hpeeks : s.memory.holds a.toNat g.peeks = true
  · exact .step (parse_taken ho hb hcount htaken hpeeks) (.of_same rfl rfl) rfl rfl
      (copyOut_follows ho hroom' hb hbelow hcount hlong hzero hhi)
  · have hshort : s.memory.size < a.toNat + g.peeks := by
      simpa [Memory.holds] using hpeeks
    have hpeek := ho.peeks
    refine .step (w := stop .outOfBounds) (t := { s with globals := s.globals + 1 })
      (parse_outside ho hpeeks) (.of_same rfl rfl) rfl rfl (.exhausted (Or.inr rfl) rfl ?_)
    change s.memory.size < s.heap.toNat + (bytes.length + 1)
    omega

/-- A text that has its bytes and is parsed there is refused, or copied. -/
theorem parseText_follows {a : UInt32} (ho : g.Orderly) (hroom : Room s)
    (hb : s.memory.Has a.toNat bytes) (hbelow : a.toNat + bytes.length ≤ s.heap.toNat)
    (hlong : bytes.length ≤ longestText) (hne : bytes ≠ []) (hzero : (0 : UInt8) ∉ bytes)
    (hhi : hi ≤ s.heap.toNat) :
    Follows s.heap.toNat (Brought lo hi s.heap) (parseText (.described g) host bytes a)
      (if (g.refusal? bytes).isSome then Plan.fail (.refusedText ⟨a⟩ bytes.length)
        else Plan.copyOf bytes) s := by
  have hpos : 0 < bytes.length := List.length_pos_iff.mpr hne
  have hcount := toNat_length hlong
  by_cases hrefused : (g.refusal? bytes).isSome = true
  · rw [if_pos hrefused]
    have hparse := (call_run (e := .parse) ho hroom.fuel).trans
      (parse_refused ho hb hcount hrefused)
    exact .step (run_bind_of_ok hparse) (.of_same rfl rfl) rfl rfl (.fail rfl)
  · rw [if_neg hrefused]
    have hparse : Follows s.heap.toNat (Brought lo hi s.heap)
        (call g .parse (parse g a (.ofNat bytes.length))) (Plan.copyOf bytes) s :=
      .of_run_eq (call_run ho hroom.fuel) (parse_follows ho hroom hb hbelow hcount hlong hne hzero
        hhi (by simpa using hrefused))
    rw [parseText, ← bind_pure (Plan.copyOf bytes)]
    refine .bind hroom hparse (Nat.le_refl _) ?_
    rintro _ c s₁ hroom₁ - ⟨rfl, hshows, hfresh⟩
    have hne0 : c.address ≠ 0 := by
      intro h0
      rw [h0] at hfresh
      exact absurd hfresh (by change ¬ _ ≤ 0; omega)
    rw [if_neg hne0]
    exact .pure hroom₁ ⟨rfl, hshows, hfresh⟩

theorem takeText_follows (ho : g.Orderly) (hroom : Room s) (hlong : bytes.length ≤ longestText) :
    Follows s.heap.toNat
      (fun a b s' => a = s.heap ∧ b = s.heap ∧ s'.heap.toNat = s.heap.toNat + bytes.length)
      (call g .allocate (allocate g (.ofNat bytes.length))) (Plan.take bytes.length) s := by
  have hcount := toNat_length hlong
  have hallocate : Follows s.heap.toNat _ (allocate g (.ofNat bytes.length)) _ s :=
    allocate_follows ho hroom (by
      rw [hcount]
      simp only [longestText] at hlong
      omega)
  rw [hcount] at hallocate
  exact .of_run_eq (call_run ho hroom.fuel) hallocate

/-- Bringing a text in follows its plan: it is refused by the parser, or its
copy stands above everything that was there. -/
theorem loadText_follows (ho : g.Orderly) (hroom : Room s) (hne : bytes ≠ [])
    (hzero : (0 : UInt8) ∉ bytes) (hhi : hi ≤ s.heap.toNat) :
    Follows s.heap.toNat (Brought lo hi s.heap) (loadText (.described g) host bytes)
      (Plan.loadText g bytes) s := by
  rw [Plan.loadText]
  by_cases hlong : longestText < bytes.length
  · rw [if_pos hlong]
    exact .fail (loadText_oversized hlong)
  have hshort := Nat.le_of_not_lt hlong
  rw [if_neg hlong, loadText_eq hshort]
  refine .bind hroom (takeText_follows ho hroom hshort) (Nat.le_refl _) ?_
  rintro _ _ s₁ hroom₁ hlater ⟨rfl, rfl, htop⟩
  have hsize := hroom₁.heap
  have hfits : s.heap.toNat + bytes.length ≤ s₁.memory.size := by omega
  have hparse : Follows s₁.heap.toNat (Brought lo hi s₁.heap)
      (parseText (.described g) host bytes s.heap) _
      { s₁ with memory := s₁.memory.write s.heap.toNat bytes } :=
    parseText_follows ho (hroom₁.write s.heap.toNat bytes) (Memory.has_write hfits)
      (Nat.le_of_eq htop.symm) hshort hne hzero (by simp only; omega)
  have hbelow : s.heap.toNat ≤ s₁.heap.toNat := by omega
  exact .step (storeText_run hfits) (.of_write hfits (Nat.le_refl _)) rfl rfl
    ((hparse.lower hbelow).weaken fun a c s' _ hbrought =>
      ⟨hbrought.1, hbrought.2.1, Nat.le_trans hbelow hbrought.2.2⟩)

theorem load_follows (ho : g.Orderly) (hroom : Room s) (v : Value) (hhi : hi ≤ s.heap.toNat) :
    Follows s.heap.toNat (Brought lo hi s.heap) (load (.described g) host v) (Plan.load g v) s := by
  rw [load_eq]
  exact loadText_follows ho hroom (encode_ne_nil v) (zero_not_mem_encode v) hhi

/-! ## What becomes of a text -/

/-- A text that was brought in: its copy stands above everything else, at a place that its length
decides. -/
structure Copied (u : Store) (bytes : List UInt8) (a : UInt32) (u' : Store) : Prop where
  later : Later u.heap.toNat u u'
  room : Room u'
  shows : Shows 0 0 u' ⟨a, bytes⟩
  address : a = .ofNat (u.heap.toNat + bytes.length)
  heap : u'.heap.toNat = u.heap.toNat + (2 * bytes.length + 1)

/-- What becomes of bringing a text in: a copy of it above everything else, or
an error that leaves the fuel alone. -/
theorem loadText_cases {g : Description} (host : Host) {u : Store} {bytes : List UInt8}
    (ho : g.Orderly)
    (hroom : Room u) (hne : bytes ≠ []) (hzero : (0 : UInt8) ∉ bytes) :
    (∃ a u', (loadText (.described g) host bytes).run u = (.ok a, u') ∧ Copied u bytes a u' ∧
      (Plan.loadText g bytes u.heap.toNat).1 = .ok ⟨a, bytes⟩) ∨
    (∃ e u', (loadText (.described g) host bytes).run u = (.error e, u') ∧ Keeps u.heap.toNat u u' ∧
      u'.fuel = u.fuel ∧ Foretold u (Plan.loadText g bytes u.heap.toNat) e) := by
  have hfollows :
      Follows u.heap.toNat (Brought 0 0 u.heap) (loadText (.described g) host bytes) _ u :=
    loadText_follows ho hroom hne hzero (Nat.zero_le _)
  rcases hfollows.outcome hroom with ⟨a, c, u', taken, hrun, hplan, hheap, hl, hr, rfl, hc, -⟩ |
    ⟨e, u', taken, hrun, hplan, -, hk, hf⟩ | ⟨cause, u', hcause, hrun, hsmall, hk, hf⟩
  · rcases Plan.loadText_cases g bytes u.heap.toNat with htaken | ⟨e, taken, hfails, -⟩
    · rw [htaken] at hplan
      cases hplan
      exact Or.inl ⟨_, u', hrun, ⟨hl, hr, hc, rfl, hheap⟩, congrArg Prod.fst htaken⟩
    · rw [hfails] at hplan
      cases hplan
  · have hfuel : e ≠ .trap .outOfFuel := by
      rintro rfl
      rcases Plan.loadText_cases g bytes u.heap.toNat with htaken | ⟨e, taken, hfails, huntainted⟩
      · rw [htaken] at hplan
        cases hplan
      · rw [hfails] at hplan
        cases hplan
        cases huntainted
    exact Or.inr ⟨e, u', hrun, hk, hf.resolve_right hfuel, Or.inl (congrArg Prod.fst hplan)⟩
  · exact Or.inr ⟨_, u', hrun, hk, hf, Or.inr ⟨cause, hcause, rfl, hsmall⟩⟩

/-- The empty object comes in wherever there are five bytes for it. -/
theorem load_empty {g : Description} {host : Host} {u : Store} (ho : g.Orderly) (hroom : Room u)
    (hspare : u.heap.toNat + 5 ≤ u.memory.size) :
    ∃ a u', (load (.described g) host (.object [])).run u = (.ok a, u') ∧
      Copied u (encode (.object [])) a u' := by
  have hplan : Plan.load g (.object []) u.heap.toNat =
      (.ok ⟨.ofNat (u.heap.toNat + (encode (.object [])).length), encode (.object [])⟩,
        2 * (encode (.object [])).length + 1) :=
    Plan.loadText_taken (by rw [length_encode_empty]; decide) ho.empty _
  have hfollows :
      Follows u.heap.toNat (Brought 0 0 u.heap) (load (.described g) host (.object [])) _ u :=
    load_follows ho hroom _ (Nat.zero_le _)
  rcases hfollows.outcome hroom with ⟨a, c, u', taken, hrun, hp, hheap, hl, hr, rfl, hc, -⟩ |
    ⟨e, u', taken, -, hp, -⟩ | ⟨cause, u', -, -, hsmall, -⟩
  · rw [hplan] at hp
    cases hp
    exact ⟨_, u', hrun, hl, hr, hc, rfl, hheap⟩
  · rw [hplan] at hp
    cases hp
  · rw [hplan, length_encode_empty] at hsmall
    omega

/-! ## Bringing a value out -/

theorem dump_run {c : Cell} (ho : g.Orderly) (hf : s.fuel ≠ some 0) (hc : Shows lo hi s c) :
    (dump (.described g) host c.address).run s =
      (match decode? c.text with
        | some v => .ok v
        | none => .error (.transfer (.malformed ⟨c.address⟩)), s) := by
  have hplace : (((described g).jsonDump c.address).invoke host).run s = (.ok c.address, s) :=
    (call_run ho hf).trans rfl
  rw [dump, run_bind_of_ok hplace, run_get_bind, hc.textAt]
  simp only
  cases decode? c.text <;> rfl

theorem dump_follows {c : Cell} (ho : g.Orderly) (hroom : Room s) (hc : Shows lo hi s c) :
    Follows s.heap.toNat (fun v w _ => v = w) (dump (.described g) host c.address)
      (Plan.dump c) s := by
  have hrun : (dump (.described g) host c.address).run s = _ := dump_run ho hroom.fuel hc
  rw [Plan.dump]
  cases hd : decode? c.text with
  | some v =>
      rw [hd] at hrun
      exact .done hroom hrun rfl (.refl _ s) rfl rfl rfl
  | none =>
      rw [hd] at hrun
      exact .fail hrun

end Texts

end PolicyHost.Guest
