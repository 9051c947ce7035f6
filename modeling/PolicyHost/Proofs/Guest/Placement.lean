import PolicyHost.Proofs.Guest.Moves

/-!
# Where texts come to stand

A text that a guest takes leaves the heap pointer where it was plus twice the
length of the text and one: the bytes of the text, its copy, and the zero that
ends the copy. This holds for every guest, so there are allocators among them
that refuse and allocators that never grow. What they have in common is that
the host and the parser write to what they were given, so an address that was
made up, or a pointer that went past the memory, does not get a result.

The facts are read off runs that gave one. The only assumption is that the
memory is far from the end of what an address can name.
-/

namespace PolicyHost.Guest

open Json

variable {α : Type} {g : Description} {host : Host} {s t : Store} {bytes : List UInt8}

/-- Memory of no more bytes than this has room for made up addresses above it. -/
def ampleSize : Nat := 2 ^ 30

/-- A call that gave a result got to the work behind it. -/
theorem call_ok {e : Export} {work : Run α} {a : α} (h : (call g e work).run s = (.ok a, t)) :
    Answers g e s ∧ work.run s = (.ok a, t) := by
  by_cases hanswers : Answers g e s
  · rw [call_answered hanswers] at h
    exact ⟨hanswers, h⟩
  · have hcall : ∃ cause, (call g e work).run s = (.error (.trap cause), s) :=
      call_unanswered hanswers
    obtain ⟨cause, hcall⟩ := hcall
    rw [hcall] at h
    cases h

theorem writeBytes_ok {a : Nat} (h : (writeBytes a bytes).run s = (.ok (), t)) :
    a + bytes.length ≤ s.memory.size ∧ t = { s with memory := s.memory.write a bytes } := by
  by_cases hfits : a + bytes.length ≤ s.memory.size
  · rw [writeBytes_run hfits] at h
    cases h
    exact ⟨hfits, rfl⟩
  · rw [writeBytes, run_get_bind, if_neg (by simpa [Memory.holds] using hfits)] at h
    cases h

theorem copy_ok {target source count : Nat} (h : (copy target source count).run s = (.ok (), t)) :
    target + count ≤ s.memory.size ∧ t.memory.size = s.memory.size ∧ t.heap = s.heap := by
  rw [copy, run_get_bind] at h
  split at h
  · rw [run_get_bind] at h
    obtain ⟨hfits, rfl⟩ := writeBytes_ok h
    have hlength : (s.memory.read source count).length = count := by
      rw [Memory.read, List.length_map, List.length_range']
    exact ⟨hlength ▸ hfits, Memory.size_write _ _ _, rfl⟩
  · cases h

theorem growMemory_heap {pages : Nat} {r : Except Error UInt32}
    (h : (growMemory pages).run s = (r, t)) : t.heap = s.heap := by
  by_cases hlimit : s.limit < s.memory.size + pages * pageSize
  · rw [growMemory_refused hlimit] at h
    cases h
    rfl
  · rw [growMemory_granted hlimit] at h
    cases h
    rfl

/-- An allocator refuses, or it gives what is behind the heap pointer. -/
theorem allocate_ok {count a : UInt32} (h : (allocate g count).run s = (.ok a, t)) :
    (a = -16 ∧ t = s) ∨ (a = s.heap ∧ t.heap = s.heap + count) := by
  rw [allocate] at h
  split at h
  · cases h
    exact Or.inl ⟨rfl, rfl⟩
  · rw [run_get_bind, run_modify_bind] at h
    refine Or.inr ?_
    split at h
    · rw [run_get_bind] at h
      dsimp only at h
      split at h
      · obtain ⟨answer, u, hgrow, hrest⟩ := run_bind_eq_ok h
        have hheap := growMemory_heap hgrow
        split at hrest
        · cases hrest
        · cases hrest
          exact ⟨rfl, hheap⟩
      · cases h
        exact ⟨rfl, rfl⟩
    · cases h
      exact ⟨rfl, rfl⟩

/-- What is written to where an allocator answered lies behind the old heap pointer, if the memory
is ample. -/
theorem allocate_placed {count a : UInt32} {length : Nat} {u : Store}
    (h : (allocate g count).run s = (.ok a, t)) (hfits : a.toNat + length ≤ u.memory.size)
    (hsize : u.memory.size ≤ ampleSize) (hcount : count.toNat ≤ length) :
    a = s.heap ∧ t.heap.toNat = s.heap.toNat + count.toNat := by
  rw [ampleSize] at hsize
  rcases allocate_ok h with ⟨rfl, -⟩ | ⟨rfl, hheap⟩
  · have hfar : (-16 : UInt32).toNat = 2 ^ 32 - 16 := rfl
    omega
  · refine ⟨rfl, ?_⟩
    rw [hheap, UInt32.toNat_add]
    exact Nat.mod_eq_of_lt (by omega)

/-- The parser takes a text by copying it to new bytes, with a zero behind it. -/
theorem parse_ok {a count value : UInt32} (h : (parse g a count).run s = (.ok value, t))
    (hvalue : value ≠ 0) :
    ∃ u v, (allocate g (count + 1)).run { s with globals := s.globals + 1 } = (.ok value, u) ∧
      (copy value.toNat a.toNat count.toNat).run u = (.ok (), v) ∧
      (writeBytes (value.toNat + count.toNat) [0]).run v = (.ok (), t) := by
  rw [parse, run_modify_bind, run_get_bind] at h
  split at h
  · cases h
    exact absurd rfl hvalue
  · rw [run_get_bind] at h
    split at h
    · rw [run_get_bind] at h
      split at h
      · cases h
        exact absurd rfl hvalue
      · cases h
      · cases h
      · obtain ⟨place, u, hallocate, h⟩ := run_bind_eq_ok h
        obtain ⟨⟨⟩, v, hcopy, h⟩ := run_bind_eq_ok h
        obtain ⟨⟨⟩, w, hend, h⟩ := run_bind_eq_ok h
        cases h
        exact ⟨u, v, hallocate, hcopy, hend⟩
    · cases h

/-- A text is brought in by writing it to new bytes, from where the parser takes it. -/
theorem loadText_ok {g : Guest} {a : UInt32} (h : (loadText g host bytes).run s = (.ok a, t)) :
    bytes.length ≤ longestText ∧ a ≠ 0 ∧ ∃ place u,
      ((g.malloc (.ofNat bytes.length)).invoke host).run s = (.ok place, u) ∧
      place.toNat + bytes.length ≤ u.memory.size ∧
      ((g.jsonParse place (.ofNat bytes.length)).invoke host).run
        { u with memory := u.memory.write place.toNat bytes } = (.ok a, t) := by
  by_cases hlong : longestText < bytes.length
  · rw [loadText_oversized hlong] at h
    cases h
  have hshort := Nat.le_of_not_lt hlong
  rw [loadText_eq hshort] at h
  obtain ⟨place, u, hallocate, h⟩ := run_bind_eq_ok h
  by_cases hfits : place.toNat + bytes.length ≤ u.memory.size
  · rw [storeText_run hfits] at h
    obtain ⟨value, v, hparse, h⟩ := run_bind_eq_ok h
    split at h
    · cases h
    · next hvalue =>
        cases h
        exact ⟨hshort, hvalue, place, u, hallocate, hfits, hparse⟩
  · rw [storeText_outside hfits] at h
    cases h

theorem parse_placed {a count value : UInt32} (h : (parse g a count).run s = (.ok value, t))
    (hvalue : value ≠ 0) (hsize : t.memory.size ≤ ampleSize) :
    t.heap.toNat = s.heap.toNat + (count.toNat + 1) := by
  obtain ⟨u, v, hallocate, hcopy, hend⟩ := parse_ok h hvalue
  obtain ⟨hcopied, hkept, hheap⟩ := copy_ok hcopy
  obtain ⟨hended, rfl⟩ := writeBytes_ok hend
  have hlast : value.toNat + (count.toNat + 1) ≤ v.memory.size := hended
  have hample : v.memory.size ≤ ampleSize := by
    rwa [Memory.size_write] at hsize
  have hcount : (count + 1).toNat = count.toNat + 1 := by
    rw [UInt32.toNat_add]
    rw [ampleSize] at hample
    exact Nat.mod_eq_of_lt (by change count.toNat + 1 < _; omega)
  have hplaced := allocate_placed hallocate hlast hample (Nat.le_of_eq hcount)
  rw [← hcount, hheap]
  exact hplaced.2

/-- A text that was brought in takes twice its length and one from the heap. -/
theorem loadText_placed {a : UInt32} (h : (loadText (.described g) host bytes).run s = (.ok a, t))
    (hsize : t.memory.size ≤ ampleSize) :
    t.heap.toNat = s.heap.toNat + (2 * bytes.length + 1) := by
  obtain ⟨hlong, hvalue, place, u, hmalloc, hfits, hjsonParse⟩ := loadText_ok h
  have hallocate : (allocate g (.ofNat bytes.length)).run s = (.ok place, u) := (call_ok hmalloc).2
  have hparse : (parse g place (.ofNat bytes.length)).run
      { u with memory := u.memory.write place.toNat bytes } = (.ok a, t) := (call_ok hjsonParse).2
  have hcount := toNat_length hlong
  have hparsed := parse_placed hparse hvalue hsize
  rw [hcount] at hparsed
  change t.heap.toNat = u.heap.toNat + (bytes.length + 1) at hparsed
  have hmoves := ((parse_confined g _ _).moves _).state_of_run hparse
  have hgrown : u.memory.size ≤ t.memory.size := by
    have hle := Moves.size hmoves
    rwa [Memory.size_write] at hle
  have hplaced := allocate_placed hallocate hfits (Nat.le_trans hgrown hsize)
    (Nat.le_of_eq hcount)
  rw [hcount] at hplaced
  omega

theorem load_placed {a : UInt32} {v : Value} (h : (load (.described g) host v).run s = (.ok a, t))
    (hsize : t.memory.size ≤ ampleSize) :
    t.heap.toNat = s.heap.toNat + (2 * (encode v).length + 1) := by
  rw [load_eq] at h
  exact loadText_placed h hsize

/-! ## Path updates -/

/-- Memory was not taken away, and while it is ample the heap pointer did not go back. -/
structure Raised (s t : Store) : Prop where
  size : s.memory.size ≤ t.memory.size
  heap : t.memory.size ≤ ampleSize → s.heap.toNat ≤ t.heap.toNat

theorem loadText_raised {a : UInt32} (h : (loadText (.described g) host bytes).run s = (.ok a, t)) :
    Raised s t where
  size := by
    have hmoves : Within Moves (fun _ => True) (loadText (.described g) host bytes) s :=
      loadText_within moves_frame (fun _ _ => trivial)
        (fun count => (guarded_confined g .allocate (allocate_confined g count)).moves)
        (fun a count => (guarded_confined g .parse (parse_confined g a count)).moves) bytes s
    exact Moves.size (hmoves.state_of_run h)
  heap hsize := by
    rw [loadText_placed h hsize]
    exact Nat.le_add_right _ _

/-- A path update does not allocate: what it changes is what was printed. -/
theorem updatePath_raised {update : PathUpdate} {arguments : List UInt32} {r : Except Error Int}
    (h : (updatePath update arguments).run s = (r, t)) : Raised s t := by
  have hlasting : Lasting fun u v : Store => v.memory = u.memory ∧ v.heap = u.heap :=
    { refl := fun _ => ⟨rfl, rfl⟩
      trans := fun h h' => ⟨h'.1.trans h.1, h'.2.trans h.2⟩ }
  have hprint (a : UInt32) (u : Store) :
      Within (fun u v : Store => v.memory = u.memory ∧ v.heap = u.heap) Halt (print a) u := by
    refine .modify ?_
    split <;> exact ⟨rfl, rfl⟩
  have hkept : Within (fun u v : Store => v.memory = u.memory ∧ v.heap = u.heap) Halt
      (updatePath update arguments) s := by
    rw [updatePath]
    split
    · exact .bind hlasting (.forM hlasting hprint _ _) fun _ u => .pure hlasting _
    · exact .pure hlasting _
  obtain ⟨hmemory, hheap⟩ := hkept.state_of_run h
  exact ⟨hmemory ▸ Nat.le_refl _, fun _ => hheap ▸ Nat.le_refl _⟩

theorem Raised.trans {u : Store} (h : Raised s t) (h' : Raised t u) : Raised s u where
  size := Nat.le_trans h.size h'.size
  heap hsize := Nat.le_trans (h.heap (Nat.le_trans h'.size hsize)) (h'.heap hsize)

end PolicyHost.Guest
