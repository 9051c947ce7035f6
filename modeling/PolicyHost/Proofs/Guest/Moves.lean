import Mathlib.Logic.Relation
import PolicyHost.Proofs.Guest.Effects

/-!
# Moves

All that happens to the store of a guest are single moves, one after the other.
Most of them change what a guest keeps and not how much: only `grow` changes
the size of the memory, and the host makes it within the limit only. `Moves` is
any number of moves. It is a frame, the least one, so what `Effects` says of
all work on a store holds for it (`moves_frame`).

`Granted` is what the host guarantees of the memory of its guests. A new guest
has it once its configuration is checked, every single move keeps it, and so it
holds wherever moves lead.
-/

namespace PolicyHost.Guest

/-- A single change to the store of a guest. -/
inductive Move : Store → Store → Prop
  | heap (s : Store) (a : UInt32) : Move s { s with heap := a }
  | globals (s : Store) (n : Nat) : Move s { s with globals := n }
  | printed (s : Store) (lines : List String) : Move s { s with printed := lines }
  | fuel (s : Store) (n : Option UInt64) : Move s { s with fuel := n }
  | write (s : Store) (a : Nat) (bytes : List UInt8) (h : a + bytes.length ≤ s.memory.size) :
      Move s { s with memory := s.memory.write a bytes }
  /-- The host grants more pages. -/
  | grow (s : Store) (pages : Nat) (h : s.memory.size + pages * pageSize ≤ s.limit) :
      Move s { s with
        memory := s.memory.grow pages, peak := max s.peak (s.memory.size + pages * pageSize) }

/-- Any number of moves. -/
abbrev Moves : Store → Store → Prop :=
  Relation.ReflTransGen Move

theorem moves_frame : Frame true Moves where
  refl _ := .refl
  trans h h' := h.trans h'
  heap s a := .single (.heap s a)
  globals s n := .single (.globals s n)
  printed s lines := .single (.printed s lines)
  fuel _ s n := .single (.fuel s n)
  write s a bytes h := .single (.write s a bytes h)
  grow s pages h := .single (.grow s pages (Nat.le_of_not_lt h))

/-- Without a builtin there are only moves. -/
theorem Confined.moves {α : Type} {work : Run α} (h : Confined true fun _ => work) (s : Store) :
    Within Moves (fun _ => True) work s := by
  have hhost (id : UInt32) (operands : List UInt32) (s : Store) :
      Within Moves (fun _ => True) ((fun _ _ => Guest.stop .earlyCall : Host) id operands) s :=
    .throw moves_frame.toLasting trivial
  exact h.within moves_frame (fun _ _ => trivial) hhost s

variable {config : Config} {s t : Store}

theorem Move.size (h : Move s t) : s.memory.size ≤ t.memory.size := by
  cases h with
  | heap | globals | printed | fuel => exact Nat.le_refl _
  | write a bytes _ =>
      show s.memory.size ≤ (s.memory.write a bytes).size
      exact Nat.le_of_eq (Memory.size_write _ _ _).symm
  | grow pages _ =>
      show s.memory.size ≤ (s.memory.grow pages).size
      rw [Memory.size_grow]
      exact Nat.le_add_right _ _

theorem Moves.size (h : Moves s t) : s.memory.size ≤ t.memory.size := by
  induction h with
  | refl => exact Nat.le_refl _
  | tail _ hmove ih => exact Nat.le_trans ih hmove.size

/-- The memory is between its two bounds and consists of whole pages, and its
size is the peak that the host remembers. -/
structure Granted (config : Config) (s : Store) : Prop where
  limit : s.limit = config.memoryLimit.bytes
  initial : config.initialBytes ≤ s.memory.size
  whole : pageSize ∣ s.memory.size
  within : s.memory.size ≤ config.memoryLimit.bytes
  peak : s.peak = s.memory.size

theorem granted_initialStore (g : Guest) (hvalid : config.initialBytes ≤ config.memoryLimit.bytes) :
    Granted config (g.initialStore config) := by
  have hsize : (g.initialStore config).memory.size = config.initialBytes := Memory.size_zeroed _
  refine ⟨rfl, Nat.le_of_eq hsize.symm, ?_, ?_, hsize.symm⟩
  · rw [hsize]
    exact Nat.dvd_mul_left _ _
  · rw [hsize]
    exact hvalid

theorem Granted.move (h : Granted config s) (hmove : Move s t) : Granted config t := by
  obtain ⟨hlimit, hinitial, hwhole, hwithin, hpeak⟩ := h
  cases hmove with
  | heap | globals | printed | fuel => exact ⟨hlimit, hinitial, hwhole, hwithin, hpeak⟩
  | write a bytes _ =>
      have hsize : (s.memory.write a bytes).size = s.memory.size := Memory.size_write _ _ _
      refine ⟨hlimit, ?_, ?_, ?_, hpeak.trans hsize.symm⟩ <;> simp only [hsize]
      · exact hinitial
      · exact hwhole
      · exact hwithin
  | grow pages hgranted =>
      have hsize : (s.memory.grow pages).size = s.memory.size + pages * pageSize :=
        Memory.size_grow _ _
      have hmore : s.memory.size ≤ s.memory.size + pages * pageSize := Nat.le_add_right _ _
      refine ⟨hlimit, ?_, ?_, ?_, ?_⟩ <;> simp only [hsize]
      · exact Nat.le_trans hinitial hmore
      · exact Nat.dvd_add hwhole (Nat.dvd_mul_left _ _)
      · exact hlimit ▸ hgranted
      · rw [hpeak]
        exact Nat.max_eq_right hmore

theorem Granted.moves (h : Granted config s) (hmoves : Moves s t) : Granted config t := by
  induction hmoves with
  | refl => exact h
  | tail _ hmove ih => exact ih.move hmove

end PolicyHost.Guest
