import PolicyHost.Guest.Memory

/-!
# Bytes in a memory

`Memory.Has` says that given bytes stand in a memory from an address on. It is
the only thing the later modules say of a memory's contents: a write brings it
about (`has_write`), any change elsewhere keeps it (`Has.of_agree`), it splits
where its bytes split (`has_append`), and it decides what is read — as bytes,
as a text that a zero ends (`Has.text?`), and as a word (`Has.word`).
-/

namespace PolicyHost.Guest.Memory

variable {m : Memory}

/-- The bytes stand in the memory from an address on. -/
def Has (m : Memory) (a : Nat) (bytes : List UInt8) : Prop :=
  a + bytes.length ≤ m.size ∧ m.read a bytes.length = bytes

theorem read_succ (m : Memory) (a n : Nat) : m.read a (n + 1) = m.get a :: m.read (a + 1) n := by
  rw [read, List.range'_succ, List.map_cons, read]

theorem read_add (m : Memory) (a k n : Nat) :
    m.read a (k + n) = m.read a k ++ m.read (a + k) n := by
  rw [read, ← List.range'_append_1, List.map_append, read, read]

@[simp] theorem length_read (m : Memory) (a n : Nat) : (m.read a n).length = n := by
  simp [read]

theorem read_congr {m m' : Memory} {a n : Nat} (h : ∀ x, a ≤ x → x < a + n → m'.get x = m.get x) :
    m'.read a n = m.read a n := by
  rw [read, read]
  apply List.map_congr_left
  intro x hx
  have := List.mem_range'_1.mp hx
  exact h x this.1 this.2

/-! ## Writing -/

theorem write_append (m : Memory) (a : Nat) (front back : List UInt8) :
    m.write a (front ++ back) = (m.write a front).write (a + front.length) back := by
  induction front generalizing m a with
  | nil => rfl
  | cons b front ih =>
      rw [List.cons_append, write, ih, write, List.length_cons, Nat.add_assoc, Nat.add_comm 1]

theorem get_write_of_outside {bytes : List UInt8} {a x : Nat} (h : a + bytes.length ≤ m.size)
    (hx : x < a ∨ a + bytes.length ≤ x) : (m.write a bytes).get x = m.get x := by
  induction bytes generalizing m a with
  | nil => rfl
  | cons b bytes ih =>
      rw [List.length_cons] at h hx
      rw [write, ih (by rw [size_set]; omega) (by omega), get_set (by omega), if_neg (by omega)]

theorem read_write {bytes : List UInt8} {a : Nat} (h : a + bytes.length ≤ m.size) :
    (m.write a bytes).read a bytes.length = bytes := by
  induction bytes generalizing m a with
  | nil => rfl
  | cons b bytes ih =>
      rw [List.length_cons] at h
      have hfirst : ((m.set a b).write (a + 1) bytes).get a = b := by
        rw [get_write_of_outside (by rw [size_set]; omega) (by omega), get_set (by omega),
          if_pos rfl]
      rw [List.length_cons, read_succ, write, hfirst, ih (by rw [size_set]; omega)]

theorem has_write {bytes : List UInt8} {a : Nat} (h : a + bytes.length ≤ m.size) :
    (m.write a bytes).Has a bytes :=
  ⟨by rw [size_write]; exact h, read_write h⟩

/-! ## Keeping -/

/-- Bytes stay when the memory does not shrink and changes only elsewhere. -/
theorem Has.of_agree {m' : Memory} {bytes : List UInt8} {a : Nat} (h : m.Has a bytes)
    (hsize : m.size ≤ m'.size)
    (hget : ∀ x, a ≤ x → x < a + bytes.length → m'.get x = m.get x) : m'.Has a bytes :=
  ⟨Nat.le_trans h.1 hsize, (read_congr hget).trans h.2⟩

theorem Has.write {bytes other : List UInt8} {a b : Nat} (h : m.Has a bytes)
    (hb : b + other.length ≤ m.size) (hd : a + bytes.length ≤ b ∨ b + other.length ≤ a) :
    (m.write b other).Has a bytes :=
  h.of_agree (Nat.le_of_eq (size_write ..).symm)
    fun x _ _ => get_write_of_outside hb (by omega)

theorem has_append {front back : List UInt8} {a : Nat} :
    m.Has a (front ++ back) ↔ m.Has a front ∧ m.Has (a + front.length) back := by
  simp only [Has, List.length_append, read_add]
  constructor
  · rintro ⟨hsize, hread⟩
    obtain ⟨hfront, hback⟩ := List.append_inj hread (length_read _ _ _)
    exact ⟨⟨by omega, hfront⟩, by omega, hback⟩
  · rintro ⟨⟨-, hfront⟩, hsize, hback⟩
    exact ⟨by omega, by rw [hfront, hback]⟩

theorem Has.cons {b : UInt8} {bytes : List UInt8} {a : Nat} (h : m.Has a (b :: bytes)) :
    m.get a = b ∧ m.Has (a + 1) bytes := by
  obtain ⟨hsize, hread⟩ := h
  rw [List.length_cons] at hsize
  rw [List.length_cons, read_succ] at hread
  obtain ⟨hfirst, hrest⟩ := List.cons.inj hread
  exact ⟨hfirst, by omega, hrest⟩

/-! ## Texts -/

/-- A text stands in an image from an address on: it has no zero in it, and one
follows it. -/
structure Stands (image : Nat → UInt8) (a : Nat) (text : List UInt8) : Prop where
  bytes : ∀ i (h : i < text.length), image (a + i) = text[i]
  ended : image (a + text.length) = 0
  plain : (0 : UInt8) ∉ text

section

variable {image : Nat → UInt8} {left a : Nat} {done out : List UInt8}

theorem stands_nil : Stands image a [] ↔ image a = 0 :=
  ⟨fun h => h.ended, fun h => ⟨fun _ h => absurd h (Nat.not_lt_zero _), h, List.not_mem_nil⟩⟩

theorem stands_cons {b : UInt8} {text : List UInt8} :
    Stands image a (b :: text) ↔ image a = b ∧ b ≠ 0 ∧ Stands image (a + 1) text := by
  constructor
  · intro h
    refine ⟨h.bytes 0 (Nat.zero_lt_succ _), (List.ne_of_not_mem_cons h.plain).symm, ?_, ?_,
      List.not_mem_of_not_mem_cons h.plain⟩
    · intro i hi
      rw [Nat.add_assoc, Nat.add_comm 1 i]
      exact h.bytes (i + 1) (Nat.succ_lt_succ hi)
    · rw [Nat.add_assoc, Nat.add_comm 1]
      exact h.ended
  · rintro ⟨hfirst, hne, hrest⟩
    refine ⟨?_, ?_, List.not_mem_cons_of_ne_of_not_mem hne.symm hrest.plain⟩
    · intro i hi
      cases i with
      | zero => exact hfirst
      | succ i =>
          have hbyte := hrest.bytes i (Nat.lt_of_succ_lt_succ hi)
          rwa [Nat.add_assoc, Nat.add_comm 1] at hbyte
    · rw [List.length_cons, Nat.add_comm _ 1, ← Nat.add_assoc]
      exact hrest.ended

/-- The scan finds the text that ends among the bytes that are left. -/
theorem scan_eq_some_iff : scan image left a done = some out ↔
    ∃ text, out = done.reverse ++ text ∧ text.length < left ∧ Stands image a text := by
  induction left generalizing a done with
  | zero => exact iff_of_false (fun h => nomatch h) fun ⟨_, _, h, _⟩ => Nat.not_lt_zero _ h
  | succ left ih =>
      rw [scan]
      by_cases hzero : image a = 0
      · simp only [hzero, if_true, Option.some.injEq]
        constructor
        · rintro rfl
          exact ⟨[], (List.append_nil _).symm, Nat.zero_lt_succ _, stands_nil.mpr hzero⟩
        · rintro ⟨text, rfl, -, htext⟩
          cases text with
          | nil => exact (List.append_nil _).symm
          | cons b text =>
              obtain ⟨rfl, hne, -⟩ := stands_cons.mp htext
              exact absurd hzero hne
      · simp only [hzero, if_false, ih]
        constructor
        · rintro ⟨text, rfl, hlength, htext⟩
          refine ⟨image a :: text, ?_, Nat.succ_lt_succ hlength,
            stands_cons.mpr ⟨rfl, hzero, htext⟩⟩
          rw [List.reverse_cons, List.append_assoc, List.singleton_append]
        · rintro ⟨text, rfl, hlength, htext⟩
          cases text with
          | nil => exact absurd (stands_nil.mp htext) hzero
          | cons b text =>
              obtain ⟨rfl, -, hrest⟩ := stands_cons.mp htext
              refine ⟨text, ?_, Nat.lt_of_succ_lt_succ hlength, hrest⟩
              rw [List.reverse_cons, List.append_assoc, List.singleton_append]

theorem scan_eq_none_iff : scan image left a done = none ↔ ∀ i, i < left → image (a + i) ≠ 0 := by
  induction left generalizing a done with
  | zero => exact iff_of_true rfl fun _ h => absurd h (Nat.not_lt_zero _)
  | succ left ih =>
      rw [scan]
      by_cases hzero : image a = 0
      · simp only [hzero, if_true]
        exact iff_of_false (fun h => nomatch h) fun h => h 0 (Nat.zero_lt_succ _) hzero
      · simp only [hzero, if_false, ih]
        constructor
        · intro h i hi
          cases i with
          | zero => exact hzero
          | succ i =>
              rw [Nat.add_comm i 1, ← Nat.add_assoc]
              exact h i (Nat.lt_of_succ_lt_succ hi)
        · intro h i hi
          rw [Nat.add_assoc, Nat.add_comm 1]
          exact h (i + 1) (Nat.succ_lt_succ hi)

end

theorem Has.get {bytes : List UInt8} {a i : Nat} (h : m.Has a bytes) (hi : i < bytes.length) :
    m.get (a + i) = bytes[i] := by
  have hread : (m.read a bytes.length)[i]? = some (m.get (a + i)) := by
    simp [read, hi]
  rw [h.2, List.getElem?_eq_getElem hi] at hread
  exact (Option.some.inj hread).symm

theorem Has.stands {text : List UInt8} {a : Nat} (h : m.Has a (text ++ [0]))
    (hzero : (0 : UInt8) ∉ text) : Stands m.get a text where
  bytes _ hi := (has_append.mp h).1.get hi
  ended := (has_append.mp h).2.cons.1
  plain := hzero

theorem Has.text? {text : List UInt8} {a : Nat} (h : m.Has a (text ++ [0]))
    (hzero : (0 : UInt8) ∉ text) : m.text? a = some text := by
  have hsize := h.1
  rw [List.length_append, List.length_singleton] at hsize
  exact scan_eq_some_iff.mpr ⟨text, rfl, by omega, h.stands hzero⟩

/-! ## Words -/

theorem join_wordBytes (w : UInt32) :
    w.toUInt8.toUInt32 ||| ((w >>> 8).toUInt8.toUInt32 <<< 8) |||
      ((w >>> 16).toUInt8.toUInt32 <<< 16) ||| ((w >>> 24).toUInt8.toUInt32 <<< 24) = w := by
  apply UInt32.toBitVec_inj.mp
  apply BitVec.eq_of_getLsbD_eq
  intro i hi
  simp only [UInt32.toBitVec_or, UInt32.toBitVec_shiftLeft, UInt8.toBitVec_toUInt32,
    UInt32.toBitVec_toUInt8, UInt32.toBitVec_shiftRight]
  simp only [show (8 : UInt32).toBitVec % 32 = 8#32 from rfl,
    show (16 : UInt32).toBitVec % 32 = 16#32 from rfl,
    show (24 : UInt32).toBitVec % 32 = 24#32 from rfl, BitVec.shiftLeft_eq',
    BitVec.ushiftRight_eq', BitVec.toNat_ofNat, BitVec.getLsbD_or, BitVec.getLsbD_setWidth,
    BitVec.getLsbD_shiftLeft, BitVec.getLsbD_ushiftRight, hi, decide_true, Bool.true_and]
  by_cases h8 : i < 8
  · simp [h8, show i < 16 by omega, show i < 24 by omega]
  by_cases h16 : i < 16
  · simp [h8, h16, show i < 24 by omega, show i - 8 < 8 by omega, show i - 8 < 32 by omega,
      show 8 + (i - 8) = i by omega]
  by_cases h24 : i < 24
  · simp [h8, h16, h24, show ¬ i - 8 < 8 by omega, show i - 16 < 8 by omega,
      show i - 16 < 32 by omega, show 16 + (i - 16) = i by omega]
  · simp [h8, h16, h24, show ¬ i - 8 < 8 by omega, show ¬ i - 16 < 8 by omega,
      show i - 24 < 8 by omega, show i - 24 < 32 by omega, show 24 + (i - 24) = i by omega]

theorem Has.word {w : UInt32} {a : Nat} (h : m.Has a (wordBytes w)) : m.word a = w := by
  obtain ⟨h0, hrest⟩ := h.cons
  obtain ⟨h1, hrest⟩ := hrest.cons
  obtain ⟨h2, hrest⟩ := hrest.cons
  have h3 := hrest.cons.1
  rw [Memory.word, h0, h1, h2, h3]
  exact join_wordBytes w

@[simp] theorem length_wordBytes (w : UInt32) : (wordBytes w).length = 4 := rfl

end PolicyHost.Guest.Memory
