/-!
# Guest memory

The memory of a guest is a number of pages of bytes, all zero at the start.
A page is kept as the part of it that was written to; the bytes after that
part are zero. `get` and `set` are the two operations on single bytes that
everything else is said through.

Addresses are natural numbers here, so that no sum of two of them wraps.
-/

namespace PolicyHost.Guest

def pageSize : Nat := 65536

/-- The bytes of a guest's memory. -/
structure Memory where
  /-- The part of every page that was written to. -/
  pages : Array (Array UInt8)

/-- Exchanges a byte of a page, whose missing bytes are zero. -/
def setInPage (page : Array UInt8) (i : Nat) (b : UInt8) : Array UInt8 :=
  if i < page.size then page.setIfInBounds i b
  else (page ++ Array.replicate (i - page.size) 0).push b

theorem getD_setInPage (page : Array UInt8) (i j : Nat) (b : UInt8) :
    (setInPage page i b).getD j 0 = if j = i then b else page.getD j 0 := by
  simp only [setInPage, Array.getD_eq_getD_getElem?]
  split
  · next h =>
      by_cases hj : j = i
      · subst hj; simp [h]
      · simp [Ne.symm hj, hj]
  · next h =>
      rw [Array.getElem?_push]
      simp only [Array.size_append, Array.size_replicate, Array.getElem?_append,
        Array.getElem?_replicate]
      by_cases hj : j = i
      · rw [if_pos (by omega), if_pos hj]; rfl
      · rw [if_neg (by omega), if_neg hj]
        split
        · rfl
        · rw [Array.getElem?_eq_none (by omega : page.size ≤ j)]
          split <;> rfl

namespace Memory

def zeroed (pages : Nat) : Memory :=
  ⟨Array.replicate pages #[]⟩

def size (m : Memory) : Nat :=
  m.pages.size * pageSize

/-- The byte at an address; outside the memory there is a zero. -/
def get (m : Memory) (a : Nat) : UInt8 :=
  (m.pages.getD (a / pageSize) #[]).getD (a % pageSize) 0

/-- Exchanges the byte at an address; outside the memory there is none. -/
def set (m : Memory) (a : Nat) (b : UInt8) : Memory :=
  ⟨m.pages.modify (a / pageSize) (setInPage · (a % pageSize) b)⟩

def grow (m : Memory) (pages : Nat) : Memory :=
  ⟨m.pages ++ Array.replicate pages #[]⟩

@[simp] theorem size_set (m : Memory) (a : Nat) (b : UInt8) : (m.set a b).size = m.size := by
  simp [set, size]

@[simp] theorem size_zeroed (n : Nat) : (zeroed n).size = n * pageSize := by
  simp [zeroed, size]

@[simp] theorem size_grow (m : Memory) (n : Nat) : (m.grow n).size = m.size + n * pageSize := by
  simp [grow, size, Nat.add_mul]

/-- After an exchange inside the memory the address has the new byte and
every other address what it had before. -/
theorem get_set {m : Memory} {a : Nat} (h : a < m.size) (b : UInt8) (x : Nat) :
    (m.set a b).get x = if x = a then b else m.get x := by
  have hp : a / pageSize < m.pages.size := Nat.div_lt_of_lt_mul (by rwa [Nat.mul_comm])
  by_cases hd : a / pageSize = x / pageSize
  · have hx : x / pageSize < m.pages.size := hd ▸ hp
    simp only [get, set, Array.getD_eq_getD_getElem?, Array.getElem?_modify, hd, if_true,
      Array.getElem?_eq_getElem hx, Option.map_some, Option.getD_some]
    have := getD_setInPage (m.pages[x / pageSize]) (a % pageSize) (x % pageSize) b
    simp only [Array.getD_eq_getD_getElem?] at this
    rw [this]
    have hxa : x % pageSize = a % pageSize ↔ x = a := by
      constructor
      · intro he
        have h1 := Nat.div_add_mod x pageSize
        have h2 := Nat.div_add_mod a pageSize
        rw [hd] at h2
        omega
      · rintro rfl; rfl
    by_cases he : x = a
    · rw [if_pos (hxa.2 he), if_pos he]
    · rw [if_neg (mt hxa.1 he), if_neg he]
  · have he : x ≠ a := fun e => hd (e ▸ rfl)
    simp [get, set, Array.getD_eq_getD_getElem?, Array.getElem?_modify, hd, he]

theorem get_grow (m : Memory) (n x : Nat) : (m.grow n).get x = m.get x := by
  simp only [get, grow, Array.getD_eq_getD_getElem?, Array.getElem?_append]
  split
  · rfl
  · next h =>
      rw [Array.getElem?_eq_none (by omega : m.pages.size ≤ x / pageSize), Array.getElem?_replicate]
      split <;> rfl

/-- Whether so many bytes from an address on lie inside the memory. -/
def holds (m : Memory) (a count : Nat) : Bool :=
  a + count ≤ m.size

def write (m : Memory) (a : Nat) : List UInt8 → Memory
  | [] => m
  | b :: bytes => (m.set a b).write (a + 1) bytes

def read (m : Memory) (a count : Nat) : List UInt8 :=
  (List.range' a count).map m.get

@[simp] theorem size_write (m : Memory) (a : Nat) (bytes : List UInt8) :
    (m.write a bytes).size = m.size := by
  induction bytes generalizing m a with
  | nil => rfl
  | cons b bytes ih => rw [write, ih, size_set]

/-- The bytes of an image before a zero, which is looked for in the next `left`
bytes; `done` holds those passed, latest first. -/
def scan (image : Nat → UInt8) : (left a : Nat) → (done : List UInt8) → Option (List UInt8)
  | 0, _, _ => none
  | left + 1, a, done =>
      let b := image a
      if b = 0 then some done.reverse else scan image left (a + 1) (b :: done)

/-- The bytes from an address on up to the first zero inside the memory. -/
def text? (m : Memory) (a : Nat) : Option (List UInt8) :=
  scan m.get (m.size - a) a []

/-- The four bytes of a word, the lowest first. -/
def wordBytes (w : UInt32) : List UInt8 :=
  [w.toUInt8, (w >>> 8).toUInt8, (w >>> 16).toUInt8, (w >>> 24).toUInt8]

def word (m : Memory) (a : Nat) : UInt32 :=
  (m.get a).toUInt32 ||| ((m.get (a + 1)).toUInt32 <<< 8) |||
    ((m.get (a + 2)).toUInt32 <<< 16) ||| ((m.get (a + 3)).toUInt32 <<< 24)

end Memory

end PolicyHost.Guest
