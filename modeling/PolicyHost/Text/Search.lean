/-!
# Searching and cutting sequences

One notion carries every text search of the library: `breakOn p s` cuts `s`
around the first place where `p` occurs. Containment, the index of an
occurrence, splitting and substitution are all said through it. An empty
`p` occurs at once, so splitting and substitution treat it on its own: it
occurs before every element and at the end.

The functions are stated for lists over any type with decidable equality.
They run on the characters of a text and on the bytes of a guest's memory.
-/

namespace PolicyHost.Text

variable {α : Type} [DecidableEq α]

/-- What follows `p` in `s`, when `s` starts with `p`. -/
def after? : (p s : List α) → Option (List α)
  | [], s => some s
  | _ :: _, [] => none
  | a :: p, b :: s => if a = b then after? p s else none

theorem after?_eq_some {p s r : List α} : after? p s = some r ↔ s = p ++ r := by
  induction p generalizing s with
  | nil => simp [after?, eq_comm]
  | cons a p ih =>
      cases s with
      | nil => simp [after?]
      | cons b s =>
          by_cases h : a = b
          · subst h; simp [after?, ih]
          · simp [after?, h, Ne.symm h]

/-- Walks along `s`; `passed` holds what was left behind, latest first. -/
def breakOn.go (p : List α) : (s passed : List α) → Option (List α × List α)
  | [], passed => (after? p []).map (passed.reverse, ·)
  | c :: s, passed =>
      match after? p (c :: s) with
      | some r => some (passed.reverse, r)
      | none => breakOn.go p s (c :: passed)

/-- The parts of `s` before and after the first occurrence of `p`. -/
def breakOn (p s : List α) : Option (List α × List α) :=
  breakOn.go p s []

theorem breakOn.go_append {p s passed a b : List α}
    (h : breakOn.go p s passed = some (a, b)) : passed.reverse ++ s = a ++ p ++ b := by
  induction s generalizing passed with
  | nil =>
      simp only [breakOn.go, Option.map_eq_some_iff, Prod.mk.injEq] at h
      obtain ⟨r, hr, rfl, rfl⟩ := h
      rw [after?_eq_some.1 hr, List.append_assoc]
  | cons c s ih =>
      simp only [breakOn.go] at h
      split at h
      · next r hr =>
          simp only [Option.some.injEq, Prod.mk.injEq] at h
          obtain ⟨rfl, rfl⟩ := h
          rw [after?_eq_some.1 hr, List.append_assoc]
      · next hr => simpa using ih h

/-- A cut loses nothing but the occurrence itself. -/
theorem breakOn_append {p s a b : List α} (h : breakOn p s = some (a, b)) :
    s = a ++ p ++ b := by
  simpa using breakOn.go_append h

/-- The place of the first occurrence of `p` in `s`, counted in elements. -/
def indexOf? (p s : List α) : Option Nat :=
  (breakOn p s).map (·.1.length)

def contains (p s : List α) : Bool :=
  (breakOn p s).isSome

/-- The pieces of `s` between the occurrences of a separator that is not
empty; `done` holds the pieces found so far, latest first. -/
def pieces (p : List α) (hp : p ≠ []) (s : List α) (done : List (List α)) : List (List α) :=
  match _cut : breakOn p s with
  | none => (s :: done).reverse
  | some (a, b) => pieces p hp b (a :: done)
termination_by s.length
decreasing_by
  have := breakOn_append _cut
  have := List.length_pos_iff.2 hp
  subst s
  simp only [List.length_append]
  omega

/-- The pieces of `s` between the occurrences of `p`. An empty separator
stands before every element and at the end. -/
def split (p s : List α) : List (List α) :=
  if hp : p = [] then [] :: (s.map ([·]) ++ [[]]) else pieces p hp s []

/-- `s` with every occurrence of a text that is not empty exchanged for
`new`; `done` holds the parts written so far, latest first. -/
def exchange (p : List α) (hp : p ≠ []) (new s : List α) (done : List (List α)) : List α :=
  match _cut : breakOn p s with
  | none => (s :: done).reverse.flatten
  | some (a, b) => exchange p hp new b (new :: a :: done)
termination_by s.length
decreasing_by
  have := breakOn_append _cut
  have := List.length_pos_iff.2 hp
  subst s
  simp only [List.length_append]
  omega

/-- `s` with every occurrence of `old` exchanged for `new`. An empty `old`
stands before every element and at the end. -/
def replace (old new s : List α) : List α :=
  if hp : old = [] then s.flatMap (fun c => new ++ [c]) ++ new else exchange old hp new s []

def startsWith (p s : List α) : Bool :=
  (after? p s).isSome

def endsWith (p s : List α) : Bool :=
  (after? p.reverse s.reverse).isSome

end PolicyHost.Text
