/-!
# Values under keys

A list of keys and values in which the keys increase strictly, so that every
key has one value and two lists with the same contents are equal. The keys
are texts or numbers.

`get?_insert` says what a list holds after an insertion, and `Increasing` is
kept by it.
-/

namespace PolicyHost

/-- Values under keys, in increasing order of the keys. -/
abbrev Keyed (κ α : Type) := List (κ × α)

namespace Keyed

variable {κ α : Type} [LT κ] [DecidableLT κ] [DecidableEq κ]

/-- Puts a value under a key, in exchange for the one that was there. -/
def insert (key : κ) (value : α) : Keyed κ α → Keyed κ α
  | [] => [(key, value)]
  | (k, v) :: rest =>
      if key < k then (key, value) :: (k, v) :: rest
      else if key = k then (key, value) :: rest
      else (k, v) :: insert key value rest

/-- The values under their keys; of several with one key the last is kept. -/
def ofList (pairs : List (κ × α)) : Keyed κ α :=
  pairs.foldl (fun list (key, value) => insert key value list) []

def get? (key : κ) : Keyed κ α → Option α
  | [] => none
  | (k, v) :: rest => if key = k then some v else get? key rest

def erase (key : κ) (list : Keyed κ α) : Keyed κ α :=
  list.filter (·.1 ≠ key)

def Increasing : Keyed κ α → Prop
  | [] => True
  | [_] => True
  | (k, _) :: (l, w) :: rest => k < l ∧ Increasing ((l, w) :: rest)

/-- After an insertion the key has the new value and every other key what it
had before. -/
theorem get?_insert (key : κ) (value : α) (list : Keyed κ α) (k : κ) :
    get? k (insert key value list) = if k = key then some value else get? k list := by
  induction list with
  | nil => rfl
  | cons entry rest ih =>
      obtain ⟨l, w⟩ := entry
      simp only [insert]
      split
      · rfl
      · split
        · next h => subst h; by_cases h : k = key <;> simp [get?, h]
        · next h =>
            by_cases hk : k = l
            · subst hk; simp [get?, Ne.symm h]
            · simp [get?, hk, ih]

end Keyed

end PolicyHost
