import Mathlib.Data.List.Induction
import Mathlib.Data.List.Nodup
import PolicyHost.ModuleCache

/-!
# The cache keeps what was used last

The entries of a cache are cut at its capacity again and again, and a module
that was cut off leaves no trace. What has to be shown is that nothing is lost
by that: cutting the list of all keys that were ever used, without repetitions
and the latest first, comes to the same at every moment (`take_filter_take`).
`Lru` joins a cache with what was seen of it so far and is kept by every step,
so it holds after any number of them on a new cache.

A use of a key is an insertion or a look-up that found it. A look-up of a key
that was cut off is none, so it cannot bring the key back among those that
count.
-/

namespace PolicyHost.ModuleCache

variable {κ α : Type} [DecidableEq κ]

/-! ## Steps -/

/-- What a cache is asked for. -/
inductive Step (κ α : Type) where
  | get (key : κ)
  | contains (key : κ)
  | insert (key : κ) (found : α)
  | clear

def next (c : ModuleCache κ α) : Step κ α → ModuleCache κ α
  | .get key => (c.get key).2
  | .contains _ => c
  | .insert key found => c.insert key found
  | .clear => c.clear

def after (c : ModuleCache κ α) (steps : List (Step κ α)) : ModuleCache κ α :=
  steps.foldl next c

/-- What can be seen of a step from outside. -/
inductive Event (κ : Type) where
  /-- A look-up found its key. -/
  | hit (key : κ)
  /-- A look-up did not find its key. -/
  | miss (key : κ)
  /-- It was asked whether a key is there. -/
  | asked (key : κ)
  | inserted (key : κ)
  | cleared

def event (c : ModuleCache κ α) : Step κ α → Event κ
  | .get key => if (c.get key).1.isSome then .hit key else .miss key
  | .contains key => .asked key
  | .insert key _ => .inserted key
  | .clear => .cleared

def events (c : ModuleCache κ α) : List (Step κ α) → List (Event κ)
  | [] => []
  | step :: steps => c.event step :: (c.next step).events steps

theorem events_concat (c : ModuleCache κ α) (steps : List (Step κ α)) (step : Step κ α) :
    c.events (steps ++ [step]) = c.events steps ++ [(c.after steps).event step] := by
  induction steps generalizing c with
  | nil => rfl
  | cons first steps ih => exact congrArg (c.event first :: ·) (ih (c.next first))

theorem after_concat (c : ModuleCache κ α) (steps : List (Step κ α)) (step : Step κ α) :
    c.after (steps ++ [step]) = (c.after steps).next step :=
  List.foldl_concat ..

/-! ## Uses -/

/-- The uses after an event. -/
def Event.addTo (past : List κ) : Event κ → List κ
  | .hit key | .inserted key => key :: past
  | .miss _ | .asked _ => past
  | .cleared => []

/-- The keys that were used since the modules were last taken out, the latest use first. -/
def uses (seen : List (Event κ)) : List κ :=
  seen.foldl Event.addTo []

omit [DecidableEq κ] in
theorem uses_concat (seen : List (Event κ)) (event : Event κ) :
    uses (seen ++ [event]) = event.addTo (uses seen) :=
  List.foldl_concat ..

def Event.isLookup : Event κ → Bool
  | .hit _ | .miss _ => true
  | _ => false

def Event.isHit : Event κ → Bool
  | .hit _ => true
  | _ => false

/-- The module that a step puts in under a key. -/
def Step.brings? (key : κ) : Step κ α → Option α
  | .insert other found => if other = key then some found else none
  | _ => none

/-- The module that was put in last under a key. -/
def latest? (key : κ) (steps : List (Step κ α)) : Option α :=
  steps.reverse.findSome? (·.brings? key)

theorem latest?_concat (key : κ) (steps : List (Step κ α)) (step : Step κ α) :
    latest? key (steps ++ [step]) = (step.brings? key).or (latest? key steps) := by
  rw [latest?, List.reverse_concat, List.findSome?_cons, latest?]
  cases step.brings? key <;> rfl

/-! ## The latest uses -/

theorem eraseDups_filter (p : κ → Bool) (keys : List κ) :
    (keys.filter p).eraseDups = keys.eraseDups.filter p := by
  cases keys with
  | nil => rfl
  | cons key keys =>
      have hrest := eraseDups_filter p (keys.filter fun other => !other == key)
      rw [List.eraseDups_cons]
      by_cases hp : p key = true
      · rw [List.filter_cons_of_pos hp, List.filter_cons_of_pos hp, List.eraseDups_cons, ← hrest,
          List.filter_filter, List.filter_filter]
        simp only [Bool.and_comm]
      · -- The key has no place on the right, so leaving it out on the left loses nothing.
        rw [List.filter_cons_of_neg hp, List.filter_cons_of_neg hp, ← hrest, List.filter_filter]
        congr 1
        refine List.filter_congr fun other _ => ?_
        by_cases hother : other = key
        · subst hother
          simp [Bool.eq_false_iff.mpr hp]
        · simp [hother]
termination_by keys.length
decreasing_by
  have hshort := List.length_filter_le (fun other => !other == key) keys
  simp only [List.length_cons]
  omega

/-- A use puts its key in front of the others. -/
theorem eraseDups_cons_filter (key : κ) (keys : List κ) :
    (key :: keys).eraseDups = key :: keys.eraseDups.filter (· ≠ key) := by
  rw [List.eraseDups_cons, eraseDups_filter]
  exact congrArg (key :: ·) (List.filter_congr fun other _ => by simp [beq_eq_decide])

theorem nodup_eraseDups (keys : List κ) : keys.eraseDups.Nodup := by
  induction keys with
  | nil => exact List.nodup_nil
  | cons key keys ih =>
      rw [eraseDups_cons_filter]
      exact List.nodup_cons.mpr ⟨by simp, ih.filter _⟩

/-- What was cut off is not missed when a key is taken to the front. -/
theorem take_filter_take {keys : List κ} (h : keys.Nodup) (key : κ) (n : Nat) :
    ((keys.take (n + 1)).filter (· ≠ key)).take n = (keys.filter (· ≠ key)).take n := by
  induction keys generalizing n with
  | nil => rfl
  | cons first keys ih =>
      obtain ⟨hfresh, hrest⟩ := List.nodup_cons.mp h
      rw [List.take_succ_cons]
      by_cases hfirst : first = key
      · subst hfirst
        have hkeep (l : List κ) (hl : first ∉ l) : l.filter (· ≠ first) = l :=
          List.filter_eq_self.mpr fun other hother =>
            decide_eq_true fun heq : other = first => hl (heq ▸ hother)
        rw [List.filter_cons_of_neg (by simp), List.filter_cons_of_neg (by simp),
          hkeep _ (fun hmem => hfresh (List.mem_of_mem_take hmem)), hkeep _ hfresh,
          List.take_take, Nat.min_self]
      · rw [List.filter_cons_of_pos (by simpa using hfirst),
          List.filter_cons_of_pos (by simpa using hfirst)]
        cases n with
        | zero => rfl
        | succ n => rw [List.take_succ_cons, List.take_succ_cons, ih hrest n]

theorem map_without (key : κ) (entries : List (κ × α)) :
    (without key entries).map Prod.fst = (entries.map Prod.fst).filter (· ≠ key) := by
  rw [without, List.filter_map]
  rfl

/-! ## One step -/

/-- A look-up finds an entry and takes it to the front, or finds none and is counted only. -/
theorem get_cases (c : ModuleCache κ α) (key : κ) :
    (∃ found, (key, found) ∈ c.entries ∧ c.get key = (some found, { c with
      entries := (key, found) :: without key c.entries
      stats := { c.stats with hits := c.stats.hits + 1 } })) ∨
    (key ∉ c.entries.map Prod.fst ∧
      c.get key = (none, { c with stats := { c.stats with misses := c.stats.misses + 1 } })) := by
  cases hfind : c.entries.find? (·.1 = key) with
  | some entry =>
      obtain ⟨other, found⟩ := entry
      have hkey : other = key := by simpa using List.find?_some hfind
      subst hkey
      exact Or.inl ⟨found, List.mem_of_find?_eq_some hfind, by rw [get, hfind]⟩
  | none =>
      refine Or.inr ⟨fun hmem => ?_, by rw [get, hfind]⟩
      obtain ⟨entry, hentry, hkey⟩ := List.mem_map.mp hmem
      simpa [hkey] using List.find?_eq_none.mp hfind entry hentry

/-- The counts are those of the look-ups that were seen. -/
structure Counts (seen : List (Event κ)) (stats : CacheStats) : Prop where
  hits : stats.hits = .ofNat (seen.countP Event.isHit)
  lookups : stats.hits + stats.misses = .ofNat (seen.countP Event.isLookup)

omit [DecidableEq κ] in
theorem Counts.pass {seen : List (Event κ)} {stats : CacheStats} (h : Counts seen stats)
    {event : Event κ} (hevent : event.isLookup = false) : Counts (seen ++ [event]) stats where
  hits := by
    have hmiss : event.isHit = false := by
      cases event with
      | hit key => cases hevent
      | miss | asked | inserted | cleared => rfl
    rw [List.countP_append, List.countP_singleton, hmiss]
    exact h.hits
  lookups := by
    rw [List.countP_append, List.countP_singleton, hevent]
    exact h.lookups

/-- A cache for so many modules after steps of which something was seen. -/
structure Lru (capacity : Nat) (steps : List (Step κ α)) (seen : List (Event κ))
    (c : ModuleCache κ α) : Prop where
  room : c.capacity = max capacity 1
  keys : c.entries.map Prod.fst = (uses seen).eraseDups.take (max capacity 1)
  modules : ∀ entry ∈ c.entries, latest? entry.1 steps = some entry.2
  counts : Counts seen c.stats

theorem lru_withCapacity (capacity : Nat) :
    Lru capacity [] [] (withCapacity capacity : ModuleCache κ α) where
  room := rfl
  keys := by simp [withCapacity, uses]
  modules _ hentry := nomatch hentry
  counts := ⟨rfl, rfl⟩

section

variable {capacity : Nat} {steps : List (Step κ α)} {seen : List (Event κ)} {c : ModuleCache κ α}

/-- A key that is taken to the front is in front of the latest uses. -/
theorem Lru.front (h : Lru capacity steps seen c) (key : κ) :
    (key :: (c.entries.map Prod.fst).filter (· ≠ key)).take (max capacity 1) =
      (key :: uses seen).eraseDups.take (max capacity 1) := by
  obtain ⟨n, hn⟩ : ∃ n, max capacity 1 = n + 1 :=
    Nat.exists_eq_succ_of_ne_zero (Nat.ne_of_gt (Nat.le_max_right ..))
  rw [h.keys, eraseDups_cons_filter, hn, List.take_succ_cons, List.take_succ_cons,
    take_filter_take (nodup_eraseDups _)]

/-- Entries that stay have the module that was put in last under their keys, unless the step puts
in another one. -/
theorem Lru.modules_concat (h : Lru capacity steps seen c) {step : Step κ α}
    {entry : κ × α} (hentry : entry ∈ c.entries) (hstep : step.brings? entry.1 = none) :
    latest? entry.1 (steps ++ [step]) = some entry.2 := by
  rw [latest?_concat, hstep]
  exact h.modules entry hentry

theorem Lru.get (h : Lru capacity steps seen c) (key : κ) :
    Lru capacity (steps ++ [.get key]) (seen ++ [c.event (.get key)]) (c.next (.get key)) := by
  rcases get_cases c key with ⟨found, hmem, hget⟩ | ⟨-, hget⟩
  · have hevent : c.event (.get key) = .hit key := by rw [event, hget]; rfl
    have hfront := h.front key
    have hlength : (key :: (c.entries.map Prod.fst).filter (· ≠ key)).length ≤ max capacity 1 := by
      have hkeys : (c.entries.map Prod.fst).length ≤ max capacity 1 := by
        rw [h.keys]
        exact List.length_take_le _ _
      have hfewer : ((c.entries.map Prod.fst).filter (· ≠ key)).length <
          (c.entries.map Prod.fst).length :=
        List.length_filter_lt_length_iff_exists.mpr
          ⟨key, List.mem_map.mpr ⟨_, hmem, rfl⟩, by simp⟩
      rw [List.length_cons]
      omega
    rw [List.take_of_length_le hlength] at hfront
    rw [hevent, next, hget]
    refine ⟨h.room, ?_, fun entry hentry => ?_, ?_, ?_⟩
    · rw [uses_concat, Event.addTo, ← hfront, List.map_cons, map_without]
    · rcases List.mem_cons.mp hentry with rfl | hentry
      · exact h.modules_concat hmem rfl
      · exact h.modules_concat (List.mem_filter.mp hentry).1 rfl
    · rw [List.countP_append, UInt64.ofNat_add, ← h.counts.hits]
      rfl
    · rw [List.countP_append, UInt64.ofNat_add, ← h.counts.lookups]
      rw [UInt64.add_assoc, UInt64.add_comm 1, ← UInt64.add_assoc]
      rfl
  · have hevent : c.event (.get key) = .miss key := by rw [event, hget]; rfl
    rw [hevent, next, hget]
    refine ⟨h.room, ?_, fun entry hentry => h.modules_concat hentry rfl, ?_, ?_⟩
    · rw [uses_concat]
      exact h.keys
    · rw [List.countP_append]
      exact h.counts.hits
    · rw [List.countP_append, UInt64.ofNat_add, ← h.counts.lookups]
      exact (UInt64.add_assoc ..).symm

theorem Lru.insert (h : Lru capacity steps seen c) (key : κ) (found : α) :
    Lru capacity (steps ++ [.insert key found]) (seen ++ [.inserted key])
      (c.insert key found) where
  room := h.room
  keys := by
    rw [ModuleCache.insert, List.map_take, List.map_cons, map_without, h.room, h.front,
      uses_concat]
    rfl
  modules entry hentry := by
    rcases List.mem_cons.mp (List.mem_of_mem_take hentry) with rfl | hentry
    · rw [latest?_concat, Step.brings?, if_pos rfl]
      rfl
    · obtain ⟨hentry, hother⟩ := List.mem_filter.mp hentry
      exact h.modules_concat hentry (if_neg (Ne.symm (of_decide_eq_true hother)))
  counts := h.counts.pass rfl

theorem Lru.step (h : Lru capacity steps seen c) (step : Step κ α) :
    Lru capacity (steps ++ [step]) (seen ++ [c.event step]) (c.next step) := by
  cases step with
  | get key => exact h.get key
  | insert key found => exact h.insert key found
  | contains key =>
      refine ⟨h.room, ?_, fun entry hentry => h.modules_concat hentry rfl, h.counts.pass rfl⟩
      rw [uses_concat]
      exact h.keys
  | clear =>
      refine ⟨h.room, ?_, fun entry hentry => (nomatch hentry), h.counts.pass rfl⟩
      rw [uses_concat]
      exact (List.take_nil ..).symm

end

/-! ## All steps -/

/-- Every step keeps what joins a cache with what was seen of it. -/
theorem lru_after (capacity : Nat) (steps : List (Step κ α)) :
    Lru capacity steps ((withCapacity capacity : ModuleCache κ α).events steps)
      ((withCapacity capacity).after steps) := by
  induction steps using List.reverseRecOn with
  | nil => exact lru_withCapacity capacity
  | append_singleton steps step ih =>
      rw [events_concat, after_concat]
      exact ih.step step

/-- At every moment the cache has the keys that were used last, as many as there is room for and in
the order of their latest uses. Look-ups and questions are answered from these keys, a look-up with
the module that was put in last. The counts are those of all look-ups ever made, as far as 64 bits
hold them. Asking changes nothing, and taking the modules out leaves the counts. -/
theorem keeps_most_recent (capacity : Nat) (steps : List (Step κ α)) :
    let c : ModuleCache κ α := (withCapacity capacity).after steps
    let seen := (withCapacity capacity : ModuleCache κ α).events steps
    let recent := (uses seen).eraseDups.take (max capacity 1)
    c.entries.map Prod.fst = recent ∧
    (∀ key, (c.get key).1 = if key ∈ recent then latest? key steps else none) ∧
    (∀ key, (c.get key).1.isSome ↔ key ∈ recent) ∧
    (∀ key, c.contains key ↔ key ∈ recent) ∧
    (∀ key, c.next (.contains key) = c) ∧
    c.stats.hits.toNat = seen.countP Event.isHit % 2 ^ 64 ∧
    (c.stats.hits + c.stats.misses).toNat = seen.countP Event.isLookup % 2 ^ 64 ∧
    (c.next .clear).entries = [] ∧ (c.next .clear).stats = c.stats := by
  intro c seen recent
  have h : Lru capacity steps seen c := lru_after capacity steps
  have hkeys : c.entries.map Prod.fst = recent := h.keys
  have hanswer (key : κ) : (∃ found, (c.get key).1 = some found ∧ latest? key steps = some found ∧
      key ∈ recent) ∨ ((c.get key).1 = none ∧ key ∉ recent) := by
    rw [← hkeys]
    rcases get_cases c key with ⟨found, hmem, hget⟩ | ⟨hmem, hget⟩
    · exact Or.inl ⟨found, by rw [hget], h.modules _ hmem, List.mem_map.mpr ⟨_, hmem, rfl⟩⟩
    · exact Or.inr ⟨by rw [hget], hmem⟩
  refine ⟨hkeys, fun key => ?_, fun key => ?_, fun key => ?_, fun _ => rfl, ?_, ?_, rfl, rfl⟩
  · rcases hanswer key with ⟨found, hget, hlatest, hmem⟩ | ⟨hget, hmem⟩
    · rw [if_pos hmem, hget, hlatest]
    · rw [if_neg hmem, hget]
  · rcases hanswer key with ⟨found, hget, -, hmem⟩ | ⟨hget, hmem⟩
    · simp [hget, hmem]
    · simp [hget, hmem]
  · rw [← hkeys, contains, List.any_eq_true, List.mem_map]
    simp
  · rw [h.counts.hits, UInt64.toNat_ofNat']
  · rw [h.counts.lookups, UInt64.toNat_ofNat']

end PolicyHost.ModuleCache
