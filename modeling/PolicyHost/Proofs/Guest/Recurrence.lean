import PolicyHost.Proofs.Guest.Moves
import PolicyHost.Proofs.Guest.Programs

/-!
# Work that is done again

Work that a guest has done is done again, from where it began and with the memory
that it came to. The same comes out, the heap pointer ends where it ended before,
and the memory does not grow.

Nothing that was granted is asked for again, because the memory has it. What was
refused is asked for again and refused again, but only if the memory is as large
as it was then: with more memory it need not be asked for at all. So `Covers`
allows for more memory after a result and not after an error, and this is what
goes through `Recurs.bind`, where the first part has a result and the memory that
the second part came to.

Both times the work meets the same texts, because it follows the same plan both
times.
-/

namespace PolicyHost.Guest

open Json Builtin

variable {α β γ : Type} {g : Description} {host : Host} {s s' t t' : Store}
  {work again w w' : Run α}

/-! ## Doing work again -/

/-- Two stores with room that differ in nothing that work starts from but their
memories. -/
structure Beside (s t : Store) : Prop where
  heap : t.heap = s.heap
  limit : t.limit = s.limit
  fuel : t.fuel = s.fuel
  room : Room s
  room' : Room t

/-- A store has the memory that work came to when it ended: at least as much of it,
and after an error exactly as much. -/
structure Covers (r : Except Error α) (s' t : Store) : Prop where
  size : s'.memory.size ≤ t.memory.size
  error : ∀ e, r = .error e → s'.memory.size = t.memory.size

/-- Work on a store `t` ended where other work ended, without more memory. -/
structure Again (s' t t' : Store) : Prop where
  heap : t'.heap = s'.heap
  size : t'.memory.size = t.memory.size
  peak : t'.peak = t.peak

/-- Work on a store comes out again on another one that has the memory for it. -/
def Recurs (work again : Run α) (s t : Store) : Prop :=
  ∀ r s', work.run s = (r, s') → Covers r s' t →
    ∃ t', again.run t = (r, t') ∧ Again s' t t'

/-- Work does not make the memory smaller. -/
def Rises (work : Run α) : Prop :=
  ∀ s, s.memory.size ≤ (work.run s).2.memory.size

theorem Rises.of_within {kind : Error → Prop} (h : ∀ s, Within Moves kind work s) : Rises work :=
  fun s => Moves.size (h s).state

theorem Rises.pure (a : α) : Rises (pure a) :=
  fun _ => Nat.le_refl _

theorem Rises.bind {next : α → Run β} (h : Rises work) (hnext : ∀ a, Rises (next a)) :
    Rises (work >>= next) := by
  intro s
  have hfirst := h s
  cases hrun : work.run s with
  | mk r s' =>
      rw [hrun] at hfirst
      cases r with
      | ok a =>
          rw [run_bind_of_ok hrun]
          exact Nat.le_trans hfirst (hnext a s')
      | error e =>
          rw [run_bind_of_error hrun]
          exact hfirst

theorem Rises.of_confined (h : Confined true fun _ => work) : Rises work :=
  .of_within h.moves

theorem copy_rises (target source count : Nat) : Rises (copy target source count) :=
  .of_confined (copy_confined _ _ _)

theorem writeBytes_rises (a : Nat) (bytes : List UInt8) : Rises (writeBytes a bytes) :=
  .of_confined (.write _ _)

theorem fillPart_rises (context : UInt32) (place : Option Nat) (w : UInt32) :
    Rises (fillPart context place w) :=
  .of_confined (fillPart_confined _ _ _)

/-- A store after work that took nothing from the heap and nothing for the memory. -/
structure Stays (s s' : Store) : Prop where
  heap : s'.heap = s.heap
  size : s'.memory.size = s.memory.size
  peak : s'.peak = s.peak

theorem Stays.refl (s : Store) : Stays s s := ⟨rfl, rfl, rfl⟩

theorem Stays.write (a : Nat) (bytes : List UInt8) :
    Stays s { s with memory := s.memory.write a bytes } :=
  ⟨rfl, Memory.size_write _ _ _, rfl⟩

theorem Covers.keep {r : Except Error α} (h : Covers r s t)
    (hsize : t'.memory.size = t.memory.size) : Covers r s t' :=
  ⟨Nat.le_trans h.size (Nat.le_of_eq hsize.symm), fun e he => (h.error e he).trans hsize.symm⟩

theorem Covers.ok {a : α} (h : s.memory.size ≤ t.memory.size) : Covers (.ok a) s t :=
  ⟨h, fun _ => nofun⟩

theorem Again.after {t₁ : Store} (hsize : t₁.memory.size = t.memory.size)
    (hpeak : t₁.peak = t.peak) (h : Again s' t₁ t') : Again s' t t' :=
  ⟨h.heap, h.size.trans hsize, h.peak.trans hpeak⟩

namespace Recurs

variable {next next' : α → Run γ}

/-- Work of a known outcome that takes nothing. -/
theorem still {r : Except Error α} (hheap : t.heap = s.heap) (hs : work.run s = (r, s'))
    (hstays : Stays s s') (ht : again.run t = (r, t')) (hstays' : Stays t t') :
    Recurs work again s t := by
  intro r' s'' hrun _
  rw [hs] at hrun
  cases hrun
  exact ⟨t', ht, hstays'.heap.trans (hheap.trans hstays.heap.symm), hstays'.size, hstays'.peak⟩

/-- A beginning that takes nothing leaves it to the rest. -/
theorem step (hs : work.run s = w.run s') (ht : again.run t = w'.run t') (hstays : Stays t t')
    (h : Recurs w w' s' t') : Recurs work again s t := by
  intro r s'' hrun hcovers
  rw [hs] at hrun
  obtain ⟨t'', hagain, hends⟩ := h r s'' hrun (hcovers.keep hstays.size)
  exact ⟨t'', ht.trans hagain, hends.after hstays.size hstays.peak⟩

theorem of_run_eq (hs : work.run s = w.run s) (ht : again.run t = w'.run t)
    (h : Recurs w w' s t) : Recurs work again s t :=
  .step hs ht (.refl t) h

/-- The second store is not the smaller one. -/
theorem of_size (hrises : Rises work) (h : s.memory.size ≤ t.memory.size → Recurs work again s t) :
    Recurs work again s t := by
  intro r s' hrun hcovers
  have hgrown := hrises s
  rw [hrun] at hgrown
  exact h (Nat.le_trans hgrown hcovers.size) r s' hrun hcovers

/-- What comes after an error does not count. -/
theorem bind_of_error {e : Error} (hrun : work.run s = (.error e, s'))
    (h : Recurs work again s t) : Recurs (work >>= next) (again >>= next') s t := by
  intro r s'' hrun' hcovers
  rw [run_bind_of_error hrun] at hrun'
  cases hrun'
  obtain ⟨t', hagain, hends⟩ := h _ _ hrun ⟨hcovers.size, fun _ _ => hcovers.error e rfl⟩
  exact ⟨t', run_bind_of_error hagain, hends⟩

/-- An end that does not look at the store. -/
theorem finish {out : α → Except Error γ} (hnext : ∀ a u, (next a).run u = (out a, u))
    (h : Recurs work again s t) : Recurs (work >>= next) (again >>= next) s t := by
  cases hrun : work.run s with
  | mk r s' =>
      cases r with
      | error e => exact .bind_of_error hrun h
      | ok a =>
          intro r' s'' hrun' hcovers
          rw [run_bind_of_ok hrun, hnext] at hrun'
          cases hrun'
          obtain ⟨t', hagain, hends⟩ := h _ _ hrun (.ok hcovers.size)
          exact ⟨t', (run_bind_of_ok hagain).trans (hnext a t'), hends⟩

theorem map {f : α → γ} (h : Recurs work again s t) : Recurs (f <$> work) (f <$> again) s t := by
  rw [← bind_pure_comp, ← bind_pure_comp]
  exact h.finish fun _ _ => rfl

/-- Work that follows a plan both times recurs, and so does what comes after it. -/
theorem bind {floor : Nat} {R : α → β → Store → Prop} {plan : Plan β} (hb : Beside s t)
    (hs : Follows floor R work plan s) (ht : Follows floor R again plan t)
    (h : Recurs work again s t) (hrises : ∀ a, Rises (next a))
    (hnext : ∀ a b s' t', Beside s' t' → Later floor s s' → Later floor t t' → R a b s' →
      R a b t' → Recurs (next a) (next' a) s' t') :
    Recurs (work >>= next) (again >>= next') s t := by
  rcases hs.outcome hb.room with ⟨a, b, s', taken, hrun, hplan, -, hlater, hroom, hr⟩ |
    ⟨e, s', -, hrun, -⟩ | ⟨cause, s', -, hrun, -⟩
  · intro r s'' hrun' hcovers
    rw [run_bind_of_ok hrun] at hrun'
    have hgrown := hrises a s'
    rw [hrun'] at hgrown
    obtain ⟨t', hagain, hends⟩ := h _ _ hrun (.ok (Nat.le_trans hgrown hcovers.size))
    rcases ht.outcome hb.room' with ⟨a', b', u, taken', hrun₂, hplan', -, hlater', hroom', hr'⟩ |
      ⟨e, u, -, hrun₂, -⟩ | ⟨cause, u, -, hrun₂, -⟩
    · rw [hagain] at hrun₂
      cases hrun₂
      rw [hb.heap, hplan] at hplan'
      cases hplan'
      have hbeside : Beside s' t' :=
        ⟨hends.heap, hlater'.limit.trans (hb.limit.trans hlater.limit.symm),
          hlater'.fuel.trans (hb.fuel.trans hlater.fuel.symm), hroom, hroom'⟩
      obtain ⟨t'', hagain', hends'⟩ := hnext a b s' t' hbeside hlater hlater' hr hr' r s'' hrun'
        (hcovers.keep hends.size)
      exact ⟨t'', (run_bind_of_ok hagain).trans hagain', hends'.after hends.size hends.peak⟩
    · rw [hagain] at hrun₂
      cases hrun₂
    · rw [hagain] at hrun₂
      cases hrun₂
  · exact .bind_of_error hrun h
  · exact .bind_of_error hrun h

end Recurs

/-! ## Texts -/

section Texts

variable {lo hi : Nat} {bytes : List UInt8}

/-- Bytes that were granted are there the second time, and bytes that were refused
are asked for in the same way and refused again. -/
theorem allocate_recurs {count : UInt32} (ho : g.Orderly) (hb : Beside s t)
    (hcount : count.toNat ≤ 2 ^ 31) : Recurs (allocate g count) (allocate g count) s t := by
  intro r s' hrun hcovers
  have hlt := hb.room.lacks_iff hcount
  have hlt' := hb.room'.lacks_iff hcount
  have htop : t.heap + count = s.heap + count := congrArg (· + count) hb.heap
  rw [hb.heap] at hlt'
  have henough (h : ¬ t.memory.size < s.heap.toNat + count.toNat) :
      (allocate g count).run t = (.ok s.heap, { t with heap := s.heap + count }) := by
    rw [allocate_enough ho (by rw [hb.heap, hlt']; exact h), hb.heap]
  by_cases h : UInt32.ofNat s.memory.size < s.heap + count
  · by_cases hl : s.limit < s.memory.size + missingPages s count * pageSize
    · rw [allocate_refused ho h hl] at hrun
      cases hrun
      have hsize : s.memory.size = t.memory.size := hcovers.error _ rfl
      have hmissing : missingPages t count = missingPages s count := by
        rw [missingPages, missingPages, hb.heap, hsize]
      refine ⟨_, allocate_refused ho ?_ ?_, htop, rfl, rfl⟩
      · rw [hb.heap, ← hsize]
        exact h
      · rw [hb.limit, hmissing, ← hsize]
        exact hl
    · have hsize : s.memory.size ≤ 2 ^ 32 := Nat.le_trans hb.room.size_le (by decide)
      have hgrown := hb.room.grown hcount h
      rw [allocate_granted ho h hsize hl] at hrun
      cases hrun
      have hlarge := hcovers.size
      rw [Memory.size_grow] at hlarge
      exact ⟨_, henough (by omega), rfl, rfl, rfl⟩
  · rw [allocate_enough ho h] at hrun
    cases hrun
    have hlarge : s.memory.size ≤ t.memory.size := hcovers.size
    rw [hlt] at h
    exact ⟨_, henough (by omega), rfl, rfl, rfl⟩

/-- Work that begins with an allocation recurs when the rest does, in the same bytes
both times. -/
theorem allocate_bind_recurs {count : UInt32} {next next' : UInt32 → Run γ} (ho : g.Orderly)
    (hb : Beside s t) (hcount : count.toNat ≤ 2 ^ 31) (hrises : ∀ a, Rises (next a))
    (hnext : ∀ s' t', Beside s' t' → Later s.heap.toNat s s' → Later t.heap.toNat t t' →
      s'.heap.toNat = s.heap.toNat + count.toNat →
      s.heap.toNat + count.toNat ≤ s'.memory.size → s.heap.toNat + count.toNat ≤ t'.memory.size →
      Recurs (next s.heap) (next' s.heap) s' t') :
    Recurs (allocate g count >>= next) (allocate g count >>= next') s t := by
  have hfirst := allocate_follows ho hb.room hcount
  have hsecond := allocate_follows ho hb.room' hcount
  rw [hb.heap] at hsecond hnext
  refine .bind hb hfirst hsecond (allocate_recurs ho hb hcount) hrises ?_
  rintro _ _ s₁ t₁ hb₁ hlater hlater' ⟨rfl, -, htop⟩ ⟨-, -, htop'⟩
  exact hnext s₁ t₁ hb₁ hlater hlater' htop (htop ▸ hb₁.room.heap) (htop' ▸ hb₁.room'.heap)

/-- A guest that is called the second time answers as it did. -/
theorem call_bind_recurs {e : Export} {next next' : α → Run γ} (ho : g.Orderly)
    (hb : Beside s t) (h : Recurs (work >>= next) (again >>= next') s t) :
    Recurs (call g e work >>= next) (call g e again >>= next') s t :=
  .of_run_eq (call_bind_run ho hb.room.fuel) (call_bind_run ho hb.room'.fuel) h

theorem copyOut_recurs {a count : UInt32} (ho : g.Orderly) (hb : Beside s t)
    (hs : s.memory.Has a.toNat bytes) (ht : t.memory.Has a.toNat bytes)
    (hbelow : a.toNat + bytes.length ≤ s.heap.toNat) (hcount : count.toNat = bytes.length)
    (hlong : bytes.length ≤ longestText) :
    Recurs (copyOut g a count) (copyOut g a count) s t := by
  have hcopied := toNat_succ hcount hlong
  have hmost : (count + 1).toNat ≤ 2 ^ 31 := by
    rw [hcopied]
    simp only [longestText] at hlong
    omega
  have hrest (value : UInt32) : Rises (do
      copy value.toNat a.toNat count.toNat
      writeBytes (value.toNat + count.toNat) [0]
      return value) :=
    (copy_rises _ _ _).bind fun _ => (writeBytes_rises _ _).bind fun _ => .pure value
  refine allocate_bind_recurs ho hb hmost hrest ?_
  rintro s₁ t₁ hb₁ hlater hlater' - hfits hfits'
  rw [hcopied] at hfits hfits'
  rw [hcount]
  have hbelow' : a.toNat + bytes.length ≤ t.heap.toNat := by rw [hb.heap]; exact hbelow
  exact .still hb₁.heap (copyBytes_run (hlater.has hs hbelow) (by omega)) (.write _ _)
    (copyBytes_run (hlater'.has ht hbelow') (by omega)) (.write _ _)

/-- The parser refuses the same text again, copies it again, or looks again behind
a memory that has not grown. -/
theorem parse_recurs {a count : UInt32} (ho : g.Orderly) (hb : Beside s t)
    (hs : s.memory.Has a.toNat bytes) (ht : t.memory.Has a.toNat bytes)
    (hbelow : a.toNat + bytes.length ≤ s.heap.toNat) (hcount : count.toNat = bytes.length)
    (hlong : bytes.length ≤ longestText) : Recurs (parse g a count) (parse g a count) s t := by
  by_cases hrefused : (g.refusal? bytes).isSome = true
  · exact .still hb.heap (parse_refused ho hs hcount hrefused) ⟨rfl, rfl, rfl⟩
      (parse_refused ho ht hcount hrefused) ⟨rfl, rfl, rfl⟩
  have htaken : (g.refusal? bytes).isSome = false := by simpa using hrefused
  have hcounted : Beside { s with globals := s.globals + 1 } { t with globals := t.globals + 1 } :=
    ⟨hb.heap, hb.limit, hb.fuel, hb.room.counted, hb.room'.counted⟩
  refine .of_size (.of_confined (parse_confined g _ _)) fun hsize => ?_
  by_cases hpeeks : s.memory.holds a.toNat g.peeks = true
  · have hpeeks' : t.memory.holds a.toNat g.peeks = true := by
      simp only [Memory.holds, decide_eq_true_eq] at hpeeks ⊢
      omega
    exact .step (parse_taken ho hs hcount htaken hpeeks) (parse_taken ho ht hcount htaken hpeeks')
      ⟨rfl, rfl, rfl⟩ (copyOut_recurs ho hcounted hs ht hbelow hcount hlong)
  · intro r s' hrun hcovers
    rw [parse_outside ho hpeeks] at hrun
    cases hrun
    have hsame : s.memory.size = t.memory.size := hcovers.error _ rfl
    have hpeeks' : ¬ t.memory.holds a.toNat g.peeks = true := by
      rw [Memory.holds, ← hsame]
      exact hpeeks
    exact ⟨_, parse_outside ho hpeeks', hb.heap, rfl, rfl⟩

theorem Beside.write (hb : Beside s t) (a : Nat) (bytes : List UInt8) :
    Beside { s with memory := s.memory.write a bytes }
      { t with memory := t.memory.write a bytes } :=
  ⟨hb.heap, hb.limit, hb.fuel, hb.room.write a bytes, hb.room'.write a bytes⟩

theorem parseText_recurs {a : UInt32} (ho : g.Orderly) (hb : Beside s t)
    (hs : s.memory.Has a.toNat bytes) (ht : t.memory.Has a.toNat bytes)
    (hbelow : a.toNat + bytes.length ≤ s.heap.toNat) (hlong : bytes.length ≤ longestText) :
    Recurs (parseText (.described g) host bytes a) (parseText (.described g) host bytes a) s t := by
  have hcheck (value : UInt32) (u : Store) :
      (do
        if value = 0 then throw (.refusedText ⟨a⟩ bytes.length)
        return value : Run UInt32).run u =
          (if value = 0 then .error (.refusedText ⟨a⟩ bytes.length) else .ok value, u) := by
    split <;> rfl
  have hparse := parse_recurs ho hb hs ht hbelow (toNat_length hlong) hlong
  exact call_bind_recurs ho hb (hparse.finish hcheck)

/-- A text is brought in again, or refused again. -/
theorem loadText_recurs (ho : g.Orderly) (hb : Beside s t) :
    Recurs (loadText (.described g) host bytes) (loadText (.described g) host bytes) s t := by
  by_cases hlong : longestText < bytes.length
  · exact .still hb.heap (loadText_oversized hlong) (.refl s) (loadText_oversized hlong) (.refl t)
  have hshort := Nat.le_of_not_lt hlong
  have hcount := toNat_length hshort
  have hmost : (UInt32.ofNat bytes.length).toNat ≤ 2 ^ 31 := by
    rw [hcount]
    simp only [longestText] at hshort
    omega
  have hparse (a count : UInt32) := (guarded_confined g .parse (parse_confined g a count)).moves
  have hmoves (a : UInt32) (u : Store) :
      Within Moves (fun _ => True) (storeText (.described g) host bytes a) u :=
    storeText_within moves_frame (fun _ _ => trivial) hparse bytes a u
  have hrest (a : UInt32) : Rises (storeText (.described g) host bytes a) := .of_within (hmoves a)
  rw [loadText_eq hshort]
  refine call_bind_recurs ho hb (allocate_bind_recurs ho hb hmost hrest ?_)
  rintro s₁ t₁ hb₁ - - htop hfits hfits'
  rw [hcount] at htop hfits hfits'
  exact .step (storeText_run hfits) (storeText_run hfits') (.write _ _)
    (parseText_recurs ho (hb₁.write _ _) (Memory.has_write hfits) (Memory.has_write hfits')
      (Nat.le_of_eq htop.symm) hshort)

theorem load_recurs (ho : g.Orderly) (hb : Beside s t) (v : Value) :
    Recurs (load (.described g) host v) (load (.described g) host v) s t := by
  rw [load_eq]
  exact loadText_recurs ho hb

end Texts

end PolicyHost.Guest
