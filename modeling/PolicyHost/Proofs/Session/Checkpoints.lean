import PolicyHost.Proofs.Session.Lively
import PolicyHost.Proofs.Session.MemoryLimit
import PolicyHost.Proofs.Session.Taint

/-!
# Checkpoints

The base checkpoint of a session stays where the launch put it, and the
checkpoint of the data never falls below it. Evaluations do not move it. Data
that was taken puts it behind the text of the data and its copy, counted from
the base, and path updates that succeed move it up.

Data that is not taken puts it behind a new empty object, or leaves the session
tainted when the guest does not take that either. There is one kind of guest
with which setting data does neither (`checkpoint_kept_untainted`): those that
stop when their heap pointer is to be moved back. Then setting data fails before
anything was tried, and leaves checkpoint, data and taint as they were.
-/

namespace PolicyHost.Session

open Json Guest

variable {g : Description} {s : Session} {v : Value}

theorem ample_of_granted {config : Config} {u : Store} (h : Granted config u)
    (hlimit : config.memoryLimit.megabytes ≤ 1024) : u.memory.size ≤ ampleSize := by
  have hwithin : u.memory.size ≤ config.memoryLimit.megabytes * 1024 * 1024 := h.within
  rw [ampleSize]
  omega

/-! ## One operation -/

theorem evaluates_keeps (s : Session) {op : Operation} (hop : op.evaluates = true) :
    (s.next op).data = s.data ∧ (s.next op).base = s.base ∧
      (s.next op).checkpoint = s.checkpoint := by
  obtain ⟨r, t, hends, hnext, -⟩ := evaluates_next hop s
  rw [hnext]
  cases hends with
  | declined | stuck | ran => exact ⟨rfl, rfl, rfl⟩

/-- Data that was taken ends twice the length of its text and one behind the base. -/
theorem Lively.taken_checkpoint (h : Lively g s)
    (hsize : (s.next (.setData (.json v))).store.memory.size ≤ ampleSize)
    (hok : s.outcome (.setData (.json v)) = .ok .null) :
    (s.next (.setData (.json v))).checkpoint.toNat =
      s.base.toNat + (2 * (encode v).length + 1) := by
  obtain ⟨r, t, hends, hnext, hreport⟩ := h.setData_next (.json v)
  rw [hnext] at hsize ⊢
  rw [hok] at hreport
  cases hends with
  | taken hset hload =>
      rw [h.guest] at hload
      exact load_placed hload hsize
  | stuck | replaced | lost => cases hreport

/-- Data that was not taken. -/
theorem Lively.refused_checkpoint (h : Lively g s) {e : Error}
    (hsize : (s.next (.setData (.json v))).store.memory.size ≤ ampleSize)
    (herror : s.outcome (.setData (.json v)) = .error e) :
    if Export.setHeap ∈ g.trapping then
      (s.next (.setData (.json v))).data = s.data ∧
      (s.next (.setData (.json v))).checkpoint = s.checkpoint ∧
      (s.next (.setData (.json v))).tainted = s.tainted
    else if s.recovers v = true then
      (s.next (.setData (.json v))).checkpoint.toNat = s.base.toNat + 5
    else (s.next (.setData (.json v))).tainted = true := by
  obtain ⟨r, t, hends, hnext, hreport⟩ := h.setData_next (.json v)
  rw [hnext] at hsize ⊢
  rw [herror] at hreport
  cases hends with
  | taken => cases hreport
  | stuck hset =>
      rw [if_pos hset]
      exact ⟨rfl, rfl, rfl⟩
  | replaced hset hrecovers hload =>
      rw [if_neg hset, if_pos hrecovers]
      rw [h.guest] at hload
      have hplaced := load_placed hload hsize
      rw [length_encode_empty] at hplaced
      exact hplaced
  | lost hset hrecovers =>
      rw [if_neg hset, if_neg (by rw [hrecovers]; exact Bool.false_ne_true)]
      rfl

/-- A path that was updated was brought in behind the data. -/
theorem Lively.updated_checkpoint (h : Lively g s) {op : Operation} (hop : op.updates = true)
    (hsize : (s.next op).store.memory.size ≤ ampleSize) {w : Value} (hok : s.outcome op = .ok w) :
    s.checkpoint < (s.next op).checkpoint := by
  obtain ⟨r, t, hends, hnext, hreport⟩ := h.updates_next hop
  rw [hnext] at hsize ⊢
  rw [hok] at hreport
  cases hends with
  | failed => cases hreport
  | done hload hraised =>
      rw [h.guest] at hload
      have hplaced := load_placed hload (Nat.le_trans hraised.size hsize)
      have hheap := hraised.heap hsize
      rw [UInt32.lt_iff_toNat_lt]
      change _ = s.checkpoint.toNat + _ at hplaced
      exact Nat.lt_of_lt_of_le (by omega) hheap

/-- The checkpoint is not below the base. -/
def Ordered (s : Session) : Prop :=
  s.base ≤ s.checkpoint

theorem Ordered.next (hordered : Ordered s) (h : Lively g s) (op : Operation)
    (hsize : (s.next op).store.memory.size ≤ ampleSize) : Ordered (s.next op) := by
  rw [Ordered, (kept_next s op).base]
  rcases op.families with hop | hop | ⟨p, rfl⟩
  · rw [(evaluates_keeps s hop).2.2]
    exact hordered
  · cases hend : s.outcome op with
    | ok w => exact UInt32.le_trans hordered (UInt32.le_of_lt (h.updated_checkpoint hop hsize hend))
    | error e =>
        obtain ⟨r, t, hends, hnext, hreport⟩ := h.updates_next hop
        rw [hend] at hreport
        rw [hnext]
        cases hends with
        | failed => exact hordered
        | done => cases hreport
  · obtain ⟨r, t, hends, hnext, -⟩ := h.setData_next p
    rw [hnext] at hsize ⊢
    cases hends with
    | declined | stuck | lost => exact hordered
    | taken _ hload | replaced _ _ hload =>
        rw [h.guest] at hload
        have hplaced := load_placed hload hsize
        rw [UInt32.le_iff_toNat_le]
        change _ = s.base.toNat + _ at hplaced
        exact hplaced ▸ Nat.le_add_right _ _

/-! ## Histories -/

theorem Ordered.after {config : Config} (hordered : Ordered s) (h : Lively g s)
    (hgranted : Granted config s.store) (hlimit : config.memoryLimit.megabytes ≤ 1024)
    (ops : List Operation) : Ordered (s.after ops) := by
  induction ops generalizing s with
  | nil => exact hordered
  | cons op ops ih =>
      -- That the memory stays ample is the other half of what the induction carries.
      have hkept := kept_next s op
      have hnext := hgranted.moves hkept.moves
      exact ih (hordered.next h op (ample_of_granted hnext hlimit)) (h.keep hkept.toFixed) hnext

/-- Wherever a history has led, the base is where the launch put it, with the checkpoint not below
it, and every operation moves the checkpoint as said above. Data that was not taken leads to a new
empty object or taints the session, except where the guest does not move its heap pointer back. -/
theorem checkpoint_discipline {config : Config} {registry : Builtin.Registry}
    {lines : List String} (hvalid : config.validate = .ok ())
    (hlimit : config.memoryLimit.megabytes ≤ 1024)
    (h : launch (.described g) config registry = (.ok s, lines)) (ops : List Operation) :
    let t := s.after ops
    t.base = s.base ∧ s.base ≤ t.checkpoint ∧
    (∀ op, op.evaluates = true → (t.next op).data = t.data ∧ (t.next op).base = t.base ∧
      (t.next op).checkpoint = t.checkpoint) ∧
    (∀ v, t.outcome (.setData (.json v)) = .ok .null →
      (t.next (.setData (.json v))).checkpoint.toNat =
        s.base.toNat + (2 * (encode v).length + 1)) ∧
    (∀ v e, t.outcome (.setData (.json v)) = .error e →
      let u := t.next (.setData (.json v))
      if Export.setHeap ∈ g.trapping then
        u.data = t.data ∧ u.checkpoint = t.checkpoint ∧ u.tainted = t.tainted
      else if t.recovers v = true then u.checkpoint.toNat = s.base.toNat + 5
      else u.tainted = true) ∧
    ∀ op w, op.updates = true → t.outcome op = .ok w → t.checkpoint < (t.next op).checkpoint := by
  intro t
  have hlively : Lively g s := launch_lively h
  have hordered : Ordered s := by
    rw [Ordered, launch_checkpoint h]
    exact UInt32.le_refl _
  have hgranted : Granted config s.store :=
    (granted_initialStore _ (initialBytes_le_of_validate hvalid)).moves (launch_moves h)
  have hkept : Kept s t := kept_after s ops
  have hafter : Ordered t := hordered.after hlively hgranted hlimit ops
  have hlively' : Lively g t := hlively.keep hkept.toFixed
  have hsize (op : Operation) : (t.next op).store.memory.size ≤ ampleSize :=
    ample_of_granted (hgranted.moves (hkept.moves.trans (kept_next t op).moves)) hlimit
  rw [Ordered, hkept.base] at hafter
  refine ⟨hkept.base, hafter, ?_, ?_, ?_, ?_⟩
  · intro op hop
    exact evaluates_keeps t hop
  · intro v hok
    rw [← hkept.base]
    exact hlively'.taken_checkpoint (hsize _) hok
  · intro v e herror
    rw [← hkept.base]
    exact hlively'.refused_checkpoint (hsize _) herror
  · intro op w hop hok
    exact hlively'.updated_checkpoint hop (hsize op) hok

theorem checkpoint_discipline_refused : ∃ s lines,
    launch (.described touchy) {} .empty = (.ok s, lines) ∧
    ({} : Config).validate = .ok () ∧ ({} : Config).memoryLimit.megabytes ≤ 1024 ∧
    s.outcome (.setData (.json (.string "?"))) = .error (.refusedText ⟨261⟩ 3) ∧
    (s.next (.setData (.json (.string "?")))).checkpoint.toNat = s.base.toNat + 5 := by
  let op : Operation := .setData (.json (.string "?"))
  obtain ⟨s, lines, hlaunch, hseen⟩ := launch_of_any (.described touchy) {} .empty
    (fun s => failsWith (s.outcome op) (.refusedText ⟨261⟩ 3) && s.recovers (.string "?"))
    (by decide +kernel)
  simp only [Bool.and_eq_true] at hseen
  have hend := eq_error_of_failsWith hseen.1
  have hlimit : ({} : Config).memoryLimit.megabytes ≤ 1024 := by decide
  obtain ⟨-, -, -, -, hrefused, -⟩ := checkpoint_discipline validate_standard hlimit hlaunch []
  have hnext := hrefused (.string "?") _ hend
  rw [if_neg (by decide)] at hnext
  exact ⟨s, lines, hlaunch, validate_standard, hlimit, hend, (if_pos hseen.2).mp hnext⟩

/-- Setting data fails here, with neither a new empty object nor a taint. -/
theorem checkpoint_kept_untainted : ∃ s lines,
    launch (.described immovable) {} .empty = (.ok s, lines) ∧
    s.outcome (.setData (.json .null)) = .error (.trap .unreachable) ∧
    (s.next (.setData (.json .null))).checkpoint.toNat ≠ s.base.toNat + 5 ∧
    (s.next (.setData (.json .null))).tainted = false := by
  let op : Operation := .setData (.json .null)
  obtain ⟨s, lines, hlaunch, hseen⟩ := launch_of_any (.described immovable) {} .empty
    (fun s => failsWith (s.outcome op) (.trap .unreachable) &&
      ((s.next op).checkpoint.toNat != s.base.toNat + 5 && !(s.next op).tainted))
    (by decide +kernel)
  simp only [Bool.and_eq_true, Bool.not_eq_true', bne_iff_ne] at hseen
  exact ⟨s, lines, hlaunch, eq_error_of_failsWith hseen.1, hseen.2.1, hseen.2.2⟩

end PolicyHost.Session
