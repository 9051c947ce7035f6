import PolicyHost.Proofs.Guest.Follows

/-!
# What the host reads at an address

A guest passes the host any address that 32 bits can hold, and the host reads the
bytes there up to the first zero. What comes of it is decided by where the address and
the first zero behind it lie: a text that ends inside the image is read as it stands,
an address past the end is outside, and everything else has no end, the address right
behind the last byte included. These are all the ways that there are (`text_ends_inside`),
so a guest that gives up is always reported, and one that prints goes on, whatever
address it passes.
-/

namespace PolicyHost.Guest

open Memory

variable {size : Nat} {image : Nat → UInt8} {a : Address}

/-- No zero stands in an image from an address on. -/
def Endless (size : Nat) (image : Nat → UInt8) (a : Nat) : Prop :=
  ∀ x, a ≤ x → x < size → image x ≠ 0

theorem scan_eq_none_iff_endless (ha : a.offset.toNat ≤ size) :
    scan image (size - a.offset.toNat) a.offset.toNat [] = none ↔
      Endless size image a.offset.toNat := by
  rw [scan_eq_none_iff]
  constructor
  · intro h x hx hsize
    have hbyte := h (x - a.offset.toNat) (by omega)
    rwa [Nat.add_sub_cancel' hx] at hbyte
  · intro h i hi
    exact h _ (Nat.le_add_right _ _) (by omega)

/-- The three ways in which reading at an address can end. -/
theorem textWithin_cases (size : Nat) (image : Nat → UInt8) (a : Address) :
    (size < a.offset.toNat ∧ textWithin size image a = .error (.trap (.readOutside a))) ∨
    (a.offset.toNat ≤ size ∧ Endless size image a.offset.toNat ∧
      textWithin size image a = .error (.transfer (.unterminated a))) ∨
    (∃ text, Stands image a.offset.toNat text ∧ a.offset.toNat + text.length < size ∧
      textWithin size image a = .ok text) := by
  rw [textWithin]
  by_cases hout : size < a.offset.toNat
  · exact Or.inl ⟨hout, if_pos hout⟩
  have hin := Nat.le_of_not_lt hout
  rw [if_neg hout]
  refine Or.inr ?_
  cases hscan : scan image (size - a.offset.toNat) a.offset.toNat [] with
  | none => exact Or.inl ⟨hin, (scan_eq_none_iff_endless hin).mp hscan, rfl⟩
  | some out =>
      obtain ⟨text, hout, hlength, htext⟩ := scan_eq_some_iff.mp hscan
      exact Or.inr ⟨text, htext, by omega, congrArg Except.ok hout⟩

theorem textWithin_eq_ok_iff {text : List UInt8} : textWithin size image a = .ok text ↔
    Stands image a.offset.toNat text ∧ a.offset.toNat + text.length < size := by
  constructor
  · intro h
    rcases textWithin_cases size image a with ⟨-, hread⟩ | ⟨-, -, hread⟩ | ⟨_, htext, hend, hread⟩
    · rw [hread] at h
      cases h
    · rw [hread] at h
      cases h
    · rw [hread] at h
      cases h
      exact ⟨htext, hend⟩
  · rintro ⟨htext, hend⟩
    have hscan : scan image (size - a.offset.toNat) a.offset.toNat [] = some text :=
      scan_eq_some_iff.mpr ⟨text, rfl, by omega, htext⟩
    rw [textWithin, if_neg (by omega), hscan]

/-- A text that ends inside the image has a zero there. -/
theorem Endless.not_stands {text : List UInt8} (h : Endless size image a.offset.toNat)
    (htext : Stands image a.offset.toNat text) : ¬ a.offset.toNat + text.length < size :=
  fun hend => h _ (Nat.le_add_right _ _) hend htext.ended

theorem textWithin_traps_iff :
    (∃ cause, textWithin size image a = .error (.trap cause)) ↔ size < a.offset.toNat := by
  rcases textWithin_cases size image a with ⟨hout, hread⟩ | ⟨hin, -, hread⟩ | ⟨_, -, hend, hread⟩
  · exact iff_of_true ⟨_, hread⟩ hout
  · rw [hread]
    exact iff_of_false (fun ⟨_, h⟩ => nomatch h) (Nat.not_lt.mpr hin)
  · rw [hread]
    exact iff_of_false (fun ⟨_, h⟩ => nomatch h) (by omega)

theorem textWithin_unterminated_iff :
    (∃ fault, textWithin size image a = .error (.transfer fault) ∧ fault.hasSource = false) ↔
      a.offset.toNat ≤ size ∧ Endless size image a.offset.toNat := by
  rcases textWithin_cases size image a with
    ⟨hout, hread⟩ | ⟨hin, hendless, hread⟩ | ⟨text, htext, hend, hread⟩
  · rw [hread]
    exact iff_of_false (fun ⟨_, h, _⟩ => nomatch h) fun h => absurd hout (Nat.not_lt.mpr h.1)
  · exact iff_of_true ⟨_, hread, rfl⟩ ⟨hin, hendless⟩
  · rw [hread]
    exact iff_of_false (fun ⟨_, h, _⟩ => nomatch h) fun h => h.2.not_stands htext hend

/-- Only the bytes inside the image are read. -/
theorem textWithin_congr {other : Nat → UInt8} (h : ∀ x, x < size → other x = image x) :
    textWithin size other a = textWithin size image a := by
  rcases textWithin_cases size image a with
    ⟨hout, hread⟩ | ⟨hin, hendless, hread⟩ | ⟨text, htext, hend, hread⟩
  · rw [hread, textWithin, if_pos hout]
  · have hother : Endless size other a.offset.toNat := by
      intro x hx hsize
      rw [h x hsize]
      exact hendless x hx hsize
    rw [hread, textWithin, if_neg (Nat.not_lt.mpr hin), (scan_eq_none_iff_endless hin).mpr hother]
  · rw [hread, textWithin_eq_ok_iff]
    refine ⟨⟨fun i hi => ?_, ?_, htext.plain⟩, hend⟩
    · rw [h _ (by omega)]
      exact htext.bytes i hi
    · rw [h _ hend]
      exact htext.ended

/-! ## Giving up and printing -/

/-- What a guest prints with the text at an address: nothing when the host cannot read it. -/
def Memory.printedAt (m : Memory) (a : Address) : List String :=
  match m.textAt a with
  | .ok text => [String.ofList (Text.decodeLossy text)]
  | .error _ => []

section

variable {α β : Type} {g : Description} {host : Host} {scope : Scope} {register : UInt32}
  {steps : List Step} {s : Store}

/-- Giving up ends whatever it is part of. -/
theorem abort_bind_run (next : α → Run β) : ((abort register : Run α) >>= next).run s =
    (.error (.aborted (s.memory.abortText ⟨register⟩)), s) := by
  have habort : (abort register : Run α).run s =
      (.error (.aborted (s.memory.abortText ⟨register⟩)), s) := rfl
  exact run_bind_of_error habort

theorem print_run : (print register).run s =
    (.ok (), { s with printed := s.memory.printedAt ⟨register⟩ ++ s.printed }) := by
  rw [print, run_modify, printedAt]
  cases s.memory.textAt ⟨register⟩ with
  | ok text => rfl
  | error e => rfl

theorem abort_steps_run (next : Ending → Run β) :
    (runSteps g host scope register (.abort :: steps) >>= next).run s =
      (.error (.aborted (s.memory.abortText ⟨register⟩)), s) := by
  rw [runSteps, bind_assoc, runStep]
  exact abort_bind_run _

theorem print_steps_run (next : Ending → Run β) :
    (runSteps g host scope register (.print :: steps) >>= next).run s =
      (runSteps g host scope register steps >>= next).run
        { s with printed := s.memory.printedAt ⟨register⟩ ++ s.printed } := by
  rw [runSteps, bind_assoc, runStep, bind_assoc]
  exact run_bind_of_ok print_run

end

/-- Reading at an address gives the bytes before the first zero when it lies inside the image,
fails as outside when the address is past the end, and fails as without an end otherwise; no byte
outside the image counts. So giving up with the text at any address ends the call as given up,
and printing it never does. -/
theorem text_ends_inside (size : Nat) (image : Nat → UInt8) (a : Address) :
    (∀ text, textWithin size image a = .ok text ↔
      Stands image a.offset.toNat text ∧ a.offset.toNat + text.length < size) ∧
    ((∃ cause, textWithin size image a = .error (.trap cause)) ↔ size < a.offset.toNat) ∧
    ((∃ fault, textWithin size image a = .error (.transfer fault) ∧ fault.hasSource = false) ↔
      a.offset.toNat ≤ size ∧ Endless size image a.offset.toNat) ∧
    ((∃ text, textWithin size image a = .ok text) ∨
      (∃ cause, textWithin size image a = .error (.trap cause)) ∨
      (∃ fault, textWithin size image a = .error (.transfer fault) ∧ fault.hasSource = false)) ∧
    (∀ other : Nat → UInt8, textWithin size (fun x => if x < size then image x else other x) a =
      textWithin size image a) ∧
    (∀ (s : Store) {α β : Type} (next : α → Run β) (rest : Unit → Run β),
      ((abort a.offset : Run α) >>= next).run s =
          (.error (.aborted (s.memory.abortText a)), s) ∧
        (print a.offset >>= rest).run s =
          (rest ()).run { s with printed := s.memory.printedAt a ++ s.printed }) ∧
    ∀ (g : Description) (host : Host) (scope : Scope) (steps : List Step) (s : Store)
        {β : Type} (next : Ending → Run β),
      (runSteps g host scope a.offset (.abort :: steps) >>= next).run s =
          (.error (.aborted (s.memory.abortText a)), s) ∧
        (runSteps g host scope a.offset (.print :: steps) >>= next).run s =
          (runSteps g host scope a.offset steps >>= next).run
            { s with printed := s.memory.printedAt a ++ s.printed } := by
  refine ⟨fun text => textWithin_eq_ok_iff, textWithin_traps_iff, textWithin_unterminated_iff, ?_,
    fun other => textWithin_congr fun x hx => if_pos hx,
    fun s _ _ next rest => ⟨abort_bind_run next, run_bind_of_ok print_run⟩,
    fun g host scope steps s _ next => ⟨abort_steps_run next, print_steps_run next⟩⟩
  rcases textWithin_cases size image a with ⟨-, hread⟩ | ⟨-, -, hread⟩ | ⟨text, -, -, hread⟩
  · exact Or.inr (Or.inl ⟨_, hread⟩)
  · exact Or.inr (Or.inr ⟨_, hread, rfl⟩)
  · exact Or.inl ⟨text, hread⟩

end PolicyHost.Guest
