import PolicyHost.Proofs.Session.Endings

/-!
# When a session is tainted

An operation that the guest stopped in leaves the heap in disorder, and the
session is to be tainted from then on until data is set. The flag does the
following, on every guest and with any fuel, and neither is quite that.

An operation that stopped leaves an untainted session untainted when it updated a
path, when the guest did not even move its heap pointer back, and when it took data
and stopped before it told where the data ends (`stopped_untainted_iff`). A tainted
session loses its taint when data is set, and also when data is refused and the
guest takes the empty object in its place (`taint_cleared_iff`).
-/

namespace PolicyHost.Session

open Json Guest

variable {s t : Session}

/-! ## Sessions that are tried out -/

/-- What can be seen of a session that was launched holds of one that a launch gives. -/
theorem launch_of_any (g : Guest) (config : Config) (registry : Builtin.Registry)
    (seen : Session → Bool)
    (h : (launch g config registry).1.toOption.any seen = true) :
    ∃ s lines, launch g config registry = (.ok s, lines) ∧ seen s = true := by
  cases hlaunch : launch g config registry with
  | mk r lines =>
      rw [hlaunch] at h
      cases r with
      | ok s => exact ⟨s, lines, rfl, h⟩
      | error e => cases h

/-- Whether an outcome is an error. -/
def failsWith (r : Except Error Value) (e : Error) : Bool :=
  match r with
  | .ok _ => false
  | .error e' => e' = e

theorem eq_error_of_failsWith {r : Except Error Value} {e : Error} (h : failsWith r e = true) :
    r = .error e := by
  cases r with
  | ok v => cases h
  | error e' => rw [of_decide_eq_true h]

/-- A guest that updates paths. It gives up on strings that begin with an
exclamation mark, and refuses those that begin with a question mark. -/
def touchy : Description :=
  { least with
    refusals := [("\"!".toUTF8.toList, .abort), ("\"?".toUTF8.toList, .reject)]
    absent := [.setEntrypoint, .removePath, .entrypoints] }

/-- A guest that does not let its heap pointer be moved. -/
def immovable : Description :=
  { least with trapping := [.setHeap] }

/-! ## Taint that is missed -/

/-- Where an operation moves the heap pointer to before anything else. -/
def Operation.start : Operation → Session → UInt32
  | .setData _ => (·.base)
  | .evaluate .. | .decide _ | .addPath .. | .removePath _ => (·.checkpoint)

/-- The guest does not move its heap pointer to where an operation starts. -/
def Stuck (s : Session) (op : Operation) : Prop :=
  ∃ e t, (rewind op.start).run s = (.error e, t)

/-- The guest takes the data that is to be set, but does not tell where it ends. -/
def Untold (s : Session) (op : Operation) : Prop :=
  ∃ v data loaded e store, op = .setData (.json v) ∧ Brings s v (.ok data) loaded ∧
    (s.guest.getHeap.invoke s.host).run loaded = (.error e, store)

theorem not_stuck {op : Operation} (h : (rewind op.start).run s = (.ok (), t)) : ¬ Stuck s op := by
  rintro ⟨e, u, hstuck⟩
  rw [h] at hstuck
  cases hstuck

theorem Brings.not_stuck {v : Value} {r : Except Error UInt32} {u : Store}
    (h : Brings s v r u) : ¬ Stuck s (.setData (.json v)) := by
  obtain ⟨moved, hmoved, -⟩ := h
  exact Session.not_stuck hmoved

theorem Brings.not_untold {v : Value} {e : Error} {refused : Store}
    (h : Brings s v (.error e) refused) : ¬ Untold s (.setData (.json v)) := by
  rintro ⟨w, data, loaded, e', store, hop, hbrings, -⟩
  cases hop
  cases (h.unique hbrings).1

theorem not_untold_of_evaluates {op : Operation} (hop : op.evaluates = true) : ¬ Untold s op := by
  rintro ⟨v, data, loaded, e, store, rfl, -⟩
  cases hop

theorem start_of_evaluates {op : Operation} (hop : op.evaluates = true) :
    op.start = (·.checkpoint) := by
  cases op with
  | evaluate | decide => rfl
  | setData | addPath | removePath => cases hop

/-- After an operation that the guest stopped in, a session is untainted in three
cases only, and only if it was untainted before: a path was updated, the guest
stopped when its heap pointer was to be moved back, or it stopped when it was to tell
where the data ends that it took. This holds of every session, whatever its guest and
its history. -/
theorem stopped_untainted_iff (s : Session) {op : Operation} {e : Error}
    (hend : s.outcome op = .error e) (hstopped : e.taints = true) :
    (s.next op).tainted = false ↔
      s.tainted = false ∧ (op.updates = true ∨ Stuck s op ∨ Untold s op) := by
  rcases op.families with hop | hop | ⟨p, rfl⟩
  · obtain ⟨r, t, hends, hnext, hreport⟩ := evaluates_next hop s
    rw [hnext, takePrinted_tainted, Operation.not_updates hop]
    cases hreport e hend
    cases hends with
    | declined hnot => exact absurd hstopped (by simp [hnot])
    | stuck hstuck =>
        have hs : Stuck s op := ⟨e, _, start_of_evaluates hop ▸ hstuck⟩
        simp [hs]
    | ran hmoved hflag =>
        have hs : ¬ Stuck s op := not_stuck (start_of_evaluates hop ▸ hmoved)
        simp [hs, not_untold_of_evaluates hop, hflag, halts, hstopped]
  · rw [updates_tainted s hop]
    simp [hop]
  · obtain ⟨r, t, hends, hnext, hreport⟩ := setData_next s p
    rw [hnext, takePrinted_tainted]
    cases map_eq_error (hreport.symm.trans hend)
    cases hends with
    | declined => cases hstopped
    | @stuck v e store hstuck =>
        have hs : Stuck s (.setData (.json v)) := ⟨e, _, hstuck⟩
        simp [hs]
    | @untold v data e loaded store hbrings htells =>
        have hs : Untold s (.setData (.json v)) :=
          ⟨v, data, loaded, e, store, rfl, hbrings, htells⟩
        simp [hs]
    | crashed | fallen => cases hstopped
    | replaced hbrings _ hempty =>
        simp [loadEmpty_tainted hempty, hstopped, Operation.updates, hbrings.not_stuck,
          hbrings.not_untold]
    | lost hbrings => simp [Operation.updates, hbrings.not_stuck, hbrings.not_untold]

theorem stopped_untainted_iff_immovable : ∃ s lines,
    launch (.described immovable) {} .empty = (.ok s, lines) ∧
    s.outcome (.evaluate .main (.json .null)) = .error (.trap .unreachable) ∧
    ((s.next (.evaluate .main (.json .null))).tainted = false ↔
      s.tainted = false ∧ (false = true ∨ Stuck s (.evaluate .main (.json .null)) ∨
        Untold s (.evaluate .main (.json .null)))) := by
  obtain ⟨s, lines, hlaunch, hseen⟩ := launch_of_any (.described immovable) {} .empty
    (fun s => failsWith (s.outcome (.evaluate .main (.json .null))) (.trap .unreachable))
    (by decide +kernel)
  have hend := eq_error_of_failsWith hseen
  exact ⟨s, lines, hlaunch, hend, stopped_untainted_iff s hend rfl⟩

/-- A path update that the guest gives up in does not taint the session. -/
theorem update_aborts_untainted : ∃ s lines,
    launch (.described touchy) {} .empty = (.ok s, lines) ∧
    s.outcome (.addPath ["key"] (.json (.string "!"))) = .error (.aborted "") ∧
    (s.next (.addPath ["key"] (.json (.string "!")))).tainted = false := by
  let op : Operation := .addPath ["key"] (.json (.string "!"))
  obtain ⟨s, lines, hlaunch, hseen⟩ := launch_of_any (.described touchy) {} .empty
    (fun s => failsWith (s.outcome op) (.aborted "") && !(s.next op).tainted)
    (by decide +kernel)
  simp only [Bool.and_eq_true, Bool.not_eq_true'] at hseen
  exact ⟨s, lines, hlaunch, eq_error_of_failsWith hseen.1, hseen.2⟩

/-! ## Taint that is cleared -/

/-- The guest does not take data, with an error, and then the empty object is loaded, with an
outcome. -/
def Replaces (s : Session) (v : Value) (e : Error) (r : Except Error Unit) : Prop :=
  ∃ refused, Brings s v (.error e) refused ∧ (∀ text, e ≠ .crashed text) ∧
    (loadEmpty.run { s with store := refused, tainted := e.taints }).1 = r

section

variable {v : Value} {e e' : Error} {q r : Except Error Unit} {refused : Store}

theorem Brings.replaces (h : Brings s v (.error e) refused) (hends : ∀ text, e ≠ .crashed text)
    (hempty : loadEmpty.run { s with store := refused, tainted := e.taints } = (q, t)) :
    Replaces s v e' r ↔ e' = e ∧ r = q := by
  constructor
  · rintro ⟨refused', h', -, rfl⟩
    obtain ⟨he, rfl⟩ := h.unique h'
    cases he
    exact ⟨rfl, congrArg Prod.fst hempty⟩
  · rintro ⟨rfl, rfl⟩
    exact ⟨refused, h, hends, congrArg Prod.fst hempty⟩

theorem not_replaces {p : Except Error UInt32} {u : Store} (h : Brings s v p u)
    (hp : ∀ e, p = .error e → ∃ text, e = .crashed text) : ¬ Replaces s v e r := by
  rintro ⟨refused, h', hends, -⟩
  obtain ⟨rfl, -⟩ := h.unique h'
  obtain ⟨text, htext⟩ := hp e rfl
  exact hends text htext

theorem not_replaces_of_stuck (h : Stuck s (.setData (.json v))) : ¬ Replaces s v e r := by
  rintro ⟨refused, hbrings, -⟩
  exact hbrings.not_stuck h

end

/-- A tainted session is untainted after an operation exactly when data was to
be set, and the guest took it, or it refused the data without stopping, and then took
the empty object or had the host go down. This holds of every session, whatever its
guest and its history. -/
theorem taint_cleared_iff (s : Session) (htaint : s.tainted = true) (op : Operation) :
    (s.next op).tainted = false ↔
      ∃ v, op = .setData (.json v) ∧ (s.outcome op = .ok .null ∨
        ∃ e r, Replaces s v e r ∧ e.taints = false ∧
          (r = .ok () ∨ ∃ text, r = .error (.crashed text))) := by
  rcases op.families with hop | hop | ⟨p, rfl⟩
  · obtain ⟨r, t, hends, hnext, -⟩ := evaluates_next hop s
    have hkept : t.tainted = true := by
      cases hends with
      | declined | stuck => exact htaint
      | ran hmoved hflag => simp [hflag, htaint]
    rw [hnext, takePrinted_tainted, hkept]
    refine ⟨fun h => (nomatch h), ?_⟩
    rintro ⟨v, rfl, -⟩
    cases hop
  · rw [updates_tainted s hop, htaint]
    refine ⟨fun h => (nomatch h), ?_⟩
    rintro ⟨v, rfl, -⟩
    cases hop
  · obtain ⟨r, t, hends, hnext, hreport⟩ := setData_next s p
    rw [hnext, takePrinted_tainted, hreport]
    cases hends with
    | declined => simp [htaint]
    | stuck hstuck =>
        simp [htaint, Except.map, not_replaces_of_stuck ⟨_, _, hstuck⟩]
    | taken => simp [Except.map]
    | untold hbrings => simp [htaint, Except.map, not_replaces hbrings fun e he => nomatch he]
    | crashed hbrings =>
        simp [htaint, Except.map, not_replaces hbrings fun e he => by cases he; exact ⟨_, rfl⟩]
    | replaced hbrings hends hempty | fallen hbrings hends hempty =>
        simp [loadEmpty_tainted hempty, hbrings.replaces hends hempty, Except.map]
    | lost hbrings hends hempty hends' =>
        simp [hbrings.replaces hends hempty, Except.map, hends']

theorem taint_cleared_iff_renewed : ∃ s lines,
    launch (.described touchy) {} .empty = (.ok s, lines) ∧
    let t := s.after [.evaluate .main (.json (.string "!"))]
    t.tainted = true ∧ ((t.next (.setData (.json .null))).tainted = false ↔
      ∃ v, Operation.setData (.json .null) = .setData (.json v) ∧
        (t.outcome (.setData (.json .null)) = .ok .null ∨
          ∃ e r, Replaces t v e r ∧ e.taints = false ∧
            (r = .ok () ∨ ∃ text, r = .error (.crashed text)))) := by
  obtain ⟨s, lines, hlaunch, hseen⟩ := launch_of_any (.described touchy) {} .empty
    (fun s => (s.after [.evaluate .main (.json (.string "!"))]).tainted)
    (by decide +kernel)
  exact ⟨s, lines, hlaunch, hseen, taint_cleared_iff _ hseen _⟩

/-- Data that the guest refuses takes the taint away. -/
theorem refusal_clears_taint : ∃ s lines, launch (.described touchy) {} .empty = (.ok s, lines) ∧
    let t := s.after [.evaluate .main (.json (.string "!"))]
    t.tainted = true ∧
    t.outcome (.setData (.json (.string "?"))) = .error (.refusedText ⟨261⟩ 3) ∧
    (t.next (.setData (.json (.string "?")))).tainted = false := by
  let before (s : Session) : Session := s.after [.evaluate .main (.json (.string "!"))]
  let op : Operation := .setData (.json (.string "?"))
  obtain ⟨s, lines, hlaunch, hseen⟩ := launch_of_any (.described touchy) {} .empty
    (fun s => (before s).tainted &&
      (failsWith ((before s).outcome op) (.refusedText ⟨261⟩ 3) && !((before s).next op).tainted))
    (by decide +kernel)
  simp only [Bool.and_eq_true, Bool.not_eq_true'] at hseen
  exact ⟨s, lines, hlaunch, hseen.1, eq_error_of_failsWith hseen.2.1, hseen.2.2⟩

end PolicyHost.Session
