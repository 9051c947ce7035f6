import PolicyHost.Proofs.Session.Lively

/-!
# Data that does not cross

Setting data can fail before any text of it reaches the guest, for two reasons.
A value without a text is turned down at once, and the session stays as it is. A
text that is too long for every guest is turned down as well, but only after the
heap pointer went back to the base, where the old data begins; so the old data is
lost. What is left is what setting the empty object leaves, and if the guest does
not take that either, the old data in a tainted session.
-/

namespace PolicyHost.Session

open Json Guest

variable {s : Session}

/-! ## Sessions between operations -/

theorem takePrinted_of_quiet (h : s.store.printed = []) : s.takePrinted.2 = s := by
  change { s with store := { s.store with printed := [] } } = s
  rw [← h]

/-- Between operations no lines are left to take. -/
theorem after_quiet {g : Guest} {config : Config} {registry : Builtin.Registry}
    {lines : List String} (h : launch g config registry = (.ok s, lines))
    (ops : List Operation) : (s.after ops).store.printed = [] := by
  have hquiet (ops : List Operation) (t : Session) (ht : t.store.printed = []) :
      (t.after ops).store.printed = [] := by
    induction ops generalizing t with
    | nil => exact ht
    | cons op ops ih => exact ih (t.next op) rfl
  obtain ⟨tables, u, data, v, base, w, -, -, -, rfl⟩ := launch_ok h
  exact hquiet ops _ rfl

/-! ## What is left -/

/-- What is left of a session when its data was not sent. -/
inductive Unsent (s : Session) : Payload → TransferFault → Session → Prop
  /-- The value has no text. -/
  | unencodable : Unsent s .unencodable .unencodable s
  /-- The text is too long, but the guest does not even move its heap pointer back: it had a
  builtin called, with an operand that did not cross. -/
  | stuck {v : Value} {f : TransferFault} {store : Store}
      (hlong : longestText < (encode v).length)
      (hstuck : (rewind (·.base)).run s = (.error (.transfer f), { s with store })) :
      Unsent s (.json v) f ({ s with store } : Session).takePrinted.2
  /-- The text is too long, and the guest takes the empty object. -/
  | emptied {v : Value} {moved store : Store} {data checkpoint : UInt32}
      (hlong : longestText < (encode v).length)
      (hmoved : (rewind (·.base)).run s = (.ok (), { s with store := moved }))
      (hempty : loadEmpty.run { s with store := moved, tainted := false } =
        (.ok (), { s with store, data, checkpoint, tainted := false })) :
      Unsent s (.json v) (.oversized (encode v).length)
        ({ s with store, data, checkpoint, tainted := false } : Session).takePrinted.2
  /-- The text is too long, and loading the empty object fails: it is the data or the old data is,
  and the checkpoint is the old one. -/
  | lost {v : Value} {e : Error} {moved store : Store} {data : UInt32}
      (hlong : longestText < (encode v).length)
      (hmoved : (rewind (·.base)).run s = (.ok (), { s with store := moved }))
      (hempty : loadEmpty.run { s with store := moved, tainted := false } =
        (.error e, { s with store, data, tainted := false })) :
      Unsent s (.json v) (.oversized (encode v).length)
        ({ s with store, data, tainted := true } : Session).takePrinted.2

section

variable {v : Value}

/-- A text that is too long leaves the store as it was when the heap pointer was back. -/
theorem Brings.oversized {r : Except Error UInt32} {u : Store} (h : Brings s v r u)
    (hlong : longestText < (encode v).length) :
    r = .error (.transfer (.oversized (encode v).length)) ∧
      (rewind (·.base)).run s = (.ok (), { s with store := u }) := by
  obtain ⟨moved, hmoved, hload⟩ := h
  rw [load_eq, loadText_oversized hlong] at hload
  cases hload
  exact ⟨rfl, hmoved⟩

theorem unsent_of_oversized (hlong : longestText < (encode v).length) {f : TransferFault}
    (hfails : s.outcome (.setData (.json v)) = .error (.transfer f)) :
    Unsent s (.json v) f (s.next (.setData (.json v))) := by
  obtain ⟨r, t, hends, hnext, hreport⟩ := setData_next s (.json v)
  rw [hnext]
  rw [hfails] at hreport
  cases hends with
  | stuck hstuck =>
      cases hreport
      exact .stuck hlong hstuck
  | taken | crashed | fallen => cases hreport
  | untold hbrings => cases (hbrings.oversized hlong).1
  | replaced hbrings _ hempty =>
      obtain ⟨he, hmoved⟩ := hbrings.oversized hlong
      cases he
      cases hreport
      obtain ⟨_, data, _, checkpoint, store, -, -, -, rfl⟩ := loadEmpty_ok hempty
      exact .emptied hlong hmoved hempty
  | lost hbrings _ hempty =>
      obtain ⟨he, hmoved⟩ := hbrings.oversized hlong
      cases he
      cases hreport
      obtain ⟨store, data, rfl⟩ := loadEmpty_error hempty
      exact .lost hlong hmoved hempty

/-- With a guest that is described, the empty object that comes in place of a text that is too
long leaves what setting it leaves. -/
theorem Lively.unsent_next {g : Description} {f : TransferFault} (h : Lively g s) {t : Session}
    (hempty : s.outcome (.setData (.json (.object []))) = .ok .null)
    (hunsent : Unsent s (.json v) f t) : t = s.next (.setData (.json (.object []))) := by
  obtain ⟨r, u, hends, hnext, hreport⟩ := h.setData_next (.json (.object []))
  rw [hempty] at hreport
  cases hends with
  | stuck | replaced | lost => cases hreport
  | taken hset hload =>
      have hreload := loadEmpty_run_of_ok
        (s := { s with store := s.rewound s.base, tainted := false }) h.guest hset h.tells h.fuel
        hload
      have hback := h.rewind hset (·.base) fun _ => rfl
      rw [hnext]
      cases hunsent with
      | stuck _ hstuck =>
          rw [hback] at hstuck
          cases hstuck
      | emptied _ hmoved hrun =>
          rw [hback] at hmoved
          cases hmoved
          rw [hreload] at hrun
          cases hrun
          rfl
      | lost _ hmoved hrun =>
          rw [hback] at hmoved
          cases hmoved
          rw [hreload] at hrun
          cases hrun

end

/-- Wherever a history has led, what setting data leaves that has no text or too long a text is
this, for every guest. With a guest that is described and fuel that is not metered it is what
setting the empty object leaves, if that succeeds. -/
theorem unsent_data {g : Guest} {config : Config} {registry : Builtin.Registry}
    {lines : List String} (h : launch g config registry = (.ok s, lines)) {ops : List Operation}
    {p : Payload} {f : TransferFault}
    (hfails : (s.after ops).outcome (.setData p) = .error (.transfer f))
    (hcause : ∀ v, p = .json v → longestText < (encode v).length) :
    Unsent (s.after ops) p f ((s.after ops).next (.setData p)) ∧
      ∀ d v, g = .described d → config.maxFuel = none → p = .json v →
        (s.after ops).outcome (.setData (.json (.object []))) = .ok .null →
        (s.after ops).next (.setData p) = (s.after ops).next (.setData (.json (.object []))) := by
  have hunsent : Unsent (s.after ops) p f ((s.after ops).next (.setData p)) := by
    cases p with
    | unencodable =>
        cases hfails
        have hnext (s : Session) : s.next (.setData .unencodable) = s.takePrinted.2 := rfl
        rw [hnext, takePrinted_of_quiet (after_quiet h ops)]
        exact .unencodable
    | json v => exact unsent_of_oversized (hcause v rfl) hfails
  refine ⟨hunsent, ?_⟩
  rintro d v rfl - rfl hempty
  exact ((launch_lively h).keep (kept_after s ops).toFixed).unsent_next hempty hunsent

/-! ## A text that is too long -/

/-- A string of so many zero characters. -/
def zeros (n : Nat) : Value :=
  .string (String.ofList (List.replicate n '\x00'))

theorem length_zeros (n : Nat) : (encode (zeros n)).length = n * 6 + 2 := by
  have hescape : (bytesOf (escape '\x00')).length = 6 := by decide
  rw [zeros, length_encode_replicate, hescape]

theorem zeros_oversized : longestText < (encode (zeros 357913941)).length := by
  rw [length_zeros]
  decide

section

variable {config : Config} {registry : Builtin.Registry} {d : Value}

/-- There is room for `true` behind the base. -/
theorem setData_true (h : Serves sample s d) (hs : Sampled config registry s)
    (hroom : 1038 ≤ s.store.memory.size) :
    Renewed sample s (.bool true) (s.next (.setData (.json (.bool true)))) := by
  have hlength : (encode (.bool true)).length = 4 := by
    rw [encode_eq]
    decide
  have hplan : s.plannedData sample (.bool true) =
      (.ok ⟨.ofNat (1029 + 4), encode (.bool true)⟩, 9) := by
    rw [plannedData, Plan.load, hs.base, Plan.loadText_taken (by rw [hlength]; decide)
      (taken_encode (v := .bool true) trivial rfl), hlength]
  rcases h.next_setData (.bool true) with ⟨-, -, ht, -⟩ | ⟨e, -, hfails, -⟩
  · exact ht
  · rw [hplan] at hfails
    have hbase : (s.rewound s.base).heap.toNat = 1029 := hs.base
    cases hfails.of_room (by rw [hbase]; exact hroom)

theorem setData_zeros (h : Serves sample s d) :
    s.outcome (.setData (.json (zeros 357913941))) = .error (.transfer (.oversized (2 ^ 31))) ∧
      Renewed sample s (.object []) (s.next (.setData (.json (zeros 357913941)))) := by
  have hlength : (encode (zeros 357913941)).length = 2 ^ 31 := length_zeros _
  have hplan :
      s.plannedData sample (zeros 357913941) = (.error (.transfer (.oversized (2 ^ 31))), 0) := by
    rw [plannedData, Plan.load, Plan.loadText_oversized zeros_oversized, hlength]
  rcases h.next_setData (zeros 357913941) with ⟨-, ⟨c, htaken⟩, -⟩ | ⟨e, herror, hfails, ht, -⟩
  · rw [hplan] at htaken
    cases htaken
  · rw [hplan] at hfails
    cases hfails.of_room h.room_base.heap
    exact ⟨herror, ht⟩

end

/-- A history that sets data and is tainted then. -/
def trueAndAbort : List Operation :=
  [.setData (.json (.bool true)), .evaluate (.named "abort") (.json .null)]

theorem unsent_data_zeros : ∃ s lines, launch (.described sample) {} .empty = (.ok s, lines) ∧
    (s.after trueAndAbort).outcome (.setData (.json (zeros 357913941))) =
      .error (.transfer (.oversized (2 ^ 31))) ∧
    Unsent (s.after trueAndAbort) (.json (zeros 357913941)) (.oversized (2 ^ 31))
      ((s.after trueAndAbort).next (.setData (.json (zeros 357913941)))) := by
  obtain ⟨s, lines, h⟩ := launch_standard .empty
  obtain ⟨hserves, -⟩ := launch_after validate_standard (by decide) h trueAndAbort
  obtain ⟨hfails, -⟩ := setData_zeros hserves
  have hcause (v : Value) (hv : Payload.json (zeros 357913941) = .json v) :
      longestText < (encode v).length := by
    cases hv
    exact zeros_oversized
  exact ⟨s, lines, h, hfails, (unsent_data h hfails hcause).1⟩

/-- The data was `true`, of four bytes, and is an empty object, of two, once data was set that is
too long. -/
theorem oversized_data_lost : ∃ s lines, launch (.described sample) {} .empty = (.ok s, lines) ∧
    (s.after trueAndAbort).outcome (.setData (.json (zeros 357913941))) =
      .error (.transfer (.oversized (2 ^ 31))) ∧
    ((s.after trueAndAbort).next (.setData (.json (zeros 357913941)))).data ≠
      (s.after trueAndAbort).data ∧
    ((s.after trueAndAbort).next (.setData (.json (zeros 357913941)))).checkpoint ≠
      (s.after trueAndAbort).checkpoint := by
  obtain ⟨s, lines, h, hserves, hsampled, hsize⟩ := launch_succeeds .empty
    validate_standard (by decide) (by decide) (by decide)
  have htrue := setData_true hserves hsampled (Nat.le_trans (by decide) hsize)
  have hafter : Serves sample (s.after trueAndAbort) (.bool true) ∧
      Still (s.next (.setData (.json (.bool true)))) (s.after trueAndAbort) :=
    htrue.serves.next_still rfl
  obtain ⟨hserves, hstill⟩ := hafter
  obtain ⟨hfails, hempty⟩ := setData_zeros hserves
  have hlength : (encode (.bool true)).length = 4 := by
    rw [encode_eq]
    decide
  have hbase : (s.after trueAndAbort).base.toNat = 1029 := by
    rw [hstill.base, htrue.base, hsampled.base]
  have hdata : (s.after trueAndAbort).data = .ofNat (1029 + 4) := by
    rw [hstill.data, htrue.data, hsampled.base, hlength]
  have hcheckpoint : (s.after trueAndAbort).checkpoint.toNat = 1029 + (2 * 4 + 1) := by
    rw [hstill.checkpoint, htrue.checkpoint, hsampled.base, hlength]
  refine ⟨s, lines, h, hfails, ?_, ?_⟩
  · rw [hempty.data, hdata, hbase, length_encode_empty]
    decide
  · rw [ne_eq, ← UInt32.toNat_inj, hempty.checkpoint, hcheckpoint, hbase, length_encode_empty]
    decide

end PolicyHost.Session
