import PolicyHost.Proofs.Guest.Tables
import PolicyHost.Proofs.Session.Transport

/-!
# Evaluations do not depend on the past

Two sessions that were launched alike and have the same data evaluate alike,
whatever each of them went through: nothing that stands above the checkpoint is
ever read, and every evaluation begins with the heap pointer at the checkpoint.
Where the data stands is decided by its length alone (`SetUp.stands`), so the
addresses agree too. The clock is the only thing that two sessions need not have
in common, and `now` the only entrypoint that asks for it.

An evaluation moves the heap pointer only once its entrypoint is known and its
input has a text. Before that the pointer is wherever the past left it, as
`heap_before_text` shows.
-/

namespace PolicyHost.Session

open Json Guest Builtin

variable {config : Config} {registry registry' : Registry} {d : Value} {s t : Session}

/-- A session that was launched, went through any operations, then had data set,
and has only evaluated since. -/
def SetUp (config : Config) (registry : Registry) (d : Value) (t : Session) : Prop :=
  ∃ s lines ops evaluations, launch (.described sample) config registry = (.ok s, lines) ∧
    (s.after ops).outcome (.setData (.json d)) = .ok .null ∧
    (∀ op ∈ evaluations, op.evaluates = true) ∧
    t = s.after (ops ++ .setData (.json d) :: evaluations)

/-- Data that was set stands at a place that its length decides. -/
structure Stands (d : Value) (t : Session) : Prop where
  serves : Serves sample t d
  data : t.data = .ofNat (1029 + (encode d).length)
  checkpoint : t.checkpoint.toNat = 1029 + (2 * (encode d).length + 1)

theorem SetUp.stands (h : SetUp config registry d t) (hvalid : config.validate = .ok ())
    (hlimit : config.memoryLimit.megabytes ≤ 1024) :
    Stands d t ∧ Sampled config registry t := by
  obtain ⟨s, lines, ops, evaluations, hlaunch, hset, hevaluations, rfl⟩ := h
  obtain ⟨hserves, hsampled⟩ := launch_after hvalid hlimit hlaunch ops
  obtain ⟨r, u, hrun, hends⟩ := setData_outcome hserves d
  rw [after_append, after]
  have hnext : (s.after ops).next (.setData (.json d)) = u.takePrinted.2 ∧ r = .ok () := by
    rw [outcome, perform] at hset
    rw [next, perform]
    cases r with
    | ok a =>
        rw [run_bind_of_ok hrun]
        exact ⟨rfl, rfl⟩
    | error e =>
        rw [run_bind_of_error hrun] at hset
        cases hset
  obtain ⟨hnext, rfl⟩ := hnext
  rcases hends with ⟨-, -, hu, -⟩ | ⟨e, he, -⟩
  · obtain ⟨hafter, hstill⟩ := hu.serves.takePrinted.after_still hevaluations
    rw [hnext]
    refine ⟨⟨hafter, hstill.data.trans ?_, ?_⟩,
      (hsampled.keep hu.toFixed).keep ((still_takePrinted u).trans hstill).toFixed⟩
    · rw [← hsampled.base]
      exact hu.data
    · rw [hstill.checkpoint, ← hsampled.base]
      exact hu.checkpoint
  · cases he

/-! ## Two sessions -/

/-- Two sessions have their data at the same place, and the same checkpoints. -/
structure Alike (s t : Session) : Prop where
  base : s.base = t.base
  checkpoint : s.checkpoint = t.checkpoint
  data : s.data = t.data

theorem SetUp.alike (hs : SetUp config registry d s) (ht : SetUp config registry' d t)
    (hvalid : config.validate = .ok ()) (hlimit : config.memoryLimit.megabytes ≤ 1024) :
    Alike s t := by
  obtain ⟨hs, hs'⟩ := hs.stands hvalid hlimit
  obtain ⟨ht, ht'⟩ := ht.stands hvalid hlimit
  exact ⟨UInt32.toNat_inj.mp (hs'.base.trans ht'.base.symm),
    UInt32.toNat_inj.mp (hs.checkpoint.trans ht.checkpoint.symm), hs.data.trans ht.data.symm⟩

/-- Evaluations leave two sessions alike that are, even where one of them fails. -/
theorem Alike.next (h : Alike s t) {d' : Value} (hs : Serves sample s d) (ht : Serves sample t d')
    {op : Operation} (hop : op.evaluates = true) : Alike (s.next op) (t.next op) := by
  obtain ⟨-, hstill⟩ := hs.next_still hop
  obtain ⟨-, hstill'⟩ := ht.next_still hop
  exact ⟨hstill.base.trans (h.base.trans hstill'.base.symm),
    hstill.checkpoint.trans (h.checkpoint.trans hstill'.checkpoint.symm),
    hstill.data.trans (h.data.trans hstill'.data.symm)⟩

/-- Whether a target asks for the clock. -/
def Target.AsksClock : Target → Prop
  | .main => False
  | .named name => name = "now"
  | .numbered id => id = ⟨8⟩

/-- Whether a step asks for the clock. -/
def asksClock : Step → Bool
  | .builtin id _ => id = 3
  | _ => false

/-- Only the program of the entrypoint `now` asks for the clock. -/
theorem program_untimed {e : UInt32} (he : e ≠ 8) :
    ∀ step ∈ sample.program e, asksClock step = false := by
  have hall : ∀ i < sample.programs.length, i ≠ 8 →
      ∀ step ∈ sample.programs[i]?.getD [], asksClock step = false := by decide
  have hmain : ∀ step ∈ sample.programs.headD [], asksClock step = false := by decide
  rw [Description.program]
  cases h : sample.programs[e.toNat]? with
  | none => exact hmain
  | some steps =>
      obtain ⟨hlt, -⟩ := List.getElem?_eq_some_iff.mp h
      have hne : e.toNat ≠ 8 := fun heq => he (UInt32.toNat_inj.mp heq)
      have hsteps := hall e.toNat hlt hne
      rw [h] at hsteps
      exact hsteps

theorem nameOf?_untimed {id : UInt32} (hid : id ≠ 3) {name : String}
    (h : nameOf? builtinIds id = some name) : name ≠ "time.now_ns" := by
  have hall : ∀ entry ∈ Keyed.ofList (builtinIds.map fun entry => (entry.2, entry.1)),
      entry.2 = "time.now_ns" → entry.1 = 3 := by decide
  exact fun hname => hid (hall _ (Keyed.mem_of_get? h) hname)

theorem chosen_untimed {target : Target} (htarget : ¬ target.AsksClock) {id : Option EntrypointId}
    (hs : s.entrypoints = entrypointIds) (hid : target.id? s = .ok id) : chosen id ≠ 8 := by
  cases target with
  | main =>
      cases hid
      decide
  | named name =>
      rw [Target.id?, hs] at hid
      cases hget : entrypointIds.get? name with
      | none =>
          rw [hget] at hid
          cases hid
      | some id =>
          rw [hget] at hid
          cases hid
          have hall : ∀ entry ∈ entrypointIds, entry.2.value = 8 → entry.1 = "now" := by decide
          exact fun heq => htarget (hall _ (Keyed.mem_of_get? hget) heq)
  | numbered id =>
      cases hid
      exact fun heq => htarget (congrArg EntrypointId.mk heq)

/-- What a program calls is the same in registries that differ in the clock, unless
it is the program of the entrypoint `now`. -/
theorem called_alike (hregistry : SameBut registry registry') {e : UInt32} (he : e ≠ 8)
    {called : UInt32} {arguments : List Argument}
    (hm : .builtin called arguments ∈ sample.program e) :
    ∀ name, nameOf? builtinIds called = some name → registry.get? name = registry'.get? name := by
  have huntimed := program_untimed he _ hm
  have hne : called ≠ 3 := of_decide_eq_false huntimed
  exact fun name hname => hregistry name (nameOf?_untimed hne hname)

/-- What is planned does not depend on the clock, and the data enters with its
place and its text only. -/
theorem planned_alike (hregistry : SameBut registry registry') (hs : Sampled config registry s)
    (ht : Sampled config registry' t) (halike : Alike s t) {id : Option EntrypointId}
    (hid : chosen id ≠ 8) (bytes : List UInt8) :
    s.planned sample d id bytes = t.planned sample d id bytes := by
  have hcalls (called : UInt32) (arguments : List Argument)
      (hm : .builtin called arguments ∈ sample.program (chosen id)) :
      Plan.dispatch sample ⟨some (.ofIds registry builtinIds), config.strict⟩ called =
        Plan.dispatch sample ⟨some (.ofIds registry' builtinIds), config.strict⟩ called :=
    Plan.dispatch_congr (called_alike hregistry hid hm)
  have hprogram (view : Plan.View) :
      Plan.program sample ⟨some (.ofIds registry builtinIds), config.strict⟩
          config.maxFuel.isSome view (chosen id) =
        Plan.program sample ⟨some (.ofIds registry' builtinIds), config.strict⟩
          config.maxFuel.isSome view (chosen id) := by
    rw [Plan.program, Plan.program, Plan.steps_congr hcalls]
  rw [planned, planned, hs.services, ht.services, hs.maxFuel, ht.maxFuel,
    halike.data, halike.checkpoint, Plan.evaluateText, Plan.evaluateText]
  simp only [hprogram]

/-- An evaluation reaches the guest once its entrypoint is known and its input
has a text. -/
def Reaches (s : Session) (target : Target) (p : Payload) : Prop :=
  (∃ id, target.id? s = .ok id) ∧ ∃ bytes, p.encode = .ok bytes

theorem id?_congr (hsame : s.entrypoints = t.entrypoints) (target : Target) :
    target.id? s = target.id? t := by
  cases target with
  | main | numbered => rfl
  | named name => rw [Target.id?, Target.id?, hsame]

theorem evaluate_reached (h : Serves sample s d) {target : Target} {p : Payload}
    {id : Option EntrypointId} {bytes : List UInt8} (hid : target.id? s = .ok id)
    (hbytes : p.encode = .ok bytes) :
    Stopped (s.outcome (.evaluate target p)) ∨
      (s.outcome (.evaluate target p) = (s.planned sample d id bytes).1 ∧
        (s.next (.evaluate target p)).store.heap.toNat =
          s.checkpoint.toNat + (s.planned sample d id bytes).2) := by
  obtain ⟨hne, hzero⟩ := encode_plain hbytes
  obtain ⟨r, u, tainted, hrun, -, hends⟩ := evaluate_outcome h hid hbytes hne hzero
  rw [outcome, next, perform, hrun]
  rcases hends with ⟨hr, hheap⟩ | ⟨cause, hr, -⟩
  · exact Or.inr ⟨hr, hheap⟩
  · exact Or.inl ⟨cause, hr⟩

/-- An evaluation that does not reach the guest fails in a way that only the
entrypoints and the input decide, and does nothing. -/
theorem evaluate_unreached_run {target : Target} {p : Payload} (h : ¬ Reaches s target p) :
    ∃ e, ∀ t : Session, t.entrypoints = s.entrypoints →
      (evaluate target p).run t = (.error e, t) := by
  cases hs : target.id? s with
  | error e =>
      refine ⟨e, fun t hsame => ?_⟩
      rw [evaluate, run_get_bind,
        run_bind_of_error (lift_run_error ((id?_congr hsame target).trans hs))]
  | ok id =>
      cases hp : p.encode with
      | error e =>
          refine ⟨e, fun t hsame => ?_⟩
          rw [evaluate, run_get_bind, run_bind_of_ok (lift_run ((id?_congr hsame target).trans hs)),
            run_bind_of_error (lift_run_error hp)]
      | ok bytes => exact absurd ⟨⟨id, hs⟩, bytes, hp⟩ h

theorem evaluate_unreached {target : Target} {p : Payload} (h : ¬ Reaches s target p)
    (hsame : s.entrypoints = t.entrypoints) :
    s.outcome (.evaluate target p) = t.outcome (.evaluate target p) ∧
      (s.next (.evaluate target p)).store.heap = s.store.heap := by
  obtain ⟨e, hends⟩ := evaluate_unreached_run h
  rw [outcome, outcome, next, perform, hends s rfl, hends t hsame.symm]
  exact ⟨rfl, rfl⟩

/-! ## Sessions that were set up -/

/-- With some room behind the checkpoint an input comes back, and the heap
pointer is above the checkpoint then. -/
theorem raw_true (hs : Sampled config registry s) (h : Serves sample s d)
    (hroom : s.checkpoint.toNat + 25 ≤ s.store.memory.size) :
    s.outcome (.evaluate (.named "raw") (.json (.bool true))) = .ok (.bool true) ∧
      s.checkpoint.toNat <
        (s.next (.evaluate (.named "raw") (.json (.bool true)))).store.heap.toNat ∧
      s.store.memory.size ≤
        (s.next (.evaluate (.named "raw") (.json (.bool true)))).store.memory.size := by
  have hlength : (encode (.bool true)).length = 4 := by
    rw [encode_eq]
    decide
  have htaken := taken_encode (v := .bool true) trivial rfl
  have hid : (Target.named "raw").id? s = .ok (some ⟨1⟩) := hs.named rfl
  obtain ⟨hplanned, hmost⟩ := planned_raw (s := s) (d := d) (v := .bool true) trivial trivial
    (by rw [hlength]; decide)
  rw [crossed, if_neg (by decide), if_pos (by decide)] at hplanned
  rw [hlength] at hmost
  have hleast : 2 * (encode (.bool true)).length + 1 ≤
      (s.planned sample d (some ⟨1⟩) (encode (.bool true))).2 := by
    rw [planned]
    exact Plan.le_bind (Plan.loadText_taken (by rw [hlength]; decide) htaken _)
  obtain ⟨r, u, tainted, hrun, hk, ⟨hr, hheap⟩ | ⟨-, -, hsmall⟩⟩ := evaluate_outcome h hid
    (show (Payload.json (.bool true)).encode = .ok _ from rfl) (encode_ne_nil _)
    (zero_not_mem_encode _)
  · rw [outcome, next, perform, hrun]
    refine ⟨hr.trans hplanned, ?_, hk.size⟩
    change s.checkpoint.toNat < u.heap.toNat
    omega
  · omega

/-- A session can be set up, with its heap pointer at the checkpoint and some
room behind it, and it is still set up after an evaluation. -/
theorem exists_setUp (registry : Registry) :
    ∃ s, SetUp {} registry (.object []) s ∧
      SetUp {} registry (.object []) (s.next (.evaluate (.named "raw") (.json (.bool true)))) ∧
      s.store.heap = s.checkpoint ∧ s.checkpoint.toNat + 25 ≤ s.store.memory.size := by
  obtain ⟨s, lines, hlaunch, hserves, hsampled, hsize⟩ := launch_succeeds registry
    validate_standard (by decide) (by decide) (by decide)
  obtain ⟨t, hset, ht, -⟩ := setData_empty hserves
  have hperform : (perform (.setData (.json (.object [])))).run s = (.ok .null, t) :=
    run_bind_of_ok hset
  have hnext : s.next (.setData (.json (.object []))) = t.takePrinted.2 := by
    rw [next, hperform]
  have houtcome : s.outcome (.setData (.json (.object []))) = .ok .null := by
    rw [outcome, hperform]
  have hroom : t.checkpoint.toNat + 25 ≤ t.store.memory.size := by
    have hgrown := ht.size
    rw [ht.checkpoint, hsampled.base, length_encode_empty]
    omega
  refine ⟨t.takePrinted.2, ⟨s, lines, [], [], hlaunch, houtcome, by simp, hnext.symm⟩,
    ⟨s, lines, [], [.evaluate (.named "raw") (.json (.bool true))], hlaunch, houtcome,
      by simp [Operation.evaluates], ?_⟩, ht.heap, hroom⟩
  rw [← hnext]
  rfl

/-! ## Independence -/

/-- Two sessions that were set up with the same data evaluate alike, unless the
guest stops in one of them. Their checkpoints and the places of their data are
the same afterwards, and so are their heap pointers when the evaluation reached
the guest; otherwise these are what they were before. -/
theorem evaluation_independent (hvalid : config.validate = .ok ())
    (hlimit : config.memoryLimit.megabytes ≤ 1024) (hregistry : SameBut registry registry')
    (hs : SetUp config registry d s) (ht : SetUp config registry' d t) {target : Target}
    (htarget : ¬ target.AsksClock) (p : Payload)
    (hruns : ¬ Stopped (s.outcome (.evaluate target p)))
    (hruns' : ¬ Stopped (t.outcome (.evaluate target p))) :
    s.outcome (.evaluate target p) = t.outcome (.evaluate target p) ∧
      Alike (s.next (.evaluate target p)) (t.next (.evaluate target p)) ∧
      (Reaches s target p → (s.next (.evaluate target p)).store.heap =
        (t.next (.evaluate target p)).store.heap) ∧
      (¬ Reaches s target p → (s.next (.evaluate target p)).store.heap = s.store.heap ∧
        (t.next (.evaluate target p)).store.heap = t.store.heap) := by
  have halike := hs.alike ht hvalid hlimit
  obtain ⟨hstands, hsampled⟩ := hs.stands hvalid hlimit
  obtain ⟨hstands', hsampled'⟩ := ht.stands hvalid hlimit
  have hsame : s.entrypoints = t.entrypoints :=
    hsampled.entrypoints.trans hsampled'.entrypoints.symm
  have hafter : Alike (s.next (.evaluate target p)) (t.next (.evaluate target p)) :=
    halike.next hstands.serves hstands'.serves rfl
  by_cases hreaches : Reaches s target p
  · obtain ⟨⟨id, hid⟩, bytes, hbytes⟩ := hreaches
    have hid' : target.id? t = .ok id := (id?_congr hsame target).symm.trans hid
    have hplanned : s.planned sample d id bytes = t.planned sample d id bytes :=
      planned_alike hregistry hsampled hsampled' halike
        (chosen_untimed htarget hsampled.entrypoints hid) bytes
    obtain ⟨houtcome, hheap⟩ := (evaluate_reached hstands.serves hid hbytes).resolve_left hruns
    obtain ⟨houtcome', hheap'⟩ := (evaluate_reached hstands'.serves hid' hbytes).resolve_left hruns'
    rw [← hplanned] at houtcome' hheap'
    rw [← halike.checkpoint] at hheap'
    refine ⟨houtcome.trans houtcome'.symm, hafter,
      fun _ => UInt32.toNat_inj.mp (hheap.trans hheap'.symm), fun h => ?_⟩
    exact absurd ⟨⟨id, hid⟩, bytes, hbytes⟩ h
  · have hreaches' : ¬ Reaches t target p := by
      rintro ⟨⟨id, hid⟩, hbytes⟩
      exact hreaches ⟨⟨id, (id?_congr hsame target).trans hid⟩, hbytes⟩
    obtain ⟨houtcome, hheap⟩ := evaluate_unreached hreaches hsame
    obtain ⟨-, hheap'⟩ := evaluate_unreached hreaches' hsame.symm
    exact ⟨houtcome, hafter, fun h => absurd h hreaches, fun _ => ⟨hheap, hheap'⟩⟩

/-- Here the clock went on, and one of the sessions has evaluated since its data
was set. -/
theorem evaluation_independent_standard : ∃ s t, SetUp {} (.standard 0) (.object []) s ∧
    SetUp {} (.standard 1) (.object []) t ∧
    s.outcome (.evaluate (.named "raw") (.json (.bool true))) =
      t.outcome (.evaluate (.named "raw") (.json (.bool true))) ∧
    (s.next (.evaluate (.named "raw") (.json (.bool true)))).store.heap =
      (t.next (.evaluate (.named "raw") (.json (.bool true)))).store.heap := by
  obtain ⟨s, hs, -, -, hroom⟩ := exists_setUp (.standard 0)
  obtain ⟨t, ht, ht', -, hroom'⟩ := exists_setUp (.standard 1)
  have hlimit : MemoryLimit.standard.megabytes ≤ 1024 := by decide
  obtain ⟨hstands, hsampled⟩ := hs.stands validate_standard hlimit
  obtain ⟨hstands', hsampled'⟩ := ht.stands validate_standard hlimit
  obtain ⟨hstands'', hsampled''⟩ := ht'.stands validate_standard hlimit
  obtain ⟨hok, -, -⟩ := raw_true hsampled hstands.serves hroom
  obtain ⟨-, -, hgrown⟩ := raw_true hsampled' hstands'.serves hroom'
  obtain ⟨hok', -, -⟩ := raw_true hsampled'' hstands''.serves (by
    rw [hstands''.checkpoint, ← hstands'.checkpoint]
    exact Nat.le_trans hroom' hgrown)
  obtain ⟨houtcome, -, hheap, -⟩ := evaluation_independent validate_standard hlimit
    (standard_sameBut 0 1) hs ht' (show ¬ (Target.named "raw").AsksClock by simp [Target.AsksClock])
    (.json (.bool true)) (by rw [hok]; rintro ⟨cause, hcause⟩; cases hcause)
    (by rw [hok']; rintro ⟨cause, hcause⟩; cases hcause)
  exact ⟨s, _, hs, ht', houtcome, hheap ⟨⟨some ⟨1⟩, hsampled.named rfl⟩, _, rfl⟩⟩

/-- Evaluating an input that has no text leaves the heap pointer where the past
left it: of these two sessions one has evaluated since its data was set. -/
theorem heap_before_text : ∃ s t, SetUp {} .empty (.object []) s ∧
    SetUp {} .empty (.object []) t ∧
    ¬ Stopped (s.outcome (.evaluate .main .unencodable)) ∧
    ¬ Stopped (t.outcome (.evaluate .main .unencodable)) ∧
    (s.next (.evaluate .main .unencodable)).store.heap ≠
      (t.next (.evaluate .main .unencodable)).store.heap := by
  obtain ⟨s, hs, ht, hheap, hroom⟩ := exists_setUp .empty
  obtain ⟨hstands, hsampled⟩ := hs.stands validate_standard (by decide)
  obtain ⟨-, hmoves, -⟩ := raw_true hsampled hstands.serves hroom
  have hunreached (s : Session) : ¬ Reaches s .main .unencodable := by
    rintro ⟨-, bytes, hbytes⟩
    cases hbytes
  have hruns (s : Session) : ¬ Stopped (s.outcome (.evaluate .main .unencodable)) := by
    rintro ⟨cause, hcause⟩
    cases hcause
  refine ⟨s, _, hs, ht, hruns _, hruns _, ?_⟩
  rw [(evaluate_unreached (hunreached _) rfl).2, (evaluate_unreached (hunreached _) rfl).2]
  intro heq
  rw [← heq, hheap] at hmoves
  exact Nat.lt_irrefl _ hmoves

end PolicyHost.Session
