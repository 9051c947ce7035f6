import PolicyHost.Proofs.Session.Agreement
import PolicyHost.Proofs.Session.Data
import PolicyHost.Proofs.Session.Endings

/-!
# Failures that leave no trace

Data that the parser of the sample refuses gives way to the empty object, and a
path update that fails records nothing. Afterwards neither failure can be told
from what it stands for: the one from setting the empty object, the other from
not having tried. In both cases the sessions to compare are twins, and everything
later follows from that; what is left to prove is what the failures themselves
leave.
-/

namespace PolicyHost.Session

open Json Guest Builtin

variable {config : Config} {registry registry' : Registry} {d v w : Value} {s t : Session}
  {lines lines' : List String}

/-! ## Data that is refused -/

/-- Two sessions have everything in common that can be told between operations, but for the size
of their memories. -/
structure Level (s t : Session) : Prop extends Alike s t where
  heap : s.store.heap = t.store.heap
  tainted : s.tainted = t.tainted

/-- After data was refused a session is as it is after the empty object was set,
which always succeeds: the data and both checkpoints are at the same places, the
heap pointer too, and neither session is tainted. What comes later comes to the
same. Nothing of what was before shows, so the sessions need not have the same
past, and their clocks need not agree unless they are asked. -/
theorem refused_data_is_empty (hvalid : config.validate = .ok ())
    (hlimit : config.memoryLimit.megabytes ≤ 1024)
    (h : launch (.described sample) config registry = (.ok s, lines))
    (h' : launch (.described sample) config registry' = (.ok t, lines')) (ops ops' : List Operation)
    {a : Address} {length : Nat}
    (hrefused : (s.after ops).outcome (.setData (.json v)) = .error (.refusedText a length)) :
    (t.after ops').outcome (.setData (.json (.object []))) = .ok .null ∧
      Level ((s.after ops).next (.setData (.json v)))
        ((t.after ops').next (.setData (.json (.object [])))) ∧
      ∀ later, (∀ op ∈ later, Untimed registry registry' op) →
        Agree ((s.after ops).next (.setData (.json v)))
          ((t.after ops').next (.setData (.json (.object [])))) later := by
  obtain ⟨hserves, hsampled⟩ := launch_after hvalid hlimit h ops
  obtain ⟨hserves', hsampled'⟩ := launch_after hvalid hlimit h' ops'
  obtain ⟨hempty, ht, htainted⟩ := hserves'.next_setEmpty
  rcases hserves.next_setData v with ⟨hok, -⟩ | ⟨e, herror, -, hs, hcleared⟩
  · rw [hok] at hrefused
    cases hrefused
  · rw [herror] at hrefused
    cases hrefused
    have htwins := twins_of_renewed hsampled hsampled' hs ht
    exact ⟨hempty, ⟨htwins.toAlike, by rw [hs.heap, ht.heap, htwins.checkpoint],
      hcleared.trans htainted.symm⟩, fun later htimed => htwins.agree htimed⟩

/-- The sample refuses a string that begins with an exclamation mark. -/
theorem setData_exclamation (h : Serves sample s d) (hs : Sampled config registry s)
    (hroom : 1032 ≤ s.store.memory.size) :
    s.outcome (.setData (.json (.string "!"))) = .error (.refusedText ⟨1029⟩ 3) := by
  have hlength : (encode (.string "!")).length = 3 := by
    rw [encode_eq]
    decide
  have hplan : s.plannedData sample (.string "!") = (.error (.refusedText ⟨1029⟩ 3), 3) := by
    rw [plannedData, Plan.load, hs.base, Plan.loadText_refused (by rw [hlength]; decide)
      (refused_encode (v := .string "!") trivial rfl), hlength]
    rfl
  rcases h.next_setData (.string "!") with ⟨-, ⟨c, htaken⟩, -⟩ | ⟨e, herror, hfails, -⟩
  · rw [hplan] at htaken
    cases htaken
  · rw [hplan] at hfails
    have hbase : (s.rewound s.base).heap.toNat = 1029 := hs.base
    have hplanned := hfails.of_room (by rw [hbase]; exact hroom)
    cases hplanned
    exact herror

/-- Here one session has been tainted and the clock went on. -/
theorem refused_data_is_empty_exclamation : ∃ s lines t lines',
    launch (.described sample) {} (.standard 0) = (.ok s, lines) ∧
    launch (.described sample) {} (.standard 1) = (.ok t, lines') ∧
    (s.after []).outcome (.setData (.json (.string "!"))) = .error (.refusedText ⟨1029⟩ 3) ∧
    Level ((s.after []).next (.setData (.json (.string "!"))))
      ((t.after setAndAbort).next (.setData (.json (.object [])))) ∧
    Agree ((s.after []).next (.setData (.json (.string "!"))))
      ((t.after setAndAbort).next (.setData (.json (.object []))))
      [.evaluate (.named "data") (.json .null)] := by
  obtain ⟨s, lines, h, hserves, hsampled, hsize⟩ := launch_succeeds (.standard 0)
    validate_standard (by decide) (by decide) (by decide)
  obtain ⟨t, lines', h'⟩ := launch_standard (.standard 1)
  have hrefused := setData_exclamation hserves hsampled (Nat.le_trans (by decide) hsize)
  obtain ⟨-, hlevel, hlater⟩ := refused_data_is_empty validate_standard (by decide) h h' []
    setAndAbort hrefused
  refine ⟨s, lines, t, lines', h, h', hrefused, hlevel, hlater _ fun op hop => ?_⟩
  cases List.mem_singleton.mp hop
  exact Or.inr ⟨standard_sameBut 0 1, by simp [Operation.AsksClock, Target.AsksClock]⟩

/-! ## Updates that fail -/

/-- A plan that does not fail as a guest does that stops or gives up. -/
def Sound {α : Type} (plan : Plan α) : Prop :=
  ∀ heap e, (plan heap).1 = .error e → e.taints = false

theorem Sound.bind {α β : Type} {plan : Plan α} {rest : α → Plan β} (h : Sound plan)
    (hrest : ∀ a, Sound (rest a)) : Sound (plan >>= rest) := by
  intro heap e herror
  rcases hplan : plan heap with ⟨a | e', taken⟩
  · rw [Plan.bind_of_error hplan] at herror
    cases herror
    exact h heap _ (congrArg Prod.fst hplan)
  · rw [Plan.bind_of_ok hplan] at herror
    exact hrest _ _ e herror

/-- What an update that fails leaves: everything but the heap pointer and the bytes above the
checkpoint. -/
structure Unchanged (s t : Session) : Prop extends Still s t where
  tainted : t.tainted = s.tainted
  memory : ∀ x < s.checkpoint.toNat, t.store.memory.get x = s.store.memory.get x

theorem Untouched.unchanged (h : Untouched s t) : Unchanged s t := by
  have hstill := h.still
  obtain ⟨u, rfl, hk⟩ := h
  exact ⟨hstill, rfl, hk.get⟩

end PolicyHost.Session
