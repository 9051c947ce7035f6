import PolicyHost.Proofs.Guest.Repetition
import PolicyHost.Proofs.Session.Effects
import PolicyHost.Proofs.Session.Independence

/-!
# Evaluating again

An evaluation that is repeated comes to what it came to before, wherever a past has
led the session: with the same value or with the same error, also when the host
refused memory the first time. The heap pointer ends at the same place, and the
memory does not grow, because it has what the evaluation needs from the first time.

Between the two evaluations the clock may go on, and it may have gone on at any time
in the past. Only the entrypoint `now` would tell.
-/

namespace PolicyHost.Session

open Json Guest Builtin

/-! ## The parts of an evaluation -/

section

variable {g : Description} {host host' inner : Host} {s t : Store} {services : Services}
  {view : Plan.View} {context entrypoint : UInt32}

theorem stays_fillIn {input data : UInt32} {id : Option EntrypointId} :
    Stays s (fillIn s context input data id) :=
  fillIn_induction (P := Stays s) (fun _ _ _ _ _ h => h.trans (.putWord _ _)) (.refl s)

theorem beside_fillIn (hb : Beside s t) (context input data : UInt32)
    (id : Option EntrypointId) :
    Beside (fillIn s context input data id) (fillIn t context input data id) := by
  have hfilled := (hb.putWord (context.toNat + 0) input).putWord (context.toNat + 4) data
  cases id with
  | none => exact hfilled
  | some id => exact hfilled.putWord (context.toNat + 8) id.value

section

variable (hhost : host.Within Moves services)
include hhost

theorem invoke_rises {α : Type} (code : Code α) : Rises (code.invoke host) :=
  .of_within fun u => code.invoke_within moves_frame hhost u

theorem bringOut_rises (context : UInt32) (code : Int) : Rises (bringOut g host context code) := by
  rw [bringOut]
  split
  · exact fun _ => Nat.le_refl _
  · exact (invoke_rises hhost ((described g).getResult context)).bind fun result =>
      .of_within fun u => Host.Within.dump moves_frame hhost result u

theorem evaluateIn_rises (data : UInt32) (id : Option EntrypointId) (input context : UInt32) :
    Rises (evaluateIn data id g host input context) := by
  have hfilled : Rises (evaluateFilled context g host) :=
    (invoke_rises hhost ((described g).eval context)).bind fun code =>
      bringOut_rises hhost context code
  refine (invoke_rises hhost ((described g).setInput context input)).bind fun _ =>
    (invoke_rises hhost ((described g).setData context data)).bind fun _ => ?_
  cases id with
  | none => exact hfilled
  | some id =>
      have hdemand : Rises (demand (.described g) .setEntrypoint : Run Unit) := by
        intro u
        cases hoffers : demand (.described g) .setEntrypoint with
        | ok _ => exact Nat.le_refl _
        | error e => exact Nat.le_refl _
      exact hdemand.bind fun _ =>
        (invoke_rises hhost ((described g).setEntrypoint context id.value)).bind fun _ => hfilled

end

theorem evaluateFilled_recurs (ho : g.Orderly) (hb : Beside s t)
    (hs : Viewed g context.toNat (context.toNat + 16) view s)
    (ht : Viewed g context.toNat (context.toNat + 16) view t)
    (hfilled : Filled context view.input.address view.data.address entrypoint s)
    (hfilled' : Filled context view.input.address view.data.address entrypoint t)
    (hbelow : context.toNat + 16 ≤ s.heap.toNat) :
    Recurs (evaluateFilled context g (answer (.described g) services inner))
      (evaluateFilled context g (answer (.described g) services inner)) s t := by
  have hfirst : Follows context.toNat _
      (Guest.evaluate g (answer (.described g) services inner) context) _ s :=
    evaluate_follows ho hb.room hs hfilled hbelow
  have hsecond : Follows context.toNat _
      (Guest.evaluate g (answer (.described g) services inner) context) _ t :=
    evaluate_follows ho hb.room' ht hfilled' (by rw [hb.heap]; exact hbelow)
  rw [hb.fuel] at hsecond
  have hhost : (answer (.described g) services inner).Within Moves services :=
    answer_described moves_frame
  refine call_bind_recurs ho hb (.bind hb hfirst hsecond
    (evaluate_recurs ho hb hs ht hfilled hfilled' hbelow) (bringOut_rises hhost context) ?_)
  intro code c s₁ t₁ hb₁ hlater hlater' hresults hresults'
  refine .of_run_eq (bringOut_run ho hb₁.room.fuel hresults)
    (bringOut_run ho hb₁.room'.fuel hresults') ?_
  exact .still hb₁.heap (dump_run ho hb₁.room.fuel hresults.2.1) (.refl s₁)
    (dump_run ho hb₁.room'.fuel hresults'.2.1) (.refl t₁)

theorem evaluateFilled_congr {input data : UInt32} (ho : g.Orderly) (hfuel : s.fuel ≠ some 0)
    (hfilled : Filled context input data entrypoint s)
    (hcalls : ∀ id arguments, .builtin id arguments ∈ g.program entrypoint →
      host id = host' id) :
    (evaluateFilled context g host).run s = (evaluateFilled context g host').run s := by
  rw [evaluateFilled, evaluateFilled, call_bind_run ho hfuel, call_bind_run ho hfuel]
  exact run_bind_congr (evaluate_congr ho hfilled hcalls)

/-- A context is filled again and evaluated in, if the hosts answer the program
alike. -/
theorem evaluateIn_recurs {input data : Cell} {id : Option EntrypointId} (ho : g.Orderly)
    (hb : Beside s t) (hs : Viewed g context.toNat (context.toNat + 16) ⟨input, data⟩ s)
    (ht : Viewed g context.toNat (context.toNat + 16) ⟨input, data⟩ t)
    (hentry : s.memory.Has (context.toNat + 8) (Memory.wordBytes 0))
    (hentry' : t.memory.Has (context.toNat + 8) (Memory.wordBytes 0))
    (hbelow : context.toNat + 16 ≤ s.heap.toNat)
    (hcalls : ∀ called arguments, .builtin called arguments ∈ g.program (chosen id) →
      host' called = answer (.described g) services inner called) :
    Recurs
      (evaluateIn data.address id g (answer (.described g) services inner) input.address context)
      (evaluateIn data.address id g host' input.address context) s t := by
  have hfits : context.toNat + 16 ≤ s.memory.size := Nat.le_trans hbelow hb.room.heap
  have hfits' : context.toNat + 16 ≤ t.memory.size := by
    have hheap := hb.room'.heap
    rw [hb.heap] at hheap
    exact Nat.le_trans hbelow hheap
  have hfilled : Filled context input.address data.address (chosen id)
      (fillIn s context input.address data.address id) := filled_fillIn hfits hentry
  have hfilled' : Filled context input.address data.address (chosen id)
      (fillIn t context input.address data.address id) := filled_fillIn hfits' hentry'
  have hb₁ := beside_fillIn hb context input.address data.address id
  have hsame : (evaluateFilled context g host').run _ = (evaluateFilled _ g _).run _ :=
    evaluateFilled_congr ho hb₁.room'.fuel hfilled' hcalls
  refine .step (evaluateIn_run ho hb.room.fuel hfits)
    ((evaluateIn_run ho hb.room'.fuel hfits').trans hsame) stays_fillIn ?_
  exact evaluateFilled_recurs ho hb₁ (viewed_fillIn hfits hs) (viewed_fillIn hfits' ht) hfilled
    hfilled' (by rw [fillIn_heap]; exact hbelow)

/-- An evaluation recurs where the data is shown. -/
theorem evaluateText_recurs (data : Cell) {bytes : List UInt8} {id : Option EntrypointId}
    (ho : g.Orderly) (hb : Beside s t) (hs : Charted g 0 0 s) (ht : Charted g 0 0 t)
    (hdata : Shows 0 0 s data) (hdata' : Shows 0 0 t data) (hne : bytes ≠ [])
    (hzero : (0 : UInt8) ∉ bytes)
    (hcalls : ∀ called arguments, .builtin called arguments ∈ g.program (chosen id) →
      host' called = answer (.described g) services inner called) :
    Recurs
      (evaluateText data.address id bytes (.described g) (answer (.described g) services inner))
      (evaluateText data.address id bytes (.described g) host') s t := by
  rw [evaluateText_eq, evaluateText_eq]
  have hload : Follows s.heap.toNat (Brought 0 0 s.heap)
      (loadText (.described g) (answer (.described g) services inner) bytes) _ s :=
    loadText_follows ho hb.room hne hzero (Nat.zero_le _)
  have hload' : Follows t.heap.toNat (Brought 0 0 t.heap)
      (loadText (.described g) host' bytes) _ t :=
    loadText_follows ho hb.room' hne hzero (Nat.zero_le _)
  rw [hb.heap] at hload'
  have hhost : (answer (.described g) services inner).Within Moves services :=
    answer_described moves_frame
  have hrises (input context : UInt32) := evaluateIn_rises (g := g) hhost data.address id input
    context
  refine .bind hb hload hload' (loadText_recurs ho hb) (fun input => ?_) ?_
  · exact (invoke_rises hhost (described g).makeContext).bind (hrises input)
  rintro _ input s₁ t₁ hb₁ hlater₁ hlater₁' ⟨rfl, hinput, -⟩ ⟨-, hinput', -⟩
  have hmake := newContext_follows ho hb₁.room
  have hmake' := newContext_follows ho hb₁.room'
  rw [hb₁.heap] at hmake'
  refine call_bind_recurs ho hb₁
    (.bind hb₁ hmake hmake' (newContext_recurs ho hb₁) (hrises input.address) ?_)
  rintro _ _ s₂ t₂ hb₂ hlater₂ hlater₂' ⟨rfl, -, htop, hentry⟩ ⟨-, -, -, hentry'⟩
  have hview' : Viewed g s₁.heap.toNat (s₁.heap.toNat + 16) ⟨input, data⟩ t₂ := by
    rw [← hb.heap] at hlater₁'
    rw [← hb₁.heap] at hlater₂' ⊢
    exact viewed_above (ht.keep hlater₁') hinput' (hdata'.keep hlater₁') hlater₂'
  exact evaluateIn_recurs ho hb₂
    (viewed_above (hs.keep hlater₁) hinput (hdata.keep hlater₁) hlater₂) hview' hentry hentry'
    (Nat.le_of_eq htop.symm) hcalls

end

/-! ## A clock that goes on -/

variable {config : Config} {registry registry' : Registry} {d : Value} {s t : Session}

/-- A session that has its builtins from another registry. -/
def withRegistry (s : Session) (registry : Registry) : Session :=
  { s with services := { s.services with
      table := s.services.table.map fun table => .ofIds registry table.ids } }

/-- The sessions that can be reached from a launch of the sample, by operations one
after the other while the clock goes on. -/
inductive Reachable (config : Config) (registry : Registry) : Session → Prop
  | launch {s : Session} {lines : List String}
      (h : launch (.described sample) config registry = (.ok s, lines)) :
      Reachable config registry s
  | next {s : Session} (h : Reachable config registry s) (op : Operation) :
      Reachable config registry (s.next op)
  | clock {s : Session} {registry' : Registry} (h : Reachable config registry s)
      (hsame : SameBut registry registry') : Reachable config registry (s.withRegistry registry')

/-- Serving has nothing to do with the services. -/
theorem Serves.withServices (h : Serves sample s d) (services : Services) :
    Serves sample { s with services } d :=
  ⟨h.guest, h.orderly, h.room, h.charted, h.data, h.ordered, h.spare⟩

theorem Sampled.withRegistry (h : Sampled config registry s) (registry' : Registry) :
    Sampled config registry' (s.withRegistry registry') where
  guest := h.guest
  services := by
    rw [Session.withRegistry, h.services]
    rfl
  entrypoints := h.entrypoints
  maxFuel := h.maxFuel
  base := h.base

theorem Sampled.withRegistry_self (h : Sampled config registry s) :
    s.withRegistry registry = s := by
  obtain ⟨guest, services, entrypoints, maxFuel, store, data, base, checkpoint, tainted⟩ := s
  obtain rfl : services = _ := h.services
  rfl

/-- A session that can be reached serves a value, and has its builtins from a registry
of another time. -/
theorem Reachable.serves (h : Reachable config registry s) (hvalid : config.validate = .ok ())
    (hlimit : config.memoryLimit.megabytes ≤ 1024) :
    ∃ d registry', Serves sample s d ∧ Sampled config registry' s ∧ SameBut registry registry' := by
  induction h with
  | launch h =>
      obtain ⟨hserves, hsampled⟩ := launch_serves hvalid hlimit h
      exact ⟨_, registry, hserves, hsampled, fun _ _ => rfl⟩
  | next h op ih =>
      obtain ⟨d, registry', hserves, hsampled, hsame⟩ := ih
      obtain ⟨hnext, hfixed⟩ := hserves.next op
      exact ⟨_, registry', hnext, hsampled.keep hfixed, hsame⟩
  | clock h hsame ih =>
      obtain ⟨d, registry', hserves, hsampled, -⟩ := ih
      exact ⟨d, _, hserves.withServices _, hsampled.withRegistry _, hsame⟩

/-! ## Repeated evaluations -/

/-- An operation on the second session comes to what it came to on the first, and moves
neither the heap pointer nor the end of the memory. -/
structure Repeats (s t : Session) (op : Operation) : Prop where
  outcome : t.outcome op = s.outcome op
  heap : (t.next op).store.heap = t.store.heap
  size : (t.next op).store.memory.size = t.store.memory.size
  peak : (t.next op).store.peak = t.store.peak

/-- The guest evaluates again on a store with the memory that the first time came to. -/
theorem evaluateText_again (hs : Serves sample s d) {v : Store} {services : Services}
    {tainted : Bool} (ht : Serves sample { s with store := v, services, tainted } d)
    {id : Option EntrypointId} {bytes : List UInt8} {r : Except Error Value} {u : Store}
    (hrun : (evaluateText s.data id bytes s.guest s.host).run (s.rewound s.checkpoint) = (r, u))
    (hsize : v.memory.size = u.memory.size) (hlimit : v.limit = s.store.limit) (hne : bytes ≠ [])
    (hzero : (0 : UInt8) ∉ bytes)
    (hcalls : ∀ called arguments, .builtin called arguments ∈ sample.program (chosen id) →
      (Guest.described sample).host services called = s.host called) :
    ∃ w, (evaluateText s.data id bytes s.guest (s.guest.host services)).run
        { v with heap := s.checkpoint, fuel := s.maxFuel } = (r, w) ∧
      Again u { v with heap := s.checkpoint, fuel := s.maxFuel } w := by
  have hbeside : Beside (s.rewound s.checkpoint)
      { v with heap := s.checkpoint, fuel := s.maxFuel } :=
    ⟨rfl, hlimit, rfl, hs.room, ht.room⟩
  have hcovers : Covers r u { v with heap := s.checkpoint, fuel := s.maxFuel } :=
    ⟨Nat.le_of_eq hsize.symm, fun _ _ => hsize.symm⟩
  rw [host_described hs.guest] at hcalls
  have hrecurs : Recurs (evaluateText s.data id bytes s.guest s.host)
      (evaluateText s.data id bytes s.guest (s.guest.host services)) (s.rewound s.checkpoint)
      { v with heap := s.checkpoint, fuel := s.maxFuel } := by
    rw [host_described hs.guest, hs.guest]
    exact evaluateText_recurs ⟨s.data, encode d⟩ hs.orderly hbeside hs.charted_checkpoint
      ht.charted_checkpoint hs.data ht.data hne hzero hcalls
  exact hrecurs r u hrun hcovers

/-- An evaluation that reaches the guest repeats. -/
theorem reached_repeats (hs : Serves sample s d) (hsampled : Sampled config registry s)
    (hregistry : SameBut registry registry') {target : Target} (htarget : ¬ target.AsksClock)
    {p : Payload} {id : Option EntrypointId} {bytes : List UInt8} (hid : target.id? s = .ok id)
    (hbytes : p.encode = .ok bytes) :
    Repeats s ((s.next (.evaluate target p)).withRegistry registry') (.evaluate target p) := by
  obtain ⟨hne, hzero⟩ := encode_plain hbytes
  have hfollows := hs.follows id hne hzero
  cases hrun : (evaluateText s.data id bytes s.guest s.host).run (s.rewound s.checkpoint) with
  | mk r u =>
      obtain ⟨tainted, hev⟩ := evaluate_run hs hid hbytes hrun
      have hkept : Keeps s.checkpoint.toNat (s.rewound s.checkpoint) { u with printed := [] } := by
        have hkeeps := hfollows.keeps
        rw [hrun] at hkeeps
        exact hkeeps.trans (.of_same rfl rfl)
      have hafter : (s.next (.evaluate target p)).withRegistry registry' =
          { s with
            store := { u with printed := [] }
            services := ⟨some (.ofIds registry' builtinIds), config.strict⟩
            tainted } := by
        rw [next, perform, hev, withRegistry]
        simp only [takePrinted, hsampled.services]
        rfl
      have hserves := (hs.goOn tainted hkept).withServices
        ⟨some (.ofIds registry' builtinIds), config.strict⟩
      have hcalls (called : UInt32) (arguments : List Argument)
          (hm : .builtin called arguments ∈ sample.program (chosen id)) :
          (Guest.described sample).host ⟨some (.ofIds registry' builtinIds), config.strict⟩ called =
            s.host called := by
        rw [host_described hs.guest, hsampled.services]
        exact (answer_congr (called_alike hregistry
          (chosen_untimed htarget hsampled.entrypoints hid) hm)).symm
      obtain ⟨w, hagain, hends⟩ :=
        evaluateText_again hs hserves hrun rfl hkept.limit hne hzero hcalls
      obtain ⟨tainted', hev'⟩ := evaluate_run hserves ((id?_congr rfl target).trans hid) hbytes
        hagain
      rw [hafter]
      constructor
      · rw [outcome, outcome, perform, hev, hev']
      all_goals rw [next, perform, hev']
      · exact hends.heap
      · exact hends.size
      · exact hends.peak

/-- One that does not reach the guest fails again. -/
theorem unreached_repeats {target : Target} {p : Payload} (h : ¬ Reaches s target p)
    (registry : Registry) :
    Repeats s ((s.next (.evaluate target p)).withRegistry registry) (.evaluate target p) := by
  obtain ⟨e, hends⟩ := evaluate_unreached_run h
  have hfirst := hends s rfl
  have hnext : s.next (.evaluate target p) = s.takePrinted.2 := by rw [next, perform, hfirst]
  have hagain := hends ((s.next (.evaluate target p)).withRegistry registry)
    (by rw [hnext]; rfl)
  constructor
  · rw [outcome, outcome, perform, hfirst, hagain]
  all_goals rw [next, perform, hagain]; rfl

theorem evaluate_repeats (hs : Serves sample s d) (hsampled : Sampled config registry s)
    (hregistry : SameBut registry registry') {target : Target} (htarget : ¬ target.AsksClock)
    (p : Payload) :
    Repeats s ((s.next (.evaluate target p)).withRegistry registry') (.evaluate target p) := by
  by_cases hreaches : Reaches s target p
  · obtain ⟨⟨id, hid⟩, bytes, hbytes⟩ := hreaches
    exact reached_repeats hs hsampled hregistry htarget hid hbytes
  · exact unreached_repeats hreaches registry'

/-- Repeating an evaluation changes nothing, whatever it comes to: the outcome is the
same, the heap pointer is where it was after the first, and the memory does not grow.
This is so in every session that can be reached, for every entrypoint but `now`, and
it does not matter whether the clock stands still in between. -/
theorem evaluation_repeats (hvalid : config.validate = .ok ())
    (hlimit : config.memoryLimit.megabytes ≤ 1024) (hreachable : Reachable config registry s)
    (hregistry : SameBut registry registry') {target : Target} (htarget : ¬ target.AsksClock)
    (p : Payload) :
    Repeats s (s.next (.evaluate target p)) (.evaluate target p) ∧
      Repeats s ((s.next (.evaluate target p)).withRegistry registry') (.evaluate target p) := by
  obtain ⟨d, present, hserves, hsampled, hsame⟩ := hreachable.serves hvalid hlimit
  have hpresent := evaluate_repeats hserves hsampled (fun _ _ => rfl) htarget p
  obtain ⟨-, hfixed⟩ := hserves.next (.evaluate target p)
  rw [(hsampled.keep hfixed).withRegistry_self] at hpresent
  exact ⟨hpresent, evaluate_repeats hserves hsampled
    (fun name hname => (hsame name hname).symm.trans (hregistry name hname)) htarget p⟩

/-- Here the clock goes on before the repeated evaluation. -/
theorem evaluation_repeats_standard : ∃ s lines,
    launch (.described sample) {} (.standard 0) = (.ok s, lines) ∧
      Repeats s (s.next (.evaluate (.named "raw") (.json (.bool true))))
        (.evaluate (.named "raw") (.json (.bool true))) ∧
      Repeats s
        ((s.next (.evaluate (.named "raw") (.json (.bool true)))).withRegistry (.standard 1))
        (.evaluate (.named "raw") (.json (.bool true))) := by
  obtain ⟨s, lines, h⟩ := launch_standard (.standard 0)
  exact ⟨s, lines, h, evaluation_repeats validate_standard (by decide) (.launch h)
    (standard_sameBut 0 1) (show ¬ (Target.named "raw").AsksClock by simp [Target.AsksClock]) _⟩

end PolicyHost.Session
