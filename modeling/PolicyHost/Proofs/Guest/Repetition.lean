import PolicyHost.Proofs.Guest.Recurrence
import PolicyHost.Proofs.Guest.Tables

/-!
# Programs that run again

An orderly guest runs its programs again with the same results: making a result set
and answering a call recur, so every step does, and `steps_recurs` is the induction.
The services may be others the second time, as long as they answer the calls of the
program alike.
-/

namespace PolicyHost.Guest

open Json Builtin

variable {g : Description} {host : Host} {s t : Store} {lo hi : Nat}

/-! ## Result sets -/

theorem enclose_rises (c : Cell) (set : UInt32) : Rises (enclose g c set) :=
  (copy_rises _ _ _).bind fun _ => (copy_rises _ _ _).bind fun _ =>
    (copy_rises _ _ _).bind fun _ => (writeBytes_rises _ _).bind fun _ => .pure set

/-- A result set is made again, from the same texts. -/
theorem wrap_recurs {c : Cell} (ho : g.Orderly) (hb : Beside s t) (hs : Charted g lo hi s)
    (ht : Charted g lo hi t) (hc : Shows lo hi s c) (hc' : Shows lo hi t c) :
    Recurs (wrap g c.address) (wrap g c.address) s t := by
  by_cases hnull : c.address = 0
  · rw [wrap, if_pos hnull]
    exact .still hb.heap rfl (.refl s) rfl (.refl t)
  obtain ⟨hcount, hmost⟩ := toNat_setSize hb.room hc
  refine .of_run_eq (wrap_run hnull hc) (wrap_run hnull hc') ?_
  refine allocate_bind_recurs ho hb hmost (enclose_rises c) ?_
  rintro s₁ t₁ hb₁ hlater hlater' - hfits hfits'
  rw [hcount] at hfits hfits'
  have hjoin' : (enclose g c t.heap).run t₁ = _ :=
    enclose_run ho ht hc' hlater' (by rw [hb.heap]; exact hfits')
  rw [hb.heap] at hjoin'
  exact .still hb₁.heap (enclose_run ho hs hc hlater hfits) (.write _ _) hjoin' (.write _ _)

/-! ## Builtins -/

/-- What comes of bringing shown values out is decided by their texts. -/
theorem dumpAll_shown (ho : g.Orderly) (lo hi : Nat) (cells : List Cell) :
    ∃ r, ∀ u : Store, u.fuel ≠ some 0 → (∀ c ∈ cells, Shows lo hi u c) →
      ((cells.map (·.address)).mapM (dump (.described g) host)).run u = (r, u) := by
  induction cells with
  | nil => exact ⟨.ok [], fun _ _ _ => rfl⟩
  | cons c cells ih =>
      obtain ⟨r, hrest⟩ := ih
      cases hd : decode? c.text with
      | none =>
          refine ⟨.error (.transfer (.malformed ⟨c.address⟩)), fun u hf hcells => ?_⟩
          have hfirst : (dump (.described g) host c.address).run u = _ :=
            dump_run ho hf (hcells c List.mem_cons_self)
          rw [hd] at hfirst
          rw [List.map_cons, List.mapM_cons, run_bind_of_error hfirst]
      | some v =>
          refine ⟨r.map (v :: ·), fun u hf hcells => ?_⟩
          have hfirst : (dump (.described g) host c.address).run u = _ :=
            dump_run ho hf (hcells c List.mem_cons_self)
          rw [hd] at hfirst
          have hlast := hrest u hf fun d hm => hcells d (List.mem_cons_of_mem _ hm)
          rw [List.map_cons, List.mapM_cons, run_bind_of_ok hfirst]
          exact run_bind_pure hlast

theorem settle_recurs {services : Services} {entry : Entry} (answer : Answer) (ho : g.Orderly)
    (hb : Beside s t) :
    Recurs (settle (.described g) services host entry answer)
      (settle (.described g) services host entry answer) s t := by
  match answer with
  | .ok (some v) => exact load_recurs ho hb v
  | .ok none => exact .still hb.heap rfl (.refl s) rfl (.refl t)
  | .error failure =>
      rw [settle]
      cases services.errorOf entry failure with
      | some e => exact .still hb.heap rfl (.refl s) rfl (.refl t)
      | none => exact .still hb.heap rfl (.refl s) rfl (.refl t)

/-- A call of a builtin is answered again: the operands are the same values, so the
entry has the same answer. -/
theorem answer_recurs {services : Services} {id : UInt32} {cells : List Cell} (ho : g.Orderly)
    (hb : Beside s t) (hs : ∀ c ∈ cells, Shows lo hi s c) (ht : ∀ c ∈ cells, Shows lo hi t c) :
    Recurs (answer (.described g) services host id (cells.map (·.address)))
      (answer (.described g) services host id (cells.map (·.address))) s t := by
  rcases answer_cases (.described g) services host id (cells.map (·.address)) with ⟨-, heq⟩ |
    ⟨_, -, -, heq⟩ | ⟨_, _, -, -, -, heq⟩ | ⟨_, _, entry, -, -, -, heq⟩
  · rw [heq]
    exact .still hb.heap rfl (.refl s) rfl (.refl t)
  · rw [heq]
    exact .still hb.heap rfl (.refl s) rfl (.refl t)
  · rw [heq]
    exact .still hb.heap rfl (.refl s) rfl (.refl t)
  · rw [heq]
    obtain ⟨r, hrun⟩ := dumpAll_shown ho lo hi cells
    have hfirst := hrun s hb.room.fuel hs
    have hsecond := hrun t hb.room'.fuel ht
    cases r with
    | error e =>
        exact .still hb.heap (run_bind_of_error hfirst) (.refl s) (run_bind_of_error hsecond)
          (.refl t)
    | ok values =>
        exact .of_run_eq (run_bind_of_ok hfirst) (run_bind_of_ok hsecond)
          (settle_recurs (entry.call values) ho hb)

/-! ## Steps -/

variable {services services' : Services} {view : Plan.View} {register : Cell}

theorem spin_recurs (hb : Beside s t) : Recurs (spin : Run Ending) spin s t := by
  have hstopped (u : Store) : ∃ u', (spin : Run Ending).run u =
      (.error (.trap (if u.fuel.isSome then .outOfFuel else .endless)), u') ∧ Stays u u' := by
    cases hfuel : u.fuel with
    | some n => exact ⟨_, run_bind_of_error (burn_out hfuel (le_neg_one n)), rfl, rfl, rfl⟩
    | none => exact ⟨_, run_bind_of_ok (burn_unmetered hfuel), .refl u⟩
  obtain ⟨s', hs, hstays⟩ := hstopped s
  obtain ⟨t', ht, hstays'⟩ := hstopped t
  rw [hb.fuel] at ht
  exact .still hb.heap hs hstays ht hstays'

theorem step_recurs {step : Step} (ho : g.Orderly) (hstep : step.plain g = true)
    (hb : Beside s t) (hs : Viewed g lo hi view s) (ht : Viewed g lo hi view t)
    (hregister : Shows lo hi s register) (hregister' : Shows lo hi t register) :
    Recurs (runStep g (answer (.described g) services host) (scopeOf view) register.address step)
      (runStep g (answer (.described g) services host) (scopeOf view) register.address step)
      s t := by
  cases step with
  | input | data | address => exact .still hb.heap rfl (.refl s) rfl (.refl t)
  | wrap =>
      exact (wrap_recurs ho hb hs.charted ht.charted hregister hregister').map
  | abort =>
      have hstop {u : Store} (hu : Shows lo hi u register) :
          (runStep g (answer (.described g) services host) (scopeOf view) register.address
            .abort).run u =
            (.error (.aborted (String.ofList (Text.decodeLossy register.text))), u) := by
        rw [runStep, abort, run_get_bind, abortText_eq hu]
        rfl
      exact .still hb.heap (hstop hregister) (.refl s) (hstop hregister') (.refl t)
  | print =>
      exact .still hb.heap (run_bind_of_ok print_run) ⟨rfl, rfl, rfl⟩ (run_bind_of_ok print_run)
        ⟨rfl, rfl, rfl⟩
  | spin => exact spin_recurs hb
  | builtin id arguments =>
      rw [runStep, resolve_addresses hstep]
      exact (answer_recurs ho hb (hs.resolve hregister arguments)
        (ht.resolve hregister' arguments)).map
  | allocate | grow | finish | trap | load | divide | recurse => cases hstep

/-- A program runs again, step by step: the memory that the first run came to has
what the rest of the program needs. -/
theorem steps_recurs {steps : List Step} (ho : g.Orderly)
    (hsteps : ∀ step ∈ steps, step.plain g = true) (hb : Beside s t)
    (hs : Viewed g lo hi view s) (ht : Viewed g lo hi view t) (hregister : Shows lo hi s register)
    (hregister' : Shows lo hi t register) (hhi : hi ≤ s.heap.toNat) :
    Recurs (runSteps g (answer (.described g) services host) (scopeOf view) register.address steps)
      (runSteps g (answer (.described g) services host) (scopeOf view) register.address steps)
      s t := by
  induction steps generalizing s t register with
  | nil => exact .still hb.heap rfl (.refl s) rfl (.refl t)
  | cons step steps ih =>
      rw [runSteps]
      have hstep := hsteps step List.mem_cons_self
      have hfirst : Follows s.heap.toNat (Goes lo hi)
          (runStep g (answer (.described g) services host) (scopeOf view) register.address step)
          _ s :=
        step_follows ho hstep hb.room hs hregister hhi
      have hsecond : Follows t.heap.toNat (Goes lo hi)
          (runStep g (answer (.described g) services host) (scopeOf view) register.address step)
          _ t :=
        step_follows ho hstep hb.room' ht hregister' (by rw [hb.heap]; exact hhi)
      rw [hb.heap, hb.fuel] at hsecond
      refine .bind hb hfirst hsecond (step_recurs ho hstep hb hs ht hregister hregister')
        (fun ending => ?_) ?_
      · cases ending with
        | result register =>
            have hhost : (answer (.described g) services host).Within Moves services :=
              answer_described moves_frame
            exact .of_within ((runSteps_confined g _ register steps).within moves_frame
              (fun _ => .halt) hhost)
        | code n => exact .pure _
      rintro _ c s₁ t₁ hb₁ hlater hlater' ⟨rfl, hc⟩ ⟨-, hc'⟩
      exact ih (fun step h => hsteps step (List.mem_cons_of_mem _ h)) hb₁ (hs.keep hlater)
        (ht.keep (hb.heap ▸ hlater')) hc hc' (Nat.le_trans hhi hlater.heap)

/-! ## Other services -/

theorem answer_congr {g : Guest} {r r' : Registry} {ids : Keyed String UInt32} {strict : Bool}
    {id : UInt32} (h : ∀ name, nameOf? ids id = some name → r.get? name = r'.get? name) :
    answer g ⟨some (.ofIds r ids), strict⟩ host id =
      answer g ⟨some (.ofIds r' ids), strict⟩ host id := by
  funext operands
  simp only [answer, get?_ofIds_congr h]
  rfl

/-- A program does the same with hosts that answer its calls alike. -/
theorem runSteps_congr {host' : Host} {scope : Scope} {register : UInt32} {program : List Step}
    (h : ∀ id arguments, .builtin id arguments ∈ program → host id = host' id) :
    runSteps g host scope register program = runSteps g host' scope register program := by
  induction program generalizing register with
  | nil => rfl
  | cons step rest ih =>
      have hrest (register : UInt32) : runSteps g host scope register rest =
          runSteps g host' scope register rest :=
        ih fun id arguments hm => h id arguments (List.mem_cons_of_mem _ hm)
      have hstep : runStep g host scope register step = runStep g host' scope register step := by
        cases step with
        | builtin id arguments => rw [runStep, runStep, h id arguments List.mem_cons_self]
        | _ => rfl
      rw [runSteps, runSteps, hstep]
      simp only [hrest]

/-! ## Contexts -/

theorem Beside.putWord (hb : Beside s t) (a : Nat) (w : UInt32) :
    Beside (putWord s a w) (putWord t a w) := by
  rw [Guest.putWord, Guest.putWord]
  exact hb.write a _

theorem Stays.putWord (a : Nat) (w : UInt32) : Stays s (putWord s a w) :=
  ⟨putWord_heap s a w, by simp, putWord_peak s a w⟩

theorem Stays.trans {s' s'' : Store} (h : Stays s s') (h' : Stays s' s'') : Stays s s'' :=
  ⟨h'.heap.trans h.heap, h'.size.trans h.size, h'.peak.trans h.peak⟩

theorem newContext_recurs (ho : g.Orderly) (hb : Beside s t) :
    Recurs (newContext g) (newContext g) s t := by
  rw [newContext, ho.context]
  refine allocate_bind_recurs ho hb (by decide) (fun a => ?_) ?_
  · exact (Rises.of_confined (.forM (fun place => fillPart_confined a place 0) _)).bind fun _ =>
      .pure a
  rintro s₁ t₁ hb₁ - - - hfits hfits'
  have hclear {u : Store} (hu : s.heap.toNat + 16 ≤ u.memory.size) :
      ∃ u', ([some 0, some 4, some 8, some 12].forM fun place => fillPart s.heap place 0).run u =
        (.ok (), u') ∧ Stays u u' :=
    ⟨_, clear_run [0, 4, 8, 12] (by simp; omega),
      (((Stays.putWord _ _).trans (.putWord _ _)).trans (.putWord _ _)).trans (.putWord _ _)⟩
  obtain ⟨s₂, hs, hstays⟩ := hclear hfits
  obtain ⟨t₂, ht, hstays'⟩ := hclear hfits'
  exact .still hb₁.heap (run_bind_of_ok hs) hstays (run_bind_of_ok ht) hstays'

theorem keepResult_rises (context : UInt32) (ending : Ending) :
    Rises (keepResult context ending) := by
  cases ending with
  | result a => exact (fillPart_rises _ _ _).bind fun _ => .pure 0
  | code n => exact .pure n

/-- Evaluating in a context recurs in the same context. -/
theorem evaluate_recurs {context entrypoint : UInt32} (ho : g.Orderly) (hb : Beside s t)
    (hs : Viewed g context.toNat (context.toNat + 16) view s)
    (ht : Viewed g context.toNat (context.toNat + 16) view t)
    (hfilled : Filled context view.input.address view.data.address entrypoint s)
    (hfilled' : Filled context view.input.address view.data.address entrypoint t)
    (hbelow : context.toNat + 16 ≤ s.heap.toNat) :
    Recurs (evaluate g (answer (.described g) services host) context)
      (evaluate g (answer (.described g) services host) context) s t := by
  have hplain := program_plain ho entrypoint
  have hfirst : Follows s.heap.toNat _
      (runSteps g (answer (.described g) services host) (scopeOf view) 0 _) _ s :=
    steps_follows ho hplain hb.room hs hs.charted.null hbelow
  have hsecond : Follows t.heap.toNat _
      (runSteps g (answer (.described g) services host) (scopeOf view) 0 _) _ t :=
    steps_follows ho hplain hb.room' ht ht.charted.null (by rw [hb.heap]; exact hbelow)
  rw [hb.heap, hb.fuel] at hsecond
  refine .of_run_eq (evaluate_filled ho hfilled) (evaluate_filled ho hfilled') ?_
  refine .bind hb hfirst hsecond (steps_recurs ho hplain hb hs ht hs.charted.null ht.charted.null
    hbelow) (keepResult_rises context) ?_
  rintro _ c s₁ t₁ hb₁ hlater hlater' ⟨rfl, -⟩ -
  have hheap := hlater.heap
  have hsize := hb₁.room.heap
  have hsize' := hb₁.room'.heap
  rw [hb₁.heap] at hsize'
  exact .still hb₁.heap (run_bind_of_ok (fillPart_run (by omega))) (.putWord _ _)
    (run_bind_of_ok (fillPart_run (by omega))) (.putWord _ _)

/-- Hosts that answer a program alike evaluate alike. -/
theorem evaluate_congr {host' : Host} {context input data entrypoint : UInt32} (ho : g.Orderly)
    (hfilled : Filled context input data entrypoint s)
    (hcalls : ∀ id arguments, .builtin id arguments ∈ g.program entrypoint → host id = host' id) :
    (evaluate g host context).run s = (evaluate g host' context).run s := by
  rw [evaluate_filled ho hfilled, evaluate_filled ho hfilled, runSteps_congr hcalls]

end PolicyHost.Guest
