import PolicyHost.Proofs.Guest.Programs
import PolicyHost.Session

/-!
# An evaluation follows its plan

From loading the input to bringing the result out, an evaluation on an orderly
guest does what `Plan.evaluateText` says. The plan knows the data as a cell and
nothing of the memory around it, so two guests that show the same data at the
same place evaluate alike, whatever else their memories hold.
-/

namespace PolicyHost.Session

open Json Guest

variable {g : Description} {host : Host} {s : Store} {services : Services} {view : Plan.View}

/-! ## The parts of an evaluation -/

/-- Brings the result out of a context, unless the guest answered with a code. -/
def bringOut (g : Description) (host : Host) (context : UInt32) (code : Int) : Run Value := do
  if code ≠ 0 then stop (.evaluationCode code)
  let result ← call g .getResult (readPart context (some g.context.result))
  dump (.described g) host result

/-- Runs the guest in a context that is filled, and brings the result out. -/
def evaluateFilled (context : UInt32) (g : Description) (host : Host) : Run Value := do
  let code ← call g .evaluate (Guest.evaluate g host context)
  bringOut g host context code

/-- Fills a context, and evaluates in it. -/
def evaluateIn (data : UInt32) (id : Option EntrypointId) (g : Description) (host : Host)
    (input context : UInt32) : Run Value := do
  call g .setInput (fillPart context (some g.context.input) input)
  call g .setData (fillPart context g.context.data data)
  if let some id := id then
    demand (.described g) .setEntrypoint
    call g .setEntrypoint (fillPart context g.context.entrypoint id.value)
  evaluateFilled context g host

theorem evaluateText_eq (data : UInt32) (id : Option EntrypointId) (bytes : List UInt8) :
    evaluateText data id bytes (.described g) host = (do
      let input ← loadText (.described g) host bytes
      let context ← call g .newContext (newContext g)
      evaluateIn data id g host input context) := rfl

/-- The entrypoint that a context has: zero unless one is chosen. -/
def chosen (id : Option EntrypointId) : UInt32 :=
  match id with
  | some id => id.value
  | none => 0

theorem demand_run {e : Export} (h : e ∉ g.absent) :
    (demand (.described g) e : Run Unit).run s = (.ok (), s) :=
  lift_run (if_neg h)

/-! ## Filling a context -/

/-- A store with a context filled. -/
def fillIn (s : Store) (context input data : UInt32) (id : Option EntrypointId) : Store :=
  let filled := putWord (putWord s (context.toNat + 0) input) (context.toNat + 4) data
  match id with
  | some id => putWord filled (context.toNat + 8) id.value
  | none => filled

section

variable {context input data : UInt32} {id : Option EntrypointId}

/-- What putting words into a context keeps, filling it keeps. -/
theorem fillIn_induction {P : Store → Prop}
    (hput : ∀ u w, ∀ place ≤ 12, u.memory.size = s.memory.size → P u →
      P (putWord u (context.toNat + place) w)) (hs : P s) : P (fillIn s context input data id) := by
  have hfilled := hput _ data 4 (by decide) (by simp) (hput s input 0 (by decide) rfl hs)
  cases id with
  | none => exact hfilled
  | some id => exact hput _ id.value 8 (by decide) (by simp) hfilled

theorem fillIn_heap : (fillIn s context input data id).heap = s.heap :=
  fillIn_induction (P := fun u => u.heap = s.heap) (fun u w place _ _ h => by simp [h]) rfl

theorem fillIn_fuel : (fillIn s context input data id).fuel = s.fuel :=
  fillIn_induction (P := fun u => u.fuel = s.fuel) (fun u w place _ _ h => by simp [h]) rfl

theorem room_fillIn (h : Room s) : Room (fillIn s context input data id) :=
  fillIn_induction (fun _ _ _ _ _ h => h.putWord _ _) h

theorem keeps_fillIn (hfits : context.toNat + 16 ≤ s.memory.size) :
    Keeps context.toNat s (fillIn s context input data id) :=
  fillIn_induction (P := Keeps context.toNat s)
    (fun u w place hplace hsize h => h.trans (.putWord w (by omega) (Nat.le_add_right _ _)))
    (.refl _ s)

theorem viewed_fillIn (hfits : context.toNat + 16 ≤ s.memory.size)
    (h : Viewed g context.toNat (context.toNat + 16) view s) :
    Viewed g context.toNat (context.toNat + 16) view (fillIn s context input data id) :=
  fillIn_induction (fun u w place hplace hsize h =>
    h.putWord (Nat.le_add_right _ _) (by omega) (by omega)) h

/-- A context is filled with what is put into it; the entrypoint was zero. -/
theorem filled_fillIn (hfits : context.toNat + 16 ≤ s.memory.size)
    (hentry : s.memory.Has (context.toNat + 8) (Memory.wordBytes 0)) :
    Filled context input data (chosen id) (fillIn s context input data id) := by
  have hfilled : Filled context input data 0 _ := filled_putWord hfits hentry
  cases id with
  | none => exact hfilled
  | some id => exact hfilled.choose (by simp; omega) id.value

theorem evaluateIn_run (ho : g.Orderly) (hfuel : s.fuel ≠ some 0)
    (hfits : context.toNat + 16 ≤ s.memory.size) :
    (evaluateIn data id g host input context).run s =
      (evaluateFilled context g host).run (fillIn s context input data id) := by
  have hfill {α : Type} {e : Export} {place : Nat} {w : UInt32} {u : Store} {next : Unit → Run α}
      (hu : u.fuel = s.fuel) (hsize : u.memory.size = s.memory.size) (hplace : place ≤ 12) :
      (call g e (fillPart context (some place) w) >>= next).run u =
        (next ()).run (putWord u (context.toNat + place) w) :=
    run_bind_of_ok ((call_run ho (by rw [hu]; exact hfuel)).trans (fillPart_run (by omega)))
  rw [evaluateIn, ho.context]
  refine (hfill rfl rfl (by decide)).trans ((hfill (by simp) (by simp) (by decide)).trans ?_)
  cases id with
  | none => rfl
  | some id =>
      exact (run_bind_of_ok (demand_run ho.setEntrypoint)).trans
        (hfill (by simp) (by simp) (by decide))

end

/-! ## The plan -/

theorem bringOut_run {context : UInt32} {code : Int} {c : Cell} (ho : g.Orderly)
    (hfuel : s.fuel ≠ some 0) (hresults : Results context code c s) :
    (bringOut g host context code).run s = (dump (.described g) host c.address).run s := by
  obtain ⟨rfl, -, hresult⟩ := hresults
  rw [bringOut, if_neg (by decide), ho.context]
  exact (call_bind_run ho hfuel).trans (run_bind_of_ok (readPart_run hresult))

theorem evaluateFilled_follows {context entrypoint : UInt32} (ho : g.Orderly) (hroom : Room s)
    (hview : Viewed g context.toNat (context.toNat + 16) view s)
    (hfilled : Filled context view.input.address view.data.address entrypoint s)
    (hbelow : context.toNat + 16 ≤ s.heap.toNat) :
    Follows context.toNat (fun v w _ => v = w)
      (evaluateFilled context g (answer (.described g) services host))
      (Plan.program g services s.fuel.isSome view entrypoint) s := by
  refine .of_run_eq (call_bind_run ho hroom.fuel) ?_
  refine .bind hroom (evaluate_follows ho hroom hview hfilled hbelow) (Nat.le_refl _) ?_
  intro code c s₁ hroom₁ hlater hresults
  refine .of_run_eq (bringOut_run ho hroom₁.fuel hresults) ?_
  exact (dump_follows ho hroom₁ hresults.2.1).lower (Nat.le_trans (by omega) hlater.heap)

/-- What is shown before a context is made lies below it. -/
theorem viewed_above {s' : Store} (hcharted : Charted g 0 0 s) (hinput : Shows 0 0 s view.input)
    (hdata : Shows 0 0 s view.data) (hlater : Later s.heap.toNat s s') :
    Viewed g s.heap.toNat (s.heap.toNat + 16) view s' :=
  ⟨fun c hc => ((hcharted c hc).above _).keep hlater, (hinput.above _).keep hlater,
    (hdata.above _).keep hlater⟩

theorem evaluateText_follows (data : Cell) (id : Option EntrypointId) {bytes : List UInt8}
    (ho : g.Orderly) (hroom : Room s) (hcharted : Charted g 0 0 s) (hdata : Shows 0 0 s data)
    (hne : bytes ≠ []) (hzero : (0 : UInt8) ∉ bytes) :
    Follows s.heap.toNat (fun v w _ => v = w)
      (evaluateText data.address id bytes (.described g) (answer (.described g) services host))
      (Plan.evaluateText g services s.fuel.isSome data (chosen id) bytes) s := by
  rw [evaluateText_eq, Plan.evaluateText]
  have hload : Follows s.heap.toNat (Brought 0 0 s.heap)
      (loadText (.described g) (answer (.described g) services host) bytes) _ s :=
    loadText_follows ho hroom hne hzero (Nat.zero_le _)
  refine .bind hroom hload (Nat.le_refl _) ?_
  rintro _ input s₁ hroom₁ hlater₁ ⟨rfl, hinput, -⟩
  refine .of_run_eq (call_bind_run ho hroom₁.fuel) ?_
  refine .bind hroom₁ (newContext_follows ho hroom₁) hlater₁.heap ?_
  rintro _ _ s₂ hroom₂ hlater₂ ⟨rfl, rfl, htop, hentry⟩
  have hfits : s₁.heap.toNat + 16 ≤ s₂.memory.size := htop ▸ hroom₂.heap
  have hfuel : s₂.fuel = s.fuel := hlater₂.fuel.trans hlater₁.fuel
  have hview : Viewed g s₁.heap.toNat (s₁.heap.toNat + 16) ⟨input, data⟩ s₂ :=
    viewed_above (hcharted.keep hlater₁) hinput (hdata.keep hlater₁) hlater₂
  have hrun : Follows s₁.heap.toNat _
      (evaluateFilled s₁.heap g (answer (.described g) services host)) _
      (fillIn s₂ s₁.heap input.address data.address id) :=
    evaluateFilled_follows ho (room_fillIn hroom₂) (viewed_fillIn hfits hview)
      (filled_fillIn hfits hentry) (Nat.le_of_eq (by rw [fillIn_heap, htop]))
  rw [fillIn_fuel, hfuel] at hrun
  exact (Follows.step (evaluateIn_run ho hroom₂.fuel hfits) (keeps_fillIn hfits) fillIn_heap
    fillIn_fuel hrun).lower hlater₁.heap

end PolicyHost.Session
