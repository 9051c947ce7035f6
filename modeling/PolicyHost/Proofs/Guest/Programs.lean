import PolicyHost.Proofs.Guest.Answers
import PolicyHost.Proofs.Guest.Callback
import PolicyHost.Proofs.Guest.Crossing
import PolicyHost.Proofs.Guest.Reading

/-!
# Programs follow their plans

An orderly guest whose constants are shown runs every step of its programs as
planned, and so every program: `steps_follows` is the induction. Evaluating in
a context adds that the context is filled before and read after, which is where
the gap among the cells is needed: what a program leaves in its register does
not meet the context, so noting it there leaves its text alone.
-/

namespace PolicyHost.Guest

open Json Builtin

variable {g : Description} {host : Host} {s : Store} {lo hi : Nat}

/-- A register holds the address of a cell that is shown. -/
def Held (lo hi : Nat) (a : UInt32) (c : Cell) (s : Store) : Prop :=
  a = c.address ∧ Shows lo hi s c

/-- All constants of a guest are shown. -/
def Charted (g : Description) (lo hi : Nat) (s : Store) : Prop :=
  ∀ c ∈ g.constants, Shows lo hi s c

theorem Charted.keep {s' : Store} (h : Charted g lo hi s) (hk : Later s.heap.toNat s s') :
    Charted g lo hi s' :=
  fun c hc => (h c hc).keep hk

theorem Charted.null (h : Charted g lo hi s) : Shows lo hi s .null :=
  h _ List.mem_cons_self

theorem Charted.constant (h : Charted g lo hi s) (a : UInt32) : Shows lo hi s (g.constant a) :=
  h _ (constant_mem g a)

/-! ## Result sets -/

theorem copyBehind_run {a source : Nat} (front : List UInt8) {bytes : List UInt8}
    (hs : s.memory.Has source bytes) (hbelow : source + bytes.length ≤ a)
    (ht : a + (front ++ bytes).length ≤ s.memory.size) :
    (copy (a + front.length) source bytes.length).run
        { s with memory := s.memory.write a front } =
      (.ok (), { s with memory := s.memory.write a (front ++ bytes) }) := by
  rw [List.length_append] at ht
  have hs' : (s.memory.write a front).Has source bytes := hs.write (by omega) (by omega)
  have hfits : a + front.length + bytes.length ≤ (s.memory.write a front).size := by
    rw [Memory.size_write]
    omega
  rw [copy_run (s := { s with memory := s.memory.write a front }) hs' hfits, Memory.write_append]

/-- Three texts copied one behind the other and ended by a zero are one write. -/
theorem join_run {value : UInt32} {p q r : Nat} {xs ys zs : List UInt8}
    (hx : s.memory.Has p xs ∧ p + xs.length ≤ value.toNat)
    (hy : s.memory.Has q ys ∧ q + ys.length ≤ value.toNat)
    (hz : s.memory.Has r zs ∧ r + zs.length ≤ value.toNat)
    (hfits : value.toNat + (xs ++ ys ++ zs ++ [0]).length ≤ s.memory.size) :
    (do
      copy value.toNat p xs.length
      copy (value.toNat + xs.length) q ys.length
      copy (value.toNat + xs.length + ys.length) r zs.length
      writeBytes (value.toNat + xs.length + ys.length + zs.length) [0]
      return value : Run UInt32).run s =
        (.ok value, { s with
          memory := s.memory.write value.toNat (xs ++ ys ++ zs ++ [0]) }) := by
  simp only [List.length_append, List.length_singleton] at hfits
  have h₁ := copyBehind_run [] hx.1 hx.2 (by simp only [List.nil_append]; omega)
  have h₂ := copyBehind_run xs hy.1 hy.2 (by simp only [List.length_append]; omega)
  have h₃ := copyBehind_run (xs ++ ys) hz.1 hz.2
    (by simp only [List.length_append]; omega)
  have h₄ : (writeBytes (value.toNat + (xs ++ ys ++ zs).length) [0]).run
      { s with memory := s.memory.write value.toNat (xs ++ ys ++ zs) } = _ :=
    writeBytes_run
      (by simp only [List.length_append, List.length_singleton, Memory.size_write]; omega)
  simp only [← Memory.write_append] at h₄
  simp only [List.length_append, ← Nat.add_assoc] at h₃ h₄
  exact (run_bind_of_ok h₁).trans ((run_bind_of_ok h₂).trans ((run_bind_of_ok h₃).trans
    (run_bind_of_ok h₄)))

theorem readText_run {c : Cell} (hc : Shows lo hi s c) :
    (readText c.address).run s = (.ok c.text, s) := by
  rw [readText, run_get_bind, hc.text?]
  rfl

theorem length_text_lt {c : Cell} (hroom : Room s) (hc : Shows lo hi s c) :
    c.text.length < 2 ^ 30 := by
  have hstop : c.address.toNat + c.text.length + 1 ≤ s.memory.size :=
    Nat.le_trans hc.below hroom.heap
  have hsize := hroom.size_le
  omega

/-- The texts around a result, as a guest keeps them. -/
theorem Charted.around (h : Charted g lo hi s) (ho : g.Orderly) :
    Shows lo hi s ⟨g.texts.opening, openingText.toUTF8.toList⟩ ∧
      Shows lo hi s ⟨g.texts.closing, closingText.toUTF8.toList⟩ :=
  ⟨ho.opening ▸ h.constant g.texts.opening, ho.closing ▸ h.constant g.texts.closing⟩

/-- How many bytes the result set with a cell takes, with the zero that ends it. -/
def setSize (c : Cell) : UInt32 :=
  .ofNat (openingText.utf8ByteSize + c.text.length + closingText.utf8ByteSize + 1)

/-- Puts the result set with a cell together, where bytes were taken for it. -/
def enclose (g : Description) (c : Cell) (set : UInt32) : Run UInt32 := do
  let before := openingText.utf8ByteSize
  let after := closingText.utf8ByteSize
  copy set.toNat g.texts.opening.toNat before
  copy (set.toNat + before) c.address.toNat c.text.length
  copy (set.toNat + before + c.text.length) g.texts.closing.toNat after
  writeBytes (set.toNat + before + c.text.length + after) [0]
  return set

theorem wrap_run {c : Cell} (hnull : c.address ≠ 0) (hc : Shows lo hi s c) :
    (wrap g c.address).run s = (allocate g (setSize c) >>= enclose g c).run s := by
  rw [wrap, if_neg hnull]
  exact run_bind_of_ok (readText_run hc)

theorem toNat_setSize {c : Cell} (hroom : Room s) (hc : Shows lo hi s c) :
    (setSize c).toNat = (Plan.wrapped c.text ++ [0]).length ∧ (setSize c).toNat ≤ 2 ^ 31 := by
  have hlong := length_text_lt hroom hc
  have hlength : (Plan.wrapped c.text ++ [0]).length = c.text.length + 14 := by
    rw [List.length_append, length_wrapped, List.length_singleton]
  have hsize : setSize c = .ofNat (Plan.wrapped c.text ++ [0]).length := by
    rw [setSize, utf8ByteSize_eq, utf8ByteSize_eq, Plan.wrapped, List.length_append,
      List.length_append, List.length_append, List.length_singleton]
  rw [hsize, UInt32.toNat_ofNat', Nat.mod_eq_of_lt (by omega)]
  omega

/-- Texts that were shown before bytes were taken for the set are enclosed there. -/
theorem enclose_run {s' : Store} {c : Cell} (ho : g.Orderly) (hcharted : Charted g lo hi s)
    (hc : Shows lo hi s c) (hlater : Later s.heap.toNat s s')
    (hfits : s.heap.toNat + (Plan.wrapped c.text ++ [0]).length ≤ s'.memory.size) :
    (enclose g c s.heap).run s' = (.ok s.heap, { s' with
      memory := s'.memory.write s.heap.toNat (Plan.wrapped c.text ++ [0]) }) := by
  have hshow {d : Cell} (hd : Shows lo hi s d) :
      s'.memory.Has d.address.toNat d.text ∧ d.address.toNat + d.text.length ≤ s.heap.toNat := by
    have := hd.below
    rw [Cell.stop] at this
    exact ⟨(hd.keep hlater).has_text, by omega⟩
  obtain ⟨hopening, hclosing⟩ := hcharted.around ho
  rw [enclose, utf8ByteSize_eq, utf8ByteSize_eq]
  exact join_run (hshow hopening) (hshow hc) (hshow hclosing) hfits

theorem wrap_follows {c : Cell} (ho : g.Orderly) (hroom : Room s) (hcharted : Charted g lo hi s)
    (hc : Shows lo hi s c) (hhi : hi ≤ s.heap.toNat) :
    Follows s.heap.toNat (Held lo hi) (wrap g c.address) (Plan.wrap g c) s := by
  rw [Plan.wrap]
  by_cases hnull : c.address = 0
  · rw [if_pos hnull, wrap, if_pos hnull]
    exact .pure hroom ⟨(constant_address ho.emptySet).symm, hcharted.constant _⟩
  rw [if_neg hnull]
  obtain ⟨hcount, hmost⟩ := toNat_setSize hroom hc
  have hlength : (Plan.wrapped c.text ++ [0]).length = (Plan.wrapped c.text).length + 1 :=
    List.length_append
  refine .of_run_eq (wrap_run hnull hc) ?_
  rw [← hlength, ← hcount]
  refine .bind hroom (allocate_follows ho hroom hmost) (Nat.le_refl _) ?_
  rintro _ _ s₁ hroom₁ hlater ⟨rfl, rfl, htop⟩
  rw [hcount] at htop
  have hfits : s.heap.toNat + (Plan.wrapped c.text ++ [0]).length ≤ s₁.memory.size :=
    htop ▸ hroom₁.heap
  refine .done hroom₁ (enclose_run ho hcharted hc hlater hfits) rfl
    (.of_write hfits (Nat.le_refl _)) rfl rfl ⟨rfl, ?_⟩
  rw [hlength] at hfits htop
  obtain ⟨hopening, hclosing⟩ := hcharted.around ho
  have hzero : (0 : UInt8) ∉ Plan.wrapped c.text := by
    simp only [Plan.wrapped, List.mem_append, not_or]
    exact ⟨⟨hopening.zero, hc.zero⟩, hclosing.zero⟩
  exact shows_write (s := s₁) hfits hzero hhi rfl (Nat.le_of_eq htop.symm)

/-! ## Builtins -/

theorem load_held (ho : g.Orderly) (hroom : Room s) (v : Value) (hhi : hi ≤ s.heap.toNat) :
    Follows s.heap.toNat (Held lo hi) (load (.described g) host v) (Plan.load g v) s :=
  (load_follows ho hroom v hhi).weaken fun _ _ _ _ hb => ⟨hb.1, hb.2.1⟩

theorem dumpAll_follows {cells : List Cell} (ho : g.Orderly) (hroom : Room s)
    (hcells : ∀ c ∈ cells, Shows lo hi s c) :
    Follows s.heap.toNat (fun vs ws _ => vs = ws)
      ((cells.map (·.address)).mapM (dump (.described g) host)) (Plan.dumpAll cells) s := by
  induction cells generalizing s with
  | nil => exact .pure hroom rfl
  | cons c cells ih =>
      rw [List.map_cons, List.mapM_cons, Plan.dumpAll]
      refine .bind hroom (dump_follows ho hroom (hcells c List.mem_cons_self)) (Nat.le_refl _) ?_
      rintro v _ s₁ hroom₁ hlater rfl
      have hrest : ∀ d ∈ cells, Shows lo hi s₁ d :=
        fun d hd => (hcells d (List.mem_cons_of_mem _ hd)).keep hlater
      refine (Follows.bind hroom₁ (ih hroom₁ hrest) (Nat.le_refl _) ?_).lower hlater.heap
      rintro vs _ s₂ hroom₂ - rfl
      exact .pure hroom₂ rfl

theorem settle_follows {services : Services} {entry : Entry} (answer : Answer) (ho : g.Orderly)
    (hroom : Room s) (hcharted : Charted g lo hi s) (hhi : hi ≤ s.heap.toNat) :
    Follows s.heap.toNat (Held lo hi) (settle (.described g) services host entry answer)
      (Plan.answer g services entry answer) s := by
  match answer with
  | .ok (some v) => exact load_held ho hroom v hhi
  | .ok none => exact .pure hroom ⟨rfl, hcharted.null⟩
  | .error failure =>
      simp only [settle, Plan.answer]
      cases services.errorOf entry failure with
      | some e => exact .fail rfl
      | none => exact .pure hroom ⟨rfl, hcharted.null⟩

/-- A call of a builtin follows its plan: what the entry answers to the values
of the operands comes in again, or fails the evaluation. -/
theorem dispatch_follows {services : Services} {id : UInt32} {cells : List Cell} (ho : g.Orderly)
    (hroom : Room s) (hcharted : Charted g lo hi s) (hcells : ∀ c ∈ cells, Shows lo hi s c)
    (hhi : hi ≤ s.heap.toNat) :
    Follows s.heap.toNat (Held lo hi) 
      (answer (.described g) services host id (cells.map (·.address)))
      (Plan.dispatch g services id cells) s := by
  rw [Guest.answer, Plan.dispatch]
  cases services.table with
  | none => exact .fail rfl
  | some table =>
      simp only
      cases table.get? ⟨id⟩ with
      | none => exact .fail rfl
      | some slot =>
          simp only
          cases slot.entry with
          | none => exact .fail rfl
          | some entry =>
              refine .bind hroom (dumpAll_follows ho hroom hcells) (Nat.le_refl _) ?_
              rintro values _ s₁ hroom₁ hlater rfl
              exact (settle_follows (entry.call values) ho hroom₁ (hcharted.keep hlater)
                (Nat.le_trans hhi hlater.heap)).lower hlater.heap

/-! ## Steps -/

/-- What a step gives: the register goes on with a cell that is shown. -/
def Goes (lo hi : Nat) (e : Ending) (c : Cell) (s : Store) : Prop :=
  e = .result c.address ∧ Shows lo hi s c

variable {services : Services} {view : Plan.View} {register : Cell}

/-- What a program goes by is shown: the constants, the input and the data. -/
structure Viewed (g : Description) (lo hi : Nat) (view : Plan.View) (s : Store) : Prop where
  charted : Charted g lo hi s
  input : Shows lo hi s view.input
  data : Shows lo hi s view.data

theorem Viewed.keep {s' : Store} (h : Viewed g lo hi view s) (hk : Later s.heap.toNat s s') :
    Viewed g lo hi view s' :=
  ⟨h.charted.keep hk, h.input.keep hk, h.data.keep hk⟩

theorem Viewed.resolve (h : Viewed g lo hi view s) (hregister : Shows lo hi s register)
    (arguments : List Argument) :
    ∀ c ∈ arguments.map (view.resolve g register), Shows lo hi s c := by
  intro c hc
  obtain ⟨a, -, rfl⟩ := List.mem_map.mp hc
  cases a with
  | input => exact h.input
  | data => exact h.data
  | register => exact hregister
  | address a => exact h.charted.constant a

/-- The scope of a view. -/
def scopeOf (view : Plan.View) : Scope :=
  ⟨view.input.address, view.data.address⟩

theorem resolve_address {a : Argument} (ha : a.plain g = true) :
    (scopeOf view).resolve register.address a = (view.resolve g register a).address := by
  cases a with
  | input | data | register => rfl
  | address a => exact (constant_address ha).symm

theorem resolve_addresses {id : UInt32} {arguments : List Argument}
    (h : (Step.builtin id arguments).plain g = true) :
    arguments.map ((scopeOf view).resolve register.address) =
      (arguments.map (view.resolve g register)).map (·.address) := by
  rw [List.map_map]
  exact List.map_congr_left fun a ha => resolve_address (List.all_eq_true.mp h a ha)

theorem abortText_eq {c : Cell} (hc : Shows lo hi s c) :
    s.memory.abortText ⟨c.address⟩ = String.ofList (Text.decodeLossy c.text) := by
  rw [Memory.abortText, hc.textAt]

theorem burn_unmetered {amount : UInt64} (h : s.fuel = none) :
    (burn amount).run s = (.ok (), s) := by
  rw [burn, run_get_bind, h]
  rfl

theorem burn_out {left amount : UInt64} (h : s.fuel = some left) (hmost : left ≤ amount) :
    (burn amount).run s = (.error (.trap .outOfFuel), { s with fuel := some 0 }) := by
  rw [burn, run_get_bind, h]
  simp only [if_pos hmost]
  rfl

theorem le_neg_one (n : UInt64) : n ≤ -1 :=
  UInt64.le_iff_toNat_le.mpr (Nat.le_of_lt_succ n.toNat_lt)

theorem spin_follows :
    Follows s.heap.toNat (Goes lo hi) spin (Plan.spin s.fuel.isSome) s := by
  cases hfuel : s.fuel with
  | some n =>
      have hrun : (spin : Run Ending).run s =
          (.error (.trap .outOfFuel), { s with fuel := some 0 }) :=
        run_bind_of_error (burn_out hfuel (le_neg_one n))
      constructor
      · rw [hrun]
        exact .of_same rfl rfl
      · rw [hrun]
        exact .error rfl (Or.inr rfl)
  | none =>
      exact .fail (run_bind_of_ok (burn_unmetered hfuel))

theorem step_follows {step : Step} (ho : g.Orderly) (hstep : step.plain g = true)
    (hroom : Room s) (hview : Viewed g lo hi view s) (hregister : Shows lo hi s register)
    (hhi : hi ≤ s.heap.toNat) :
    Follows s.heap.toNat (Goes lo hi) 
      (runStep g (answer (.described g) services host) (scopeOf view) register.address step)
      (Plan.step g services s.fuel.isSome view register step) s := by
  cases step with
  | input => exact .pure hroom ⟨rfl, hview.input⟩
  | data => exact .pure hroom ⟨rfl, hview.data⟩
  | address a => exact .pure hroom ⟨by rw [constant_address hstep], hview.charted.constant a⟩
  | wrap =>
      exact .map hroom (wrap_follows ho hroom hview.charted hregister hhi)
        fun _ _ _ ⟨ha, hc⟩ => ⟨by rw [ha], hc⟩
  | abort =>
      refine .fail ?_
      rw [runStep, abort, run_get_bind, abortText_eq hregister]
      rfl
  | print =>
      let lines := s.memory.printedAt ⟨register.address⟩ ++ s.printed
      have hlater : Later s.heap.toNat s { s with printed := lines } :=
        ⟨.of_same rfl rfl, Nat.le_refl _, rfl⟩
      exact .done hroom (run_bind_of_ok print_run) rfl hlater.toKeeps rfl rfl
        ⟨rfl, hregister.keep hlater⟩
  | spin => exact spin_follows
  | builtin id arguments =>
      rw [runStep, resolve_addresses hstep, Plan.step_builtin]
      exact .map hroom (dispatch_follows ho hroom hview.charted (hview.resolve hregister arguments)
        hhi)
        fun _ _ _ ⟨ha, hc⟩ => ⟨by rw [ha], hc⟩
  | allocate | grow | finish | trap | load | divide | recurse => cases hstep

/-- A program follows its plan, step by step: what was shown stays shown, and
the register goes on with what the step before left in it. -/
theorem steps_follows {steps : List Step} (ho : g.Orderly)
    (hsteps : ∀ step ∈ steps, step.plain g = true) (hroom : Room s)
    (hview : Viewed g lo hi view s) (hregister : Shows lo hi s register)
    (hhi : hi ≤ s.heap.toNat) :
    Follows s.heap.toNat (Goes lo hi)
      (runSteps g (answer (.described g) services host) (scopeOf view) register.address steps)
      (Plan.steps g services s.fuel.isSome view register steps) s := by
  induction steps generalizing s register with
  | nil => exact .pure hroom ⟨rfl, hregister⟩
  | cons step steps ih =>
      rw [runSteps, Plan.steps]
      have hstep := hsteps step List.mem_cons_self
      refine .bind hroom (step_follows ho hstep hroom hview hregister hhi) (Nat.le_refl _) ?_
      rintro _ c s₁ hroom₁ hlater ⟨rfl, hc⟩
      have hrest := ih (fun step h => hsteps step (List.mem_cons_of_mem _ h)) hroom₁
        (hview.keep hlater) hc (Nat.le_trans hhi hlater.heap)
      rw [hlater.fuel] at hrest
      exact hrest.lower hlater.heap

/-! ## Contexts -/

/-- A store with a word written. -/
@[irreducible]
def putWord (s : Store) (a : Nat) (w : UInt32) : Store :=
  { s with memory := s.memory.write a (Memory.wordBytes w) }

@[simp] theorem putWord_memory (s : Store) (a : Nat) (w : UInt32) :
    (putWord s a w).memory = s.memory.write a (Memory.wordBytes w) := by
  rw [putWord]

@[simp] theorem putWord_heap (s : Store) (a : Nat) (w : UInt32) :
    (putWord s a w).heap = s.heap := by
  rw [putWord]

@[simp] theorem putWord_peak (s : Store) (a : Nat) (w : UInt32) :
    (putWord s a w).peak = s.peak := by
  rw [putWord]

@[simp] theorem putWord_fuel (s : Store) (a : Nat) (w : UInt32) :
    (putWord s a w).fuel = s.fuel := by
  rw [putWord]

theorem Room.putWord (h : Room s) (a : Nat) (w : UInt32) : Room (putWord s a w) := by
  rw [Guest.putWord]
  exact h.write a (Memory.wordBytes w)

theorem Keeps.putWord {floor a : Nat} (w : UInt32) (hsize : a + 4 ≤ s.memory.size)
    (hf : floor ≤ a) : Keeps floor s (putWord s a w) := by
  rw [Guest.putWord]
  exact .of_write hsize hf

theorem has_putWord {a : Nat} (w : UInt32) (hsize : a + 4 ≤ s.memory.size) :
    (putWord s a w).memory.Has a (Memory.wordBytes w) := by
  rw [putWord_memory]
  exact Memory.has_write hsize

theorem Memory.Has.putWord {a b : Nat} {w : UInt32} {bytes : List UInt8} (h : s.memory.Has b bytes)
    (hsize : a + 4 ≤ s.memory.size) (hapart : b + bytes.length ≤ a ∨ a + 4 ≤ b) :
    (putWord s a w).memory.Has b bytes := by
  rw [putWord_memory]
  exact h.write hsize hapart

theorem Shows.putWord {c : Cell} (h : Shows lo hi s c) {a : Nat} {w : UInt32} (ha : lo ≤ a)
    (hb : a + 4 ≤ hi) (hsize : a + 4 ≤ s.memory.size) : Shows lo hi (putWord s a w) c := by
  rw [Guest.putWord]
  exact h.fill ha hb hsize

theorem Charted.putWord (h : Charted g lo hi s) {a : Nat} {w : UInt32} (ha : lo ≤ a)
    (hb : a + 4 ≤ hi) (hsize : a + 4 ≤ s.memory.size) : Charted g lo hi (putWord s a w) :=
  fun c hc => (h c hc).putWord ha hb hsize

theorem Viewed.putWord (h : Viewed g lo hi view s) {a : Nat} {w : UInt32} (ha : lo ≤ a)
    (hb : a + 4 ≤ hi) (hsize : a + 4 ≤ s.memory.size) : Viewed g lo hi view (putWord s a w) :=
  ⟨h.charted.putWord ha hb hsize, h.input.putWord ha hb hsize, h.data.putWord ha hb hsize⟩

theorem fillPart_run {context w : UInt32} {place : Nat}
    (h : context.toNat + place + 4 ≤ s.memory.size) :
    (fillPart context (some place) w).run s = (.ok (), putWord s (context.toNat + place) w) := by
  rw [putWord]
  exact writeBytes_run h

theorem readPart_run {context w : UInt32} {place : Nat}
    (h : s.memory.Has (context.toNat + place) (Memory.wordBytes w)) :
    (readPart context (some place)).run s = (.ok w, s) := by
  have hsize := h.1
  rw [Memory.length_wordBytes] at hsize
  rw [readPart, readWord, run_get_bind, if_pos (by simpa [Memory.holds] using hsize), run_get_bind,
    h.word]
  rfl

/-- A context is filled with an input, the data and an entrypoint. -/
structure Filled (context input data entrypoint : UInt32) (s : Store) : Prop where
  input : s.memory.Has (context.toNat + 0) (Memory.wordBytes input)
  data : s.memory.Has (context.toNat + 4) (Memory.wordBytes data)
  entrypoint : s.memory.Has (context.toNat + 8) (Memory.wordBytes entrypoint)

/-- A context is filled part by part; the entrypoint is there already. -/
theorem filled_putWord {context input data entrypoint : UInt32}
    (hfits : context.toNat + 16 ≤ s.memory.size)
    (he : s.memory.Has (context.toNat + 8) (Memory.wordBytes entrypoint)) :
    Filled context input data entrypoint
      (putWord (putWord s (context.toNat + 0) input) (context.toNat + 4) data) where
  input := (has_putWord input (by omega)).putWord (by simp; omega) (by simp)
  data := has_putWord data (by simp; omega)
  entrypoint := (he.putWord (by omega) (by simp)).putWord (by simp; omega) (by simp)

theorem Filled.choose {context input data old : UInt32} (h : Filled context input data old s)
    (hfits : context.toNat + 16 ≤ s.memory.size) (entrypoint : UInt32) :
    Filled context input data entrypoint (putWord s (context.toNat + 8) entrypoint) where
  input := h.input.putWord (by omega) (by simp)
  data := h.data.putWord (by omega) (by simp)
  entrypoint := has_putWord entrypoint (by omega)

/-- What evaluating in a context gives: the code of success, and a result in
the context that is shown. -/
def Results (context : UInt32) (code : Int) (c : Cell) (s : Store) : Prop :=
  code = 0 ∧ Shows context.toNat (context.toNat + 16) s c ∧
    s.memory.Has (context.toNat + 12) (Memory.wordBytes c.address)

theorem clear_run {context : UInt32} (places : List Nat)
    (h : ∀ place ∈ places, context.toNat + place + 4 ≤ s.memory.size) :
    ((places.map some).forM fun place => fillPart context place 0).run s =
      (.ok (), places.foldl (fun s place => putWord s (context.toNat + place) 0) s) := by
  induction places generalizing s with
  | nil => rfl
  | cons place places ih =>
      have hfirst := fillPart_run (w := 0) (h place List.mem_cons_self)
      have hrest := @ih (putWord s (context.toNat + place) 0) fun place hp => by
        rw [putWord_memory, Memory.size_write]
        exact h place (List.mem_cons_of_mem _ hp)
      rw [List.forM_eq_forM] at hrest ⊢
      rw [List.map_cons, List.forM_cons, run_bind_of_ok hfirst]
      exact hrest

/-- A new context takes its bytes, and its entrypoint is zero. -/
theorem newContext_follows (ho : g.Orderly) (hroom : Room s) :
    Follows s.heap.toNat
      (fun a b s' => a = s.heap ∧ b = s.heap ∧ s'.heap.toNat = s.heap.toNat + 16 ∧
        s'.memory.Has (s.heap.toNat + 8) (Memory.wordBytes 0))
      (newContext g) (Plan.take g.context.size.toNat) s := by
  rw [newContext, ← bind_pure (Plan.take _), ho.context]
  refine .bind hroom (allocate_follows ho hroom (by decide)) (Nat.le_refl _) ?_
  rintro _ _ s₁ hroom₁ hlater ⟨rfl, rfl, htop⟩
  have hwidth : s₁.heap.toNat = s.heap.toNat + 16 := htop
  have hsize := hroom₁.heap
  have hclear : ([some 0, some 4, some 8, some 12].forM fun place => fillPart s.heap place 0).run
      s₁ = _ := clear_run [0, 4, 8, 12] (by simp; omega)
  have hroom₂ := (((hroom₁.putWord (s.heap.toNat + 0) 0).putWord (s.heap.toNat + 4) 0).putWord
    (s.heap.toNat + 8) 0).putWord (s.heap.toNat + 12) 0
  refine .step (run_bind_of_ok hclear) ?_ (by simp) (by simp) (.pure hroom₂ ⟨rfl, rfl, ?_, ?_⟩)
  · have hput {t : Store} (place : Nat) (ht : t.memory.size = s₁.memory.size) (hp : place ≤ 12) :
        Keeps s.heap.toNat t (putWord t (s.heap.toNat + place) 0) :=
      .putWord 0 (by omega) (by omega)
    exact (((hput 0 (by simp) (by omega)).trans (hput 4 (by simp) (by omega))).trans
      (hput 8 (by simp) (by omega))).trans (hput 12 (by simp) (by omega))
  · simp only [List.foldl_cons, List.foldl_nil, putWord_heap]
    exact hwidth
  · exact (has_putWord 0 (by simp; omega)).putWord (by simp; omega) (by simp)

theorem program_plain (ho : g.Orderly) (entrypoint : UInt32) :
    ∀ step ∈ g.program entrypoint, step.plain g = true := by
  rw [Description.program]
  cases h : g.programs[entrypoint.toNat]? with
  | some steps => exact ho.programs steps (List.mem_of_getElem? h)
  | none =>
      cases hp : g.programs with
      | nil => exact fun _ h => absurd h List.not_mem_nil
      | cons steps _ => exact ho.programs steps (by rw [hp]; exact List.mem_cons_self)

/-- Keeps what a program ended with in the context. -/
def keepResult (context : UInt32) : Ending → Run Int
  | .result a => do
      fillPart context (some 12) a
      return 0
  | .code n => return n

/-- In a context that is filled, evaluating is running the program. -/
theorem evaluate_filled {context input data entrypoint : UInt32} (ho : g.Orderly)
    (hfilled : Filled context input data entrypoint s) :
    (evaluate g host context).run s =
      (runSteps g host ⟨input, data⟩ 0 (g.program entrypoint) >>= keepResult context).run
        s := by
  rw [evaluate, ho.context]
  exact (run_bind_of_ok (readPart_run hfilled.input)).trans
    ((run_bind_of_ok (readPart_run hfilled.data)).trans
      (run_bind_of_ok (readPart_run hfilled.entrypoint)))

theorem evaluate_follows {context entrypoint : UInt32} (ho : g.Orderly) (hroom : Room s)
    (hview : Viewed g context.toNat (context.toNat + 16) view s)
    (hfilled : Filled context view.input.address view.data.address entrypoint s)
    (hbelow : context.toNat + 16 ≤ s.heap.toNat) :
    Follows context.toNat (Results context) 
      (evaluate g (answer (.described g) services host) context)
      (Plan.steps g services s.fuel.isSome view .null (g.program entrypoint)) s := by
  have hsteps : Follows s.heap.toNat _
      (runSteps g (answer (.described g) services host) (scopeOf view) 0 (g.program entrypoint)) _
        s :=
    steps_follows ho (program_plain ho entrypoint) hroom hview hview.charted.null hbelow
  rw [← bind_pure (Plan.steps _ _ _ _ _ _)]
  refine .of_run_eq (evaluate_filled ho hfilled) (.bind hroom hsteps (by omega) ?_)
  rintro _ c s₁ hroom₁ hlater ⟨rfl, hc⟩
  have hheap := hlater.heap
  have hsize := hroom₁.heap
  have hfits : context.toNat + 12 + 4 ≤ s₁.memory.size := by omega
  exact .done hroom₁ (run_bind_of_ok (fillPart_run hfits)) rfl
    (.putWord _ hfits (Nat.le_add_right _ _)) (putWord_heap _ _ _) (putWord_fuel _ _ _)
    ⟨rfl, hc.putWord (by omega) (Nat.le_refl _) hfits, has_putWord _ hfits⟩

end PolicyHost.Guest
