import PolicyHost.Proofs.Guest.Moves
import PolicyHost.Proofs.Session.History

/-!
# What operations leave alone

No operation on any guest touches what is `Fixed`. To the store it does nothing
but let the guest make moves, and it fails with an `OperationFault`. As for
single stores, this is said of relations that the moves of the guest do not
leave, which are a `Frame` here too. An act `Abides` by such a relation if it
comes to a related session from every session with the same services; the rules
of `Abides` take an act apart. `perform_within` puts the operations together, and
`kept_after` is the induction over the operations of a history.
-/

namespace PolicyHost.Session

open Json Guest

variable {α β : Type} {Q : Session → Session → Prop} {services : Services} {s t : Session}

/-! ## What is left alone -/

/-- A relation that moves of the guest do not leave. The services stay in it. -/
structure Frame (Q : Session → Session → Prop) : Prop extends Lasting Q where
  store : ∀ (s : Session) (u : Store), Moves s.store u → Q s { s with store := u }
  services : ∀ {s t : Session}, Q s t → t.services = s.services

/-- What an operation can fail with. -/
inductive OperationFault (services : Services) : Error → Prop
  | guest {e : Error} (h : EvaluationFault services e) : OperationFault services e
  | unencodable : OperationFault services (.transfer .unencodable)
  | unknownEntrypoint (name : String) :
      OperationFault services (.config (.unknownEntrypoint name))

namespace OperationFault

theorem halt {e : Error} (h : Halt e) : OperationFault services e := .guest (.halt h)

theorem encode {p : Payload} {e : Error} (h : p.encode = .error e) : OperationFault services e := by
  cases p with
  | json v => cases h
  | unencodable =>
      cases h
      exact .unencodable

theorem value {p : Payload} {e : Error} (h : p.value = .error e) : OperationFault services e := by
  cases p with
  | json v => cases h
  | unencodable =>
      cases h
      exact .unencodable

theorem target {target : Target} {e : Error} (h : target.id? s = .error e) :
    OperationFault services e := by
  cases target with
  | main | numbered => cases h
  | named name =>
      rw [Target.id?] at h
      split at h
      · cases h
      · cases h
        exact .unknownEntrypoint name

end OperationFault

theorem demand_fault {g : Guest} {x : Export} {e : Error} (h : demand g x = .error e) :
    EvaluationFault services e := by
  rw [demand] at h
  split at h
  · cases h
    exact .missingExport _ _
  · cases h

/-! ## Acts -/

/-- On every session with the services an act comes to a related session, and it
fails as operations do. -/
def Abides (Q : Session → Session → Prop) (services : Services) (work : Act α) : Prop :=
  ∀ s : Session, s.services = services → Within Q (OperationFault services) work s

namespace Abides

variable {work : Act α} {next : α → Act β} (hQ : Frame Q)
include hQ

theorem pure (a : α) : Abides Q services (pure a : Act α) :=
  fun _ _ => .pure hQ.toLasting a

theorem throw {e : Error} (h : OperationFault services e) :
    Abides Q services (throw e : Act α) :=
  fun _ _ => .throw hQ.toLasting h

theorem lift {x : Except Error α} (h : ∀ e, x = .error e → OperationFault services e) :
    Abides Q services (x : Act α) :=
  fun _ _ => .lift hQ.toLasting h

omit hQ in
theorem modify {f : Session → Session} (h : ∀ s, Q s (f s)) :
    Abides Q services (modify f : Act PUnit) :=
  fun s _ => .modify (h s)

omit hQ in
theorem get {next : Session → Act β} (h : ∀ s, Abides Q services (next s)) :
    Abides Q services (get >>= next) :=
  fun s hs => .get (h s s hs)

theorem bind (h : Abides Q services work) (hnext : ∀ a, Abides Q services (next a)) :
    Abides Q services (work >>= next) :=
  fun s hs => .bind_related hQ.toLasting (h s hs) fun a t ht =>
    hnext a t ((hQ.services ht).trans hs)

/-- After an attempt it goes on from a result or from an error. -/
theorem attempt {next : Except Error α → Act β} (h : Abides Q services work)
    (hok : ∀ a, Abides Q services (next (.ok a)))
    (herror : ∀ e, OperationFault services e → Abides Q services (next (.error e))) :
    Abides Q services (attempt work >>= next) := by
  intro s hs
  cases hrun : work.run s with
  | mk r t =>
      have hstate := (h s hs).state_of_run hrun
      have ht := (hQ.services hstate).trans hs
      by_cases hcrash : ∃ text, r = .error (.crashed text)
      · obtain ⟨text, rfl⟩ := hcrash
        exact .of_error (attempt_crashed hrun) hstate ((h s hs).error_of_run hrun)
      have hrest : Within Q (OperationFault services) (next r) t := by
        cases r with
        | ok a => exact hok a t ht
        | error e => exact herror e ((h s hs).error_of_run hrun) t ht
      have hgoes : (Session.attempt work >>= next).run s = (next r).run t :=
        attempt_run hrun fun text ht => hcrash ⟨text, ht⟩
      refine ⟨?_, ?_⟩
      · rw [hgoes]
        exact hQ.trans hstate hrest.state
      · rw [hgoes]
        exact hrest.error

/-- Work with the guest keeps to moves, because its host does. -/
theorem onGuest {f : Guest → Host → Run α}
    (h : ∀ g host, host.Within Moves services → ∀ u,
      PolicyHost.Within Moves (EvaluationFault services) (f g host) u) :
    Abides Q services (onGuest f) := by
  rintro s rfl
  have hwork := h s.guest s.host (host_within moves_frame) s.store
  exact ⟨hQ.store s _ hwork.state, fun e he => .guest (hwork.error e he)⟩

theorem code {f : Guest → Code α} :
    Abides Q services (Session.onGuest fun g host => (f g).invoke host) :=
  .onGuest hQ fun g _ hhost u => (f g).invoke_within moves_frame hhost u

theorem load (v : Value) : Abides Q services (Session.onGuest fun g host => load g host v) :=
  .onGuest hQ fun _ _ hhost u => Host.Within.load moves_frame hhost v u

theorem refuel : Abides Q services refuel :=
  .modify fun s => hQ.store s _ (moves_frame.fuel rfl s.store s.maxFuel)

theorem rewind (place : Session → UInt32) : Abides Q services (rewind place) :=
  .bind hQ (.refuel hQ) fun _ => .get fun _ => .code hQ

theorem heapPointer : Abides Q services heapPointer := .code hQ

end Abides

section

variable (hQ : Frame Q)
include hQ

theorem loadEmpty_abides (hdata : ∀ (s : Session) (a : UInt32), Q s { s with data := a })
    (hcheckpoint : ∀ (s : Session) (a : UInt32), Q s { s with checkpoint := a }) :
    Abides Q services loadEmpty := by
  refine .get fun s => .bind hQ (.code hQ) fun _ => .bind hQ (.load hQ _) fun a => ?_
  refine .bind hQ (.modify fun s => hdata s a) fun _ => .bind hQ (.heapPointer hQ) fun a => ?_
  exact .modify fun s => hcheckpoint s a

/-- A path update changes nothing but the store and the checkpoint. -/
theorem update_abides (hcheckpoint : ∀ (s : Session) (a : UInt32), Q s { s with checkpoint := a })
    {apply : (data path : UInt32) → Guest → Host → Run Int}
    (happly : ∀ data place g host, host.Within Moves services → ∀ u,
      PolicyHost.Within Moves (EvaluationFault services) (apply data place g host) u)
    (path : List String) : Abides Q services (update path apply) := by
  have hrecord : Abides Q services
      (heapPointer >>= fun checkpoint => modify fun s : Session => { s with checkpoint }) :=
    .bind hQ (.heapPointer hQ) fun a => .modify fun s => hcheckpoint s a
  refine .bind hQ (.rewind hQ _) fun _ => .bind hQ (.load hQ _) fun place => .get fun s => ?_
  refine .bind hQ (.onGuest hQ (happly s.data place)) fun code => ?_
  split
  · exact .get fun s => .bind hQ (.code hQ) fun _ =>
      .bind hQ (.throw hQ (.halt rfl)) fun _ => hrecord
  · exact hrecord

theorem addPath_abides (hcheckpoint : ∀ (s : Session) (a : UInt32), Q s { s with checkpoint := a })
    (path : List String) (p : Payload) : Abides Q services (addPath path p) := by
  refine .get fun s => .bind hQ (.lift hQ fun e he => .guest (demand_fault he)) fun _ => ?_
  refine .bind hQ (.lift hQ fun e => .encode) fun bytes => ?_
  refine update_abides hQ hcheckpoint (fun data place g host hhost u => ?_) path
  have hload : PolicyHost.Within Moves (EvaluationFault services) (loadText g host bytes) u :=
    Host.Within.loadText moves_frame hhost bytes u
  refine .bind moves_frame.toLasting hload fun value u => ?_
  exact Code.invoke_within moves_frame hhost _ u

theorem removePath_abides
    (hcheckpoint : ∀ (s : Session) (a : UInt32), Q s { s with checkpoint := a })
    (path : List String) : Abides Q services (removePath path) := by
  refine .get fun s => .bind hQ (.lift hQ fun e he => .guest (demand_fault he)) fun _ => ?_
  refine update_abides hQ hcheckpoint (fun data place g host hhost u => ?_) path
  exact Code.invoke_within moves_frame hhost _ u

end

/-! ## Every operation -/

/-- What is fixed is the same, and the guest made moves. -/
structure Kept (s t : Session) : Prop extends Fixed s t where
  moves : Moves s.store t.store

theorem Kept.of_store_eq (h : Fixed s t) (hstore : t.store = s.store) : Kept s t :=
  ⟨h, hstore ▸ .refl⟩

theorem kept_frame : Frame Kept where
  refl s := ⟨.refl s, .refl⟩
  trans h h' := ⟨h.toFixed.trans h'.toFixed, h.moves.trans h'.moves⟩
  store _ _ h := ⟨⟨rfl, rfl, rfl, rfl, rfl⟩, h⟩
  services h := h.services

theorem evaluateText_within {R : Store → Store → Prop} (hR : Guest.Frame true R) {host : Host}
    (hhost : host.Within R services) (data : UInt32) (id : Option EntrypointId)
    (bytes : List UInt8) (g : Guest) (u : Store) :
    Within R (EvaluationFault services) (evaluateText data id bytes g host) u := by
  have hlasting := hR.toLasting
  have hcall {α : Type} (code : Code α) (u : Store) := code.invoke_within hR hhost u
  have hrest (context : UInt32) (u : Store) : Within R (EvaluationFault services) (do
      let code ← (g.eval context).invoke host
      if code ≠ 0 then stop (.evaluationCode code)
      let result ← (g.getResult context).invoke host
      dump g host result) u := by
    refine .bind hlasting (hcall _ u) fun code u => ?_
    have hout (u : Store) : Within R (EvaluationFault services) (do
        let result ← (g.getResult context).invoke host
        dump g host result) u :=
      .bind hlasting (hcall _ u) fun result u => Host.Within.dump hR hhost result u
    split
    · exact .throw_bind hlasting (.halt rfl)
    · exact hout u
  refine .bind hlasting (Host.Within.loadText hR hhost bytes u) fun input u => ?_
  refine .bind hlasting (hcall _ u) fun context u => ?_
  refine .bind hlasting (hcall _ u) fun _ u => .bind hlasting (hcall _ u) fun _ u => ?_
  cases id with
  | none => exact hrest context u
  | some id =>
      refine .bind hlasting (.lift hlasting fun e => demand_fault) fun _ u => ?_
      exact .bind hlasting (hcall _ u) fun _ u => hrest context u

theorem evaluate_abides (target : Target) (p : Payload) :
    Abides Kept services (evaluate target p) := by
  have hQ := kept_frame
  refine .get fun s => .bind hQ (.lift hQ fun e => .target) fun id => ?_
  refine .bind hQ (.lift hQ fun e => .encode) fun bytes => ?_
  refine .bind hQ (.rewind hQ _) fun _ => .get fun s => ?_
  refine .attempt hQ (.onGuest hQ fun g host hhost u =>
    evaluateText_within moves_frame hhost s.data id bytes g u) (fun a => .pure hQ a) fun e he => ?_
  dsimp only
  split
  · exact .bind hQ (.modify fun _ => .of_store_eq ⟨rfl, rfl, rfl, rfl, rfl⟩ rfl) fun _ =>
      .throw hQ he
  · exact .throw hQ he

theorem setData_abides (p : Payload) : Abides Kept services (setData p) := by
  have hQ := kept_frame
  refine .bind hQ (.lift hQ fun e => .value) fun v => .bind hQ (.rewind hQ _) fun _ => ?_
  refine .attempt hQ (.load hQ v) (fun a => ?_) fun e he => ?_
  · refine .bind hQ (.modify fun _ => .of_store_eq ⟨rfl, rfl, rfl, rfl, rfl⟩ rfl) fun _ => ?_
    exact .bind hQ (.heapPointer hQ) fun a =>
      .modify fun _ => .of_store_eq ⟨rfl, rfl, rfl, rfl, rfl⟩ rfl
  · refine .bind hQ (.modify fun _ => .of_store_eq ⟨rfl, rfl, rfl, rfl, rfl⟩ rfl) fun _ => ?_
    have hreload : Abides Kept services loadEmpty :=
      loadEmpty_abides hQ (fun _ _ => .of_store_eq ⟨rfl, rfl, rfl, rfl, rfl⟩ rfl)
        fun _ _ => .of_store_eq ⟨rfl, rfl, rfl, rfl, rfl⟩ rfl
    refine .attempt hQ hreload (fun _ => .throw hQ he) fun _ _ => ?_
    exact .bind hQ (.modify fun _ => .of_store_eq ⟨rfl, rfl, rfl, rfl, rfl⟩ rfl) fun _ =>
      .throw hQ he

/-- No operation changes what is fixed, on any guest, and none does more to the
store than to let the guest make moves. -/
theorem perform_within (op : Operation) :
    Within Kept (OperationFault s.services) (perform op) s := by
  have hQ := kept_frame
  have hcheckpoint (s : Session) (a : UInt32) : Kept s { s with checkpoint := a } :=
    .of_store_eq ⟨rfl, rfl, rfl, rfl, rfl⟩ rfl
  have habides : Abides Kept s.services (perform op) := by
    cases op with
    | setData p => exact .bind hQ (setData_abides p) fun _ => .pure hQ _
    | evaluate target p => exact evaluate_abides target p
    | decide p => exact .bind hQ (evaluate_abides .main p) fun _ => .pure hQ _
    | addPath path p =>
        exact .bind hQ (addPath_abides hQ hcheckpoint path p) fun _ => .pure hQ _
    | removePath path =>
        exact .bind hQ (removePath_abides hQ hcheckpoint path) fun _ => .pure hQ _
  exact habides s rfl

/-- The first loading is work with the guest too. -/
theorem prepare_within :
    Within (fun s t : Session => Moves s.store t.store ∧ t.services = s.services)
      (OperationFault s.services) prepare s := by
  have hQ : Frame fun s t : Session => Moves s.store t.store ∧ t.services = s.services :=
    { refl := fun _ => ⟨.refl, rfl⟩
      trans := fun h h' => ⟨h.1.trans h'.1, h'.2.trans h.2⟩
      store := fun _ _ h => ⟨h, rfl⟩
      services := fun h => h.2 }
  have habides : Abides _ s.services prepare :=
    .bind hQ (.refuel hQ) fun _ => .bind hQ (.load hQ _) fun data =>
      .bind hQ (.heapPointer hQ) fun base => .modify fun _ => ⟨.refl, rfl⟩
  exact habides s rfl

theorem kept_takePrinted (s : Session) : Kept s s.takePrinted.2 where
  toFixed := (still_takePrinted s).toFixed
  moves := moves_frame.printed s.store []

theorem kept_next (s : Session) (op : Operation) : Kept s (s.next op) :=
  kept_frame.trans (perform_within op).state (kept_takePrinted _)

theorem kept_after (s : Session) (ops : List Operation) : Kept s (s.after ops) := by
  induction ops generalizing s with
  | nil => exact kept_frame.refl s
  | cons op ops ih => exact kept_frame.trans (kept_next s op) (ih (s.next op))

end PolicyHost.Session
