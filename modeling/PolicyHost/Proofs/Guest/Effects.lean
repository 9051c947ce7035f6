import PolicyHost.Guest.Instance
import PolicyHost.Proofs.Guest.Callback
import PolicyHost.Proofs.Guest.Crossing
import PolicyHost.Proofs.Work

/-!
# What any guest can do

The code of a guest moves its heap pointer, keeps its globals, prints, writes
inside its memory and lets it grow within its limit, takes fuel, and has builtins
answered, and it does nothing else to its store. So a relation between stores that
these moves keep to, a `Frame`, holds between the store before and the store after
all work of all guests, however the work ends. `Within` says this together with the
kinds of errors that the work may end with. `Confined.within` is the induction over
what code is made of, and `dispatch_within` the one over how deep its calls are.
-/

namespace PolicyHost.Guest

open Json Builtin

/-- A relation that taking bytes from the heap does not leave. -/
structure HeapFrame (R : Store → Store → Prop) : Prop extends Lasting R where
  heap : ∀ s a, R s { s with heap := a }
  grow : ∀ s pages, ¬ s.limit < s.memory.size + pages * pageSize →
    R s { s with
      memory := s.memory.grow pages, peak := max s.peak (s.memory.size + pages * pageSize) }

/-- A relation that no single move of a guest leaves, taking fuel among them if it
`burns`. -/
structure Frame (burns : Bool) (R : Store → Store → Prop) : Prop extends HeapFrame R where
  globals : ∀ s n, R s { s with globals := n }
  printed : ∀ s lines, R s { s with printed := lines }
  write : ∀ s a (bytes : List UInt8), a + bytes.length ≤ s.memory.size →
    R s { s with memory := s.memory.write a bytes }
  fuel : burns = true → ∀ s n, R s { s with fuel := n }

/-- Work that takes no fuel leaves it as it was. -/
theorem fuel_frame : Frame false fun s t : Store => t.fuel = s.fuel where
  refl _ := rfl
  trans h h' := h'.trans h
  heap _ _ := rfl
  globals _ _ := rfl
  printed _ _ := rfl
  write _ _ _ _ := rfl
  grow _ _ _ := rfl
  fuel h := nomatch h

/-! ## Work that only stops -/

/-- The guest stopped: it gave up, or it was stopped. -/
def Halt (e : Error) : Prop := e.taints = true

section

variable {R : Store → Store → Prop} {kind : Error → Prop} {g : Description} {s : Store}
  (hR : HeapFrame R)
include hR

theorem growMemory_within (pages : Nat) : Within R kind (growMemory pages) s := by
  by_cases h : s.limit < s.memory.size + pages * pageSize
  · exact .of_ok (growMemory_refused h) (hR.refl s)
  · exact .of_ok (growMemory_granted h) (hR.grow s pages h)

theorem allocate_within (count : UInt32) : Within R Halt (allocate g count) s := by
  rw [allocate]
  split
  · exact .pure hR.toLasting _
  · refine .get (.bind hR.toLasting (.modify (hR.heap s _)) fun _ t => ?_)
    split
    · refine .get ?_
      dsimp only
      split
      · refine .bind hR.toLasting (growMemory_within hR _) fun answer u => ?_
        split
        · exact .throw_bind hR.toLasting rfl
        · exact .pure hR.toLasting _
      · exact .pure hR.toLasting _
    · exact .pure hR.toLasting _

end

section

variable {α : Type} {burns : Bool} {R : Store → Store → Prop} {kind : Error → Prop} {s : Store}

theorem burn_within (hR : Frame true R) (hkind : ∀ e, Halt e → kind e) (amount : UInt64) :
    Within R kind (burn amount) s := by
  refine .get ?_
  split
  · split
    · exact .bind hR.toLasting (.modify (hR.fuel rfl s _)) fun _ t =>
        .throw hR.toLasting (hkind _ rfl)
    · exact .modify (hR.fuel rfl s _)
  · exact .pure hR.toLasting ()

theorem print_within (hR : Frame burns R) (a : UInt32) : Within R kind (print a) s := by
  refine .modify ?_
  split
  · exact hR.printed s _
  · exact hR.refl s

theorem writeBytes_within (hR : Frame burns R) (hkind : ∀ e, Halt e → kind e) (a : Nat)
    (bytes : List UInt8) : Within R kind (writeBytes a bytes) s := by
  by_cases h : a + bytes.length ≤ s.memory.size
  · exact .of_ok (writeBytes_run h) (hR.write s a bytes h)
  · refine .get ?_
    rw [if_neg (by simpa [Memory.holds] using h)]
    exact .throw hR.toLasting (hkind _ rfl)

/-- Whatever is made of the moves of a guest keeps to a frame, if its host does. -/
theorem Confined.within {work : Host → Run α} {host : Host} (h : Confined burns work)
    (hR : Frame burns R) (hkind : ∀ e, Halt e → kind e)
    (hhost : ∀ id operands s, Within R kind (host id operands) s) (s : Store) :
    Within R kind (work host) s := by
  induction h generalizing s with
  | pure a => exact .pure hR.toLasting a
  | bind _ _ ih ihnext => exact .bind hR.toLasting (ih s) fun a t => ihnext a t
  | look => exact .of_ok rfl (hR.refl s)
  | stop cause => exact .throw hR.toLasting (hkind _ rfl)
  | abort a => exact .of_error rfl (hR.refl s) (hkind _ rfl)
  | print a => exact print_within hR a
  | grow pages => exact growMemory_within hR.toHeapFrame pages
  | write a bytes => exact writeBytes_within hR hkind a bytes
  | heap f => exact .modify (hR.heap s _)
  | globals f => exact .modify (hR.globals s _)
  | burn hburns amount =>
      subst hburns
      exact burn_within hR hkind amount
  | builtin id operands => exact hhost id operands s

end

/-! ## Values in and out -/

/-- What bringing a text in can fail with. -/
inductive LoadFault : Error → Prop
  /-- The guest stopped meanwhile. -/
  | halt {e : Error} (h : Halt e) : LoadFault e
  /-- The text is too long for any guest. -/
  | oversized (length : Nat) : LoadFault (.transfer (.oversized length))
  /-- The guest's parser refuses the text. -/
  | refused (a : Address) (length : Nat) : LoadFault (.refusedText a length)

/-- What bringing a value out can fail with. -/
inductive DumpFault : Error → Prop
  /-- The guest stopped meanwhile. -/
  | halt {e : Error} (h : Halt e) : DumpFault e
  /-- The text has no end. -/
  | unterminated (a : Address) : DumpFault (.transfer (.unterminated a))
  /-- The text is no JSON. -/
  | malformed (a : Address) : DumpFault (.transfer (.malformed a))

section

variable {α : Type} {burns : Bool} {R : Store → Store → Prop} {kind : Error → Prop} {g : Guest}
  {host : Host} {s : Store}

/-- A call of the host can fail before the guest gets to work. -/
theorem invoke_within {code : Code α} (hR : Lasting R) (hkind : ∀ e, Halt e → kind e)
    (h : Within R kind (code.run host) s) : Within R kind (code.invoke host) s := by
  refine .get ?_
  split
  · exact .throw hR (hkind _ rfl)
  · exact h

theorem storeText_within (hR : Frame burns R) (hkind : ∀ e, LoadFault e → kind e)
    (hparse : ∀ a count s, Within R kind ((g.jsonParse a count).run host) s)
    (bytes : List UInt8) (a : UInt32) (s : Store) :
    Within R kind (storeText g host bytes a) s := by
  have hlasting := hR.toLasting
  have hhalt (e : Error) (he : Halt e) : kind e := hkind e (.halt he)
  by_cases hfits : a.toNat + bytes.length ≤ s.memory.size
  · rw [storeText]
    refine .get ?_
    rw [if_pos (by simpa [Memory.holds] using hfits)]
    refine .bind hlasting (.modify (hR.write s _ _ hfits)) fun _ t => ?_
    refine .bind hlasting (invoke_within hlasting hhalt (hparse _ _ t)) fun value u => ?_
    split
    · exact .throw_bind hlasting (hkind _ (.refused _ _))
    · exact .pure hlasting value
  · exact .of_error (storeText_outside hfits) (hR.refl s) (hhalt _ rfl)

theorem loadText_within (hR : Frame burns R) (hkind : ∀ e, LoadFault e → kind e)
    (hmalloc : ∀ count s, Within R kind ((g.malloc count).run host) s)
    (hparse : ∀ a count s, Within R kind ((g.jsonParse a count).run host) s)
    (bytes : List UInt8) (s : Store) : Within R kind (loadText g host bytes) s := by
  by_cases hlong : longestText < bytes.length
  · exact .of_error (loadText_oversized hlong) (hR.refl s) (hkind _ (.oversized _))
  rw [loadText_eq (Nat.le_of_not_lt hlong)]
  refine .bind hR.toLasting ?_ fun a t => storeText_within hR hkind hparse bytes a t
  exact invoke_within hR.toLasting (fun e he => hkind e (.halt he)) (hmalloc _ s)

theorem dump_within (hR : Lasting R) (hkind : ∀ e, DumpFault e → kind e)
    (hdump : ∀ a s, Within R kind ((g.jsonDump a).run host) s) (a : UInt32) (s : Store) :
    Within R kind (dump g host a) s := by
  have hhalt (e : Error) (he : Halt e) : kind e := hkind e (.halt he)
  refine .bind hR (invoke_within hR hhalt (hdump a s)) fun place t => .get ?_
  cases htext : t.memory.textAt ⟨place⟩ with
  | error e =>
      refine .throw hR (hkind e ?_)
      rw [Memory.textAt_eq] at htext
      split at htext
      · cases htext
        exact .halt rfl
      · split at htext
        · cases htext
        · cases htext
          exact .unterminated _
  | ok bytes =>
      dsimp only
      split
      · exact .pure hR _
      · exact .throw hR (hkind _ (.malformed _))

end

theorem LoadFault.ends {e : Error} (h : LoadFault e) (text : String) : e ≠ .crashed text := by
  rintro rfl
  cases h with
  | halt h => cases h

/-- Bringing a value into a guest that is described takes no fuel, and fails for
want of room or for the value only. -/
theorem load_described {g : Description} {host : Host} {v : Value} (s : Store) :
    Within (fun s t : Store => t.fuel = s.fuel) LoadFault (load (.described g) host v) s := by
  let R : Store → Store → Prop := fun s t => t.fuel = s.fuel
  have hnothing {α : Type} {work : Run α} (e : Export) (h : Confined false fun _ => work)
      (s : Store) : Within R LoadFault (guarded g e work) s := by
    have hhost (id : UInt32) (operands : List UInt32) (s : Store) :
        Within R LoadFault ((fun _ _ => stop .earlyCall : Host) id operands) s :=
      .throw fuel_frame.toLasting (.halt rfl)
    exact (guarded_confined g e h).within fuel_frame (fun _ => .halt) hhost s
  rw [load_eq]
  exact loadText_within (R := R) fuel_frame (fun _ he => he)
    (fun count => hnothing .allocate (allocate_confined g count))
    (fun a count => hnothing .parse (parse_confined g a count)) (encode v) s

/-! ## Builtins -/

/-- What work of a guest can fail with, and the host with it. -/
inductive EvaluationFault (services : Services) : Error → Prop
  | load {e : Error} (h : LoadFault e) : EvaluationFault services e
  | dump {e : Error} (h : DumpFault e) : EvaluationFault services e
  /-- The id of a builtin has no slot. -/
  | withoutSlot {table : BuiltinTable} {id : BuiltinId} (ht : services.table = some table)
      (h : table.get? id = none) : EvaluationFault services (.notImplemented id none)
  /-- The slot has no entry. -/
  | withoutEntry {table : BuiltinTable} {id : BuiltinId} {slot : Slot}
      (ht : services.table = some table) (hslot : table.get? id = some slot)
      (h : slot.entry = none) : EvaluationFault services (.notImplemented id (some slot.name))
  /-- A builtin failed, and that is an error for the host. -/
  | failed {entry : Entry} {failure : Failure} {e : Error}
      (h : services.errorOf entry failure = some e) : EvaluationFault services e
  | missingExport (name : String) (fault : ExportFault) :
      EvaluationFault services (.missingExport name fault)

theorem EvaluationFault.halt {services : Services} {e : Error} (h : Halt e) :
    EvaluationFault services e :=
  .load (.halt h)

section

variable {α : Type} {R : Store → Store → Prop} {g : Guest} {services : Services} {host : Host}

/-- A host that keeps to a relation, whichever builtin it is asked for. -/
def Host.Within (R : Store → Store → Prop) (services : Services) (host : Host) : Prop :=
  ∀ id operands s, PolicyHost.Within R (EvaluationFault services) (host id operands) s

theorem Code.within (hR : Frame true R) (hhost : host.Within R services) (code : Code α)
    (s : Store) : Within R (EvaluationFault services) (code.run host) s :=
  code.confined.within hR (fun _ => .halt) hhost s

theorem Code.invoke_within (hR : Frame true R) (hhost : host.Within R services) (code : Code α)
    (s : Store) : Within R (EvaluationFault services) (code.invoke host) s :=
  Guest.invoke_within hR.toLasting (fun _ => .halt) (code.within hR hhost s)

theorem Host.Within.loadText (hR : Frame true R) (hhost : host.Within R services)
    (bytes : List UInt8) (s : Store) :
    PolicyHost.Within R (EvaluationFault services) (loadText g host bytes) s :=
  loadText_within hR (fun _ => .load) (fun _ => (g.malloc _).within hR hhost)
    (fun _ _ => (g.jsonParse _ _).within hR hhost) bytes s

theorem Host.Within.load (hR : Frame true R) (hhost : host.Within R services) (v : Value)
    (s : Store) : PolicyHost.Within R (EvaluationFault services) (load g host v) s := by
  rw [load_eq]
  exact Host.Within.loadText hR hhost _ s

theorem Host.Within.dump (hR : Frame true R) (hhost : host.Within R services) (a : UInt32)
    (s : Store) : PolicyHost.Within R (EvaluationFault services) (dump g host a) s :=
  dump_within hR.toLasting (fun _ => .dump) (fun _ => (g.jsonDump _).within hR hhost) a s

/-- What becomes of an answer keeps to what bringing it in keeps to. -/
theorem settle_within (hR : Frame true R) (hhost : host.Within R services) (entry : Entry)
    (answer : Answer) (s : Store) :
    Within R (EvaluationFault services) (settle g services host entry answer) s := by
  match answer with
  | .ok (some v) => exact Host.Within.load hR hhost v s
  | .ok none => exact .pure hR.toLasting 0
  | .error failure =>
      rw [settle]
      cases h : services.errorOf entry failure with
      | some e => exact .throw hR.toLasting (.failed h)
      | none => exact .pure hR.toLasting 0

/-- Answering a builtin keeps to what the calls inside of it keep to. -/
theorem answer_within (hR : Frame true R) (hhost : host.Within R services) :
    (answer g services host).Within R services := by
  intro id operands s
  have hlasting := hR.toLasting
  rcases answer_cases g services host id operands with ⟨-, heq⟩ | ⟨table, ht, hslot, heq⟩ |
    ⟨table, slot, ht, hslot, hentry, heq⟩ | ⟨table, slot, entry, -, -, -, heq⟩
  · rw [heq]
    exact .throw hlasting (.halt rfl)
  · rw [heq]
    exact .throw hlasting (.withoutSlot ht hslot)
  · rw [heq]
    exact .throw hlasting (.withoutEntry ht hslot hentry)
  · rw [heq]
    refine .bind hlasting (.mapM hlasting (fun a t => Host.Within.dump hR hhost a t) operands s)
      fun values t => settle_within hR hhost entry _ t

/-- However deep the calls of builtins are, one inside of the other. -/
theorem dispatch_within (hR : Frame true R) (nesting : Nat) :
    (dispatch g services nesting).Within R services := by
  induction nesting with
  | zero => exact fun _ _ _ => .throw hR.toLasting (.halt rfl)
  | succ nesting ih => exact answer_within hR ih

theorem host_within (hR : Frame true R) : (g.host services).Within R services :=
  dispatch_within hR g.nesting

theorem answer_described {g : Description} (hR : Frame true R) :
    (answer (.described g) services host).Within R services :=
  answer_host g services (dispatch (.described g) services 0) host ▸ dispatch_within hR 1

end

/-! ## Starting -/

/-- What starting a guest can fail with. -/
inductive StartFault (services : Services) : Error → Prop
  | guest {e : Error} (h : EvaluationFault services e) : StartFault services e
  | engine (f : EngineFault) : StartFault services (.engine f)
  | badTable (table : String) : StartFault services (.transfer (.badTable table))

section

variable {R : Store → Store → Prop} {g : Guest} {services : Services} {host : Host} {s : Store}
  (hR : Frame true R)
include hR

theorem require_within (e : Export) :
    Within R (StartFault services) (g.require e : Run Unit) s := by
  refine .lift hR.toLasting fun error h => ?_
  rw [require] at h
  split at h
  · cases h
    exact .guest (.missingExport _ _)
  · split at h
    · cases h
      exact .guest (.missingExport _ _)
    · cases h

theorem boot_within (hhost : host.Within R services) :
    Within R (StartFault services) (boot g host) s := by
  have hlasting := hR.toLasting
  have hsegment (segment : Nat × List UInt8) (t : Store) :
      Within R (EvaluationFault services) (writeBytes segment.1 segment.2) t :=
    writeBytes_within hR (fun _ => .halt) _ _
  refine .tryCatch hlasting (?body : Within R (EvaluationFault services) _ s)
    fun e t he => ?_
  case body =>
    refine .bind hlasting (.forM hlasting hsegment _ _) fun _ t => ?_
    split
    · exact Code.invoke_within hR hhost _ t
    · exact .pure hlasting _
  split
  · exact .throw hlasting (.engine _)
  · exact .throw hlasting (.guest he)

theorem tellTables_within (hhost : host.Within R services) (registry : Registry) :
    Within R (StartFault services) (tellTables g host registry) s := by
  have hlasting := hR.toLasting
  have hdump (a : UInt32) (t : Store) : Within R (StartFault services) (dump g host a) t :=
    (Host.Within.dump hR hhost a t).weaken fun _ => .guest
  have hcall (code : Code UInt32) (t : Store) :
      Within R (StartFault services) (code.invoke host) t :=
    (code.invoke_within hR hhost t).weaken fun _ => .guest
  refine .bind hlasting (require_within hR _) fun _ t => ?_
  refine .bind hlasting (hcall _ t) fun names t => ?_
  refine .bind hlasting (hdump _ t) fun v t => ?_
  refine .bind hlasting (.lift hlasting fun e he => ?_) fun builtins t => ?_
  · rw [BuiltinTable.resolve] at he
    split at he
    · cases he
    · cases he
      exact .badTable _
  split
  · exact .pure hlasting _
  · refine .bind hlasting (require_within hR _) fun _ t => ?_
    refine .bind hlasting (hcall _ t) fun names t => ?_
    refine .bind hlasting (hdump _ t) fun v t => ?_
    refine .bind hlasting (.lift hlasting fun e he => ?_) fun entrypoints t => .pure hlasting _
    rw [entrypointsOfValue] at he
    split at he
    · cases he
    · cases he
      exact .badTable _

theorem instantiate_within (config : Config) (registry : Registry) :
    Within R (StartFault ⟨none, config.strict⟩) (instantiate g config registry) s := by
  have hlasting := hR.toLasting
  refine .bind hlasting (.lift hlasting fun e he => ?_) fun _ t => ?_
  · rw [link] at he
    split at he
    · cases he
      exact .engine _
    · split at he
      · cases he
        exact .engine _
      · cases he
  refine .bind hlasting (boot_within hR (host_within hR)) fun _ t => ?_
  refine .bind hlasting (.forM hlasting (fun e t => require_within hR e) _ _) fun _ t => ?_
  have hpermit (e : Export) (t : Store) :
      Within R (StartFault ⟨none, config.strict⟩) (g.permit e : Run Unit) t := by
    rw [permit]
    split
    · exact .pure hlasting _
    · exact require_within hR e
  refine .bind hlasting (.forM hlasting hpermit _ _) fun _ t => ?_
  exact tellTables_within hR (host_within hR) registry

end

end PolicyHost.Guest
