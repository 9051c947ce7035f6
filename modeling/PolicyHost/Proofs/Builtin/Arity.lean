import PolicyHost.Builtin.Catalog

/-!
# Operands that builtins read

A builtin takes its operands from the front, one after the other, and does nothing else
before it has them all: it may stop at an operand of another type than it wants, and
what it does in the end blames no operand any more (`Reads`). The number of operands
after which this is so is written apart from the builtins, in the catalog, and they agree
(`reads_catalog`). So operands past that number have no effect, one that is missing is
blamed if none before it has the wrong type, and no operand after the blamed one is
looked at (`arity_read`).
-/

namespace PolicyHost.Builtin

open Json

variable {α β : Type} {name : String} {k n : Nat}

/-! ## Outcomes without a blamed operand -/

/-- An outcome that blames no operand for its type. -/
def Untyped (r : Except Failure α) : Prop :=
  ∀ name expected position, r ≠ .error (.type name expected position)

theorem untyped_ok (a : α) : Untyped (.ok a : Except Failure α) := by
  intro name expected position h
  cases h

theorem untyped_refused (name : String) (cause : Refusal) :
    Untyped (.error (.refused name cause) : Except Failure α) := by
  intro name expected position h
  cases h

theorem untyped_crash (name : String) : Untyped (.error (.crash name) : Except Failure α) := by
  intro name expected position h
  cases h

theorem Untyped.bind {r : Except Failure α} {g : α → Except Failure β} (hr : Untyped r)
    (hg : ∀ a, Untyped (g a)) : Untyped (r >>= g) := by
  cases r with
  | ok a => exact hg a
  | error failure =>
      intro name expected position h
      cases h
      exact hr name expected position rfl

theorem untyped_mapM {f : α → Except Failure β} (hf : ∀ a, Untyped (f a)) (items : List α) :
    Untyped (items.mapM f) := by
  induction items with
  | nil => exact untyped_ok []
  | cons a items ih =>
      rw [List.mapM_cons]
      exact (hf a).bind fun b => ih.bind fun rest => untyped_ok (b :: rest)

/-! ## Reading operands in order -/

theorem operand_of_getElem? {operands : List Value} {v : Value} (h : operands[k]? = some v) :
    operand name operands k = .ok v := by
  rw [operand, h]

theorem operand_cases (name : String) (operands : List Value) (k : Nat) :
    (operands.length ≤ k ∧ operand name operands k = .error (.type name "present" k)) ∨
      ∃ v, k < operands.length ∧ operands[k]? = some v ∧ operand name operands k = .ok v := by
  cases h : operands[k]? with
  | none =>
      refine .inl ⟨List.getElem?_eq_none_iff.mp h, ?_⟩
      rw [operand, h]
  | some v =>
      obtain ⟨hlength, -⟩ := List.getElem?_eq_some_iff.mp h
      exact .inr ⟨v, hlength, rfl, operand_of_getElem? h⟩

/-- The operands from the `k`th up to the `n`th are all that is read, in their order, and the
outcome is a failure of their types only while some are left to be read. -/
inductive Reads (name : String) : (k n : Nat) → (List Value → Except Failure α) → Prop
  | settled {n : Nat} {r : Except Failure α} (h : Untyped r) : Reads name n n fun _ => r
  | mistyped {k n : Nat} {expected : String} (hk : k < n) (hexpected : expected ≠ "present") :
      Reads name (k + 1) n fun _ => .error (.type name expected k)
  | next {k n : Nat} {branch : Value → List Value → Except Failure α}
      (h : ∀ v, Reads name (k + 1) n (branch v)) :
      Reads name k n fun operands => operand name operands k >>= fun v => branch v operands

namespace Reads

variable {f : List Value → Except Failure α} {operands : List Value}

theorem le (h : Reads name k n f) : k ≤ n := by
  induction h with
  | settled => exact Nat.le_refl _
  | mistyped hk => exact hk
  | next _ ih => exact Nat.le_of_succ_le (ih .null)

/-- Operands after the last one that is read have no effect. -/
theorem take (h : Reads name k n f) (operands : List Value) :
    f (operands.take n) = f operands := by
  induction h with
  | settled | mistyped => rfl
  | @next k n branch h ih =>
      have hk : k < n := (h .null).le
      have hsame : operand name (operands.take n) k = operand name operands k := by
        rw [operand, operand, List.getElem?_take_of_lt hk]
      simp only [hsame, ih]

/-- The operand that is blamed is one of those that are read, and it is missing if it is the
one behind the last. -/
theorem blame (h : Reads name k n f) (hk : k ≤ operands.length) {other expected : String}
    {position : Nat} (hf : f operands = .error (.type other expected position)) :
    other = name ∧ (k ≤ position + 1 ∧ position < n) ∧ position ≤ operands.length ∧
      (expected = "present" ↔ position = operands.length) := by
  induction h with
  | settled h => exact absurd hf (h _ _ _)
  | mistyped hlt hexpected =>
      cases hf
      exact ⟨rfl, ⟨Nat.le_refl _, hlt⟩, by omega, iff_of_false hexpected (by omega)⟩
  | @next k n branch h ih =>
      have hlt : k < n := (h .null).le
      rcases operand_cases name operands k with ⟨hlength, hmissing⟩ | ⟨v, hlength, -, hread⟩
      · simp only [hmissing, bind, Except.bind] at hf
        cases hf
        exact ⟨rfl, ⟨by omega, hlt⟩, hk, iff_of_true rfl (by omega)⟩
      · simp only [hread, bind, Except.bind] at hf
        obtain ⟨hname, hposition, hrest⟩ := ih v hlength hf
        exact ⟨hname, ⟨by omega, hposition.2⟩, hrest⟩

/-- Where an operand is missing, some operand is blamed. -/
theorem blames (h : Reads name k n f) (hk : k ≤ operands.length) (hfew : operands.length < n) :
    ∃ expected position, f operands = .error (.type name expected position) := by
  induction h with
  | settled => omega
  | mistyped => exact ⟨_, _, rfl⟩
  | @next k n branch h ih =>
      rcases operand_cases name operands k with ⟨-, hmissing⟩ | ⟨v, hlength, -, hread⟩
      · exact ⟨"present", k, by simp only [hmissing, bind, Except.bind]⟩
      · simp only [hread, bind, Except.bind]
        exact ih v hlength hfew

/-- Operands after the blamed one have no effect. -/
theorem unchanged (h : Reads name k n f) (hk : k ≤ operands.length) {other expected : String}
    {position : Nat} (hf : f operands = .error (.type other expected position))
    (hposition : position < operands.length) {changed : List Value}
    (hsame : changed.take (position + 1) = operands.take (position + 1)) :
    f changed = f operands := by
  induction h with
  | settled | mistyped => rfl
  | @next k n branch h ih =>
      rcases operand_cases name operands k with ⟨hlength, hmissing⟩ | ⟨v, hlength, hget, hread⟩
      · simp only [hmissing, bind, Except.bind] at hf
        cases hf
        omega
      · simp only [hread, bind, Except.bind] at hf
        obtain ⟨-, ⟨hle, -⟩, -⟩ := (h v).blame hlength hf
        have hchanged : changed[k]? = some v := by
          rw [← List.getElem?_take_of_lt (by omega : k < position + 1), hsame,
            List.getElem?_take_of_lt (by omega), hget]
        simp only [hread, operand_of_getElem? hchanged, bind, Except.bind]
        exact ih v hlength hf

/-! ## Builtins that read their operands -/

theorem bind (h : Reads name k n f) {g : α → Except Failure β} (hg : ∀ a, Untyped (g a)) :
    Reads name k n fun operands => f operands >>= g := by
  induction h with
  | settled h => exact .settled (h.bind hg)
  | mistyped hk hexpected => exact .mistyped hk hexpected
  | next h ih =>
      simp only [bind_assoc]
      exact .next ih

theorem operandAs {read : Value → Except Failure β} {rest : β → List Value → Except Failure α}
    (hread : ∀ v, (∃ b, read v = .ok b) ∨
      ∃ expected, expected ≠ "present" ∧ read v = .error (.type name expected k))
    (hk : k < n) (h : ∀ b, Reads name (k + 1) n (rest b)) :
    Reads name k n fun operands =>
      (operand name operands k >>= read) >>= fun b => rest b operands := by
  simp only [bind_assoc]
  refine .next fun v => ?_
  rcases hread v with ⟨b, hb⟩ | ⟨expected, hexpected, hb⟩
  · simp only [hb]
    exact h b
  · simp only [hb]
    exact .mistyped hk hexpected

theorem text {rest : List Char → List Value → Except Failure α}
    (h : ∀ cs, Reads name (k + 1) n (rest cs)) :
    Reads name k n fun operands => textOperand name operands k >>= fun cs => rest cs operands := by
  refine operandAs (fun v => ?_) (h []).le h
  cases v with
  | string s => exact .inl ⟨_, rfl⟩
  | _ => exact .inr ⟨"string", by decide, rfl⟩

theorem array {rest : List Value → List Value → Except Failure α}
    (h : ∀ items, Reads name (k + 1) n (rest items)) :
    Reads name k n fun operands =>
      arrayOperand name operands k >>= fun items => rest items operands := by
  refine operandAs (fun v => ?_) (h []).le h
  cases v with
  | array items => exact .inl ⟨_, rfl⟩
  | _ => exact .inr ⟨"array", by decide, rfl⟩

theorem integer {rest : Int → List Value → Except Failure α}
    (h : ∀ i, Reads name (k + 1) n (rest i)) :
    Reads name k n fun operands =>
      integerOperand name operands k >>= fun i => rest i operands := by
  refine operandAs (fun v => ?_) (h 0).le h
  cases v with
  | number x =>
      cases hform : x.int64? with
      | some i => exact .inl ⟨i, by simp only [hform]⟩
      | none =>
          cases hfloat : int64OfBinary64? x.toBinary64 with
          | some i => exact .inl ⟨i, by simp only [hform, hfloat]⟩
          | none => exact .inr ⟨"integer", by decide, by simp only [hform, hfloat]⟩
  | _ => exact .inr ⟨"number", by decide, rfl⟩

theorem of_value {answer : Value → Option Value} :
    Reads name 0 1 fun operands => operand name operands 0 >>= fun v => .ok (answer v) :=
  .next fun _ => .settled (untyped_ok _)

theorem of_text {answer : List Char → Option Value} :
    Reads name 0 1 fun operands => textOperand name operands 0 >>= fun s => .ok (answer s) :=
  .text fun _ => .settled (untyped_ok _)

theorem of_texts {answer : List Char → List Char → Option Value} :
    Reads name 0 2 fun operands => textOperand name operands 0 >>= fun s =>
      textOperand name operands 1 >>= fun t => .ok (answer s t) :=
  .text fun _ => .text fun _ => .settled (untyped_ok _)

theorem of_array {answer : List Value → Option Value} :
    Reads name 0 1 fun operands => arrayOperand name operands 0 >>= fun items =>
      .ok (answer items) :=
  .array fun _ => .settled (untyped_ok _)

end Reads

/-! ## The catalog -/

theorem untyped_textElement (name : String) (v : Value) : Untyped (textElement name v) := by
  cases v with
  | string s => exact untyped_ok _
  | _ => exact untyped_refused _ _

theorem untyped_numberElement (name : String) (v : Value) : Untyped (numberElement name v) := by
  cases v with
  | number x => exact untyped_ok _
  | _ => exact untyped_refused _ _

theorem untyped_combineAll (name : String) (exact : Int → Int → Int)
    (rounded : Binary64 → Binary64 → Option Binary64) (start : Int) (items : List Value) :
    Untyped (combineAll name exact rounded start items) := by
  rw [combineAll]
  split
  · exact untyped_ok _
  · exact (untyped_mapM (untyped_numberElement name) items).bind fun _ => untyped_ok _

theorem untyped_instantAnswer (name : String) (ns : Option Int) :
    Untyped (instantAnswer name ns) := by
  rw [instantAnswer]
  split
  · exact untyped_ok _
  · exact untyped_refused _ _

theorem reads_concat : Reads "concat" 0 2 concat :=
  .text fun _ => .array fun items => .settled <|
    (untyped_mapM (untyped_textElement "concat") items).bind fun _ => untyped_ok _

theorem reads_replace : Reads "replace" 0 3 replace :=
  .text fun _ => .text fun _ => .text fun _ => .settled (untyped_ok _)

theorem reads_sprintf : Reads "sprintf" 0 2 sprintf := by
  refine .text fun _ => .array fun _ => .settled ?_
  split
  · exact untyped_ok _
  · exact untyped_crash _

theorem reads_substring : Reads "substring" 0 3 substring := by
  refine .text fun _ => .integer fun _ => .integer fun _ => .settled ?_
  split
  · exact untyped_refused _ _
  · exact untyped_ok _

theorem reads_patternOperands (name : String) : Reads name 0 2 (patternOperands name) := by
  refine .text fun _ => .text fun _ => .settled ?_
  split
  · exact untyped_ok _
  · exact untyped_refused _ _

theorem reads_patternMatch : Reads "re_match" 0 2 patternMatch :=
  (reads_patternOperands "re_match").bind fun _ => untyped_ok _

theorem reads_patternSplit : Reads "regex.split" 0 2 patternSplit :=
  (reads_patternOperands "regex.split").bind fun _ => untyped_ok _

theorem reads_count : Reads "count" 0 1 count := by
  refine .next fun v => ?_
  cases v with
  | array | object | string => exact .settled (untyped_ok _)
  | _ => exact .mistyped (by decide) (by decide)

theorem reads_product : Reads "product" 0 1 product :=
  .array fun _ => .settled (untyped_combineAll _ _ _ _ _)

theorem reads_sum : Reads "sum" 0 1 sum :=
  .array fun _ => .settled (untyped_combineAll _ _ _ _ _)

theorem reads_toNumber : Reads "to_number" 0 1 toNumber := by
  refine .next fun v => ?_
  cases v with
  | array | object => exact .mistyped (by decide) (by decide)
  | _ => exact .settled (untyped_ok _)

theorem reads_parseTimestamp : Reads "time.parse_rfc3339_ns" 0 1 parseTimestamp := by
  refine .text fun _ => .settled ?_
  split
  · exact untyped_instantAnswer _ _
  · exact untyped_refused _ _

theorem reads_date : Reads "time.date" 0 1 date :=
  .integer fun _ => .settled (untyped_ok _)

theorem reads_addDate : Reads "time.add_date" 0 4 addDate :=
  .integer fun _ => .integer fun _ => .integer fun _ => .integer fun _ => .settled <|
    untyped_instantAnswer _ _

/-- Every builtin of the catalog reads as many operands as it says. -/
theorem reads_catalog (clock : Int) : ∀ b ∈ catalog clock, Reads b.name 0 b.arity b.run := by
  have hnow : Reads "time.now_ns" 0 0 fun _ => now clock := .settled (untyped_instantAnswer _ _)
  simp only [catalog, List.forall_mem_cons]
  exact ⟨reads_concat, .of_texts, .of_texts, .of_texts, .of_texts, .of_text, .of_text,
    reads_replace, .of_texts, reads_substring, .of_text, reads_sprintf, reads_patternMatch,
    reads_patternSplit, .of_value, .of_value, .of_value, .of_value, .of_value, .of_value,
    .of_value, .of_value, .of_array, .of_array, reads_count, .of_array, .of_array, reads_product,
    reads_sum, .of_array, reads_toNumber, hnow, reads_parseTimestamp, reads_date, reads_addDate,
    fun _ h => nomatch h⟩

/-- What a builtin does with more operands than it reads, with fewer, and after a blamed one. -/
theorem arity_read (clock : Int) {b : Shipped} (hb : b ∈ catalog clock) (operands : List Value) :
    (b.arity ≤ operands.length → b.run operands = b.run (operands.take b.arity) ∧
      ∀ name position, b.run operands ≠ .error (.type name "present" position)) ∧
    (operands.length < b.arity → ∃ expected position,
      b.run operands = .error (.type b.name expected position) ∧ position ≤ operands.length ∧
      (expected = "present" ↔ position = operands.length)) ∧
    (∀ name expected position, b.run operands = .error (.type name expected position) →
      position < operands.length → ∀ changed : List Value,
      changed.take (position + 1) = operands.take (position + 1) →
      b.run changed = b.run operands) := by
  have hreads := reads_catalog clock b hb
  have hfirst := Nat.zero_le operands.length
  refine ⟨fun henough => ⟨(hreads.take operands).symm, fun name position hmissing => ?_⟩,
    fun hfew => ?_, fun name expected position hblame hposition changed hsame => ?_⟩
  · obtain ⟨-, ⟨-, hlt⟩, -, hpresent⟩ := hreads.blame hfirst hmissing
    have hat := hpresent.mp rfl
    omega
  · obtain ⟨expected, position, hblame⟩ := hreads.blames hfirst hfew
    obtain ⟨-, -, hposition⟩ := hreads.blame hfirst hblame
    exact ⟨expected, position, hblame, hposition⟩
  · exact hreads.unchanged hfirst hblame hposition hsame

/-- The second operand of three is blamed, and the third one is free. -/
theorem arity_read_substring :
    let b : Shipped := ⟨"substring", 3, substring⟩
    b ∈ catalog 0 ∧ b.run [.string "abc", .null] = .error (.type "substring" "number" 1) ∧
      ∀ more, b.run (.string "abc" :: .null :: more) = b.run [.string "abc", .null] := by
  intro b
  have hb : b ∈ catalog 0 := List.mem_of_getElem? (show (catalog 0)[9]? = some b from rfl)
  have hblame : b.run [.string "abc", .null] = .error (.type "substring" "number" 1) := rfl
  refine ⟨hb, hblame, fun more => ?_⟩
  exact (arity_read 0 hb _).2.2 _ _ _ hblame (by decide) (.string "abc" :: .null :: more) rfl

end PolicyHost.Builtin
