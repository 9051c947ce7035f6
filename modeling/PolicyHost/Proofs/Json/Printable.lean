import PolicyHost.Proofs.Json.Literal

/-!
# No control character in a text

A text that is written holds no character below the space. Strings escape
those that they contain, and everything else is made of digits, letters and
marks. That is what lets a text travel as bytes that a zero ends.
-/

namespace PolicyHost.Json

/-- There is no control character among the characters. -/
def Printable (cs : List Char) : Prop :=
  ∀ c ∈ cs, 32 ≤ c.toNat

@[simp] theorem printable_nil : Printable [] := by
  simp [Printable]

@[simp] theorem printable_cons {c : Char} {cs : List Char} :
    Printable (c :: cs) ↔ 32 ≤ c.toNat ∧ Printable cs := by
  simp [Printable]

@[simp] theorem printable_append {cs ds : List Char} :
    Printable (cs ++ ds) ↔ Printable cs ∧ Printable ds := by
  simp [Printable, or_imp, forall_and]

theorem Printable.subset {cs ds : List Char} (h : Printable ds) (hs : cs ⊆ ds) : Printable cs :=
  fun c hc => h c (hs hc)

/-! ## Numbers -/

theorem printable_digits (n : Nat) : Printable (Decimal.digits n) := by
  intro c hc
  have hd : Decimal.isDigit c = true := Decimal.isDigit_of_mem_digits hc
  simp only [Decimal.isDigit, Bool.and_eq_true, decide_eq_true_eq] at hd
  have h48 : 48 ≤ c.toNat := hd.1
  omega

theorem printable_ofInt (n : Int) : Printable (Decimal.ofInt n) := by
  rw [Decimal.ofInt]
  split
  · exact printable_cons.mpr ⟨by decide, printable_digits _⟩
  · exact printable_digits _

theorem printable_sign (x : Binary64) : Printable x.sign := by
  rw [Binary64.sign]
  split
  · exact printable_cons.mpr ⟨by decide, printable_nil⟩
  · exact printable_nil

theorem printable_toDecimal (x : Binary64) : Printable x.toDecimal := by
  have htake (n k : Nat) : Printable ((Decimal.digits n).take k) :=
    (printable_digits n).subset (List.take_subset k _)
  have hdrop (n k : Nat) : Printable ((Decimal.digits n).drop k) :=
    (printable_digits n).subset (List.drop_subset k _)
  have hzeros (n : Nat) : Printable (List.replicate n '0') := by
    intro c hc
    rw [(List.mem_replicate.mp hc).2]
    decide
  have hpoint : 32 ≤ '.'.toNat := by decide
  have hzero : 32 ≤ '0'.toNat := by decide
  simp only [Binary64.toDecimal, printable_append]
  refine ⟨printable_sign x, ?_⟩
  split
  · refine printable_append.mpr ⟨printable_append.mpr ⟨htake _ _, ?_⟩, ?_⟩
    · split
      · exact printable_nil
      · exact printable_cons.mpr ⟨hpoint, hdrop _ _⟩
    · refine printable_cons.mpr ⟨by decide, printable_cons.mpr ⟨?_, printable_digits _⟩⟩
      split <;> decide
  · split
    · simp only [printable_cons, printable_append]
      exact ⟨hzero, hpoint, hzeros _, printable_digits _⟩
    · split
      · simp only [printable_cons, printable_append]
        exact ⟨⟨printable_digits _, hzeros _⟩, hpoint, hzero, printable_nil⟩
      · simp only [printable_cons, printable_append]
        exact ⟨htake _ _, hpoint, hdrop _ _⟩

/-! ## Strings -/

theorem printable_hexadecimal {n : Nat} (h : n < 16) : 32 ≤ (Hexadecimal.digit n).toNat := by
  have check : ∀ n : Fin 16, 32 ≤ (Hexadecimal.digit n).toNat := by decide
  exact check ⟨n, h⟩

theorem printable_escape (c : Char) : Printable (escape c) := by
  rw [escape]
  repeat' split
  all_goals first
    | simp only [printable_cons, printable_nil, and_true]; decide
    | skip
  · next h =>
      have hhigh := printable_hexadecimal (show c.toNat / 16 < 16 by omega)
      have hlow := printable_hexadecimal (show c.toNat % 16 < 16 by omega)
      simp only [printable_cons, printable_nil, and_true]
      exact ⟨by decide, by decide, by decide, by decide, hhigh, hlow⟩
  · next h =>
      simp only [printable_cons, printable_nil, and_true]
      omega

theorem printable_quote (s : String) : Printable (quote s) := by
  simp only [quote, printable_cons, printable_append]
  refine ⟨by decide, ?_, by decide, printable_nil⟩
  intro c hc
  obtain ⟨d, -, hd⟩ := List.mem_flatMap.mp hc
  exact printable_escape d c hd

/-! ## Values -/

namespace Value

mutual

/-- No text of a value holds a control character. -/
theorem printable_render : (v : Value) → Printable v.render
  | .null => by simp only [render, printable_cons, printable_nil]; decide
  | .bool true => by simp only [render, printable_cons, printable_nil]; decide
  | .bool false => by simp only [render, printable_cons, printable_nil]; decide
  | .number (.integer n _) => printable_ofInt n
  | .number (.float x) => printable_toDecimal x
  | .string s => printable_quote s
  | .array [] => by simp only [render, printable_cons, printable_nil]; decide
  | .array (v :: vs) => by
      simp only [render, printable_cons, printable_append]
      exact ⟨by decide, printable_render v, printable_renderItems vs⟩
  | .object [] => by simp only [render, printable_cons, printable_nil]; decide
  | .object ((k, v) :: ms) => by
      simp only [render, printable_cons, printable_append]
      exact ⟨by decide, printable_quote k, by decide, printable_render v,
        printable_renderMembers ms⟩

theorem printable_renderItems : (vs : List Value) → Printable (renderItems vs)
  | [] => by simp only [renderItems, printable_cons, printable_nil]; decide
  | v :: vs => by
      simp only [renderItems, printable_cons, printable_append]
      exact ⟨by decide, printable_render v, printable_renderItems vs⟩

theorem printable_renderMembers : (ms : List (String × Value)) → Printable (renderMembers ms)
  | [] => by simp only [renderMembers, printable_cons, printable_nil]; decide
  | (k, v) :: ms => by
      simp only [renderMembers, printable_cons, printable_append]
      exact ⟨by decide, printable_quote k, by decide, printable_render v,
        printable_renderMembers ms⟩

end

end Value

end PolicyHost.Json
