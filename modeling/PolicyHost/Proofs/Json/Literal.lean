import PolicyHost.Json.Reader
import PolicyHost.Json.Writer

/-!
# Numbers and strings read back

The two kinds of literals that have an inside: the digits of an integer and
the characters of a string. Each is read back from its own text, whatever
follows it, as long as what follows does not go on with it.

An integer ends where its digits end, so its reader has to be stopped by the
next character. In a text that was written that character is a comma, a bracket
or white space, or there is none; `Closed` says so, and it is all that the readers
of values will need to know about the rest of a text. A string ends at its own
mark, so nothing is asked of what follows it.
-/

namespace PolicyHost.Decimal

theorem isDigit_digitChar {d : Nat} (h : d < 10) : isDigit (digitChar d) = true := by
  have check : ∀ d : Fin 10, isDigit (digitChar d) = true := by decide
  exact check ⟨d, h⟩

theorem digitChar_ne_zero {d : Nat} (h : d < 10) (hd : d ≠ 0) : digitChar d ≠ '0' := by
  have check : ∀ d : Fin 10, d.val ≠ 0 → digitChar d ≠ '0' := by decide
  exact check ⟨d, h⟩ hd

theorem isDigit_of_mem_digits {n : Nat} {c : Char} (h : c ∈ digits n) : isDigit c = true := by
  induction n using Nat.strongRecOn with
  | _ n ih =>
      rw [digits] at h
      split at h
      · next hn =>
          rw [List.mem_singleton.mp h]
          exact isDigit_digitChar hn
      · next hn =>
          rcases List.mem_append.mp h with hm | hm
          · exact ih _ (by omega) hm
          · rw [List.mem_singleton.mp hm]
            exact isDigit_digitChar (by omega)

/-- Zero is one digit, and no other number begins with a zero. -/
theorem digits_head (n : Nat) :
    (n = 0 ∧ digits n = ['0']) ∨ ∃ c cs, digits n = c :: cs ∧ c ≠ '0' := by
  induction n using Nat.strongRecOn with
  | _ n ih =>
      rw [digits]
      split
      · next hn =>
          by_cases hz : n = 0
          · subst hz
            exact Or.inl ⟨rfl, rfl⟩
          · exact Or.inr ⟨_, [], rfl, digitChar_ne_zero hn hz⟩
      · next hn =>
          rcases ih (n / 10) (by omega) with ⟨hz, -⟩ | ⟨c, cs, hc, hne⟩
          · omega
          · exact Or.inr ⟨c, cs ++ [digitChar (n % 10)], by rw [hc]; rfl, hne⟩

theorem ofInt_head (n : Int) : ∃ c cs, ofInt n = c :: cs ∧ (c = '-' ∨ isDigit c = true) := by
  rw [ofInt]
  split
  · exact ⟨_, _, rfl, Or.inl rfl⟩
  · rcases digits_head n.natAbs with ⟨-, hd⟩ | ⟨c, cs, hd, -⟩
    · exact ⟨_, _, hd, Or.inr rfl⟩
    · exact ⟨c, cs, hd, Or.inr (isDigit_of_mem_digits (by rw [hd]; simp))⟩

end PolicyHost.Decimal

namespace PolicyHost.Json.Reader

open Decimal

theorem isSpace_iff {c : Char} :
    isSpace c = true ↔ c = ' ' ∨ c = '\n' ∨ c = '\t' ∨ c = '\r' := by
  simp only [isSpace, Bool.or_eq_true, beq_iff_eq, or_assoc]

theorem isSpace_of_isDigit {c : Char} (h : isDigit c = true) : isSpace c = false := by
  refine Bool.eq_false_iff.mpr fun hs => ?_
  rcases isSpace_iff.mp hs with rfl | rfl | rfl | rfl <;> cases h

/-- What may follow a value in a text: nothing, a mark that ends an item, or white space. -/
def Closed : List Char → Prop
  | [] => True
  | c :: _ => c = ',' ∨ c = ']' ∨ c = '\x7d' ∨ isSpace c = true

theorem Closed.not_digit {c : Char} {rest : List Char} (h : Closed (c :: rest)) :
    isDigit c = false := by
  rcases h with rfl | rfl | rfl | hs
  · rfl
  · rfl
  · rfl
  · refine Bool.eq_false_iff.mpr fun hd => ?_
    rw [isSpace_of_isDigit hd] at hs
    cases hs

/-! ## Integers -/

/-- The value of digits that come after others. -/
def digitsAfter (n : Nat) (ds : List Char) : Nat :=
  ds.foldl (fun n c => 10 * n + digitValue c) n

theorem le_digitsAfter (n : Nat) (ds : List Char) : n ≤ digitsAfter n ds := by
  induction ds generalizing n with
  | nil => exact Nat.le_refl n
  | cons c ds ih =>
      have h := ih (10 * n + digitValue c)
      rw [digitsAfter, List.foldl_cons]
      rw [digitsAfter] at h
      omega

/-- Digits whose number stays in range are all taken. -/
theorem takeBounded_digits {rest : List Char} (hr : Closed rest) :
    ∀ (ds : List Char) (n k : Nat), (∀ c ∈ ds, isDigit c = true) → digitsAfter n ds < 2 ^ 64 →
      takeBounded n k (ds ++ rest) = (digitsAfter n ds, k + ds.length, rest) := by
  intro ds
  induction ds with
  | nil =>
      intro n k _ _
      cases rest with
      | nil => rfl
      | cons c rest =>
          rw [List.nil_append, takeBounded, if_neg (by simp [hr.not_digit])]
          rfl
  | cons c ds ih =>
      intro n k hds hlt
      have hstep : 10 * n + digitValue c < 2 ^ 64 :=
        Nat.lt_of_le_of_lt (le_digitsAfter _ ds) hlt
      rw [List.cons_append, takeBounded, if_pos ⟨hds c (by simp), hstep⟩]
      rw [ih _ _ (fun d hd => hds d (by simp [hd])) hlt]
      simp only [digitsAfter, List.foldl_cons, List.length_cons, Prod.mk.injEq, true_and, and_true]
      omega

theorem takeDigits_closed {rest : List Char} (hr : Closed rest) : takeDigits rest = ([], rest) := by
  cases rest with
  | nil => rfl
  | cons c rest => simp [takeDigits, hr.not_digit]

/-- Without a point or an exponent a literal is the integer of its digits. -/
theorem afterWhole?_closed {negative : Bool} {n : Nat} {rest : List Char} (hr : Closed rest)
    (hz : negative = true → n ≠ 0) {m : Number}
    (hm : Number.ofInt? (if negative then -(n : Int) else n) = some m) :
    afterWhole? negative n 0 rest = some (m, rest) := by
  have hcond : ¬ (0 < 0 ∨ (negative = true ∧ n = 0)) := by
    rintro (h | ⟨h, h0⟩)
    · omega
    · exact hz h h0
  cases rest with
  | nil => simp only [afterWhole?, if_neg hcond, hm]
  | cons c rest =>
      rw [Closed, isSpace_iff] at hr
      rcases hr with rfl | rfl | rfl | rfl | rfl | rfl | rfl
      all_goals
        simp only [afterWhole?, if_neg hcond, hm]
        rfl

theorem unsigned?_digits {negative : Bool} {n : Nat} {rest : List Char} (hn : n < 2 ^ 64)
    (hr : Closed rest) (hz : negative = true → n ≠ 0) {m : Number}
    (hm : Number.ofInt? (if negative then -(n : Int) else n) = some m) :
    unsigned? negative (digits n ++ rest) = some (m, rest) := by
  rcases digits_head n with ⟨rfl, hd⟩ | ⟨c, cs, hd, hc⟩
  · rw [hd, List.singleton_append, unsigned?.eq_def]
    simp only [if_true]
    cases rest with
    | nil => exact afterWhole?_closed hr hz hm
    | cons c rest =>
        simp only [hr.not_digit, Bool.false_eq_true, if_false]
        exact afterWhole?_closed hr hz hm
  · have hdig : ∀ d ∈ digits n, isDigit d = true := fun d => isDigit_of_mem_digits
    have hval : digitsAfter 0 (digits n) = n := ofDigits_digits n
    have htake := takeBounded_digits hr (digits n) 0 0 hdig (by rw [hval]; exact hn)
    rw [hval] at htake
    rw [hd] at htake hdig ⊢
    rw [List.cons_append] at htake ⊢
    rw [unsigned?.eq_def]
    simp only [if_neg hc, if_pos (hdig c (by simp)), htake, takeDigits_closed hr, List.length_nil]
    exact afterWhole?_closed hr hz hm

/-! ## Strings -/

theorem unicodeEscape?_control {c : Char} (h : c.toNat < 32) (rest : List Char) :
    unicodeEscape? ('0' :: '0' :: Hexadecimal.digit (c.toNat / 16) ::
      Hexadecimal.digit (c.toNat % 16) :: rest) = some (c, rest) := by
  have h0 : Hexadecimal.value? '0' = some 0 := by decide
  have hhigh := Hexadecimal.value?_digit (n := c.toNat / 16) (by omega)
  have hlow := Hexadecimal.value?_digit (n := c.toNat % 16) (by omega)
  have hn : ((0 * 16 + 0) * 16 + c.toNat / 16) * 16 + c.toNat % 16 = c.toNat := by omega
  have hquad : hexQuad? ('0' :: '0' :: Hexadecimal.digit (c.toNat / 16) ::
      Hexadecimal.digit (c.toNat % 16) :: rest) = some (c.toNat, rest) := by
    simp only [hexQuad?, h0, hhigh, hlow, Option.bind_eq_bind, Option.bind_some, hn]
    rfl
  simp only [unicodeEscape?, hquad, Option.bind_eq_bind, Option.bind_some]
  rw [if_neg (by omega), if_pos (by omega), Char.ofNat_toNat]
  rfl

/-- A character that was written is read back, and takes one step. -/
theorem stringRest?_escape (c : Char) (budget : Nat) (rest done : List Char) :
    stringRest? (budget + 1) (escape c ++ rest) done = stringRest? budget rest (c :: done) := by
  unfold escape
  split
  · next h => subst h; rfl
  · next h1 =>
    split
    · next h => subst h; rfl
    · next h2 =>
      split
      · next h => subst h; rfl
      · split
        · next h => subst h; rfl
        · split
          · next h => subst h; rfl
          · split
            · next h => subst h; rfl
            · split
              · next h => subst h; rfl
              · split
                · next h =>
                    have hne : ¬ ('\\' = '"') := by decide
                    rw [stringRest?.eq_def]
                    simp only [List.cons_append, List.nil_append, if_neg hne, if_true,
                      unicodeEscape?_control h]
                · next h =>
                    rw [List.singleton_append, stringRest?.eq_def]
                    simp only [if_neg h1, if_neg h2, if_neg h]

/-- The characters of a string up to the mark that ends it. -/
theorem stringRest?_quote (rest : List Char) :
    ∀ (cs done : List Char) (budget : Nat), cs.length < budget →
      stringRest? budget (cs.flatMap escape ++ '"' :: rest) done =
        some (String.ofList (done.reverse ++ cs), rest) := by
  intro cs
  induction cs with
  | nil =>
      intro done budget hb
      obtain ⟨b, rfl⟩ : ∃ b, budget = b + 1 := ⟨budget - 1, by omega⟩
      rw [List.flatMap_nil, List.nil_append, stringRest?.eq_def, List.append_nil]
      simp only [if_true]
  | cons c cs ih =>
      intro done budget hb
      obtain ⟨b, rfl⟩ : ∃ b, budget = b + 1 := ⟨budget - 1, by omega⟩
      rw [List.flatMap_cons, List.append_assoc, stringRest?_escape]
      rw [ih (c :: done) b (by simp only [List.length_cons] at hb; omega)]
      rw [List.reverse_cons, List.append_assoc, List.singleton_append]

theorem length_le_length_escape (cs : List Char) : cs.length ≤ (cs.flatMap escape).length := by
  induction cs with
  | nil => exact Nat.le_refl _
  | cons c cs ih =>
      have hc : 1 ≤ (escape c).length := by
        unfold escape
        repeat' split
        all_goals simp
      rw [List.flatMap_cons, List.length_append, List.length_cons]
      omega

theorem string?_quote (s : String) (rest : List Char) :
    string? (s.toList.flatMap escape ++ '"' :: rest) = some (s, rest) := by
  have hlen := length_le_length_escape s.toList
  rw [string?, stringRest?_quote]
  · rw [List.reverse_nil, List.nil_append, String.ofList_toList]
  · rw [List.length_append]
    omega

end PolicyHost.Json.Reader
