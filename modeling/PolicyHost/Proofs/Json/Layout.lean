import PolicyHost.Proofs.Json.Literal

/-!
# Texts with white space in them

The compact text of a value and the indented one differ in the white space between
their parts and in nothing else. `renderWith` writes a value with any white space in
these places, and both texts are what it writes with theirs, so what the reader does
has to be said only once.
-/

namespace PolicyHost.Json

open Reader

/-- White space. -/
def Blank (cs : List Char) : Prop :=
  ∀ c ∈ cs, isSpace c = true

theorem blank_nil : Blank [] := by simp [Blank]

/-- The white space that goes between the parts of a text. -/
structure Spacing where
  /-- In front of what is nested so deep, and of the mark that ends it. -/
  gap : Nat → List Char
  /-- Behind a colon. -/
  afterColon : List Char
  blank_gap : ∀ level, Blank (gap level)
  blank_afterColon : Blank afterColon

namespace Spacing

/-- No white space at all. -/
def compact : Spacing where
  gap _ := []
  afterColon := []
  blank_gap _ := blank_nil
  blank_afterColon := blank_nil

theorem blank_newLine (level : Nat) : Blank (Value.newLine level) := by
  intro c hc
  rcases List.mem_cons.mp hc with rfl | hc
  · rfl
  · rw [(List.mem_replicate.mp hc).2]
    rfl

/-- A line of its own for everything that is nested. -/
def indented : Spacing where
  gap := Value.newLine
  afterColon := [' ']
  blank_gap := blank_newLine
  blank_afterColon := by simp [Blank, isSpace]

end Spacing

namespace Value

section

variable (sp : Spacing)

mutual

/-- The text of a value that is nested so deep. -/
def renderWith (level : Nat) : Value → List Char
  | .array (v :: rest) =>
      '[' :: (sp.gap (level + 1) ++ (v.renderWith (level + 1) ++ itemsWith level rest))
  | .object ((k, v) :: rest) =>
      '\x7b' :: (sp.gap (level + 1) ++ (quote k ++ ':' ::
        (sp.afterColon ++ (v.renderWith (level + 1) ++ membersWith level rest))))
  | v => v.render

/-- The items after the first, and the bracket that ends them. -/
def itemsWith (level : Nat) : List Value → List Char
  | [] => sp.gap level ++ [']']
  | v :: rest => ',' :: (sp.gap (level + 1) ++ (v.renderWith (level + 1) ++ itemsWith level rest))

/-- The members after the first, and the brace that ends them. -/
def membersWith (level : Nat) : List (String × Value) → List Char
  | [] => sp.gap level ++ ['\x7d']
  | (k, v) :: rest =>
      ',' :: (sp.gap (level + 1) ++ (quote k ++ ':' ::
        (sp.afterColon ++ (v.renderWith (level + 1) ++ membersWith level rest))))

end

end

mutual

theorem renderWith_compact (level : Nat) : (v : Value) → v.renderWith .compact level = v.render
  | .null | .bool _ | .number _ | .string _ | .array [] | .object [] => by simp [renderWith]
  | .array (v :: vs) => by
      rw [renderWith, render, renderWith_compact, itemsWith_compact]
      rfl
  | .object ((k, v) :: ms) => by
      rw [renderWith, render, renderWith_compact, membersWith_compact]
      rfl

theorem itemsWith_compact (level : Nat) :
    (vs : List Value) → itemsWith .compact level vs = renderItems vs
  | [] => rfl
  | v :: vs => by
      rw [itemsWith, renderItems, renderWith_compact, itemsWith_compact]
      rfl

theorem membersWith_compact (level : Nat) :
    (ms : List (String × Value)) → membersWith .compact level ms = renderMembers ms
  | [] => rfl
  | (k, v) :: ms => by
      rw [membersWith, renderMembers, renderWith_compact, membersWith_compact]
      rfl

end

mutual

theorem renderWith_indented (level : Nat) :
    (v : Value) → v.renderWith .indented level = v.renderIndented level
  | .null | .bool _ | .number _ | .string _ | .array [] | .object [] => by
      simp [renderWith, renderIndented]
  | .array (v :: vs) => by
      rw [renderWith, renderIndented, renderWith_indented, itemsWith_indented, List.append_assoc]
      rfl
  | .object ((k, v) :: ms) => by
      rw [renderWith, renderIndented, renderWith_indented, membersWith_indented]
      simp only [List.append_assoc, List.cons_append]
      rfl

theorem itemsWith_indented (level : Nat) :
    (vs : List Value) → itemsWith .indented level vs = indentItems level vs
  | [] => rfl
  | v :: vs => by
      rw [itemsWith, indentItems, renderWith_indented, itemsWith_indented, List.append_assoc]
      rfl

theorem membersWith_indented (level : Nat) :
    (ms : List (String × Value)) → membersWith .indented level ms = indentMembers level ms
  | [] => rfl
  | (k, v) :: ms => by
      rw [membersWith, indentMembers, renderWith_indented, membersWith_indented]
      simp only [List.append_assoc, List.cons_append]
      rfl

end

end Value

end PolicyHost.Json
