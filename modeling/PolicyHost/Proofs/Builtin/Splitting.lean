import PolicyHost.Builtin.Text
import PolicyHost.Proofs.Text.Search

/-!
# Splitting, joining and replacing in strings

What splitting and joining do to characters is said in `Proofs.Text.Search`; here
it is carried to the strings that the builtins take and give. Joining undoes
splitting for every delimiter, the empty one included. Splitting undoes joining
for delimiters of one character. Replacing is splitting at one text and joining
with another.
-/

namespace PolicyHost.Builtin

open Json

theorem mapM_textElement (name : String) (xs : List String) :
    (xs.map Value.string).mapM (textElement name) = .ok (xs.map String.toList) := by
  induction xs with
  | nil => rfl
  | cons x xs ih =>
      rw [List.map_cons, List.mapM_cons, ih]
      rfl

theorem concat_strings (d : String) (xs : List String) :
    concat [.string d, .array (xs.map .string)] =
      .ok (some (text (d.toList.intercalate (xs.map String.toList)))) := by
  have hparts := mapM_textElement "concat" xs
  simp only [concat, textOperand, arrayOperand, operand, List.getElem?_cons_zero,
    List.getElem?_cons_succ, bind, Except.bind, hparts]
  rfl

theorem split_strings (s d : String) :
    split [.string s, .string d] =
      .ok (some (.array (((Text.split d.toList s.toList).map String.ofList).map .string))) := by
  rw [List.map_map]
  rfl

theorem map_toList_ofList (xs : List (List Char)) :
    (xs.map String.ofList).map String.toList = xs := by
  simp

/-- Joining the parts of a string with the delimiter that it was split at gives
the string back, and no part contains a delimiter that is not empty. Splitting a
string that was joined with a delimiter of one character gives the parts back, if
there is a part and none of them contains the delimiter. -/
theorem split_concat_inverse :
    (∀ s d : String, ∃ parts : List String,
      split [.string s, .string d] = .ok (some (.array (parts.map .string))) ∧
      concat [.string d, .array (parts.map .string)] = .ok (some (.string s)) ∧
      (d ≠ "" → ∀ part ∈ parts, ¬ d.toList <:+: part.toList)) ∧
    (∀ (d : String) (parts : List String), d.length = 1 → parts ≠ [] →
      (∀ part ∈ parts, ¬ d.toList <:+: part.toList) →
      ∃ s : String, concat [.string d, .array (parts.map .string)] = .ok (some (.string s)) ∧
        split [.string s, .string d] = .ok (some (.array (parts.map .string)))) := by
  constructor
  · intro s d
    refine ⟨(Text.split d.toList s.toList).map String.ofList, split_strings s d, ?_, ?_⟩
    · rw [concat_strings, map_toList_ofList, Text.intercalate_split, text, String.ofList_toList]
    · intro hd part hpart
      obtain ⟨x, hx, rfl⟩ := List.mem_map.mp hpart
      rw [String.toList_ofList]
      have hnonempty : d.toList ≠ [] := fun h => hd (String.toList_eq_nil_iff.mp h)
      exact Text.not_infix_of_mem_split hnonempty x hx
  · intro d parts hd hparts hwithout
    obtain ⟨c, hc⟩ := List.length_eq_one_iff.mp (String.length_toList.trans hd)
    have hpieces : Text.split [c] ([c].intercalate (parts.map String.toList)) =
        parts.map String.toList := by
      refine Text.split_intercalate (mt List.map_eq_nil_iff.mp hparts) fun x hx => ?_
      obtain ⟨part, hpart, rfl⟩ := List.mem_map.mp hx
      exact hc ▸ hwithout part hpart
    refine ⟨_, concat_strings d parts, ?_⟩
    rw [split_strings, String.toList_ofList, hc, hpieces, List.map_map]
    simp

/-- A text between delimiters at both its ends, and empty parts that are joined. -/
theorem split_concat_inverse_comma :
    (",".length = 1 ∧ ["", "a", ""] ≠ [] ∧
      ∀ part ∈ ["", "a", ""], ¬ ",".toList <:+: part.toList) ∧
      ∃ s : String, concat [.string ",", .array (["", "a", ""].map .string)] =
          .ok (some (.string s)) ∧
        split [.string s, .string ","] = .ok (some (.array (["", "a", ""].map .string))) := by
  have hone : ",".length = 1 := by decide
  have hsome : ["", "a", ""] ≠ [] := by decide
  have hwithout : ∀ part ∈ ["", "a", ""], ¬ ",".toList <:+: part.toList := by decide
  exact ⟨⟨hone, hsome, hwithout⟩, split_concat_inverse.2 "," _ hone hsome hwithout⟩

theorem concat_split (s d new : String) :
    concat [.string new,
        .array (((Text.split d.toList s.toList).map String.ofList).map .string)] =
      .ok (some (text (Text.replace d.toList new.toList s.toList))) := by
  rw [concat_strings, map_toList_ofList, Text.replace_eq_intercalate_split]

theorem replace_strings (s old new : String) :
    replace [.string s, .string old, .string new] =
      .ok (some (text (Text.replace old.toList new.toList s.toList))) :=
  rfl

/-- Replacing a text is splitting at it and joining the parts with the new one. A
string without the text stays as it is, and so does every string when the text is
replaced by itself. -/
theorem replace_joins_split :
    (∀ s old new : String, ∃ (parts : List String) (r : String),
      split [.string s, .string old] = .ok (some (.array (parts.map .string))) ∧
      concat [.string new, .array (parts.map .string)] = .ok (some (.string r)) ∧
      replace [.string s, .string old, .string new] = .ok (some (.string r))) ∧
    (∀ s old new : String, ¬ old.toList <:+: s.toList →
      replace [.string s, .string old, .string new] = .ok (some (.string s))) ∧
    (∀ s old : String,
      replace [.string s, .string old, .string old] = .ok (some (.string s))) := by
  refine ⟨fun s old new => ?_, fun s old new hwithout => ?_, fun s old => ?_⟩
  · exact ⟨(Text.split old.toList s.toList).map String.ofList,
      String.ofList (Text.replace old.toList new.toList s.toList),
      split_strings s old, concat_split s old new, replace_strings s old new⟩
  · rw [replace_strings, Text.replace_of_not_infix hwithout, text, String.ofList_toList]
  · rw [replace_strings, Text.replace_self, text, String.ofList_toList]

/-- The two letters occur, but not side by side. -/
theorem replace_joins_split_apart :
    ¬ "él".toList <:+: "léo".toList ∧
      replace [.string "léo", .string "él", .string "-"] = .ok (some (.string "léo")) := by
  have hwithout : ¬ "él".toList <:+: "léo".toList := by decide
  exact ⟨hwithout, replace_joins_split.2.1 _ _ "-" hwithout⟩

end PolicyHost.Builtin
