import PolicyHost.Proofs.Json.Layout
import PolicyHost.Proofs.Keyed

/-!
# Values read back from their texts

The reader undoes the writer on every value that only has integers for numbers,
whatever white space there is between the parts of the text, down to the nesting
limit, and below that limit it reads nothing: `parseWithin?_renderWith` says both at
once. What it gives is the value with the members of every object by their keys,
and that is the value itself where they stand like this already.

Three statements carry the induction, one for a value, one for the items of an
array behind the first bracket and one for the members of an object. Each says
what the reader does at the text of its part with anything closed behind it,
so a part that is nested too deep makes all the parts around it fail. The
budget of the reader is compared with the length of the text only: every call
takes at least one character of the text before it calls again.
-/

namespace PolicyHost.Json.Value

open Decimal Reader

variable {sp : Spacing} {level : Nat}

/-! ## The members by their keys -/

mutual

/-- The value with the members of every object by their keys; of several with one key the last
is kept. -/
def normal : Value → Value
  | .array items => .array (normalItems items)
  | .object members => .ofMembers (normalMembers members)
  | v => v

@[inherit_doc normal]
def normalItems : List Value → List Value
  | [] => []
  | v :: rest => v.normal :: normalItems rest

@[inherit_doc normal]
def normalMembers : List (String × Value) → List (String × Value)
  | [] => []
  | (k, v) :: rest => (k, v.normal) :: normalMembers rest

end

mutual

theorem normal_of_canonical : (v : Value) → v.Canonical → v.normal = v
  | .null, _ | .bool _, _ | .number _, _ | .string _, _ => by simp [normal]
  | .array vs, h => by
      rw [normal, normalItems_of_canonical vs h]
  | .object ms, h => by
      rw [normal, normalMembers_of_canonical ms h.2, ofMembers, Keyed.ofList_of_increasing h.1]

theorem normalItems_of_canonical : (vs : List Value) → AllCanonical vs → normalItems vs = vs
  | [], _ => rfl
  | v :: vs, h => by
      rw [normalItems, normal_of_canonical v h.1, normalItems_of_canonical vs h.2]

theorem normalMembers_of_canonical :
    (ms : List (String × Value)) → MembersCanonical ms → normalMembers ms = ms
  | [], _ => rfl
  | (k, v) :: ms, h => by
      rw [normalMembers, normal_of_canonical v h.1, normalMembers_of_canonical ms h.2]

end

/-! ## Texts -/

/-- The first character of a text is neither white space nor a mark that ends
an item. -/
theorem renderWith_head (sp : Spacing) (level : Nat) (v : Value) (hi : v.IntegerOnly) :
    ∃ c cs, v.renderWith sp level = c :: cs ∧ isSpace c = false ∧ c ≠ ']' := by
  match v with
  | .null => exact ⟨_, _, rfl, rfl, by decide⟩
  | .bool true => exact ⟨_, _, rfl, rfl, by decide⟩
  | .bool false => exact ⟨_, _, rfl, rfl, by decide⟩
  | .string s => exact ⟨_, _, rfl, rfl, by decide⟩
  | .array [] => exact ⟨_, _, rfl, rfl, by decide⟩
  | .array (_ :: _) => exact ⟨_, _, rfl, rfl, by decide⟩
  | .object [] => exact ⟨_, _, rfl, rfl, by decide⟩
  | .object ((_, _) :: _) => exact ⟨_, _, rfl, rfl, by decide⟩
  | .number (.float _) => exact absurd hi (by simp [IntegerOnly])
  | .number (.integer n _) =>
      rcases ofInt_head n with ⟨c, cs, hn, rfl | hc⟩
      · exact ⟨_, _, hn, rfl, by decide⟩
      · exact ⟨c, cs, hn, isSpace_of_isDigit hc, fun h => by rw [h] at hc; cases hc⟩

theorem length_toDecimal_pos (x : Binary64) : 1 ≤ x.toDecimal.length := by
  simp only [Binary64.toDecimal, List.length_append]
  repeat' split
  all_goals
    simp only [List.length_append, List.length_cons]
    omega

theorem length_renderWith_pos (sp : Spacing) (level : Nat) (v : Value) :
    1 ≤ (v.renderWith sp level).length := by
  match v with
  | .number (.float x) => exact length_toDecimal_pos x
  | .number (.integer n hn) =>
      obtain ⟨c, cs, hhead, -, -⟩ := renderWith_head sp level (.number (.integer n hn)) trivial
      rw [hhead, List.length_cons]
      omega
  | .null | .bool true | .bool false | .string _ | .array [] | .array (_ :: _) | .object []
  | .object ((_, _) :: _) => simp [renderWith, render, quote]

theorem length_render_pos (v : Value) : 1 ≤ v.render.length := by
  rw [← renderWith_compact 0 v]
  exact length_renderWith_pos _ 0 v

theorem length_itemsWith_pos (sp : Spacing) (level : Nat) (vs : List Value) :
    1 ≤ (itemsWith sp level vs).length := by
  cases vs with
  | nil => simp [itemsWith]
  | cons v vs => simp [itemsWith]

theorem length_membersWith_pos (sp : Spacing) (level : Nat) (ms : List (String × Value)) :
    1 ≤ (membersWith sp level ms).length := by
  cases ms with
  | nil => simp [membersWith]
  | cons m ms => simp [membersWith]

theorem length_quote_pos (s : String) : 2 ≤ (quote s).length := by
  simp [quote]

/-- Behind a gap comes what is after it. -/
theorem closed_gap {gap rest : List Char} (hgap : Blank gap) (hrest : Closed rest) :
    Closed (gap ++ rest) := by
  cases gap with
  | nil => exact hrest
  | cons c gap => exact Or.inr (Or.inr (Or.inr (hgap c List.mem_cons_self)))

theorem closed_itemsWith (vs : List Value) (rest : List Char) :
    Closed (itemsWith sp level vs ++ rest) := by
  cases vs with
  | nil =>
      rw [itemsWith, List.append_assoc]
      exact closed_gap (sp.blank_gap level) (Or.inr (Or.inl rfl))
  | cons v vs => exact Or.inl rfl

theorem closed_membersWith (ms : List (String × Value)) (rest : List Char) :
    Closed (membersWith sp level ms ++ rest) := by
  cases ms with
  | nil =>
      rw [membersWith, List.append_assoc]
      exact closed_gap (sp.blank_gap level) (Or.inr (Or.inr (Or.inl rfl)))
  | cons m ms => exact Or.inl rfl

/-! ## The reader at the first character of a value -/

theorem skipSpace_cons {c : Char} {cs : List Char} (h : isSpace c = false) :
    skipSpace (c :: cs) = c :: cs := by
  rw [skipSpace, List.dropWhile_cons, if_neg (by simp [h])]

theorem skipSpace_blank {gap : List Char} (h : Blank gap) (cs : List Char) :
    skipSpace (gap ++ cs) = skipSpace cs :=
  List.dropWhile_append_of_pos h

/-- White space in front of a value is passed over. -/
theorem value?_blank {gap : List Char} (h : Blank gap) (budget depth : Nat) (cs : List Char) :
    value? budget depth (gap ++ cs) = value? budget depth cs := by
  cases budget with
  | zero => rfl
  | succ budget => simp only [value?, skipSpace_blank h]

theorem value?_digit {budget depth : Nat} {c : Char} {cs : List Char} (h : isDigit c = true) :
    value? (budget + 1) depth (c :: cs) =
      (unsigned? false (c :: cs)).map fun (n, rest) => (.number n, rest) := by
  rw [value?.eq_def]
  simp only [skipSpace_cons (isSpace_of_isDigit h)]
  split
  all_goals rename_i heq
  all_goals first
    | (obtain ⟨rfl, -⟩ := List.cons.inj heq; cases h)
    | (obtain ⟨rfl, rfl⟩ := List.cons.inj heq; rfl)
    | cases heq

theorem value?_minus {budget depth : Nat} {cs : List Char} :
    value? (budget + 1) depth ('-' :: cs) =
      (unsigned? true cs).map fun (n, rest) => (.number n, rest) := by
  rw [value?.eq_def]
  rfl

theorem value?_integer {budget depth : Nat} {rest : List Char} {n : Int}
    (hn : -2 ^ 63 ≤ n ∧ n < 2 ^ 64) (hr : Closed rest) :
    value? (budget + 1) depth (Decimal.ofInt n ++ rest) =
      some (.number (.integer n hn), rest) := by
  rw [Decimal.ofInt]
  split
  · next hneg =>
      have hm : Number.ofInt? (if true then -(n.natAbs : Int) else n.natAbs) =
          some (.integer n hn) := by
        rw [if_pos rfl, show -(n.natAbs : Int) = n by omega, Number.ofInt?, dif_pos hn]
      rw [List.cons_append, value?_minus,
        unsigned?_digits (by omega) hr (fun _ => by omega) hm]
      rfl
  · next hpos =>
      have hm : Number.ofInt? (if false then -(n.natAbs : Int) else n.natAbs) =
          some (.integer n hn) := by
        rw [if_neg (by decide), show (n.natAbs : Int) = n by omega, Number.ofInt?, dif_pos hn]
      have hread : unsigned? false (digits n.natAbs ++ rest) = some (.integer n hn, rest) :=
        unsigned?_digits (by omega) hr (fun h => by cases h) hm
      obtain ⟨c, cs, hd⟩ : ∃ c cs, digits n.natAbs = c :: cs := by
        rcases digits_head n.natAbs with ⟨-, hd⟩ | ⟨c, cs, hd, -⟩
        · exact ⟨_, _, hd⟩
        · exact ⟨_, _, hd⟩
      have hc : isDigit c = true := isDigit_of_mem_digits (n := n.natAbs) (by rw [hd]; simp)
      rw [hd, List.cons_append] at hread ⊢
      rw [value?_digit hc, hread]
      rfl

theorem value?_quote {budget depth : Nat} (s : String) (rest : List Char) :
    value? (budget + 1) depth (quote s ++ rest) = some (.string s, rest) := by
  rw [quote, List.cons_append, List.append_assoc, List.singleton_append, value?.eq_def]
  simp only [skipSpace_cons (show isSpace '"' = false from rfl), string?_quote]
  rfl

/-- Behind the bracket of an array that is not empty its items are read, one
level deeper. -/
theorem value?_bracket {budget depth : Nat} {c : Char} {gap cs : List Char} (hgap : Blank gap)
    (hs : isSpace c = false) (hc : c ≠ ']') :
    value? (budget + 1) (depth + 1) ('[' :: (gap ++ c :: cs)) =
      (items? budget depth (c :: cs) []).map fun (vs, rest) => (.array vs, rest) := by
  rw [value?.eq_def]
  simp only [skipSpace_cons (show isSpace '[' = false from rfl), skipSpace_blank hgap,
    skipSpace_cons hs]
  split
  · next heq => exact absurd (List.cons.inj heq).1 hc
  · rfl

theorem value?_brace {budget depth : Nat} {gap cs : List Char} (hgap : Blank gap) :
    value? (budget + 1) (depth + 1) ('\x7b' :: (gap ++ '"' :: cs)) =
      (members? budget depth ('"' :: cs) []).map fun (ms, rest) => (Value.ofMembers ms, rest) := by
  rw [value?.eq_def]
  simp only [skipSpace_cons (show isSpace '\x7b' = false from rfl), skipSpace_blank hgap,
    skipSpace_cons (show isSpace '"' = false from rfl)]
  rfl

/-! ## The induction -/

mutual

/-- The reader at a value's text gives the value, or nothing when the value is
nested deeper than allowed. -/
theorem value?_renderWith (level : Nat) (v : Value) (hi : v.IntegerOnly) {budget depth : Nat}
    {rest : List Char} (hr : Closed rest) (hb : (v.renderWith sp level).length ≤ budget) :
    value? budget depth (v.renderWith sp level ++ rest) =
      if v.depth ≤ depth then some (v.normal, rest) else none := by
  have hpos := length_renderWith_pos sp level v
  obtain ⟨b, rfl⟩ : ∃ b, budget = b + 1 := ⟨budget - 1, by omega⟩
  match hv : v with
  | .null => rw [if_pos (by simp [Value.depth])]; rfl
  | .bool true => rw [if_pos (by simp [Value.depth])]; rfl
  | .bool false => rw [if_pos (by simp [Value.depth])]; rfl
  | .number (.integer n hn) =>
      rw [if_pos (by simp [Value.depth])]
      exact value?_integer hn hr
  | .number (.float _) => exact absurd hi (by simp [IntegerOnly])
  | .string s =>
      rw [if_pos (by simp [Value.depth])]
      exact value?_quote s rest
  | .array [] =>
      cases depth with
      | zero => rfl
      | succ depth => rw [if_pos (by simp [Value.depth, listDepth])]; rfl
  | .array (w :: ws) =>
      cases depth with
      | zero => rfl
      | succ depth =>
          obtain ⟨c, cs, hw, hs, hne⟩ := renderWith_head sp (level + 1) w hi.1
          have hitems : items? b depth
                ([] ++ (w.renderWith sp (level + 1) ++ (itemsWith sp level ws ++ rest))) [] =
              if listDepth (w :: ws) ≤ depth then some (normalItems (w :: ws), rest) else none :=
            items?_renderWith level w ws hi blank_nil
              (by simp only [renderWith, List.length_cons, List.length_append] at hb ⊢; omega)
          rw [List.nil_append, hw, List.cons_append] at hitems
          rw [renderWith, hw]
          simp only [List.cons_append, List.append_assoc]
          rw [value?_bracket (sp.blank_gap _) hs hne, hitems]
          simp only [Value.depth, Nat.add_le_add_iff_right]
          split <;> rfl
  | .object [] =>
      cases depth with
      | zero => rfl
      | succ depth => rw [if_pos (by simp [Value.depth, membersDepth])]; rfl
  | .object ((k, w) :: ms) =>
      cases depth with
      | zero => rfl
      | succ depth =>
          have hmembers : members? b depth ([] ++ (quote k ++ ':' :: (sp.afterColon ++
                (w.renderWith sp (level + 1) ++ (membersWith sp level ms ++ rest))))) [] =
              if membersDepth ((k, w) :: ms) ≤ depth then some (normalMembers ((k, w) :: ms), rest)
              else none :=
            members?_renderWith level k w ms hi blank_nil
              (by simp only [renderWith, List.length_cons, List.length_append] at hb ⊢; omega)
          rw [List.nil_append] at hmembers
          simp only [quote, List.cons_append, List.append_assoc] at hmembers
          simp only [renderWith, quote, List.cons_append, List.append_assoc]
          rw [value?_brace (sp.blank_gap _), hmembers]
          simp only [Value.depth, Nat.add_le_add_iff_right]
          split
          · rfl
          · rfl
termination_by sizeOf v
decreasing_by
  all_goals
    simp only [hv, Value.array.sizeOf_spec, Value.object.sizeOf_spec, List.cons.sizeOf_spec,
      Prod.mk.sizeOf_spec]
    omega

theorem items?_renderWith (level : Nat) (v : Value) (vs : List Value)
    (hi : AllIntegerOnly (v :: vs)) {budget depth : Nat} {gap rest : List Char}
    {done : List Value} (hgap : Blank gap)
    (hb : (v.renderWith sp (level + 1) ++ itemsWith sp level vs).length ≤ budget) :
    items? budget depth
        (gap ++ (v.renderWith sp (level + 1) ++ (itemsWith sp level vs ++ rest))) done =
      if listDepth (v :: vs) ≤ depth then some (done.reverse ++ normalItems (v :: vs), rest)
      else none := by
  have hpos := length_itemsWith_pos sp level vs
  rw [List.length_append] at hb
  obtain ⟨b, rfl⟩ : ∃ b, budget = b + 1 := ⟨budget - 1, by omega⟩
  rw [items?, value?_blank hgap,
    value?_renderWith (level + 1) v hi.1 (closed_itemsWith vs rest) (by omega)]
  simp only [listDepth, Nat.max_le]
  by_cases hv : v.depth ≤ depth
  · simp only [hv, true_and]
    cases vs with
    | nil =>
        simp only [itemsWith, List.append_assoc, skipSpace_blank (sp.blank_gap level), listDepth,
          Nat.zero_le, if_true, List.singleton_append, List.reverse_cons]
        rfl
    | cons w ws =>
        have hlen : (w.renderWith sp (level + 1) ++ itemsWith sp level ws).length ≤ b := by
          simp only [itemsWith, List.length_cons, List.length_append] at hb ⊢
          omega
        simp only [itemsWith, List.cons_append, List.append_assoc, if_true,
          skipSpace_cons (show isSpace ',' = false from rfl)]
        rw [items?_renderWith level w ws hi.2 (sp.blank_gap _) hlen]
        simp only [List.reverse_cons, List.append_assoc, List.singleton_append]
        rfl
  · simp only [hv, false_and, if_false]
termination_by sizeOf v + sizeOf vs + 1

theorem members?_renderWith (level : Nat) (k : String) (v : Value) (ms : List (String × Value))
    (hi : MembersIntegerOnly ((k, v) :: ms)) {budget depth : Nat} {gap rest : List Char}
    {done : List (String × Value)} (hgap : Blank gap)
    (hb : (quote k ++ ':' :: (sp.afterColon ++
      (v.renderWith sp (level + 1) ++ membersWith sp level ms))).length ≤ budget) :
    members? budget depth (gap ++ (quote k ++ ':' :: (sp.afterColon ++
        (v.renderWith sp (level + 1) ++ (membersWith sp level ms ++ rest))))) done =
      if membersDepth ((k, v) :: ms) ≤ depth then
        some (done.reverse ++ normalMembers ((k, v) :: ms), rest)
      else none := by
  have hpos := length_membersWith_pos sp level ms
  have hquote := length_quote_pos k
  simp only [List.length_append, List.length_cons] at hb
  obtain ⟨b, rfl⟩ : ∃ b, budget = b + 1 := ⟨budget - 1, by omega⟩
  rw [members?, skipSpace_blank hgap, quote, List.cons_append, List.append_assoc,
    List.singleton_append]
  simp only [skipSpace_cons (show isSpace '"' = false from rfl),
    skipSpace_cons (show isSpace ':' = false from rfl), string?_quote]
  rw [value?_blank sp.blank_afterColon,
    value?_renderWith (level + 1) v hi.1 (closed_membersWith ms rest) (by omega)]
  simp only [membersDepth, Nat.max_le]
  by_cases hv : v.depth ≤ depth
  · simp only [hv, true_and]
    match hms : ms with
    | [] =>
        simp only [membersWith, List.append_assoc, skipSpace_blank (sp.blank_gap level),
          membersDepth, Nat.zero_le, if_true, List.singleton_append, List.reverse_cons]
        rfl
    | (l, w) :: ms =>
        have hlen : (quote l ++ ':' :: (sp.afterColon ++
            (w.renderWith sp (level + 1) ++ membersWith sp level ms))).length ≤ b := by
          simp only [membersWith, List.length_cons, List.length_append] at hb ⊢
          omega
        simp only [membersWith, List.cons_append, List.append_assoc, if_true,
          skipSpace_cons (show isSpace ',' = false from rfl)]
        rw [members?_renderWith level l w ms hi.2 (sp.blank_gap _) hlen]
        simp only [List.reverse_cons, List.append_assoc, List.singleton_append]
        rfl
  · simp only [hv, false_and, if_false]
termination_by sizeOf v + sizeOf ms + 1
decreasing_by
  · omega
  · simp only [hms, List.cons.sizeOf_spec, Prod.mk.sizeOf_spec]
    omega

end

/-! ## Whole texts -/

/-- A text is read as the value it was written from, with its members by their keys, unless that
is nested deeper than allowed. White space may follow it. -/
theorem parseWithin?_renderWith (sp : Spacing) {v : Value} (hi : v.IntegerOnly) (depth : Nat)
    {rest : List Char} (hr : Blank rest) :
    parseWithin? depth (v.renderWith sp 0 ++ rest) =
      if v.depth ≤ depth then some v.normal else none := by
  have hclosed : Closed rest := by
    rw [← List.append_nil rest]
    exact closed_gap hr trivial
  have hskip : skipSpace rest = [] := by
    rw [← List.append_nil rest, skipSpace_blank hr]
    rfl
  rw [parseWithin?, value?_renderWith 0 v hi hclosed (by rw [List.length_append]; omega)]
  by_cases hd : v.depth ≤ depth
  · rw [if_pos hd, if_pos hd]
    simp only [hskip, if_true]
  · rw [if_neg hd, if_neg hd]

/-- A text is read back as the value it was written from, unless that is
nested deeper than allowed. -/
theorem parseWithin?_render {v : Value} (hc : v.Canonical) (hi : v.IntegerOnly) (depth : Nat) :
    parseWithin? depth v.render = if v.depth ≤ depth then some v else none := by
  have h := parseWithin?_renderWith .compact hi depth blank_nil
  rwa [List.append_nil, renderWith_compact, normal_of_canonical v hc] at h

/-- The members of an object may be written in any order: the text is read as
the object with these members. -/
theorem parseWithin?_members {k : String} {w : Value} {ms : List (String × Value)}
    (hc : MembersCanonical ((k, w) :: ms)) (hi : MembersIntegerOnly ((k, w) :: ms)) {depth : Nat}
    (hd : membersDepth ((k, w) :: ms) ≤ depth) :
    parseWithin? (depth + 1) (Value.object ((k, w) :: ms)).render =
      some (.ofMembers ((k, w) :: ms)) := by
  have hdepth : (Value.object ((k, w) :: ms)).depth ≤ depth + 1 := Nat.succ_le_succ hd
  have h := parseWithin?_renderWith .compact (v := .object ((k, w) :: ms)) hi (depth + 1)
    blank_nil
  rw [List.append_nil, renderWith_compact, if_pos hdepth] at h
  rw [h, normal, normalMembers_of_canonical _ hc]

/-- The members of an object are read in the order of the text, with every repetition of a
key. -/
theorem parseMembers?_renderWith (sp : Spacing) {ms : List (String × Value)}
    (hi : MembersIntegerOnly ms) (hd : membersDepth ms ≤ nestingLimit - 1) :
    parseMembers? (String.ofList ((Value.object ms).renderWith sp 0)) =
      some (normalMembers ms) := by
  rw [parseMembers?]
  simp only [String.toList_ofList]
  match ms with
  | [] => rfl
  | (k, v) :: ms =>
      have hmembers : members? (((Value.object ((k, v) :: ms)).renderWith sp 0).length + 1)
            (nestingLimit - 1) ([] ++ (quote k ++ ':' :: (sp.afterColon ++
              (v.renderWith sp 1 ++ (membersWith sp 0 ms ++ []))))) [] =
          if membersDepth ((k, v) :: ms) ≤ nestingLimit - 1 then
            some (normalMembers ((k, v) :: ms), [])
          else none :=
        members?_renderWith 0 k v ms hi blank_nil
          (by simp only [renderWith, List.length_cons, List.length_append]; omega)
      rw [if_pos hd] at hmembers
      simp only [renderWith, quote, List.cons_append, List.append_assoc, List.append_nil,
        List.nil_append] at hmembers ⊢
      simp only [skipSpace_cons (show isSpace '\x7b' = false from rfl),
        skipSpace_blank (sp.blank_gap _), skipSpace_cons (show isSpace '"' = false from rfl)]
      split
      · next heq => cases heq
      · rw [hmembers]
        rfl

end PolicyHost.Json.Value
