import Mathlib.Data.List.TakeWhile
import PolicyHost.Builtin.Format

/-!
# Formats, part by part

What a format is made of is said by how it is written: plain characters and
directives (`Complete`), and at the very end perhaps a directive that has no verb
(`Unfinished`). Reading such a format gives its segments in that order, whatever
follows it (`Complete.segments_append`), so a text that is put behind a complete
format is filled in on its own, with the values that the format left
(`format_append`).

The values are counted and not looked at: a segment takes one value or none
(`demand`), and the segments behind it see what is left of the values, also when
nothing is.

A format need not have a text: the host goes down when a number is to have too
many decimals. `Overlong` says this of a format as it is written, and
`format_eq_none_iff` that there is no other case.
-/

namespace PolicyHost.Builtin

open Json

/-! ## Formats as they are written -/

/-- A directive with its verb: a percent sign and the verb, or a percent sign, a
point, digits and the verb. -/
inductive Directive : List Char → Char → Prop
  | bare {verb : Char} : verb ≠ '.' → Directive ['%', verb] verb
  | precise {ds : List Char} {verb : Char} : (∀ d ∈ ds, Decimal.isDigit d = true) →
      Decimal.isDigit verb = false → Directive ('%' :: '.' :: (ds ++ [verb])) verb

/-- Plain characters and directives; the number is that of the directives that take
a value. -/
inductive Complete : List Char → Nat → Prop
  | nil : Complete [] 0
  | plain {c : Char} {f : List Char} {k : Nat} : c ≠ '%' → Complete f k → Complete (c :: f) k
  | directive {d f : List Char} {verb : Char} {k : Nat} : Directive d verb → Complete f k →
      Complete (d ++ f) (k + if verb = '%' then 0 else 1)

/-- The beginning of a directive, up to where its verb would stand. -/
inductive Unfinished : List Char → Prop
  | bare : Unfinished ['%']
  | precise {ds : List Char} : (∀ d ∈ ds, Decimal.isDigit d = true) →
      Unfinished ('%' :: '.' :: ds)

/-- A complete format, or one with an unfinished directive behind it, and the number
of its directives that take a value. -/
def Demands (f : List Char) (k : Nat) : Prop :=
  ∃ front tail, f = front ++ tail ∧ Complete front k ∧ (tail = [] ∨ Unfinished tail)

/-- Behind complete parts a directive asks for too many decimals of a number. -/
def Overlong (f : List Char) (vs : List Value) : Prop :=
  ∃ front ds rest k n, f = front ++ '%' :: '.' :: (ds ++ 'f' :: rest) ∧ Complete front k ∧
    (∀ d ∈ ds, Decimal.isDigit d = true) ∧ mostPlaces < Decimal.ofDigits ds ∧
    Decimal.ofDigits ds < 2 ^ 64 ∧ vs[k]? = some (.number n)

/-- Every percent sign written twice. -/
def doubled (cs : List Char) : List Char :=
  cs.flatMap fun c => if c = '%' then ['%', '%'] else [c]

/-! ## Reading -/

section

variable {cs after : List Char} {verb : Char} {precision : Option Nat}

theorem segments_nil : segments [] = [] := by
  rw [segments]

theorem segments_plain {c : Char} (h : c ≠ '%') : segments (c :: cs) = .plain c :: segments cs := by
  rw [segments, if_pos h]

theorem segments_unfinished (h : takePrecision cs = (precision, [])) :
    segments ('%' :: cs) = [.unfinished] := by
  rw [segments, if_neg (not_not_intro rfl)]
  split
  · rfl
  · next hverb =>
      rw [h] at hverb
      cases hverb

theorem segments_directive (h : takePrecision cs = (precision, verb :: after)) :
    segments ('%' :: cs) = .directive precision verb :: segments after := by
  rw [segments, if_neg (not_not_intro rfl)]
  split
  · next hnone =>
      rw [h] at hnone
      cases hnone
  · next hverb =>
      rw [h] at hverb
      cases hverb
      rfl

theorem takePrecision_of_ne {c : Char} (h : c ≠ '.') :
    takePrecision (c :: cs) = (none, c :: cs) := by
  rw [takePrecision]
  rintro cs hcs
  exact h (List.cons.inj hcs).1

theorem takePrecision_point (cs : List Char) :
    takePrecision ('.' :: cs) =
      (precision? (cs.takeWhile Decimal.isDigit), cs.dropWhile Decimal.isDigit) :=
  rfl

theorem segments_precise {ds : List Char} (hdigits : ∀ d ∈ ds, Decimal.isDigit d = true)
    (hverb : Decimal.isDigit verb = false) : segments ('%' :: '.' :: (ds ++ verb :: cs)) =
      .directive (precision? ds) verb :: segments cs := by
  have hnot : ¬ Decimal.isDigit verb = true := by rw [hverb]; exact Bool.false_ne_true
  refine segments_directive ?_
  rw [takePrecision_point, List.takeWhile_append_of_pos hdigits,
    List.dropWhile_append_of_pos hdigits, List.takeWhile_cons_of_neg hnot,
    List.dropWhile_cons_of_neg hnot, List.append_nil]

/-- A directive is read up to its verb, whatever follows. -/
theorem Directive.segments_append {d : List Char} (h : Directive d verb) :
    ∃ precision, ∀ cs, segments (d ++ cs) = .directive precision verb :: segments cs := by
  cases h with
  | bare hverb => exact ⟨none, fun cs => segments_directive (takePrecision_of_ne hverb)⟩
  | @precise ds _ hdigits hverb =>
      refine ⟨precision? ds, fun cs => ?_⟩
      rw [← segments_precise hdigits hverb, List.cons_append, List.cons_append,
        List.append_assoc, List.singleton_append]

/-- Where reading finds a verb, a directive is written; a precision that was read is that of its
digits. -/
theorem directive_of_takePrecision (h : takePrecision cs = (precision, verb :: after)) :
    ∃ d, '%' :: cs = d ++ after ∧ Directive d verb ∧ ∀ n, precision = some n →
      ∃ ds, d = '%' :: '.' :: (ds ++ [verb]) ∧ (∀ c ∈ ds, Decimal.isDigit c = true) ∧
        precision? ds = some n := by
  cases cs with
  | nil => cases h
  | cons c cs =>
      by_cases hc : c = '.'
      · subst hc
        rw [takePrecision_point] at h
        obtain ⟨hprecision, hdrop⟩ := Prod.mk.inj h
        have hdigits : ∀ d ∈ cs.takeWhile Decimal.isDigit, Decimal.isDigit d = true := fun d hd =>
          List.mem_takeWhile_imp hd
        have hverb : Decimal.isDigit verb = false := by
          have hhead := List.head?_dropWhile_not Decimal.isDigit cs
          rw [hdrop] at hhead
          exact hhead
        refine ⟨'%' :: '.' :: (cs.takeWhile Decimal.isDigit ++ [verb]), ?_,
          .precise hdigits hverb, fun n hn => ⟨_, rfl, hdigits, hprecision.trans hn⟩⟩
        simp only [List.cons_append, List.append_assoc, List.nil_append, ← hdrop,
          List.takeWhile_append_dropWhile]
      · rw [takePrecision_of_ne hc] at h
        cases h
        refine ⟨['%', verb], rfl, .bare hc, ?_⟩
        rintro n ⟨⟩

/-- Where reading finds no verb, only the beginning of a directive is written. -/
theorem unfinished_of_takePrecision (h : takePrecision cs = (precision, [])) :
    Unfinished ('%' :: cs) := by
  cases cs with
  | nil => exact .bare
  | cons c cs =>
      by_cases hc : c = '.'
      · subst hc
        rw [takePrecision_point] at h
        obtain ⟨-, hdrop⟩ := Prod.mk.inj h
        exact .precise (List.dropWhile_eq_nil_iff.mp hdrop)
      · rw [takePrecision_of_ne hc] at h
        cases h

end

/-- Every format is a complete one, perhaps with an unfinished directive behind it. -/
theorem exists_demands (f : List Char) : ∃ k, Demands f k := by
  induction f using segments.induct with
  | case1 => exact ⟨0, [], [], rfl, .nil, Or.inl rfl⟩
  | case2 c cs hc ih =>
      obtain ⟨k, front, tail, rfl, hfront, htail⟩ := ih
      exact ⟨k, c :: front, tail, rfl, .plain hc hfront, htail⟩
  | case3 c cs hc precision hread =>
      obtain rfl : c = '%' := Classical.not_not.mp hc
      exact ⟨0, [], '%' :: cs, rfl, .nil, Or.inr (unfinished_of_takePrecision hread)⟩
  | case4 c cs hc precision verb after hread ih =>
      obtain rfl : c = '%' := Classical.not_not.mp hc
      obtain ⟨d, hd, hdirective, -⟩ := directive_of_takePrecision hread
      obtain ⟨k, front, tail, rfl, hfront, htail⟩ := ih
      exact ⟨_, d ++ front, tail, by rw [hd, List.append_assoc], .directive hdirective hfront,
        htail⟩

/-! ## Filling in -/

section

variable {precision : Option Nat} {verb : Char} {rest : List Segment} {v : Value}
  {vs : List Value}

theorem fill_nil : fill [] vs = some [] :=
  rfl

theorem fill_plain {c : Char} : fill (.plain c :: rest) vs = (fill rest vs).map (c :: ·) :=
  rfl

theorem fill_unfinished :
    fill (.unfinished :: rest) vs = (fill rest vs).map ("%!(NOVERB)".toList ++ ·) :=
  rfl

theorem fill_percent :
    fill (.directive precision '%' :: rest) vs = (fill rest vs).map ('%' :: ·) :=
  if_pos rfl

theorem fill_value (h : verb ≠ '%') : fill (.directive precision verb :: rest) (v :: vs) =
    (formatValue precision verb v).bind fun front => (fill rest vs).map (front ++ ·) := by
  rw [fill, if_neg h]
  cases formatValue precision verb v with
  | none => rfl
  | some front => cases fill rest vs <;> rfl

theorem fill_missing (h : verb ≠ '%') : fill (.directive precision verb :: rest) [] =
    (fill rest []).map fun back => '%' :: '!' :: verb :: ("(MISSING)".toList ++ back) :=
  if_neg h

/-- Only a number under the verb for decimals may have no text. -/
theorem formatValue_eq_none_iff : formatValue precision verb v = none ↔
    verb = 'f' ∧ (∃ n, v = .number n) ∧ mostPlaces < precision.getD defaultPlaces := by
  by_cases hf : verb = 'f'
  · subst hf
    cases v <;> simp [formatValue]
  · refine iff_of_false (fun hnone => ?_) fun h => hf h.1
    unfold formatValue at hnone
    rw [if_neg hf] at hnone
    cases v <;> grind

end

/-- The number of values that segments take. -/
def demand : List Segment → Nat
  | [] => 0
  | .plain _ :: rest => demand rest
  | .unfinished :: rest => demand rest
  | .directive _ verb :: rest => demand rest + if verb = '%' then 0 else 1

/-- Reading a complete format ends where the format does. -/
theorem Complete.segments_append {f : List Char} {k : Nat} (h : Complete f k) (g : List Char) :
    segments (f ++ g) = segments f ++ segments g := by
  induction h with
  | nil => rw [segments_nil, List.nil_append, List.nil_append]
  | plain hc _ ih =>
      rw [List.cons_append, segments_plain hc, segments_plain hc, ih, List.cons_append]
  | directive hd _ ih =>
      obtain ⟨precision, hread⟩ := hd.segments_append
      rw [List.append_assoc, hread, hread, ih, List.cons_append]

theorem Complete.demand_segments {f : List Char} {k : Nat} (h : Complete f k) :
    demand (segments f) = k := by
  induction h with
  | nil => rw [segments_nil, demand]
  | plain hc _ ih => rw [segments_plain hc, demand, ih]
  | directive hd _ ih =>
      obtain ⟨precision, hread⟩ := hd.segments_append
      rw [hread, demand, ih]

/-- The segments behind others are filled in with the values that these leave. -/
theorem fill_append (ss ts : List Segment) (vs : List Value) : fill (ss ++ ts) vs =
    (fill ss vs).bind fun front => (fill ts (vs.drop (demand ss))).map (front ++ ·) := by
  induction ss generalizing vs with
  | nil => exact Option.map_id_apply.symm
  | cons s ss ih =>
      rw [List.cons_append]
      cases s with
      | plain c =>
          rw [fill_plain, fill_plain, ih, demand, Option.map_bind, Option.bind_map]
          simp only [Function.comp_def, Option.map_map, List.cons_append]
      | unfinished =>
          rw [fill_unfinished, fill_unfinished, ih, demand, Option.map_bind, Option.bind_map]
          simp only [Function.comp_def, Option.map_map, List.append_assoc]
      | directive precision verb =>
          rw [demand]
          by_cases hverb : verb = '%'
          · subst hverb
            rw [fill_percent, fill_percent, ih, if_pos rfl, Option.map_bind, Option.bind_map]
            simp only [Function.comp_def, Option.map_map, List.cons_append, Nat.add_zero]
          · rw [if_neg hverb]
            cases vs with
            | nil =>
                rw [fill_missing hverb, fill_missing hverb, ih, List.drop_nil, List.drop_nil,
                  Option.map_bind, Option.bind_map]
                simp only [Function.comp_def, Option.map_map, List.cons_append, List.append_assoc]
            | cons v vs =>
                rw [fill_value hverb, fill_value hverb, ih, List.drop_succ_cons,
                  Option.bind_assoc]
                simp only [Option.map_bind, Option.bind_map, Function.comp_def, Option.map_map,
                  List.append_assoc]

/-- Values behind those that segments take are not looked at. -/
theorem fill_surplus (ss : List Segment) {vs : List Value} (h : demand ss ≤ vs.length)
    (extra : List Value) : fill ss (vs ++ extra) = fill ss vs := by
  induction ss generalizing vs with
  | nil => rfl
  | cons s ss ih =>
      cases s with
      | plain c => rw [fill_plain, fill_plain, ih h]
      | unfinished => rw [fill_unfinished, fill_unfinished, ih h]
      | directive precision verb =>
          rw [demand] at h
          by_cases hverb : verb = '%'
          · subst hverb
            rw [fill_percent, fill_percent, ih h]
          · rw [if_neg hverb] at h
            cases vs with
            | nil => exact absurd h (Nat.not_succ_le_zero _)
            | cons v vs =>
                have hrest : demand ss ≤ vs.length := Nat.le_of_succ_le_succ h
                rw [List.cons_append, fill_value hverb, fill_value hverb, ih hrest]

section

variable {f d g : List Char} {k : Nat} {verb : Char} {vs : List Value}

/-- What is behind a complete format is filled in on its own. -/
theorem format_append (h : Complete f k) (g : List Char) (vs : List Value) : format (f ++ g) vs =
    (format f vs).bind fun front => (format g (vs.drop k)).map (front ++ ·) := by
  rw [format, h.segments_append, fill_append, h.demand_segments, format, format]

/-- A directive that no value is left for says so. -/
theorem format_missing (h : Directive d verb) (hverb : verb ≠ '%') (g : List Char) :
    format (d ++ g) [] =
      (format g []).map fun back => '%' :: '!' :: verb :: ("(MISSING)".toList ++ back) := by
  obtain ⟨precision, hread⟩ := h.segments_append
  rw [format, hread, fill_missing hverb, format]

theorem format_unfinished (h : Unfinished d) (vs : List Value) :
    format d vs = some "%!(NOVERB)".toList := by
  have hread : segments d = [.unfinished] := by
    cases h with
    | bare => exact segments_unfinished rfl
    | precise hdigits =>
        refine segments_unfinished ((takePrecision_point _).trans (Prod.ext rfl ?_))
        exact List.dropWhile_eq_nil_iff.mpr hdigits
  rw [format, hread, fill_unfinished, fill_nil, Option.map_some, List.append_nil]

/-- Values behind those that a format takes are not looked at. -/
theorem format_surplus (h : Demands f k) (hk : k ≤ vs.length) (extra : List Value) :
    format f (vs ++ extra) = format f vs := by
  obtain ⟨front, tail, rfl, hfront, htail⟩ := h
  have hsame (ws : List Value) : format tail ws = format tail [] := by
    rcases htail with rfl | htail
    · rw [format, format, segments_nil, fill_nil, fill_nil]
    · rw [format_unfinished htail, format_unfinished htail]
  have hfirst : format front (vs ++ extra) = format front vs :=
    fill_surplus (segments front) (hfront.demand_segments ▸ hk) extra
  rw [format_append hfront, format_append hfront, hsame, hsame (vs.drop k), hfirst]

theorem format_doubled (cs : List Char) (vs : List Value) : format (doubled cs) vs = some cs := by
  induction cs with
  | nil => rw [doubled, List.flatMap_nil, format, segments_nil, fill_nil]
  | cons c cs ih =>
      rw [doubled, List.flatMap_cons, ← doubled]
      by_cases hc : c = '%'
      · subst hc
        rw [if_pos rfl, format, List.cons_append, List.singleton_append,
          segments_directive (takePrecision_of_ne (by decide)), fill_percent, ← format, ih,
          Option.map_some]
      · rw [if_neg hc, format, List.singleton_append, segments_plain hc, fill_plain, ← format, ih,
          Option.map_some]

theorem Overlong.format_eq_none (h : Overlong f vs) : format f vs = none := by
  obtain ⟨front, ds, rest, k, n, rfl, hfront, hdigits, hmost, hfits, hv⟩ := h
  have hprecision : precision? ds = some (Decimal.ofDigits ds) := by
    refine if_neg (not_or_intro ?_ (Nat.not_le_of_lt hfits))
    rintro rfl
    exact absurd hmost (by decide)
  have hvalue : formatValue (precision? ds) 'f' (.number n) = none :=
    formatValue_eq_none_iff.mpr ⟨rfl, ⟨n, rfl⟩, by rw [hprecision]; exact hmost⟩
  obtain ⟨hk, hn⟩ := List.getElem?_eq_some_iff.mp hv
  have hback : format ('%' :: '.' :: (ds ++ 'f' :: rest)) (vs.drop k) = none := by
    rw [List.drop_eq_getElem_cons hk, hn, format, segments_precise hdigits rfl,
      fill_value (by decide), hvalue, Option.bind_none]
  rw [format_append hfront, hback]
  simp only [Option.map_none, Option.bind_fun_none]

theorem Overlong.behind (hd : Directive d verb)
    (h : Overlong f (vs.drop (if verb = '%' then 0 else 1))) : Overlong (d ++ f) vs := by
  obtain ⟨front, ds, rest, k, n, rfl, hfront, hds⟩ := h
  refine ⟨d ++ front, ds, rest, _, n, (List.append_assoc ..).symm, .directive hd hfront, ?_⟩
  rw [List.getElem?_drop, Nat.add_comm] at hds
  exact hds

/-- A directive that its value does not suit asks for too many decimals of a number. -/
theorem overlong_of_formatValue {precision : Option Nat} {cs after : List Char} {v : Value}
    (hread : takePrecision cs = (precision, verb :: after))
    (hnone : formatValue precision verb v = none) : Overlong ('%' :: cs) (v :: vs) := by
  obtain ⟨d, hd, -, hprecision⟩ := directive_of_takePrecision hread
  obtain ⟨rfl, ⟨n, rfl⟩, hmost⟩ := formatValue_eq_none_iff.mp hnone
  cases precision with
  | none => exact absurd hmost (by decide)
  | some places =>
      obtain ⟨ds, rfl, hdigits, hfits⟩ := hprecision places rfl
      rw [precision?, Option.ite_none_left_eq_some, not_or] at hfits
      obtain ⟨⟨-, hfits⟩, hplaces⟩ := hfits
      cases hplaces
      refine ⟨[], ds, after, 0, n, ?_, .nil, hdigits, hmost, Nat.lt_of_not_le hfits, rfl⟩
      rw [hd, List.cons_append, List.cons_append, List.append_assoc, List.singleton_append,
        List.nil_append]

/-- Only an overlong format has no text. -/
theorem format_eq_none_iff : format f vs = none ↔ Overlong f vs := by
  refine ⟨fun h => ?_, Overlong.format_eq_none⟩
  induction f using segments.induct generalizing vs with
  | case1 =>
      rw [format, segments_nil, fill_nil] at h
      cases h
  | case2 c cs hc ih =>
      rw [format, segments_plain hc, fill_plain, Option.map_eq_none_iff] at h
      obtain ⟨front, ds, rest, k, n, rfl, hfront, hds⟩ := ih h
      exact ⟨c :: front, ds, rest, k, n, rfl, .plain hc hfront, hds⟩
  | case3 c cs hc precision hread =>
      obtain rfl : c = '%' := Classical.not_not.mp hc
      rw [format_unfinished (unfinished_of_takePrecision hread)] at h
      cases h
  | case4 c cs hc precision verb after hread ih =>
      obtain rfl : c = '%' := Classical.not_not.mp hc
      obtain ⟨d, hd, hdirective, -⟩ := directive_of_takePrecision hread
      rw [format, segments_directive hread] at h
      by_cases hverb : verb = '%'
      · subst hverb
        rw [fill_percent, Option.map_eq_none_iff] at h
        rw [hd]
        exact .behind hdirective (ih h)
      · cases vs with
        | nil =>
            rw [fill_missing hverb, Option.map_eq_none_iff] at h
            rw [hd]
            refine .behind hdirective ?_
            rw [List.drop_nil]
            exact ih h
        | cons v vs =>
            rw [fill_value hverb, Option.bind_eq_none_iff] at h
            cases hfront : formatValue precision verb v with
            | some front =>
                rw [hd]
                refine .behind hdirective ?_
                rw [if_neg hverb, List.drop_succ_cons, List.drop_zero]
                exact ih (Option.map_eq_none_iff.mp (h front hfront))
            | none => exact overlong_of_formatValue hread hfront

end

/-! ## Strings -/

/-- The answer that a filled in format makes. -/
def written : Option (List Char) → Answer
  | some cs => .ok (some (text cs))
  | none => .error (.crash "sprintf")

/-- Two answers that are strings, one behind the other. -/
def joined (front back : Answer) : Answer := do
  match ← front, ← back with
  | some (.string s), some (.string t) => return some (.string (s ++ t))
  | _, _ => return none

theorem sprintf_string (f : String) (vs : List Value) :
    sprintf [.string f, .array vs] = written (format f.toList vs) := by
  have hread : sprintf [.string f, .array vs] = match format f.toList vs with
      | some cs => .ok (some (text cs))
      | none => .error (.crash "sprintf") :=
    rfl
  rw [hread, written.eq_def]

theorem joined_written (front back : Option (List Char)) :
    joined (written front) (written back) =
      written (front.bind fun front => back.map (front ++ ·)) := by
  cases front with
  | none => rfl
  | some front =>
      cases back with
      | none => rfl
      | some back =>
          have htext : String.ofList front ++ String.ofList back = String.ofList (front ++ back) :=
            String.ofList_append.symm
          exact congrArg (fun s => Except.ok (some (Value.string s))) htext

theorem written_ofString (s : String) : written (some s.toList) = .ok (some (.string s)) :=
  congrArg (fun s => Except.ok (some (Value.string s))) String.ofList_toList

/-- Formats are filled in part by part. What follows a complete format is filled in
on its own with the values that the format leaves, a directive that none is left for
says that its value is missing, and values beyond those that a format takes change
nothing, whatever the format; a string all whose percent signs are doubled stands
for itself. There is a text unless a directive asks for too many decimals of a
number, and then the host goes down. -/
theorem sprintf_part_by_part :
    (∀ (f g : String) (k : Nat) (vs : List Value), Complete f.toList k →
      sprintf [.string (f ++ g), .array vs] =
        joined (sprintf [.string f, .array vs]) (sprintf [.string g, .array (vs.drop k)])) ∧
    (∀ (f d g : String) (k : Nat) (verb : Char) (vs : List Value), Complete f.toList k →
      Directive d.toList verb → verb ≠ '%' → vs.length ≤ k →
      sprintf [.string (f ++ (d ++ g)), .array vs] =
        joined (sprintf [.string f, .array vs])
          (joined (.ok (some (.string ("%!" ++ String.singleton verb ++ "(MISSING)"))))
            (sprintf [.string g, .array []]))) ∧
    (∀ f : String, (∃ k, Demands f.toList k) ∧
      ∀ (k : Nat) (vs extra : List Value), Demands f.toList k → k ≤ vs.length →
        sprintf [.string f, .array (vs ++ extra)] = sprintf [.string f, .array vs]) ∧
    (∀ (s : String) (vs : List Value),
      sprintf [.string (String.ofList (doubled s.toList)), .array vs] =
        .ok (some (.string s))) ∧
    ∀ (f : String) (vs : List Value),
      (¬ Overlong f.toList vs → ∃ s, sprintf [.string f, .array vs] = .ok (some (.string s))) ∧
      (Overlong f.toList vs → sprintf [.string f, .array vs] = .error (.crash "sprintf")) := by
  refine ⟨fun f g k vs hf => ?_, fun f d g k verb vs hf hd hverb hvs => ?_,
    fun f => ⟨exists_demands f.toList, fun k vs extra hf hk => ?_⟩, fun s vs => ?_,
    fun f vs => ⟨fun hshort => ?_, fun hlong => ?_⟩⟩
  · rw [sprintf_string, sprintf_string, sprintf_string, String.toList_append, format_append hf,
      joined_written]
  · have hmark (back : List Char) : '%' :: '!' :: verb :: ("(MISSING)".toList ++ back) =
        ("%!" ++ String.singleton verb ++ "(MISSING)").toList ++ back := by
      rw [String.toList_append, String.toList_append, String.toList_singleton]
      rfl
    rw [sprintf_string, sprintf_string, sprintf_string, String.toList_append, format_append hf,
      String.toList_append, List.drop_eq_nil_of_le hvs, format_missing hd hverb,
      ← written_ofString, joined_written, joined_written, Option.bind_some]
    simp only [hmark]
  · rw [sprintf_string, sprintf_string, format_surplus hf hk]
  · rw [sprintf_string, String.toList_ofList, format_doubled, written_ofString]
  · rw [sprintf_string]
    cases hformat : format f.toList vs with
    | none => exact absurd (format_eq_none_iff.mp hformat) hshort
    | some cs => exact ⟨String.ofList cs, rfl⟩
  · rw [sprintf_string, format_eq_none_iff.mpr hlong, written]

/-- A format whose precision and doubled percent sign take no value, one value too
few and one too many for it, and one decimal too many of a number. -/
theorem sprintf_part_by_part_percent :
    (Complete "%.2f%%".toList 1 ∧ Directive "%s".toList 's' ∧ Demands "%.2f%%".toList 1 ∧
        Overlong "%.65536f".toList [.number default] ∧ ¬ Overlong "".toList []) ∧
      sprintf [.string ("%.2f%%" ++ ("%s" ++ "")), .array [.null]] =
        joined (sprintf [.string "%.2f%%", .array [.null]])
          (joined (.ok (some (.string ("%!" ++ String.singleton 's' ++ "(MISSING)"))))
            (sprintf [.string "", .array []])) ∧
      sprintf [.string "%.2f%%", .array ([.null] ++ [.null])] =
        sprintf [.string "%.2f%%", .array [.null]] ∧
      sprintf [.string "%.65536f", .array [.number default]] = .error (.crash "sprintf") ∧
      ∃ s, sprintf [.string "", .array []] = .ok (some (.string s)) := by
  have hdigits : ∀ d ∈ ['2'], Decimal.isDigit d = true := List.forall_mem_singleton.mpr rfl
  have hprecise : Directive ['%', '.', '2', 'f'] 'f' := @Directive.precise ['2'] 'f' hdigits rfl
  have hpercent : Directive ['%', '%'] '%' := .bare (by decide)
  have hf : Complete "%.2f%%".toList 1 := .directive hprecise (.directive hpercent .nil)
  have hd : Directive "%s".toList 's' := .bare (by decide)
  have hdemands : Demands "%.2f%%".toList 1 := ⟨_, [], (List.append_nil _).symm, hf, Or.inl rfl⟩
  have hlong : Overlong "%.65536f".toList [.number default] :=
    ⟨[], ['6', '5', '5', '3', '6'], [], 0, default, rfl, .nil, by simp [Decimal.isDigit], by decide,
      by decide, rfl⟩
  have hshort : ¬ Overlong "".toList [] := fun h => by
    have hsome : format [] [] = some [] := by rw [format, segments_nil, fill_nil]
    rw [String.toList_empty, ← format_eq_none_iff, hsome] at h
    cases h
  exact ⟨⟨hf, hd, hdemands, hlong, hshort⟩,
    sprintf_part_by_part.2.1 "%.2f%%" "%s" "" 1 's' [.null] hf hd (by decide) (Nat.le_refl 1),
    (sprintf_part_by_part.2.2.1 "%.2f%%").2 1 [.null] [.null] hdemands (Nat.le_refl 1),
    (sprintf_part_by_part.2.2.2.2 "%.65536f" [.number default]).2 hlong,
    (sprintf_part_by_part.2.2.2.2 "" []).1 hshort⟩

end PolicyHost.Builtin
