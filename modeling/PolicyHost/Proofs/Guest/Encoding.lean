import PolicyHost.Guest.Operation
import PolicyHost.Guest.Transfer
import PolicyHost.Proofs.Json.Canonical
import PolicyHost.Proofs.Json.Printable
import PolicyHost.Proofs.Json.ReadBack

/-!
# The bytes of a value

A value crosses a guest's memory as the bytes of its compact text, ended by a
zero. Three things make that work, and they are the statements of this module:
the bytes are read back as the value (`decode?_encode`), no byte of them is the
zero that ends them (`zero_not_mem_encode`, for every value there is), and a
guest that looks at the first two of them sees whether the value is a string
that begins with an exclamation mark (`isPrefixOf_encode`).

Bytes and characters are put together by one equation, `encode_eq`: the bytes
of a text are those of its characters, one after the other.
-/

namespace PolicyHost.Guest

open Json

/-! ## Bytes and characters -/

theorem byteArray_toList (b : ByteArray) : b.toList = b.data.toList := by
  have loop : ∀ (n i : Nat) (done : List UInt8), b.size - i = n →
      ByteArray.toList.loop b i done = done.reverse ++ b.data.toList.drop i := by
    intro n
    induction n with
    | zero =>
        intro i done hn
        have hsize : b.data.toList.length ≤ i := by
          rw [Array.length_toList]
          exact Nat.sub_eq_zero_iff_le.mp hn
        rw [ByteArray.toList.loop, if_neg (by omega), List.drop_eq_nil_of_le hsize,
          List.append_nil]
    | succ n ih =>
        intro i done hn
        have hi : i < b.data.size := by
          have : i < b.size := by omega
          exact this
        have hcons : b.data.toList.drop i = b.data[i] :: b.data.toList.drop (i + 1) :=
          List.drop_eq_getElem_cons (by rw [Array.length_toList]; exact hi)
        have hget : b.get! i = b.data[i] := getElem!_pos b.data i hi
        rw [ByteArray.toList.loop, if_pos (by omega), ih (i + 1) _ (by omega), hcons, hget,
          List.reverse_cons, List.append_assoc, List.singleton_append]
  exact (loop _ 0 [] rfl).trans (by simp)

theorem utf8ByteSize_eq (text : String) : text.utf8ByteSize = text.toUTF8.toList.length := by
  rw [byteArray_toList, Array.length_toList]
  rfl

/-- The bytes of characters. -/
def bytesOf (cs : List Char) : List UInt8 :=
  cs.flatMap String.utf8EncodeChar

theorem bytesOf_cons (c : Char) (cs : List Char) :
    bytesOf (c :: cs) = String.utf8EncodeChar c ++ bytesOf cs := by
  rw [bytesOf, List.flatMap_cons, bytesOf]

theorem bytesOf_append (cs ds : List Char) : bytesOf (cs ++ ds) = bytesOf cs ++ bytesOf ds := by
  rw [bytesOf, List.flatMap_append, bytesOf, bytesOf]

theorem byte_inj {j k : Nat} (hj : j < 256) (hk : k < 256) (h : UInt8.ofNat j = UInt8.ofNat k) :
    j = k := by
  have hnat : (UInt8.ofNat j).toNat = (UInt8.ofNat k).toNat := by rw [h]
  rwa [UInt8.toNat_ofNat_of_lt' hj, UInt8.toNat_ofNat_of_lt' hk] at hnat

theorem utf8EncodeChar_of_ascii {c : Char} (h : c.toNat < 128) :
    String.utf8EncodeChar c = [UInt8.ofNat c.toNat] := by
  have hc : c.val.toNat ≤ 0x7f := Nat.le_of_lt_succ h
  rw [String.utf8EncodeChar, if_pos hc]
  rfl

/-- The bytes of a character that has several are all above those of the characters that have
one. -/
theorem le_of_mem_utf8EncodeChar {c : Char} (h : 128 ≤ c.toNat) {b : UInt8}
    (hb : b ∈ String.utf8EncodeChar c) : 128 ≤ b.toNat := by
  have hc : ¬ c.val.toNat ≤ 0x7f := Nat.not_le_of_lt h
  have hword (k : Nat) (hlow : 128 ≤ k) (hhigh : k < 256) : 128 ≤ (UInt8.ofNat k).toNat := by
    rwa [UInt8.toNat_ofNat_of_lt' hhigh]
  rw [String.utf8EncodeChar, if_neg hc] at hb
  split at hb
  · simp only [List.mem_cons, List.not_mem_nil, or_false] at hb
    rcases hb with rfl | rfl <;> exact hword _ (by omega) (by omega)
  · split at hb
    · simp only [List.mem_cons, List.not_mem_nil, or_false] at hb
      rcases hb with rfl | rfl | rfl <;> exact hword _ (by omega) (by omega)
    · simp only [List.mem_cons, List.not_mem_nil, or_false] at hb
      rcases hb with rfl | rfl | rfl | rfl <;> exact hword _ (by omega) (by omega)

theorem toUTF8_toList (cs : List Char) : (String.ofList cs).toUTF8.toList = bytesOf cs := by
  rw [byteArray_toList, String.toUTF8_eq_toByteArray, String.toByteArray_ofList, List.utf8Encode,
    List.toList_data_toByteArray, bytesOf]

theorem encode_eq (v : Value) : encode v = bytesOf v.render :=
  toUTF8_toList v.render

theorem encode_empty : encode (.object []) = [0x7b, 0x7d] := by
  rw [encode_eq]
  decide

theorem length_encode_empty : (encode (.object [])).length = 2 := by
  rw [encode_empty]
  rfl

theorem decode?_bytesOf (cs : List Char) :
    decode? (bytesOf cs) = parseWithin? Reader.nestingLimit cs := by
  have hbytes : (bytesOf cs).toByteArray = (String.ofList cs).toByteArray := by
    rw [String.toByteArray_ofList, List.utf8Encode, bytesOf]
  have htext : String.fromUTF8? (String.ofList cs).toByteArray = some (String.ofList cs) := by
    rw [String.fromUTF8?, dif_pos (String.ofList cs).isValidUTF8]
    rfl
  rw [decode?, ofBytes?, hbytes, htext, Option.bind_some, parse?, String.toList_ofList]

/-- The bytes of a value are read back as the value, unless it is nested too
deep for the reader. -/
theorem decode?_encode {v : Value} (hc : v.Canonical) (hi : v.IntegerOnly) :
    decode? (encode v) = if v.depth ≤ Reader.nestingLimit then some v else none := by
  rw [encode_eq, decode?_bytesOf, Value.parseWithin?_render hc hi]

/-- A value that reading gives back exactly when it allows so many levels: its
numbers are integers, and its objects list their members in order. -/
structure Exact (levels : Nat) (v : Value) : Prop where
  canonical : v.Canonical
  integers : v.IntegerOnly
  depth : v.depth ≤ levels

theorem Exact.mono {m n : Nat} {v : Value} (h : Exact m v) (hn : m ≤ n) : Exact n v :=
  { h with depth := Nat.le_trans h.depth hn }

theorem Exact.decode? {v : Value} (h : Exact 127 v) : Guest.decode? (encode v) = some v := by
  rw [decode?_encode h.canonical h.integers]
  exact if_pos h.depth

theorem integerOnly_ofInt (n : Int) : (Value.ofInt n).IntegerOnly := by
  rw [Value.ofInt, Number.ofInt?]
  split
  · trivial
  · trivial

theorem canonical_ofInt (n : Int) : (Value.ofInt n).Canonical := by
  simp [Value.ofInt, Value.Canonical]

theorem exact_ofInt (n : Int) : Exact 0 (.ofInt n) :=
  ⟨canonical_ofInt n, integerOnly_ofInt n, Nat.le_refl 0⟩

theorem members_exact {levels : Nat} {ms : List (String × Value)}
    (h : ∀ m ∈ ms, Exact levels m.2) :
    Value.MembersCanonical ms ∧ Value.MembersIntegerOnly ms ∧ Value.membersDepth ms ≤ levels :=
  ⟨Value.membersCanonical_iff.mpr fun m hm => (h m hm).canonical,
    Value.membersIntegerOnly_iff.mpr fun m hm => (h m hm).integers,
    Value.membersDepth_le_iff.mpr fun m hm => (h m hm).depth⟩

theorem exact_empty : Exact 1 (.object []) :=
  ⟨⟨trivial, trivial⟩, trivial, Nat.le_refl 1⟩

/-! ## No zero among the bytes -/

theorem zero_not_mem_utf8EncodeChar {c : Char} (h : 0 < c.toNat) :
    (0 : UInt8) ∉ String.utf8EncodeChar c := by
  intro hmem
  by_cases hc : c.toNat < 128
  · rw [utf8EncodeChar_of_ascii hc, List.mem_singleton] at hmem
    exact Nat.ne_of_lt h (byte_inj (by decide) (by omega) hmem)
  · exact absurd (le_of_mem_utf8EncodeChar (Nat.le_of_not_lt hc) hmem) (by decide)

theorem zero_not_mem_encode (v : Value) : (0 : UInt8) ∉ encode v := by
  rw [encode_eq, bytesOf]
  intro hmem
  obtain ⟨c, hc, hb⟩ := List.mem_flatMap.mp hmem
  have hprint : 32 ≤ c.toNat := Value.printable_render v c hc
  exact zero_not_mem_utf8EncodeChar (by omega) hb

/-! ## The first bytes -/

/-- The bytes of no character begin those of another one. -/
theorem utf8EncodeChar_append_inj {c d : Char} {x y : List UInt8}
    (h : String.utf8EncodeChar c ++ x = String.utf8EncodeChar d ++ y) : c = d ∧ x = y := by
  have hread (e : Char) (z : List UInt8) :
      (String.utf8EncodeChar e ++ z).toByteArray.utf8DecodeChar? 0 = some e := by
    rw [List.toByteArray_append]
    exact ByteArray.utf8DecodeChar?_utf8EncodeChar_append
  have hchar : some c = some d := by rw [← hread c x, h, hread d y]
  obtain rfl := Option.some.inj hchar
  exact ⟨rfl, List.append_cancel_left h⟩

/-- A text begins with another one when its bytes do. -/
theorem append_of_bytes {p s : List Char} {y : List UInt8} (h : bytesOf s = bytesOf p ++ y) :
    ∃ b, s = p ++ b ∧ y = bytesOf b := by
  induction p generalizing s with
  | nil => exact ⟨s, rfl, h.symm⟩
  | cons c p ih =>
      rw [bytesOf_cons, List.append_assoc] at h
      cases s with
      | nil => exact absurd (List.append_eq_nil_iff.mp h.symm).1 String.utf8EncodeChar_ne_nil
      | cons d s =>
          rw [bytesOf_cons] at h
          obtain ⟨rfl, hrest⟩ := utf8EncodeChar_append_inj h
          obtain ⟨b, rfl, hb⟩ := ih hrest
          exact ⟨b, rfl, hb⟩

theorem isPrefixOf_bytesOf (front cs : List Char) :
    (bytesOf front).isPrefixOf (bytesOf cs) = front.isPrefixOf cs := by
  rw [Bool.eq_iff_iff, List.isPrefixOf_iff_prefix, List.isPrefixOf_iff_prefix]
  constructor
  · rintro ⟨y, h⟩
    obtain ⟨b, rfl, -⟩ := append_of_bytes h.symm
    exact List.prefix_append front b
  · rintro ⟨b, rfl⟩
    exact ⟨bytesOf b, (bytesOf_append front b).symm⟩

/-- Whether a value is a string that begins with an exclamation mark. -/
def exclaims : Value → Bool
  | .string s => s.toList.head? == some '!'
  | _ => false

theorem escape_head (c : Char) : ∃ d ds, escape c = d :: ds ∧ (('!' == d) = (c == '!')) := by
  by_cases hc : c.toNat < 32
  · have hne : (c == '!') = false := by
      rw [beq_eq_false_iff_ne]
      rintro rfl
      exact absurd hc (by decide)
    rw [escape, hne]
    repeat' split
    all_goals exact ⟨_, _, rfl, rfl⟩
  · rw [escape]
    repeat' split
    all_goals first
      | (subst_vars; exact ⟨_, _, rfl, rfl⟩)
      | contradiction
      | exact ⟨_, _, rfl, Bool.beq_comm⟩

/-- Of all values only those strings have a text that begins so. -/
theorem isPrefixOf_render {v : Value} (hi : v.IntegerOnly) :
    ['"', '!'].isPrefixOf v.render = exclaims v := by
  match v with
  | .null | .bool true | .bool false | .array [] | .array (_ :: _) | .object []
  | .object ((_, _) :: _) => rfl
  | .number (.float _) => exact absurd hi (by simp [Value.IntegerOnly])
  | .number (.integer n _) =>
      obtain ⟨c, cs, hn, hc⟩ := Decimal.ofInt_head n
      have hne : ('"' == c) = false := by
        rw [beq_eq_false_iff_ne]
        rintro rfl
        rcases hc with h | h <;> exact absurd h (by decide)
      rw [Value.render, Number.render, hn, List.isPrefixOf, hne, Bool.false_and]
      rfl
  | .string s =>
      rw [Value.render, quote, List.isPrefixOf, exclaims]
      cases hs : s.toList with
      | nil => rfl
      | cons c cs =>
          obtain ⟨d, ds, hd, hsame⟩ := escape_head c
          rw [List.flatMap_cons, hd, List.cons_append, List.cons_append, List.isPrefixOf, hsame,
            List.head?_cons]
          simp

theorem encode_ne_nil (v : Value) : encode v ≠ [] := by
  have hpos := Value.length_render_pos v
  intro h
  rw [encode_eq] at h
  cases hr : v.render with
  | nil => rw [hr] at hpos; exact absurd hpos (by decide)
  | cons c cs =>
      rw [hr, bytesOf_cons] at h
      exact String.utf8EncodeChar_ne_nil (List.append_eq_nil_iff.mp h).1

/-- The sample parser refuses exactly the strings that begin with an
exclamation mark. -/
theorem refusal?_encode {v : Value} (hi : v.IntegerOnly) :
    sample.refusal? (encode v) = if exclaims v then some .reject else none := by
  have hmark : "\"!".toUTF8.toList = bytesOf ['"', '!'] := toUTF8_toList ['"', '!']
  have hprefix := isPrefixOf_bytesOf ['"', '!'] v.render
  rw [isPrefixOf_render hi] at hprefix
  rw [Description.refusal?, sample, hmark, encode_eq]
  simp only [List.find?, hprefix]
  cases exclaims v <;> rfl

theorem refused_encode {v : Value} (hi : v.IntegerOnly) (hx : exclaims v = true) :
    (sample.refusal? (encode v)).isSome = true := by
  rw [refusal?_encode hi, if_pos hx]
  rfl

theorem taken_encode {v : Value} (hi : v.IntegerOnly) (hx : exclaims v = false) :
    (sample.refusal? (encode v)).isSome = false := by
  rw [refusal?_encode hi, hx]
  rfl

end PolicyHost.Guest
