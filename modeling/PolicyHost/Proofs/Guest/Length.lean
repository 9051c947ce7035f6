import PolicyHost.Proofs.Guest.Encoding

/-!
# The length of a text that is not written

The host asks for the length of a text before it writes it, and what it is told
is the length of what it would write: `length_encode`. The two are counted
differently. What is written goes character by character, and each is escaped
or not; what is counted goes byte by byte, which comes to the same because only
characters of one byte are ever escaped.
-/

namespace PolicyHost.Guest

open Json

/-! ## Strings -/

/-- Counts what bytes take in a string, beside what was counted already. -/
def countBytes (size : Nat) (bytes : List UInt8) : Nat :=
  bytes.foldl (fun size b => size + escapedSize b) size

/-- What bytes take in a string that are not escaped. -/
theorem countBytes_plain {bytes : List UInt8} (h : ∀ b ∈ bytes, escapedSize b = 1) (size : Nat) :
    countBytes size bytes = size + bytes.length := by
  induction bytes generalizing size with
  | nil => rfl
  | cons b bytes ih =>
      have hrest : ∀ b ∈ bytes, escapedSize b = 1 := fun b hb => h b (List.mem_cons_of_mem _ hb)
      rw [countBytes, List.foldl_cons, h b List.mem_cons_self]
      exact (ih hrest (size + 1)).trans (by rw [List.length_cons]; omega)

/-- Only characters of one byte are ever escaped. -/
theorem escape_of_high {c : Char} (h : ¬ c.toNat < 128) : escape c = [c] := by
  rw [escape]
  repeat rw [if_neg (by rintro rfl; exact absurd (by decide) h)]
  rw [if_neg (by omega)]

theorem escapedSize_of_high {b : UInt8} (h : 128 ≤ b.toNat) : escapedSize b = 1 := by
  rw [escapedSize, if_neg, if_neg]
  · rw [UInt8.lt_iff_toNat_lt]
    exact Nat.not_lt.mpr (Nat.le_trans (by decide) h)
  · simp only [← UInt8.toNat_inj, UInt8.le_iff_toNat_le]
    simp only [UInt8.reduceToNat]
    omega

theorem escapedSize_of_ascii {c : Char} (h : c.toNat < 128) :
    escapedSize (UInt8.ofNat c.toNat) = (bytesOf (escape c)).length := by
  have hall : ∀ n < 128, escapedSize (UInt8.ofNat (Char.ofNat n).toNat) =
      (bytesOf (escape (Char.ofNat n))).length := by
    decide +kernel
  have hchar := hall c.toNat h
  rwa [Char.ofNat_toNat] at hchar

/-- What a character takes in a string is counted by its bytes. -/
theorem countBytes_char (c : Char) (size : Nat) :
    countBytes size (String.utf8EncodeChar c) = size + (bytesOf (escape c)).length := by
  by_cases h : c.toNat < 128
  · rw [utf8EncodeChar_of_ascii h, countBytes, List.foldl_cons, List.foldl_nil,
      escapedSize_of_ascii h]
  · have hplain : ∀ b ∈ String.utf8EncodeChar c, escapedSize b = 1 := fun b hb =>
      escapedSize_of_high (le_of_mem_utf8EncodeChar (Nat.le_of_not_lt h) hb)
    rw [countBytes_plain hplain, escape_of_high h, bytesOf_cons, bytesOf, List.flatMap_nil,
      List.append_nil]

theorem countBytes_bytesOf (cs : List Char) (size : Nat) :
    countBytes size (bytesOf cs) = size + (bytesOf (cs.flatMap escape)).length := by
  induction cs generalizing size with
  | nil => rfl
  | cons c cs ih =>
      have happend : countBytes size (bytesOf (c :: cs)) =
          countBytes (countBytes size (String.utf8EncodeChar c)) (bytesOf cs) := by
        rw [bytesOf_cons, countBytes, List.foldl_append]
        rfl
      rw [happend, ih, countBytes_char, List.flatMap_cons, bytesOf_append, List.length_append,
        Nat.add_assoc]

/-- The loop that folds over a byte array, from where it has got to. -/
theorem foldlM_loop_eq {β : Type} (f : β → UInt8 → β) (b : ByteArray) (left : Nat) :
    ∀ (i : Nat) (done : β), b.size - i ≤ left →
      ByteArray.foldlM.loop (m := Id) (fun done x => pure (f done x)) b b.size (Nat.le_refl _)
        left i done = (b.data.toList.drop i).foldl f done := by
  -- The loop counts `left` down and `i` up, and either may be what ends it.
  have hsize : b.data.toList.length = b.size := Array.length_toList
  induction left with
  | zero =>
      intro i done hi
      rw [ByteArray.foldlM.loop, List.drop_eq_nil_of_le (by omega)]
      split <;> rfl
  | succ left ih =>
      intro i done hi
      by_cases hlt : i < b.size
      · have hdata : i < b.data.toList.length := hsize ▸ hlt
        rw [ByteArray.foldlM.loop, dif_pos hlt, List.drop_eq_getElem_cons hdata, List.foldl_cons]
        exact ih (i + 1) _ (by omega)
      · rw [ByteArray.foldlM.loop, dif_neg hlt, List.drop_eq_nil_of_le (by omega)]
        rfl

theorem foldl_eq {β : Type} (f : β → UInt8 → β) (init : β) (b : ByteArray) :
    b.foldl f init = b.toList.foldl f init := by
  rw [byteArray_toList, ByteArray.foldl, ByteArray.foldlM]
  simp only [Nat.le_refl, dite_true]
  exact foldlM_loop_eq f b b.size 0 init (by omega)

theorem length_ascii_cons {c : Char} (h : c.toNat < 128) (cs : List Char) :
    (bytesOf (c :: cs)).length = 1 + (bytesOf cs).length := by
  rw [bytesOf_cons, utf8EncodeChar_of_ascii h, List.length_append, List.length_singleton]

theorem quotedSize_eq (s : String) : quotedSize s = (bytesOf (quote s)).length := by
  have hbytes : s.toUTF8.toList = bytesOf s.toList := by
    rw [← toUTF8_toList, String.ofList_toList]
  have hcount : quotedSize s = countBytes 2 (bytesOf s.toList) := by
    rw [quotedSize, foldl_eq, hbytes]
    rfl
  have hclosing : (bytesOf ['"']).length = 1 := length_ascii_cons (by decide) []
  rw [hcount, countBytes_bytesOf, quote, length_ascii_cons (by decide), bytesOf_append,
    List.length_append, hclosing]
  omega

/-! ## Values -/

mutual

theorem length_bytesOf_render (v : Value) : (bytesOf v.render).length = v.textSize := by
  match v with
  | .null | .bool true | .bool false | .array [] | .object [] => decide
  | .number n =>
      rw [Value.render, Value.textSize, utf8ByteSize_eq, toUTF8_toList]
  | .string s => rw [Value.render, Value.textSize, quotedSize_eq]
  | .array (v :: rest) =>
      rw [Value.render, Value.textSize, length_ascii_cons (by decide), bytesOf_append,
        List.length_append, length_bytesOf_render v, length_bytesOf_renderItems rest]
  | .object ((k, v) :: rest) =>
      rw [Value.render, Value.textSize, length_ascii_cons (by decide), bytesOf_append,
        List.length_append, length_ascii_cons (by decide), bytesOf_append, List.length_append,
        length_bytesOf_render v, length_bytesOf_renderMembers rest, quotedSize_eq]

theorem length_bytesOf_renderItems (items : List Value) :
    (bytesOf (Value.renderItems items)).length = Value.itemsSize items := by
  match items with
  | [] => decide
  | v :: rest =>
      rw [Value.renderItems, Value.itemsSize, length_ascii_cons (by decide), bytesOf_append,
        List.length_append, length_bytesOf_render v, length_bytesOf_renderItems rest]

theorem length_bytesOf_renderMembers (members : List (String × Value)) :
    (bytesOf (Value.renderMembers members)).length = Value.membersSize members := by
  match members with
  | [] => decide
  | (k, v) :: rest =>
      rw [Value.renderMembers, Value.membersSize, length_ascii_cons (by decide), bytesOf_append,
        List.length_append, length_ascii_cons (by decide), bytesOf_append, List.length_append,
        length_bytesOf_render v, length_bytesOf_renderMembers rest, quotedSize_eq]

end

/-- The length that is known beforehand is that of the text. -/
theorem length_encode (v : Value) : (encode v).length = v.textSize := by
  rw [encode_eq, length_bytesOf_render]

/-- A string of one character over and over. -/
theorem length_encode_replicate (n : Nat) (c : Char) :
    (encode (.string (String.ofList (List.replicate n c)))).length =
      n * (bytesOf (escape c)).length + 2 := by
  have hescapes : (bytesOf ((List.replicate n c).flatMap escape)).length =
      n * (bytesOf (escape c)).length := by
    induction n with
    | zero => rw [Nat.zero_mul]; rfl
    | succ n ih =>
        rw [List.replicate_succ, List.flatMap_cons, bytesOf_append, List.length_append, ih,
          Nat.succ_mul, Nat.add_comm]
  have hclosing : (bytesOf ['"']).length = 1 := length_ascii_cons (by decide) []
  rw [encode_eq, Value.render, quote, String.toList_ofList, length_ascii_cons (by decide),
    bytesOf_append, List.length_append, hescapes, hclosing]
  omega

/-- Bringing a value in is bringing its text in. -/
theorem load_eq (g : Guest) (host : Host) (v : Value) :
    load g host v = loadText g host (encode v) := by
  rw [load, ← length_encode]
  by_cases h : longestText < (encode v).length
  · rw [loadText]
    simp only [if_pos h]
    rfl
  · simp only [if_neg h]

end PolicyHost.Guest
