/-!
# Ranges of characters as bytes

A range of characters in UTF-8. Bytes are compared one by one, so a range of
code points is cut until each part of it is a sequence of byte ranges, one for
each byte: the parts keep clear of the surrogates, their ends take the same
number of bytes, and from the first byte in which the ends differ on, the later
bytes run over all of their values.
-/

namespace PolicyHost.Text

/-- The bytes of a code point in UTF-8. -/
def codePointBytes (n : Nat) : List Nat :=
  if n < 0x80 then [n]
  else if n < 0x800 then [0xc0 + n / 0x40, 0x80 + n % 0x40]
  else if n < 0x10000 then [0xe0 + n / 0x1000, 0x80 + n / 0x40 % 0x40, 0x80 + n % 0x40]
  else
    [0xf0 + n / 0x40000, 0x80 + n / 0x1000 % 0x40, 0x80 + n / 0x40 % 0x40, 0x80 + n % 0x40]

abbrev ByteRange := Nat × Nat

/-- The part of a range between two code points. -/
def clip (low high : Nat) : Nat × Nat → List (Nat × Nat)
  | (a, b) => if max a low ≤ min b high then [(max a low, min b high)] else []

/-- The parts of a range past ASCII whose ends take the same number of bytes,
without the surrogates. -/
def byLength (r : Nat × Nat) : List (Nat × Nat) :=
  clip 0x80 0x7ff r ++ clip 0x800 0xd7ff r ++ clip 0xe000 0xffff r ++ clip 0x10000 0x10ffff r

/-- The parts of a range that begin and end at multiples of blocks of the given
sizes, each a multiple of the one before it, or lie in one block. -/
def byBlock : (sizes : List Nat) → Nat × Nat → List (Nat × Nat)
  | [], r => [r]
  | size :: larger, (low, high) =>
      if low / size = high / size then [(low, high)]
      else
        let first := if low % size = 0 then [] else [(low, low / size * size + size - 1)]
        let low := if low % size = 0 then low else low / size * size + size
        if low / size = high / size then first ++ [(low, high)]
        else if high % size = size - 1 then first ++ byBlock larger (low, high)
        else
          first ++ byBlock larger (low, high / size * size - 1) ++ [(high / size * size, high)]

/-- The sequences of byte ranges of a range of characters, in order. -/
def byteRanges (r : Nat × Nat) : List (List ByteRange) :=
  (clip 0 0x7f r ++ (byLength r).flatMap (byBlock [0x40, 0x1000, 0x40000])).map
    fun (low, high) => (codePointBytes low).zip (codePointBytes high)

end PolicyHost.Text
