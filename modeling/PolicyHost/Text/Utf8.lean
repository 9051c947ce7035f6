import PolicyHost.Number.Power

/-!
# Reading bytes as text

Two readings of bytes as UTF-8. The strict one is the core library's
`String.fromUTF8?`. The forgiving one, `decodeLossy`, never fails: wherever
the bytes stop being the beginning of a well-formed sequence, the part that
was still well formed is given up for one replacement character, and reading
goes on at the byte that broke it.
-/

namespace PolicyHost.Text

/-- The mark that stands for bytes that are no text. -/
def replacement : Char := '\uFFFD'

/-- How many bytes follow a leading byte, and which second bytes it allows:
the bounds keep out overlong forms, surrogates and numbers past the last
code point. -/
def leadShape (b : UInt8) : Option (Nat × UInt8 × UInt8) :=
  if 0xc2 ≤ b && b ≤ 0xdf then some (1, 0x80, 0xbf)
  else if b == 0xe0 then some (2, 0xa0, 0xbf)
  else if b == 0xed then some (2, 0x80, 0x9f)
  else if 0xe1 ≤ b && b ≤ 0xef then some (2, 0x80, 0xbf)
  else if b == 0xf0 then some (3, 0x90, 0xbf)
  else if 0xf1 ≤ b && b ≤ 0xf3 then some (3, 0x80, 0xbf)
  else if b == 0xf4 then some (3, 0x80, 0x8f)
  else none

/-- A sequence under way: how many bytes are missing, which values the next
one may have, and the bits collected so far. -/
structure Pending where
  missing : Nat
  low : UInt8
  high : UInt8
  bits : Nat

/-- Begins a character at the byte `b`: a whole character, a sequence under
way, or a byte that begins nothing. -/
def begin? (b : UInt8) : Char ⊕ Option Pending :=
  if b < 0x80 then .inl (Char.ofNat b.toNat)
  else .inr <| (leadShape b).map fun (missing, low, high) =>
    ⟨missing, low, high, b.toNat % 2 ^ (6 - missing)⟩

/-- Reads on in state `pending`; `done` holds the characters read, latest
first. -/
def decodeLossy.go : (bytes : List UInt8) → (pending : Option Pending) →
    (done : List Char) → List Char
  | [], none, done => done.reverse
  | [], some _, done => (replacement :: done).reverse
  | b :: rest, some p, done =>
      if p.low ≤ b && b ≤ p.high then
        let bits := p.bits * 64 + b.toNat % 64
        if p.missing ≤ 1 then go rest none (Char.ofNat bits :: done)
        else go rest (some ⟨p.missing - 1, 0x80, 0xbf, bits⟩) done
      else
        -- The sequence is given up, and the byte is read again as the first of another one.
        match begin? b with
        | .inl c => go rest none (c :: replacement :: done)
        | .inr (some q) => go rest (some q) (replacement :: done)
        | .inr none => go rest none (replacement :: replacement :: done)
  | b :: rest, none, done =>
      match begin? b with
      | .inl c => go rest none (c :: done)
      | .inr (some q) => go rest (some q) done
      | .inr none => go rest none (replacement :: done)

/-- The text that the bytes spell, with a replacement character for every
longest beginning of a sequence that is not completed and for every byte
that begins none. -/
def decodeLossy (bytes : List UInt8) : List Char :=
  decodeLossy.go bytes none []

end PolicyHost.Text
