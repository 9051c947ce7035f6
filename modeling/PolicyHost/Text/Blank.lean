/-!
# White space

The characters with the Unicode property of white space, the ones that
trimming takes off both ends of a text.
-/

namespace PolicyHost.Text

/-- A character with the Unicode property of white space: the controls from
tab to carriage return, the space, the next-line control, and the wider
spaces and line marks of the later blocks. -/
def isBlank (c : Char) : Bool :=
  let n := c.toNat
  (0x09 ≤ n && n ≤ 0x0d) || n == 0x20 || n == 0x85 || n == 0xa0 || n == 0x1680 ||
    (0x2000 ≤ n && n ≤ 0x200a) || n == 0x2028 || n == 0x2029 || n == 0x202f ||
    n == 0x205f || n == 0x3000

def trim (s : List Char) : List Char :=
  ((s.dropWhile isBlank).reverse.dropWhile isBlank).reverse

end PolicyHost.Text
