import PolicyHost.Pattern.Meaning
import PolicyHost.Pattern.Reader
import PolicyHost.Pattern.Size

/-!
# From texts to patterns

A text is read, taken for what it means, and refused when it is too large.
-/

namespace PolicyHost.Pattern

/-- The pattern that a text spells, within the limits on its size. -/
def parse? (text : List Char) : Option Node := do
  let written ← Written.ofText? text
  let (node, _) ← written.node? {}
  if node.fitsMemory then some node else none

end PolicyHost.Pattern
