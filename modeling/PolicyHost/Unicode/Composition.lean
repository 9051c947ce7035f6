import PolicyHost.Unicode.Property

/-!
# Compositions

A set of characters that follows from others: what some categories, listed
properties and a table hold, without what others hold.
-/

namespace PolicyHost.Unicode

/-- How a set of characters is put together, and what is taken away then. -/
structure Composition where
  categories : List Category := []
  properties : List Property := []
  table : String := ""
  withoutCategories : List Category := []
  withoutProperties : List Property := []
  withoutTable : String := ""

namespace Composition

/-- The characters of categories, of listed properties and of a table. -/
def together (categories : List Category) (properties : List Property) (table : String) :
    CharSet :=
  .ofRanges ((Category.setOf categories).ranges ++
    (properties.flatMap fun p => p.listed.ranges) ++ (CharSet.ofTable table).ranges)

def set (c : Composition) : CharSet :=
  (together c.categories c.properties c.table).diff
    (together c.withoutCategories c.withoutProperties c.withoutTable)

end Composition

end PolicyHost.Unicode
