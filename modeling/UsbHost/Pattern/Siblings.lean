/-!
How deep a pattern is nested. Things that stand side by side nest one deeper than the deepest of
them, but a thing that stands alone adds nothing.
-/

namespace UsbHost.Pattern

structure Siblings where
  count : Nat := 0
  depth : Nat := 0
deriving DecidableEq

namespace Siblings

def add (depth : Nat) (siblings : Siblings) : Siblings :=
  ⟨siblings.count + 1, max siblings.depth depth⟩

def nesting (siblings : Siblings) : Nat :=
  if siblings.count ≤ 1 then siblings.depth else siblings.depth + 1

end Siblings

end UsbHost.Pattern
