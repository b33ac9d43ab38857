/-!
Sets of characters as lists of runs of code points. The tables of Unicode properties are written
this way.
-/

namespace ScriptLint.Text

/-- The code points from `first` to `last` in steps of `stride`. -/
structure CodeRun where
  /-- The least code point of the run. -/
  first : Nat
  /-- The greatest code point of the run. -/
  last : Nat
  /-- The distance between neighbours. -/
  stride : Nat

/-- Whether the character belongs to the run. -/
def CodeRun.contains (r : CodeRun) (c : Char) : Bool :=
  r.first ≤ c.toNat && c.toNat ≤ r.last && (c.toNat - r.first) % r.stride == 0

end ScriptLint.Text
