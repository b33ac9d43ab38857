/-!
Numbers in base sixteen, in a fixed number of digits.
-/

namespace ScriptLint.Text

/-- The last `width` digits of a number in base sixteen, with small letters. -/
def hexDigits : Nat → Nat → List Char
  | 0, _ => []
  | width + 1, n => hexDigits width (n / 16) ++ [Nat.digitChar (n % 16)]

theorem length_hexDigits (width n : Nat) : (hexDigits width n).length = width := by
  induction width generalizing n with
  | zero => rfl
  | succ width ih => simp [hexDigits, ih]

end ScriptLint.Text
