import ScriptLint.Text.Blank
import ScriptLint.Text.Digit

/-!
Integers as they are written in settings: blanks around, a sign, and decimal digits of any script,
with single underscores between them.
-/

namespace ScriptLint.Text

/-- Whether the character may stand around a numeral. Of the control characters only those that move
the print position may. -/
def isNumeralMargin (c : Char) : Bool :=
  if c.toNat < 0x80 then c == ' ' || (0x09 ≤ c.toNat && c.toNat ≤ 0x0D) else isBlank c

/-- The values of the digits of a numeral without sign. An underscore may stand between two digits
and nowhere else. -/
def numeralDigits? : List Char → Option (List Nat)
  | [] => none
  | [c] => (digitValue? c).map ([·])
  | c :: '_' :: cs => do
    let digit ← digitValue? c
    let more ← numeralDigits? cs
    return digit :: more
  | c :: cs => do
    let digit ← digitValue? c
    let more ← numeralDigits? cs
    return digit :: more

/-- The greatest number of digits in a numeral. -/
def numeralLimit : Nat := 4300

/-- The integer that a text writes. -/
def integer? (text : List Char) : Option Int := do
  let body := ((text.dropWhile isNumeralMargin).reverse.dropWhile isNumeralMargin).reverse
  let (negative, unsigned) :=
    match body with
    | '-' :: cs => (true, cs)
    | '+' :: cs => (false, cs)
    | cs => (false, cs)
  let digits ← numeralDigits? unsigned
  if numeralLimit < digits.length then none
  else
    let value : Nat := digits.foldl (fun n digit => n * 10 + digit) 0
    return if negative then -(value : Int) else value

end ScriptLint.Text
