import ScriptLint.Text.Hex
import ScriptLint.Text.Printable

/-!
Names as they are quoted in messages: in single quotes, or in double quotes if the name has a single
quote and no double one. The quote in use, the backslash and every character that is not printable
are escaped.
-/

namespace ScriptLint.Text

/-- The escape of a character that is not printable: its number, in as few of two, four or eight
digits as it needs. -/
def escapeNumber (c : Char) : List Char :=
  let n := c.toNat
  if n < 0x100 then '\\' :: 'x' :: hexDigits 2 n
  else if n < 0x10000 then '\\' :: 'u' :: hexDigits 4 n
  else '\\' :: 'U' :: hexDigits 8 n

/-- The form of a character between the given quotes. -/
def quoteChar (mark c : Char) : List Char :=
  if c = mark ∨ c = '\\' then ['\\', c]
  else if c = '\n' then ['\\', 'n']
  else if c = '\r' then ['\\', 'r']
  else if c = '\t' then ['\\', 't']
  else if isPrintable c then [c]
  else escapeNumber c

/-- The name in quotes. -/
def quoted (name : String) : String :=
  let chars := name.toList
  let mark := if chars.contains '\x27' && !chars.contains '\x22' then '\x22' else '\x27'
  String.ofList ([mark] ++ chars.flatMap (quoteChar mark) ++ [mark])

end ScriptLint.Text
