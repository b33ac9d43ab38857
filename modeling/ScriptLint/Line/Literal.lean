/-!
Blanking the literals of a comment-free text, so that what looks like code inside them is not taken
for code. The text keeps its length.

A literal starts at a quote and ends at the next quote of the same kind; one that is not closed runs
to the end of the text. A backslash inside takes the next character with it, and one that has no
character of its line to take ends the literal before it.
-/

namespace ScriptLint.Literal

/-- What a character is to the literals of a text. -/
inductive Part where
  /-- Outside of every literal. -/
  | outside
  /-- A quote that opens or closes a literal. -/
  | delimiter
  /-- Between the quotes. -/
  | content
deriving DecidableEq

/-- Where the reading stands between two characters. -/
inductive Mode where
  /-- Outside of every literal. -/
  | outside
  /-- In a literal that ends at the next `quote`. -/
  | inside (quote : Char)
  /-- In such a literal, behind a backslash. -/
  | escaped (quote : Char)
deriving DecidableEq

namespace Mode

/-- Reads one character with the next one in sight: what it is, and where that leads. -/
def read (mode : Mode) (c : Char) (ahead : Option Char) : Part × Mode :=
  match mode with
  | .outside =>
    if c = '\x22' ∨ c = '\x27' then (.delimiter, .inside c) else (.outside, .outside)
  | .inside quote =>
    if c = '\\' then
      if ahead = none ∨ ahead = some '\n' then (.outside, .outside) else (.content, .escaped quote)
    else if c = quote then (.delimiter, .outside)
    else (.content, .inside quote)
  | .escaped quote => (.content, .inside quote)

/-- The parts of the characters of a text. -/
def parts (mode : Mode) : List Char → List Part
  | [] => []
  | c :: cs => (mode.read c cs.head?).1 :: parts (mode.read c cs.head?).2 cs

end Mode

/-- The text with a blank for every character of a literal. -/
def mask (text : List Char) : List Char :=
  (text.zip (Mode.outside.parts text)).map fun (c, part) =>
    if part = .outside then c else ' '

/-- The text with a blank for every character between the quotes of a literal. The quotes stay, so a
literal still counts as something. -/
def maskContents (text : List Char) : List Char :=
  (text.zip (Mode.outside.parts text)).map fun (c, part) =>
    if part = .content then ' ' else c

end ScriptLint.Literal
