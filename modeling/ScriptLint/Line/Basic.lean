import ScriptLint.Text.Blank
import ScriptLint.Text.Pieces

/-!
Lines of source text, and which of their characters are comment.

One pass marks every character of a line. A block comment runs from `/*` to the next `*/` and may go
on over several lines; `//` and `#` make the rest of the line comment. Neither is seen inside a
literal, and a backslash takes the meaning from the character behind it, inside a literal or out of
it. Everything else about a line is read off the marks: its comment-free text, and the offsets of
that text in the line.
-/

namespace ScriptLint

namespace Line

/-- What a character of a line belongs to. -/
inductive Mark where
  /-- Code outside of literals. -/
  | code
  /-- A literal, its quotes included. -/
  | literal
  /-- A comment, its delimiters included. -/
  | comment
deriving DecidableEq

/-- Where the reading of a line stands between two characters. -/
inductive Mode where
  /-- In code. -/
  | code
  /-- In code, behind a backslash. -/
  | codeEscape
  /-- In a literal that ends at the next `quote`. -/
  | literal (quote : Char)
  /-- In such a literal, behind a backslash. -/
  | literalEscape (quote : Char)
  /-- Between the two characters that open a block comment. -/
  | blockStart
  /-- In a block comment. -/
  | block
  /-- Between the two characters that close a block comment. -/
  | blockEnd
  /-- In a comment that runs to the end of the line. -/
  | lineComment
deriving DecidableEq

namespace Mode

/-- Reads one character with the next one in sight: what it belongs to, and where that leads. -/
def read (mode : Mode) (c : Char) (ahead : Option Char) : Mark × Mode :=
  match mode with
  | .code =>
    if c = '\\' then (.code, .codeEscape)
    else if c = '\x22' ∨ c = '\x27' then (.literal, .literal c)
    else if c = '/' ∧ ahead = some '*' then (.comment, .blockStart)
    else if c = '#' ∨ (c = '/' ∧ ahead = some '/') then (.comment, .lineComment)
    else (.code, .code)
  | .codeEscape => (.code, .code)
  | .literal quote =>
    if c = '\\' then (.literal, .literalEscape quote)
    else if c = quote then (.literal, .code)
    else (.literal, .literal quote)
  | .literalEscape quote => (.literal, .literal quote)
  | .blockStart => (.comment, .block)
  | .block => if c = '*' ∧ ahead = some '/' then (.comment, .blockEnd) else (.comment, .block)
  | .blockEnd => (.comment, .code)
  | .lineComment => (.comment, .lineComment)

/-- The marks of the characters of a text. -/
def marks (mode : Mode) : List Char → List Mark
  | [] => []
  | c :: cs => (mode.read c cs.head?).1 :: marks (mode.read c cs.head?).2 cs

/-- Where the reading stands behind a text. -/
def after (mode : Mode) : List Char → Mode
  | [] => mode
  | c :: cs => after (mode.read c cs.head?).2 cs

theorem length_marks (mode : Mode) (text : List Char) :
    (mode.marks text).length = text.length := by
  induction text generalizing mode with
  | nil => rfl
  | cons c cs ih => simp [marks, ih]

end Mode

end Line

/-- A line of source text. -/
structure Line where
  /-- Its number. The first line of a source has number 1. -/
  number : Int
  /-- Its characters, comments included. -/
  text : List Char
  /-- Whether a block comment is open at its start. -/
  startsInComment : Bool := false

namespace Line

/-- Where the reading of the line starts. -/
def mode (l : Line) : Mode :=
  if l.startsInComment then .block else .code

/-- The marks of the characters of the line. -/
def marks (l : Line) : List Mark :=
  l.mode.marks l.text

/-- Whether a block comment is open at the end of the line. -/
def endsInComment (l : Line) : Bool :=
  l.mode.after l.text = .block

/-- The comment-free text of the line. -/
def code (l : Line) : List Char :=
  ((l.text.zip l.marks).filter (·.2 ≠ .comment)).map (·.1)

/-- The columns of the characters of the comment-free text, in their order. -/
def kept (l : Line) : List Nat :=
  (l.marks.zipIdx.filter (·.1 ≠ .comment)).map (·.2)

/-- The comment-free text without the blanks at its ends. -/
def trimmed (l : Line) : List Char :=
  Text.trim l.code

/-- Whether the line holds nothing but blanks and comments. -/
def isBlank (l : Line) : Bool :=
  l.trimmed.isEmpty

/-- The column of an offset in the comment-free text: the number of characters before it in the line
as written. The end of that text counts as the place behind its last character. -/
def column? (l : Line) : Int → Option Nat
  | .ofNat k => (l.kept[k]?).or (if k = l.kept.length then l.kept.getLast?.map (· + 1) else none)
  | .negSucc _ => none

/-- The offset in the comment-free text of a column of the line, unless a comment is there. -/
def codeOffset? (l : Line) (column : Int) : Option Nat :=
  l.kept.findIdx? fun (i : Nat) => (i : Int) = column

/-- The lines of a source text, each with the block comment that the lines before it left open. -/
def ofSource (text : List Char) : List Line :=
  go 1 false (Text.sourceLines text)
where
  /-- Numbers the lines from `number` on. -/
  go : Nat → Bool → List (List Char) → List Line
    | _, _, [] => []
    | number, inComment, text :: more =>
      let line : Line := ⟨number, text, inComment⟩
      line :: go (number + 1) line.endsInComment more

/-- The line of the given number. A number below 1 counts back from the last line, which has
number 0. -/
def at? (lines : List Line) (number : Int) : Option Line :=
  let index := if 1 ≤ number then number - 1 else lines.length + number - 1
  if 0 ≤ index then lines[index.toNat]? else none

end Line

end ScriptLint
