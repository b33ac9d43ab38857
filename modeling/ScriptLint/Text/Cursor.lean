import ScriptLint.Text.Blank

/-!
A place in a text, and small recognisers that move it. A recogniser takes a cursor and returns what
it read and the cursor behind it, or `none`. Offsets count characters from the start of the text, so
what a recogniser returns can be found again in the line it came from.
-/

namespace ScriptLint.Text

/-- A place in a text: how many characters lie before it, and those that follow. -/
structure Cursor where
  /-- The number of characters before the place. -/
  offset : Nat
  /-- The characters from the place on. -/
  rest : List Char

/-- A piece of a line with the offset at which it starts. -/
structure Token where
  /-- The characters of the piece. -/
  text : String
  /-- The number of characters before it in its line. -/
  offset : Nat

/-- Whether a name may start with the character: a letter of the Latin alphabet or an underscore. -/
def isNameStart (c : Char) : Bool :=
  c.isAlpha || c == '_'

/-- Whether a name may go on with the character. -/
def isNameChar (c : Char) : Bool :=
  c.isAlphanum || c == '_'

namespace Cursor

/-- The place before the first character. -/
def start (text : List Char) : Cursor :=
  ⟨0, text⟩

/-- The place `n` characters further on. -/
def advance (c : Cursor) (n : Nat) : Cursor :=
  ⟨c.offset + n, c.rest.drop n⟩

/-- The token of the next `n` characters. -/
def token (c : Cursor) (n : Nat) : Token :=
  ⟨String.ofList (c.rest.take n), c.offset⟩

/-- The number of characters from here on that satisfy `p`, up to the first that does not. -/
def run (c : Cursor) (p : Char → Bool) : Nat :=
  (c.rest.takeWhile p).length

/-- Steps over the blanks that follow, if any. -/
def skipBlanks (c : Cursor) : Cursor :=
  c.advance (c.run isBlank)

/-- Steps over the blanks that follow, of which there must be one. -/
def blanks? (c : Cursor) : Option Cursor :=
  if c.run isBlank = 0 then none else some c.skipBlanks

/-- Steps over the given word. -/
def word? (c : Cursor) (w : String) : Option Cursor :=
  if w.toList.isPrefixOf c.rest then some (c.advance w.length) else none

/-- Steps over the next `stop`, and returns the characters before it. -/
def upTo? (c : Cursor) (stop : Char) : Option (List Char × Cursor) :=
  let inner := c.rest.takeWhile (· != stop)
  if inner.length < c.rest.length then some (inner, c.advance (inner.length + 1)) else none

/-- Reads the longest name that starts here. -/
def name? (c : Cursor) : Option (Token × Cursor) :=
  if c.rest.head?.any isNameStart then
    let n := c.run isNameChar
    some (c.token n, c.advance n)
  else none

/-- Reads a type: a name, and the mark of an array if it follows at once. -/
def typeName? (c : Cursor) : Option (Token × Cursor) := do
  let (name, next) ← c.name?
  match next.word? "[]" with
  | some last => return (c.token (last.offset - c.offset), last)
  | none => return (name, next)

theorem length_rest_advance (c : Cursor) (n : Nat) :
    (c.advance n).rest.length = c.rest.length - n := by
  simp [advance]

/-- A word takes nothing back. -/
theorem length_rest_le_of_word? {c d : Cursor} {w : String} (h : c.word? w = some d) :
    d.rest.length ≤ c.rest.length := by
  simp only [word?, Option.ite_none_right_eq_some, Option.some.injEq] at h
  rw [← h.2, length_rest_advance]
  exact Nat.sub_le _ _

/-- Blanks that must be there shorten the text. -/
theorem length_rest_lt_of_blanks? {c d : Cursor} (h : c.blanks? = some d) :
    d.rest.length < c.rest.length := by
  simp only [blanks?, Option.ite_none_left_eq_some, Option.some.injEq] at h
  have hpos : 0 < c.run Text.isBlank := Nat.pos_of_ne_zero h.1
  have hle : c.run Text.isBlank ≤ c.rest.length := (List.takeWhile_sublist _).length_le
  rw [← h.2, skipBlanks, length_rest_advance]
  omega

end Cursor

/-- The places where `recognise` succeeds, leftmost first. The search goes on behind what was read,
so no two of them overlap. -/
def occurrences {α : Type} (recognise : Cursor → Option (α × Cursor)) (text : List Char) :
    List (Nat × α) :=
  go 0 0 text
where
  /-- Goes on at offset `pos`, the first `skip` characters being part of what was read before. -/
  go : Nat → Nat → List Char → List (Nat × α)
    | _, _, [] => []
    | pos, skip + 1, _ :: cs => go (pos + 1) skip cs
    | pos, 0, c :: cs =>
      match recognise ⟨pos, c :: cs⟩ with
      | some (found, next) => (pos, found) :: go (pos + 1) (next.offset - pos - 1) cs
      | none => go (pos + 1) 0 cs

end ScriptLint.Text
