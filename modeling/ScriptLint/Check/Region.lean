import ScriptLint.Line.Basic
import ScriptLint.Text.Cursor

/-!
The part of a line in which uses of names are looked for: the whole line, or the arguments of its
first call in the external form `("library" use.f(…))`. Of such a call only the arguments are read.
-/

namespace ScriptLint

open Text (Cursor)

namespace References

/-- Reads a call in the external form, and returns its arguments with their offset. -/
def externalCall? (c : Cursor) : Option ((List Char × Nat) × Cursor) := do
  let c ← c.word? "("
  let c ← c.skipBlanks.word? "\x22"
  let (_, c) ← c.upTo? '\x22'
  let c ← c.blanks?
  let c ← c.word? "use"
  let c ← c.skipBlanks.word? "."
  let (_, c) ← c.skipBlanks.name?
  let c ← c.skipBlanks.word? "("
  let (inner, last) ← c.upTo? ')'
  let last ← last.skipBlanks.word? ")"
  return ((inner, c.offset), last)

/-- The part of a line in which names are looked for. -/
structure Region where
  /-- Its text. -/
  text : List Char
  /-- Its offset in the comment-free text of the line. -/
  offset : Nat
  /-- Whether it is the argument list of a call in the external form. -/
  isExternal : Bool

/-- The arguments of the first call in the external form, or else the whole line. -/
def region (line : Line) : Region :=
  match (Text.occurrences externalCall? line.code).head? with
  | some (_, inner, offset) => ⟨inner, offset, true⟩
  | none => ⟨line.code, 0, false⟩

end References

end ScriptLint
