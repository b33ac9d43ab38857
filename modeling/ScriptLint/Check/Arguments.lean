import ScriptLint.Text.Blank

/-!
The arguments of a call. They lie between commas that no bracket encloses, and the list ends at the
closing bracket that has no partner. The three kinds of bracket count alike.
-/

namespace ScriptLint.Arguments

/-- Whether the character opens a bracket. -/
def opensBracket (c : Char) : Bool :=
  c == '(' || c == '[' || c == '{'

/-- Whether the character closes a bracket. -/
def closesBracket (c : Char) : Bool :=
  c == ')' || c == ']' || c == '}'

/-- The pieces between the commas of an argument list and the number of characters before its end,
or `none` if it does not end. `depth` brackets are open in front of the text. -/
def pieces? (depth : Nat) : List Char → Option (List (List Char) × Nat)
  | [] => none
  | c :: cs =>
    if closesBracket c then
      match depth with
      | 0 => some ([[]], 0)
      | depth + 1 => extend c (pieces? depth cs)
    else if opensBracket c then extend c (pieces? (depth + 1) cs)
    else if c = ',' ∧ depth = 0 then
      (pieces? 0 cs).map fun (later, length) => ([] :: later, length + 1)
    else extend c (pieces? depth cs)
where
  /-- Puts a character in front of the first piece. -/
  extend (c : Char) : Option (List (List Char) × Nat) → Option (List (List Char) × Nat)
    | none => none
    | some (pieces, length) => some (pieces.modifyHead (c :: ·), length + 1)

/-- The arguments of the list that starts at an offset of a text, and the offset of the bracket that
ends it. Empty arguments do not count. -/
def split? (text : List Char) (start : Nat) : Option (List (List Char) × Nat) :=
  (pieces? 0 (text.drop start)).map fun (pieces, length) =>
    ((pieces.map Text.trim).filter (· ≠ []), start + length)

end ScriptLint.Arguments
