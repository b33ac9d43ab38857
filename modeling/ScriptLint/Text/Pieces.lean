/-!
Cutting a text at a separator, and a source text into its lines.
-/

namespace ScriptLint.Text

/-- The pieces of a text between the occurrences of `sep`, empty ones included. There is one piece
more than there are separators. -/
def pieces (sep : Char) : List Char → List (List Char)
  | [] => [[]]
  | c :: cs => if c = sep then [] :: pieces sep cs else (pieces sep cs).modifyHead (c :: ·)

/-- The text with each pair of carriage return and line feed made a line feed. A carriage return
that stands alone stays. -/
def mergeReturns : List Char → List Char
  | [] => []
  | '\r' :: '\n' :: cs => '\n' :: mergeReturns cs
  | c :: cs => c :: mergeReturns cs

/-- The lines of a source text. A line feed, with or without a carriage return before it, ends a
line, and what follows the last one is a line too. -/
def sourceLines (text : List Char) : List (List Char) :=
  pieces '\n' (mergeReturns text)

end ScriptLint.Text
