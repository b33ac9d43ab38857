import ScriptLint.Diagnostic
import ScriptLint.Line.Literal

/-!
Braces. They are matched over all lines of a text, those in literals and comments left out. What is
known between two lines is on which lines the open braces stand. Behind the last line each of these
lines is looked up by its number.
-/

namespace ScriptLint

/-- The open braces behind a character, and whether a closing brace was met that has no partner. -/
def matchBrace (line : Int) : List Int × Bool → Char → List Int × Bool
  | (unclosed, excess), '{' => (line :: unclosed, excess)
  | ([], _), '}' => ([], true)
  | (_ :: unclosed, excess), '}' => (unclosed, excess)
  | (unclosed, excess), _ => (unclosed, excess)

/-- The open braces behind a line, and whether it has a closing brace without a partner. -/
def matchBraces (unclosed : List Int) (line : Line) : List Int × Bool :=
  (Literal.mask line.code).foldl (matchBrace line.number) (unclosed, false)

/-- The finding that a line has a closing brace without a partner. -/
def excessBrace (line : Line) : Diagnostic :=
  .onLine .unbalancedBraces "Unbalanced braces: '\x7d' has no matching '\x7b'" line

/-- The finding that a line has an opening brace without a partner. -/
def unclosedBrace (line : Line) : Diagnostic :=
  .onLine .unbalancedBraces "Unbalanced braces: '\x7b' is never closed" line

/-- Adds a number to numbers in ascending order, unless it is one of them. -/
def insertNumber (n : Int) : List Int → List Int
  | [] => [n]
  | m :: more =>
    if n < m then n :: m :: more
    else if n = m then m :: more
    else m :: insertNumber n more

/-- The numbers in ascending order, each of them once. -/
def ascending (numbers : List Int) : List Int :=
  numbers.foldl (fun sorted n => insertNumber n sorted) []

/-- What is found behind the last of the lines: on each line of an open brace that one is never
closed. A number that leads to no line is passed over. -/
def unclosedDiagnostics (lines : List Line) (unclosed : List Int) : List Diagnostic :=
  (ascending unclosed).filterMap fun number =>
    (Line.at? lines number).map fun line => { unclosedBrace line with line := number }

/-- The first number of an open brace that leads to no line. -/
def missingUnclosed? (lines : List Line) (unclosed : List Int) : Option Int :=
  (ascending unclosed).find? fun number => (Line.at? lines number).isNone

end ScriptLint
