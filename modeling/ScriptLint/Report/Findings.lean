import ScriptLint.Analysis

/-!
The findings of an analysis as a table for the reader.
-/

namespace ScriptLint

/-- Whether the place of a finding starts no later than that of another. -/
def Diagnostic.startsBefore (a b : Diagnostic) : Bool :=
  a.line < b.line || (a.line = b.line && a.startColumn ≤ b.startColumn)

/-- The columns of a finding. -/
def Diagnostic.columns (d : Diagnostic) : String :=
  if d.wholeLine then "line" else toString d.startColumn ++ "-" ++ toString d.endColumn

/-- A text as it stands in a cell: the bar that ends a cell is escaped. -/
def escapeBars (s : String) : String :=
  String.ofList (s.toList.flatMap fun c => if c = '|' then ['\\', c] else [c])

/-- A row with the given cells. -/
def row (cells : List String) : String :=
  "| " ++ " | ".intercalate cells ++ " |\n"

/-- The row of a finding. -/
def Diagnostic.row (d : Diagnostic) : String :=
  ScriptLint.row
    [toString d.line, d.columns, d.severity.name, d.code.name, escapeBars d.message]

/-- The numbers of an analysis, and its findings in the order of their places, hints only if they
are asked for. -/
def Analysis.report (a : Analysis) (withHints : Bool) : String :=
  let s := a.summary
  let header := "**" ++ a.file.getD "" ++ "**: " ++ toString s.errors ++ " errors, " ++
    toString s.warnings ++ " warnings, " ++ toString s.hints ++ " hints\n\n"
  let shown := a.diagnostics.filter fun d => withHints || d.severity ≠ .hint
  if shown.isEmpty then header ++ "No problems found.\n"
  else
    header ++ row ["Line", "Columns", "Severity", "Code", "Message"] ++
      "|------|---------|----------|------|---------|\n" ++
      String.join ((shown.mergeSort Diagnostic.startsBefore).map (·.row))

end ScriptLint
