import ScriptLint.Check.Arguments
import ScriptLint.Diagnostic
import ScriptLint.Line.Literal
import ScriptLint.Symbol.Table
import ScriptLint.Text.Cursor

/-!
Macro calls. A macro has to be declared, and takes as many arguments as it has parameters. The
quotes of literals stay while calls are looked for, so that a literal counts as an argument.
-/

namespace ScriptLint

open Text (Cursor)

namespace References

/-- A macro call as written: the name, and where its arguments start if it has any. -/
structure MacroCall where
  /-- The name of the macro. -/
  name : String
  /-- The offset behind the bracket that opens the arguments. -/
  argumentsAt : Option Nat

/-- Reads a macro call: an at sign, a name, and maybe a bracket behind blanks. -/
def macroCall? (c : Cursor) : Option (MacroCall × Cursor) := do
  let c ← c.word? "@"
  let (name, c) ← c.name?
  match c.skipBlanks.word? "(" with
  | some last => return (⟨name.text, some last.offset⟩, last)
  | none => return (⟨name.text, none⟩, c)

/-- The finding that a macro is not declared. -/
def undefinedMacro (line : Line) (offset : Nat) (name : String) : Diagnostic :=
  let message :=
    "Undefined macro '@" ++ name ++ "'. Make sure it's defined in this file or imported correctly."
  .atOffset .undefinedMacro message (some (message ++ " (Could not determine exact location)")) line
    offset (name.length + 1)

/-- The finding that a macro is called with another number of arguments than it has parameters. -/
def wrongArity (line : Line) (offset close : Nat) (name : String) (given expected : Nat) :
    Diagnostic :=
  { Diagnostic.atOffset .macroArityMismatch
      ("Macro '@" ++ name ++ "' called with " ++ toString given ++ " parameters but expects " ++
        toString expected ++ ".")
      none line offset (close + 1 - offset) with
    severity := .warning }

/-- What is found in one macro call of the masked text of a line. -/
def macroCallDiagnostics (t : SymbolTable) (line : Line) (masked : List Char) (offset : Nat)
    (call : MacroCall) : List Diagnostic :=
  match t.findMacro? call.name with
  | none => [undefinedMacro line offset call.name]
  | some m =>
    match call.argumentsAt.bind (Arguments.split? masked) with
    | none => []
    | some (args, close) =>
      if args.length = m.params.length then []
      else [wrongArity line offset close call.name args.length m.params.length]

/-- What is found in the macro calls of a line. -/
def macroDiagnostics (t : SymbolTable) (line : Line) : List Diagnostic :=
  let masked := Literal.maskContents line.code
  (Text.occurrences macroCall? masked).flatMap fun (offset, call) =>
    macroCallDiagnostics t line masked offset call

end References

end ScriptLint
