import ScriptLint.Check.Region
import ScriptLint.Check.Vocabulary
import ScriptLint.Diagnostic
import ScriptLint.Line.Literal
import ScriptLint.Statement.Grammar
import ScriptLint.Symbol.Table

/-!
Calls of functions. Each call of a declared function is reported with the function it means. Among
the arguments of a call in the external form every call counts.
-/

namespace ScriptLint

open Text (Cursor Token)

namespace References

/-- Reads a name with a bracket behind it. -/
def call? (c : Cursor) : Option (Token × Cursor) := do
  let (name, c) ← c.name?
  let c ← c.skipBlanks.word? "("
  return (name, c)

/-- Whether the line is the head of a function, a class or a macro, well formed or not. -/
def isDefinition (line : Line) : Bool :=
  match Statement.ofText line.code with
  | .classHead _ | .functionHead _ | .macroHead _ _ => true
  | .malformed kind => kind ≠ .variableDecl
  | _ => false

/-- The finding that tells which function a call means. -/
def functionInfo (line : Line) (offset : Nat) (name : String) (f : FunctionDecl) : Diagnostic :=
  { Diagnostic.atOffset .functionInfo ("Function info: " ++ name)
      (some ("Function info: " ++ name ++ " (Position undetermined)")) line offset name.length with
    severity := .hint
    function := some f }

/-- The finding that a function is not declared. -/
def undefinedFunction (line : Line) (offset : Nat) (name : String) : Diagnostic :=
  let message := "Function '" ++ name ++ "' is not defined."
  .atOffset .undefinedFunction (message ++ " Check spelling or ensure it's properly imported.")
    (some (message ++ " (Could not determine exact location)")) line offset name.length

/-- Whether a name with a bracket behind it is no call of a function: it is a macro or a method, it
makes an object, it is a statement, or it is being defined. -/
def isNoCall (line : Line) (masked : List Char) (name : Token) : Bool :=
  let before := masked.take name.offset
  before.getLast? = some '@' || isDefinition line || callKeywords.contains name.text ||
    name.text = "new" || (Text.trimEnd before).getLast? = some '.'

/-- What is found in one call of the masked text of a region. -/
def callDiagnostics (t : SymbolTable) (line : Line) (r : Region) (masked : List Char)
    (name : Token) : List Diagnostic :=
  if !r.isExternal && isNoCall line masked name then []
  else
    match t.findFunction? name.text with
    | some f => [functionInfo line (r.offset + name.offset) name.text f]
    | none =>
      if builtinFunctions.contains name.text then []
      else [undefinedFunction line (r.offset + name.offset) name.text]

/-- What is found in the calls of a line. -/
def lineCallDiagnostics (t : SymbolTable) (line : Line) : List Diagnostic :=
  let r := region line
  let masked := Literal.mask r.text
  (Text.occurrences call? masked).flatMap fun (_, name) => callDiagnostics t line r masked name

end References

end ScriptLint
