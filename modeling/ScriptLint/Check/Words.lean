import ScriptLint.Check.Region
import ScriptLint.Check.Vocabulary
import ScriptLint.Diagnostic
import ScriptLint.Line.Literal
import ScriptLint.Statement.Grammar
import ScriptLint.Symbol.Table
import ScriptLint.Text.Uppercase

/-!
Words that name classes or variables. A capitalised word is a class, one with a small letter or an
underscore at its start a variable. The names of a line that declares something are no uses.
-/

namespace ScriptLint

open Text (Cursor Token)

namespace References

/-- Whether the character ends a word. -/
def breaksWord (c : Char) : Bool :=
  Text.isBlank c || ".()\x7b\x7d[],;=+-*/%<>!&|^~".toList.contains c

/-- Reads the longest word that starts here. -/
def word? (c : Cursor) : Option (Token × Cursor) :=
  match c.run fun x => !breaksWord x with
  | 0 => none
  | n => some (c.token n, c.advance n)

/-- Whether the names of the line are declared there and not used. -/
def isDeclaration (line : Line) : Bool :=
  isDeclarationLine line.code ||
    match Statement.ofText line.code with
    | .conditional | .other => false
    | _ => true

/-- Whether the word has the form of a variable: a small letter or an underscore, and then name
characters. -/
def isVariableWord (word : String) : Bool :=
  match word.toList with
  | [] => false
  | c :: cs => (c.isLower || c == '_') && cs.all Text.isNameChar

/-- The names of the variables and of the parameters of functions and macros. -/
def variableNames (t : SymbolTable) : List String :=
  t.allVariables.map (·.name) ++ t.allFunctions.flatMap (·.params.map (·.name)) ++
    t.allMacros.flatMap (·.params)

/-- The finding that a class is not declared. -/
def undefinedClass (line : Line) (offset : Nat) (word : String) : Diagnostic :=
  let message := "Class '" ++ word ++ "' is not defined."
  .atOffset .undefinedClass (message ++ " Check spelling or ensure it's properly imported.")
    (some (message ++ " (Could not determine exact location)")) line offset word.length

/-- The finding that a variable is not declared. -/
def undefinedVariable (line : Line) (offset : Nat) (word : String) : Diagnostic :=
  let message := "Variable '" ++ word ++ "' is not defined."
  .atOffset .undefinedVariable (message ++ " Check spelling or define it before use.")
    (some (message ++ " (Could not determine exact location)")) line offset word.length

/-- What is found in one word of the masked text of a region. What follows a dot belongs to a value
and is not looked up. -/
def wordDiagnostics (t : SymbolTable) (names : List String) (line : Line) (base : Nat)
    (masked : List Char) (word : Token) : List Diagnostic :=
  let afterDot := (masked.take word.offset).getLast? = some '.'
  if keywords.contains word.text || builtinTypes.contains word.text || afterDot then []
  else if word.text.toList.head?.any Text.isUppercase then
    if t.hasClass word.text then [] else [undefinedClass line (base + word.offset) word.text]
  else if isVariableWord word.text then
    let behind := Text.trimStart (masked.drop (word.offset + word.text.length))
    if behind.head? = some '(' || names.contains word.text ||
        builtinFunctions.contains word.text then []
    else [undefinedVariable line (base + word.offset) word.text]
  else []

/-- What is found in the words of a line. -/
def lineWordDiagnostics (t : SymbolTable) (names : List String) (line : Line) :
    List Diagnostic :=
  if isDeclaration line then []
  else
    let r := region line
    let masked := Literal.mask r.text
    (Text.occurrences word? masked).flatMap fun (_, word) =>
      wordDiagnostics t names line r.offset masked word

end References

end ScriptLint
