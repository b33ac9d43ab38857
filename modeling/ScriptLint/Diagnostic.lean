import ScriptLint.Line.Basic
import ScriptLint.Symbol.Declaration

/-!
Diagnostics: what was found, how grave it is, and where. A place is a line and a range of columns
that starts at 0 and excludes its end; columns count characters of the line as written.
-/

namespace ScriptLint

/-- How grave a diagnostic is. -/
inductive Severity where
  /-- The source is wrong. -/
  | error
  /-- The source is doubtful. -/
  | warning
  /-- A remark. -/
  | hint
deriving DecidableEq

/-- All grades, the gravest first. -/
def Severity.all : List Severity := [.error, .warning, .hint]

/-- The name of the grade. -/
def Severity.name : Severity → String
  | .error => "error"
  | .warning => "warning"
  | .hint => "hint"

/-- What was found. -/
inductive DiagnosticCode where
  /-- No module file has the path of an include line. -/
  | unresolvedInclude
  /-- The module lacks the symbol that an include line asks for. -/
  | symbolNotFoundInInclude
  /-- The module file cannot be read. -/
  | fileAccessError
  /-- A line starts like a declaration and goes on otherwise. -/
  | malformedDeclaration
  /-- A head opens no body. -/
  | missingBrace
  /-- A brace has no partner. -/
  | unbalancedBraces
  /-- A declared type is not known. -/
  | unknownType
  /-- A class is used that nothing declares. -/
  | undefinedClass
  /-- A variable is used that nothing declares. -/
  | undefinedVariable
  /-- A function is called that nothing declares. -/
  | undefinedFunction
  /-- A macro is called that nothing declares. -/
  | undefinedMacro
  /-- A macro is called with the wrong number of arguments. -/
  | macroArityMismatch
  /-- A function has an access modifier. -/
  | accessModifierMisuse
  /-- A call names the function it calls. -/
  | functionInfo
deriving DecidableEq

/-- All findings. -/
def DiagnosticCode.all : List DiagnosticCode :=
  [.unresolvedInclude, .symbolNotFoundInInclude, .fileAccessError, .malformedDeclaration,
   .missingBrace, .unbalancedBraces, .unknownType, .undefinedClass, .undefinedVariable,
   .undefinedFunction, .undefinedMacro, .macroArityMismatch, .accessModifierMisuse, .functionInfo]

/-- The name of the finding. -/
def DiagnosticCode.name : DiagnosticCode → String
  | .unresolvedInclude => "unresolved-include"
  | .symbolNotFoundInInclude => "symbol-not-found-in-include"
  | .fileAccessError => "file-access-error"
  | .malformedDeclaration => "malformed-declaration"
  | .missingBrace => "missing-brace"
  | .unbalancedBraces => "unbalanced-braces"
  | .unknownType => "unknown-type"
  | .undefinedClass => "undefined-class"
  | .undefinedVariable => "undefined-variable"
  | .undefinedFunction => "undefined-function"
  | .undefinedMacro => "undefined-macro"
  | .macroArityMismatch => "macro-arity-mismatch"
  | .accessModifierMisuse => "access-modifier-misuse"
  | .functionInfo => "function-info"

/-- The source of what is found in the file itself. -/
def ownSource : String := "pangy"

/-- The source of what is found in an included module. -/
def librarySource : String := "pangy-library"

/-- A finding with its place. -/
structure Diagnostic where
  /-- The text for the reader. -/
  message : String
  /-- The line. -/
  line : Int
  /-- The column at which the place starts. -/
  startColumn : Int
  /-- The column behind the place. -/
  endColumn : Int
  /-- How grave it is. -/
  severity : Severity := .error
  /-- What was found. -/
  code : DiagnosticCode
  /-- Where the finding comes from. -/
  source : String := ownSource
  /-- Whether the place is the line as a whole. -/
  wholeLine : Bool := false
  /-- The function that the finding is about. -/
  function : Option FunctionDecl := none

namespace Diagnostic

/-- A finding about a line as a whole. -/
def onLine (code : DiagnosticCode) (message : String) (line : Line) : Diagnostic where
  message := message
  line := line.number
  startColumn := 0
  endColumn := line.text.length
  code := code
  wholeLine := true

/-- A finding about the `length` characters at an offset of the comment-free text. If the offset has
no place in the line, the finding is about the whole line, and the fallback message, unless it is
missing or empty, takes the place of the message. -/
def atOffset (code : DiagnosticCode) (message : String) (fallback : Option String) (line : Line)
    (offset length : Int) : Diagnostic :=
  match line.column? offset with
  | none => onLine code ((fallback.filter (· ≠ "")).getD message) line
  | some column =>
    { message := message
      line := line.number
      startColumn := column
      endColumn := column + length
      code := code }

/-- The finding in one line: its place, its grade, its name and its text. -/
def text (d : Diagnostic) : String :=
  toString d.line ++ ":" ++ toString d.startColumn ++ "-" ++ toString d.endColumn ++ " " ++
    d.severity.name ++ " [" ++ d.code.name ++ "] " ++ d.message

end Diagnostic

/-- The findings of a grade. -/
def ofSeverity (severity : Severity) (found : List Diagnostic) : List Diagnostic :=
  found.filter (·.severity = severity)

/-- The findings of a name. -/
def ofCode (code : DiagnosticCode) (found : List Diagnostic) : List Diagnostic :=
  found.filter (·.code = code)

end ScriptLint
