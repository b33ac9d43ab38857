import ScriptLint.Diagnostic
import ScriptLint.Statement.Grammar

/-!
The heads of declarations and conditions, each looked at on its line alone: whether a body follows,
whether a modifier is in place, and whether a line that starts like a declaration is one.
-/

namespace ScriptLint

/-- The finding that a head opens no body where a body usually starts. -/
def missingBody (what : String) (line : Line) : Diagnostic :=
  { Diagnostic.onLine .missingBrace
      (what ++ " should usually end with '\x7b' or have its body on the same line.") line with
    severity := .warning }

/-- The finding that a function has an access modifier. -/
def misusedModifier (line : Line) (modifier : Text.Token) : Diagnostic :=
  { Diagnostic.atOffset .accessModifierMisuse
      ("Functions are public by default and do not support '" ++ modifier.text ++
        "' access modifier.")
      none line modifier.offset modifier.text.length with
    severity := .warning }

/-- What is found in the head of a declaration or a condition. -/
def headDiagnostics (line : Line) : Statement → List Diagnostic
  | .classHead _ =>
    if line.trimmed.getLast? = some '{' ∨ isOneLiner line.code then []
    else [.onLine .missingBrace "Class definition should end with '\x7b'" line]
  | .functionHead head =>
    (head.access.map (misusedModifier line)).toList ++
      (if opensBrace line.code then [] else [missingBody "Function definition" line])
  | .macroHead _ _ => if opensBrace line.code then [] else [missingBody "Macro definition" line]
  | .conditional => if opensBrace line.code then [] else [missingBody "If statement" line]
  | _ => []

/-- What is said of a line that starts like a declaration of the kind. -/
def DeclarationKind.expectation : DeclarationKind → String
  | .functionDecl =>
    "Invalid function definition syntax. Expected: def name(param type, ...) -> type"
  | .classDecl => "Invalid class definition syntax. Expected: class Name \x7b"
  | .macroDecl => "Invalid macro definition syntax. Expected: macro name(params) \x7b"
  | .variableDecl =>
    "Variable declaration must include a type (int, float, string, file, or a class name)."

/-- What is found in a line that starts like a declaration and goes on otherwise. -/
def malformedDiagnostics (line : Line) : Statement → List Diagnostic
  | .malformed kind => [.onLine .malformedDeclaration kind.expectation line]
  | _ => []

end ScriptLint
