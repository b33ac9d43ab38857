import ScriptLint.Text.Cursor
import ScriptLint.Symbol.Declaration

/-!
Statements: what a line of comment-free text says. A line holds one statement at most, and only its
head is read; the offsets of its parts are kept with them.
-/

namespace ScriptLint

/-- The four kinds of declaration. -/
inductive DeclarationKind where
  /-- A function. -/
  | functionDecl
  /-- A class. -/
  | classDecl
  /-- A macro. -/
  | macroDecl
  /-- A variable. -/
  | variableDecl
deriving DecidableEq

/-- The head of a function. -/
structure FunctionHead where
  /-- The access modifier, if there is one. -/
  access : Option Text.Token
  /-- The name of the function. -/
  name : Text.Token
  /-- The typed parameters. -/
  params : List Parameter
  /-- The type it returns. -/
  returnType : Text.Token

/-- What a line says. -/
inductive Statement where
  /-- Includes the module of a dotted path. -/
  | inclusion (path : Text.Token)
  /-- Opens a class. -/
  | classHead (name : Text.Token)
  /-- Opens a function. -/
  | functionHead (head : FunctionHead)
  /-- Opens a macro with the given parameters. -/
  | macroHead (name : Text.Token) (params : List String)
  /-- Declares a variable of a type. -/
  | variableDecl (access : Option Text.Token) (name type : Text.Token)
  /-- Starts like a declaration and goes on otherwise. -/
  | malformed (kind : DeclarationKind)
  /-- Opens a condition. -/
  | conditional
  /-- Anything else. -/
  | other

end ScriptLint
