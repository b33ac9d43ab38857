import ScriptLint.Check.Vocabulary
import ScriptLint.Diagnostic
import ScriptLint.Symbol.Table

/-!
Declared types. The type of a variable, a return type and the type of a parameter each have to be
built in or the name of a class that is declared or brought in.
-/

namespace ScriptLint

/-- The types that may be declared in a file with the given table, when `builtins` need no
declaration. -/
def SymbolTable.knownTypes (t : SymbolTable) (builtins : List String) : List String :=
  builtins ++ t.classNames

/-- The offset of the last place where a word occurs in a text. -/
def lastOccurrence? (text : List Char) (word : List Char) : Option Nat :=
  (List.range (text.length + 1)).reverse.find? fun offset => word.isPrefixOf (text.drop offset)

/-- A place where a type is declared, and what is said if the type is not known. -/
structure TypeUse where
  /-- The line. -/
  line : Int
  /-- The offset of the type. -/
  offset : Int
  /-- The name of the type. -/
  type : String
  /-- What is said. -/
  message : String
  /-- What is said if the type is not found in the line. -/
  fallback : String

/-- The type of a variable. -/
def VariableDecl.typeUse (v : VariableDecl) : TypeUse :=
  let message := "Unknown type '" ++ v.type ++ "' for variable '" ++ v.name ++ "'."
  { line := v.line
    offset := v.typeOffset
    type := v.type
    message := message ++ " Known types are: int, string, float, file, void, bool, defined " ++
      "classes, and their array forms (e.g., int[])."
    fallback := message }

/-- The return type of a function and the types of its parameters. -/
def FunctionDecl.typeUses (f : FunctionDecl) : List TypeUse :=
  let use (offset : Int) (type message : String) : TypeUse :=
    ⟨f.line, offset, type, message, message ++ " (Could not determine exact location)"⟩
  use f.returnTypeOffset f.returnType
      ("Unknown return type '" ++ f.returnType ++ "' for function '" ++ f.name ++ "'.") ::
    f.params.map fun p =>
      use p.offset p.type
        ("Unknown type '" ++ p.type ++ "' for parameter '" ++ p.name ++ "' in function '" ++
          f.name ++ "'.")

/-- Every declared type, those of the variables before those of the functions. -/
def SymbolTable.typeUses (t : SymbolTable) : List TypeUse :=
  t.allVariables.map (·.typeUse) ++ t.allFunctions.flatMap (·.typeUses)

/-- The declared types that are not known. -/
def SymbolTable.unknownTypes (t : SymbolTable) : List TypeUse :=
  let known := t.knownTypes builtinTypes
  t.typeUses.filter fun u => !known.contains u.type

/-- The finding that a type is not known. The type is looked for in the line if it does not stand
where the declaration says. -/
def TypeUse.diagnostic (u : TypeUse) (line : Line) : Diagnostic :=
  let word := u.type.toList
  let offset : Int :=
    if 0 ≤ u.offset ∧ (line.code.drop u.offset.toNat).take word.length = word then u.offset
    else ((lastOccurrence? line.code word).map Int.ofNat).getD (-1)
  .atOffset .unknownType u.message (some u.fallback) line offset word.length

namespace TypeCheck

/-- What is found in the declared types of a table over the given lines. A type whose line is not
among them has no place and is passed over. -/
def diagnostics (lines : List Line) (t : SymbolTable) : List Diagnostic :=
  t.unknownTypes.filterMap fun u => (Line.at? lines u.line).map u.diagnostic

/-- The number of the first line that is not among the given ones and would have a finding. -/
def missingLine? (lines : List Line) (t : SymbolTable) : Option Int :=
  (t.unknownTypes.find? fun u => (Line.at? lines u.line).isNone).map (·.line)

/-- What is found in the declared types of a table, or the number of a line that is not there. -/
def check (lines : List Line) (t : SymbolTable) : Except Int (List Diagnostic) :=
  match missingLine? lines t with
  | some number => .error number
  | none => .ok (diagnostics lines t)

end TypeCheck

end ScriptLint
