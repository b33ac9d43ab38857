import ScriptLint.Diagnostic
import ScriptLint.Include.Basic
import ScriptLint.Text.Quoted

/-!
Kinds, grades and findings by name.
-/

namespace ScriptLint

/-- A name that names nothing of its sort. -/
structure UnknownName where
  /-- The name. -/
  name : String
  /-- What was expected. -/
  sort : String
deriving DecidableEq

/-- The text of the error. -/
def UnknownName.message (e : UnknownName) : String :=
  Text.quoted e.name ++ " is not a valid " ++ e.sort

/-- The member of a list that has the given name. -/
def findByName {α : Type} (sort : String) (members : List α) (nameOf : α → String) (name : String) :
    Except UnknownName α :=
  match members.find? (nameOf · = name) with
  | some a => .ok a
  | none => .error ⟨name, sort⟩

/-- The kind of include of a name. -/
def IncludeKind.ofName : String → Except UnknownName IncludeKind :=
  findByName "IncludeKind" IncludeKind.all IncludeKind.name

/-- The grade of a name. -/
def Severity.ofName : String → Except UnknownName Severity :=
  findByName "Severity" Severity.all Severity.name

/-- The finding of a name. -/
def DiagnosticCode.ofName : String → Except UnknownName DiagnosticCode :=
  findByName "DiagnosticCode" DiagnosticCode.all DiagnosticCode.name

end ScriptLint
