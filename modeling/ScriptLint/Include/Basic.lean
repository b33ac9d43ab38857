/-!
Include lines: which module file a dotted path names, and what of it is asked for.
-/

namespace ScriptLint

/-- What an include line asks of a module. -/
inductive IncludeKind where
  /-- Everything the module declares and brings in itself. -/
  | wholeFile
  /-- One class of the top level. -/
  | topClass
  /-- One class inside another. -/
  | innerClass
  /-- One macro. -/
  | oneMacro
deriving DecidableEq

/-- All kinds of include. -/
def IncludeKind.all : List IncludeKind := [.wholeFile, .topClass, .innerClass, .oneMacro]

/-- The name of the kind. -/
def IncludeKind.name : IncludeKind → String
  | .wholeFile => "file"
  | .topClass => "class"
  | .innerClass => "inner_class"
  | .oneMacro => "macro"

/-- An include line whose path names a module. -/
structure Include where
  /-- The dotted path as written. -/
  path : String
  /-- The name it brings in. -/
  name : String
  /-- The module file. -/
  file : Option String
  /-- What is asked for. -/
  kind : IncludeKind
  /-- The line it stands on. -/
  line : Int
  /-- The class around the one asked for, if that is an inner one. -/
  parent : Option String := none

end ScriptLint
