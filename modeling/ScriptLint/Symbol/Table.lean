import ScriptLint.Symbol.Imports
import ScriptLint.Include.Basic

/-!
The symbol table of a file: what it declares, its include lines and what they brought in. Names are
looked up among the local declarations first, at any depth of nesting, and then among the imports.
-/

namespace ScriptLint

/-- The declarations and imports of one file. -/
structure SymbolTable where
  /-- The file, if the text has one. -/
  file : Option String := none
  /-- The declarations of the top level. -/
  body : Body ClassDecl := {}
  /-- The include lines that name a module. -/
  includes : List Include := []
  /-- What the include lines brought in. -/
  imports : Imports := {}

/-- A class found by name. -/
inductive ClassRef where
  /-- A class that the file declares. -/
  | declared (c : ClassDecl)
  /-- A class that an include line brought in. -/
  | imported (c : ImportedClass)

namespace SymbolTable

/-- Every class that the file declares, a class before its members. -/
def allClasses (t : SymbolTable) : List ClassDecl :=
  ClassDecl.walk t.body.classes

/-- The bodies of the file: the top level and then that of each class. -/
def bodies (t : SymbolTable) : List (Body ClassDecl) :=
  t.body :: t.allClasses.map (·.body)

/-- Every function that the file declares, in the order of the lines. -/
def allFunctions (t : SymbolTable) : List FunctionDecl :=
  (t.bodies.flatMap (·.functions)).mergeSort fun a b => a.line ≤ b.line

/-- Every variable that the file declares, in the order of the lines. -/
def allVariables (t : SymbolTable) : List VariableDecl :=
  (t.bodies.flatMap (·.vars)).mergeSort fun a b => a.line ≤ b.line

/-- Every macro that the file declares, in the order of the lines. -/
def allMacros (t : SymbolTable) : List MacroDecl :=
  (t.bodies.flatMap (·.macros)).mergeSort fun a b => a.line ≤ b.line

/-- The first class with the given name. -/
def findClass? (t : SymbolTable) (name : String) : Option ClassRef :=
  ((t.allClasses.find? (·.name = name)).map .declared).or
    ((t.imports.classes.find? (·.name = name)).map .imported)

/-- Whether a class of the given name is declared or brought in. -/
def hasClass (t : SymbolTable) (name : String) : Bool :=
  (t.findClass? name).isSome

/-- The first function that can be called by the bare name. An imported method cannot. -/
def findFunction? (t : SymbolTable) (name : String) : Option FunctionDecl :=
  (t.allFunctions.find? (·.name = name)).or
    (t.imports.functions.find? fun f => f.name = name && !f.isMethod)

/-- The first macro with the given name. -/
def findMacro? (t : SymbolTable) (name : String) : Option MacroDecl :=
  (t.allMacros.find? (·.name = name)).or (t.imports.macros.find? (·.name = name))

/-- The first class of the given name inside the declared class of the given name. -/
def findInner? (t : SymbolTable) (name inner : String) : Option ClassDecl :=
  match t.findClass? name with
  | some (.declared c) => c.findInner? inner
  | _ => none

/-- The names of the declared classes, and then each new name among the imported ones. -/
def classNames (t : SymbolTable) : List String :=
  t.imports.classes.foldl
    (fun names c => if names.contains c.name then names else names ++ [c.name])
    (t.allClasses.map (·.name))

/-- The number of declared symbols of every kind. -/
def totalSymbols (t : SymbolTable) : Nat :=
  t.allClasses.length + t.allFunctions.length + t.allMacros.length + t.allVariables.length

end SymbolTable

end ScriptLint
