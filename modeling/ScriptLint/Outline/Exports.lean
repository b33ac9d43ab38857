import ScriptLint.Include.Search
import ScriptLint.Symbol.Table

/-!
What a module gives to the file that includes it: everything it declares at its top level and
everything it brought in itself, or one part of that.
-/

namespace ScriptLint

/-- The methods of a class as imported functions of the given file. -/
def ClassDecl.methods (c : ClassDecl) (file : String) : List FunctionDecl :=
  c.body.functions.map fun f => { f with file := some file, owner := some c.name }

namespace SymbolTable

/-- Everything that the module in the given file gives: its classes with their methods, its
functions and its macros, and behind each of these what it brought in. -/
def exports (t : SymbolTable) (file : String) : Imports where
  classes :=
    t.body.classes.map (fun c => { name := c.name, file := file }) ++ t.imports.classes
  functions :=
    t.body.classes.flatMap (·.methods file) ++
      t.body.functions.map (fun f => { f with file := some file }) ++ t.imports.functions
  macros := t.body.macros.map (fun m => { m with file := some file }) ++ t.imports.macros

/-- A class of the top level with its methods. One that the module brought in is given on with the
methods that came with it. -/
def topClass? (t : SymbolTable) (file name : String) : Option Imports :=
  match t.body.classes.find? (·.name = name) with
  | some c =>
    some { classes := [{ name := c.name, file := file }], functions := c.methods file }
  | none =>
    (t.imports.classes.find? (·.name = name)).map fun c =>
      { classes := [c], functions := t.imports.functions.filter (·.owner = some c.name) }

/-- A class inside a class of the top level, with its methods. -/
def innerClass? (t : SymbolTable) (file parent name : String) : Option Imports := do
  let outer ← t.body.classes.find? (·.name = parent)
  let inner ← outer.findInner? name
  return {
    classes := [{ name := inner.name, file := file, isInner := true, parent := some outer.name }]
    functions := inner.methods file }

/-- A macro that the module declares or brought in. -/
def oneMacro? (t : SymbolTable) (file name : String) : Option Imports :=
  ((t.body.macros.find? (·.name = name)).or (t.imports.macros.find? (·.name = name))).map fun m =>
    { macros := [{ m with file := some ((m.file.filter (· ≠ "")).getD file) }] }

/-- The part of a module that is asked for, or `none` if the module lacks it. -/
def select? (t : SymbolTable) (file : String) : Selection → Option Imports
  | .topClass name => t.topClass? file name
  | .innerClass parent name => t.innerClass? file parent name
  | .oneMacro name => t.oneMacro? file name

end SymbolTable

end ScriptLint
