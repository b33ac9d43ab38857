import ScriptLint.Symbol.Declaration

/-!
What the include lines of a file brought in. Each list keeps the first entry of a key: a class is
known by its name and file, a function by its name, class and file, a macro by its name and file.
-/

namespace ScriptLint

/-- A class that an include line brought in. -/
structure ImportedClass where
  /-- The name of the class. -/
  name : String
  /-- The file that declares it. -/
  file : String
  /-- Whether it is declared inside another class. -/
  isInner : Bool := false
  /-- The class around it, if it is an inner one. -/
  parent : Option String := none

/-- The imported symbols of a file, each kind in the order of arrival. -/
structure Imports where
  /-- The classes. -/
  classes : List ImportedClass := []
  /-- The functions, and the methods of imported classes. -/
  functions : List FunctionDecl := []
  /-- The macros. -/
  macros : List MacroDecl := []

namespace Imports

/-- Whether a class of the same name and file is there. -/
def hasClass (i : Imports) (c : ImportedClass) : Bool :=
  i.classes.any fun d => d.name = c.name && d.file = c.file

/-- Whether a function of the same name, class and file is there. -/
def hasFunction (i : Imports) (f : FunctionDecl) : Bool :=
  i.functions.any fun g => g.name = f.name && g.owner = f.owner && g.file = f.file

/-- Whether a macro of the same name and file is there. -/
def hasMacro (i : Imports) (m : MacroDecl) : Bool :=
  i.macros.any fun n => n.name = m.name && n.file = m.file

/-- Adds a class unless its key is there. -/
def addClass (i : Imports) (c : ImportedClass) : Imports :=
  if i.hasClass c then i else { i with classes := i.classes ++ [c] }

/-- Adds a function unless its key is there. -/
def addFunction (i : Imports) (f : FunctionDecl) : Imports :=
  if i.hasFunction f then i else { i with functions := i.functions ++ [f] }

/-- Adds a macro unless its key is there. -/
def addMacro (i : Imports) (m : MacroDecl) : Imports :=
  if i.hasMacro m then i else { i with macros := i.macros ++ [m] }

/-- Adds everything of `more`, in its order. -/
def merge (i more : Imports) : Imports :=
  more.macros.foldl addMacro
    (more.functions.foldl addFunction (more.classes.foldl addClass i))

end Imports

end ScriptLint
