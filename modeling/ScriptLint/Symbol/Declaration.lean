/-!
Declarations: functions, macros, variables and classes, and the body that holds them. The top level
of a file and the inside of a class are bodies of the same form.

Lines count from 1. Offsets count characters in the comment-free text of the line, and a negative
one stands for a place that is not known. Both are integers because a table may be handed in whose
numbers come from elsewhere.
-/

namespace ScriptLint

/-- The scope of a variable that no class encloses. -/
def globalScope : String := "global"

/-- A parameter of a function. -/
structure Parameter where
  /-- The name of the parameter. -/
  name : String
  /-- The name of its type. -/
  type : String
  /-- The offset of the type. -/
  offset : Int := -1

/-- A function, or a method of a class. -/
structure FunctionDecl where
  /-- The name of the function. -/
  name : String
  /-- The typed parameters, in their order. -/
  params : List Parameter
  /-- The name of the type it returns. -/
  returnType : String
  /-- The line of its head. -/
  line : Int
  /-- The enclosing class, if there is one. -/
  scope : Option String := none
  /-- The file that declares it. -/
  file : Option String := none
  /-- The class it was imported with, if it is an imported method. -/
  owner : Option String := none
  /-- The offset of the return type. -/
  returnTypeOffset : Int := -1
  /-- The access modifier written before it. -/
  access : Option String := none

/-- A macro: a template whose parameters have no types. -/
structure MacroDecl where
  /-- The name of the macro. -/
  name : String
  /-- The names of its parameters, in their order. -/
  params : List String
  /-- The line of its head. -/
  line : Int
  /-- The file that declares it. -/
  file : Option String := none

/-- A variable. -/
structure VariableDecl where
  /-- The name of the variable. -/
  name : String
  /-- The name of its type. -/
  type : String
  /-- The line that declares it. -/
  line : Int
  /-- The enclosing class, or the global scope. -/
  scope : String := globalScope
  /-- The offset of the type. -/
  typeOffset : Int := -1

/-- What is declared at one level, each kind in the order of the source. -/
structure Body (Class : Type) where
  /-- The classes. -/
  classes : List Class := []
  /-- The functions. -/
  functions : List FunctionDecl := []
  /-- The variables. -/
  vars : List VariableDecl := []
  /-- The macros. -/
  macros : List MacroDecl := []

/-- A class with what is declared inside it. -/
structure ClassDecl where
  /-- The name of the class. -/
  name : String
  /-- The line of its head. -/
  line : Int
  /-- The file that declares it. -/
  file : Option String
  /-- Its members. -/
  body : Body ClassDecl

namespace Body

/-- The body with one more class. -/
def addClass (b : Body ClassDecl) (c : ClassDecl) : Body ClassDecl :=
  { b with classes := b.classes ++ [c] }

/-- The body with one more function. -/
def addFunction (b : Body ClassDecl) (f : FunctionDecl) : Body ClassDecl :=
  { b with functions := b.functions ++ [f] }

/-- The body with one more variable. -/
def addVariable (b : Body ClassDecl) (v : VariableDecl) : Body ClassDecl :=
  { b with vars := b.vars ++ [v] }

/-- The body with one more macro. -/
def addMacro (b : Body ClassDecl) (m : MacroDecl) : Body ClassDecl :=
  { b with macros := b.macros ++ [m] }

end Body

/-- The function in one line: its name, its parameters with their types, and its return type. -/
def FunctionDecl.signature (f : FunctionDecl) : String :=
  f.name ++ "(" ++ ", ".intercalate (f.params.map fun p => p.name ++ ": " ++ p.type) ++ ") -> " ++
    f.returnType

/-- Whether the function is a method that came in with a class. -/
def FunctionDecl.isMethod (f : FunctionDecl) : Bool :=
  f.owner.any (· ≠ "")

/-- The first class with the given name directly inside the class. -/
def ClassDecl.findInner? (c : ClassDecl) (name : String) : Option ClassDecl :=
  c.body.classes.find? (·.name = name)

mutual

/-- The number of classes in a class, itself included. -/
def ClassDecl.count : ClassDecl → Nat
  | ⟨_, _, _, ⟨classes, _, _, _⟩⟩ => 1 + ClassDecl.countAll classes

/-- The number of classes in a list of classes, at every depth. -/
def ClassDecl.countAll : List ClassDecl → Nat
  | [] => 0
  | c :: cs => c.count + ClassDecl.countAll cs

end

theorem ClassDecl.countAll_append (a b : List ClassDecl) :
    ClassDecl.countAll (a ++ b) = ClassDecl.countAll a + ClassDecl.countAll b := by
  induction a with
  | nil => simp [ClassDecl.countAll]
  | cons c cs ih => simp [ClassDecl.countAll, ih, Nat.add_assoc]

theorem ClassDecl.count_eq (c : ClassDecl) :
    c.count = 1 + ClassDecl.countAll c.body.classes := by
  obtain ⟨_, _, _, _, _, _, _⟩ := c
  simp [ClassDecl.count]

/-- Every class of a list and of the classes inside, a class before its members. The list is the
stack of those still to be visited. -/
def ClassDecl.walk : List ClassDecl → List ClassDecl
  | [] => []
  | c :: waiting => c :: walk (c.body.classes ++ waiting)
termination_by waiting => ClassDecl.countAll waiting
decreasing_by
  rw [ClassDecl.countAll_append, ClassDecl.countAll, ClassDecl.count_eq]
  omega

end ScriptLint
