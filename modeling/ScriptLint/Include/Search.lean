import ScriptLint.Include.Basic
import ScriptLint.Disk
import ScriptLint.Text.Pieces
import ScriptLint.Text.Uppercase

/-!
Finding the module of an include path.

The segments of the path, from left to right, name directories and then a file. The longest start of
the path that names a file is taken, in the directory of the including file before the library. The
segments left over say what is asked of the module.
-/

namespace ScriptLint

/-- The part of a module that an include line asks for. -/
inductive Selection where
  /-- A class of the top level. -/
  | topClass (name : String)
  /-- A class inside a class of the top level. -/
  | innerClass (parent name : String)
  /-- A macro. -/
  | oneMacro (name : String)
deriving DecidableEq

/-- The module that an include path names, and what it asks of it. -/
structure Resolution where
  /-- The module file. -/
  file : Path
  /-- The name that the path brings in. -/
  name : String
  /-- The part that is asked for; all of the module if there is none. -/
  selection : Option Selection

/-- Where modules are looked for, apart from the directory of the including file. -/
structure ModuleSearch where
  /-- The library directory. -/
  libraryDir : String
  /-- What is put behind a path to make the name of a file. -/
  extension : String

namespace ModuleSearch

/-- The directories that are searched, in their order. -/
def directories (s : ModuleSearch) (currentDir : String) : List String :=
  [currentDir, s.libraryDir]

/-- The path at which a directory would hold the module of the given segments. -/
def candidate (s : ModuleSearch) (disk : Disk) (segments : List String) (directory : String) :
    Path :=
  disk.absolute (joinPath directory (joinPaths segments ++ s.extension))

/-- The module of the longest start of the segments that has one, and the segments behind it. -/
def findModule? (s : ModuleSearch) (disk : Disk) (currentDir : String) (segments : List String) :
    Option (Path × List String) :=
  (List.range segments.length).reverse.findSome? fun last =>
    ((s.directories currentDir).map (s.candidate disk (segments.take (last + 1)))).findSome?
      fun file => if disk.isFile file.toText then some (file, segments.drop (last + 1)) else none

/-- The segments of an include path: the pieces between the dots that are not empty, where an at
sign starts a segment of its own. -/
def segments (path : String) : List String :=
  let dotted := path.toList.flatMap fun c => if c = '@' then ['.', c] else [c]
  ((Text.pieces '.' dotted).filter (· ≠ [])).map String.ofList

/-- Whether the segment is capitalised. -/
def isCapitalised (segment : String) : Bool :=
  segment.toList.head?.any Text.isUppercase

/-- What the segments left over, given from right to left, ask of a module. -/
def selectionOf : List String → Option Selection
  | [] => none
  | last :: before =>
    if last.toList.head? = some '@' then some (.oneMacro (String.ofList (last.toList.drop 1)))
    else if isCapitalised last then
      match before with
      | parent :: _ =>
        if isCapitalised parent then some (.innerClass parent last) else some (.topClass last)
      | [] => some (.topClass last)
    else none

/-- The name that an include brings in: that of the part it asks for, or else the last segment left
over, or else the name of the file without its extension. -/
def nameOf (file : Path) (leftOver : List String) : Option Selection → String
  | some (.topClass name) => name
  | some (.innerClass _ name) => name
  | some (.oneMacro name) => name
  | none => leftOver.getLast?.getD (stem (fileName file.toText))

/-- The module and the part that an include path means in a file of the given directory. -/
def resolve? (s : ModuleSearch) (disk : Disk) (currentDir : String) (path : String) :
    Option Resolution :=
  (s.findModule? disk currentDir (segments path)).map fun (file, leftOver) =>
    let selection := selectionOf leftOver.reverse
    ⟨file, nameOf file leftOver selection, selection⟩

end ModuleSearch

/-- The kind of an include that asks for the given part. -/
def IncludeKind.ofSelection : Option Selection → IncludeKind
  | none => .wholeFile
  | some (.topClass _) => .topClass
  | some (.innerClass _ _) => .innerClass
  | some (.oneMacro _) => .oneMacro

/-- The class around the part that is asked for. -/
def Selection.parent? : Selection → Option String
  | .innerClass parent _ => some parent
  | _ => none

/-- The include of a path on a line. -/
def Resolution.toInclude (r : Resolution) (path : String) (line : Int) : Include where
  path := path
  name := r.name
  file := some r.file.toText
  kind := .ofSelection r.selection
  line := line
  parent := r.selection.bind Selection.parent?

/-- The name of the module file of an include, without its directory. -/
def Include.fileName (i : Include) : String :=
  i.file.elim "" ScriptLint.fileName

end ScriptLint
