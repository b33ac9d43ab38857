import ScriptLint.Proofs.Module.Depth
import ScriptLint.Proofs.Outline.Declared
import ScriptLint.Proofs.Symbol.ImportKeys

/-! The modules that a text reaches over include lines, and what each of them gives.

An include line that names the file of the text itself leads back to the text and not to what the
disk holds under that path. -/
namespace ScriptLint.ModuleSource

variable (s : ModuleSource)

/-- The normal path of a text, if it has a file. -/
def rootPath (file : Option String) : Option Path :=
  (file.filter (· ≠ "")).map s.disk.absolute

/-- The directory at which the include paths of a text start. -/
def rootDirectory (file : Option String) : Path :=
  (s.rootPath file).elim s.disk.workingDirectory Path.parent

/-- The lines of a module, if it can be read. -/
def moduleLines? (path : Path) : Option (List Line) :=
  (s.disk.readSource path.toText s.maxLines).toOption.map Line.ofSource

/-- What the include lines of a text in the given directory ask for. -/
def resolutionsIn (directory : Path) (lines : List Line) : List Resolution :=
  resolutions s.search s.disk directory.toText lines

/-- The module at the path is reached from a text over one include line or more. -/
inductive Reaches (file : Option String) (lines : List Line) : Path → Prop where
  /-- The text includes it. -/
  | included {r : Resolution} (h : r ∈ s.resolutionsIn (s.rootDirectory file) lines) :
      Reaches file lines r.file
  /-- A module that is reached includes it. -/
  | through {path : Path} {moduleLines : List Line} {r : Resolution}
      (reached : Reaches file lines path) (other : s.rootPath file ≠ some path)
      (readable : s.moduleLines? path = some moduleLines)
      (h : r ∈ s.resolutionsIn path.parent moduleLines) :
      Reaches file lines r.file

/-- The module at the path is reached from a text, is another file, and has the given lines. -/
structure Provides (file : Option String) (lines : List Line) (path : Path)
    (moduleLines : List Line) : Prop where
  reached : s.Reaches file lines path
  other : s.rootPath file ≠ some path
  readable : s.moduleLines? path = some moduleLines

/-- Every include line that names a module asks for all of it, in the text and in each module that
it reaches. -/
structure WholeFilesOnly (file : Option String) (lines : List Line) : Prop where
  root : ∀ r ∈ s.resolutionsIn (s.rootDirectory file) lines, r.selection = none
  modules : ∀ path moduleLines, s.Provides file lines path moduleLines →
    ∀ r ∈ s.resolutionsIn path.parent moduleLines, r.selection = none

/-- The keys of what a module declares at its top level: its classes with their methods, its
functions and its macros. -/
def ownKeys (path : Path) (moduleLines : List Line) : List ImportKey :=
  let file := path.toText
  let body := declaredBody (some file) moduleLines
  body.classes.map (fun c => .ofClass c.name file) ++
    body.classes.flatMap (fun c => c.body.functions.map
      fun f => .ofFunction f.name (some c.name) (some file)) ++
    body.functions.map (fun f => .ofFunction f.name none (some file)) ++
    body.macros.map (fun m => .ofMacro m.name (some file))

variable {s}

theorem Provides.lines_unique {file : Option String} {lines : List Line} {path : Path}
    {moduleLines other : List Line} (h : s.Provides file lines path moduleLines)
    (ho : s.moduleLines? path = some other) : other = moduleLines :=
  Option.some.inj (ho.symm.trans h.readable)

theorem moduleLines?_of_error {path : Path} {e : SourceError}
    (h : s.disk.readSource path.toText s.maxLines = .error e) : s.moduleLines? path = none := by
  simp [moduleLines?, h, Except.toOption]

theorem moduleLines?_of_ok {path : Path} {text : List Char}
    (h : s.disk.readSource path.toText s.maxLines = .ok text) :
    s.moduleLines? path = some (Line.ofSource text) := by
  simp [moduleLines?, h, Except.toOption]

theorem mem_pathTexts_of_moduleLines? {path : Path} {moduleLines : List Line}
    (h : s.moduleLines? path = some moduleLines) : path.toText ∈ s.disk.pathTexts := by
  cases hread : s.disk.readSource path.toText s.maxLines with
  | error e =>
    rw [moduleLines?_of_error hread] at h
    cases h
  | ok text => exact Disk.mem_pathTexts_of_readSource hread

/-- The outline of a text starts with the file of the text as the only one visited. -/
theorem outline_eq (isRoot : Bool) (file : Option String) (lines : List Line) (pass : Pass) :
    s.outline isRoot file lines pass =
      Outline.ofLines s.search s.disk s.answer
        ⟨(s.rootPath file).elim file fun p => some p.toText, (s.rootDirectory file).toText, isRoot⟩
        lines ((s.rootPath file).elim pass fun p => pass.visit p.toText) := by
  unfold outline start rootDirectory rootPath
  cases file.filter (· ≠ "") <;> rfl

end ScriptLint.ModuleSource
