import ScriptLint.Outline.Draft

/-!
The modules of one analysis.

A pass remembers which files it has begun to read and the outlines it has finished, so each module
is read once, and a module that includes itself over any number of others is not read again within
itself.
-/

namespace ScriptLint

/-- What an analysis knows of its modules. -/
structure Pass where
  /-- The files whose reading has begun. -/
  visited : List String := []
  /-- The outlines finished so far, by file. -/
  finished : List (String × Outline) := []

/-- The pass in which the reading of the file has begun. -/
def Pass.visit (p : Pass) (file : String) : Pass :=
  if p.visited.contains file then p else { p with visited := p.visited ++ [file] }

/-- The pass in which the outline of the file is finished. -/
def Pass.finish (p : Pass) (file : String) (o : Outline) : Pass :=
  { p with finished := p.finished ++ [(file, o)] }

/-- Where modules are found and how much of each is read. -/
structure ModuleSource where
  /-- The files. -/
  disk : Disk
  /-- Where they are looked for. -/
  search : ModuleSearch
  /-- The greatest number of lines read from a file. -/
  maxLines : Int

namespace ModuleSource

/-- The outline of a text that belongs to the file at `path`, drawn up with modules from `load`. -/
def outlineOf (s : ModuleSource) (load : Path → Pass → ModuleReply × Pass) (isRoot : Bool)
    (path : Path) (lines : List Line) (pass : Pass) : Outline × Pass :=
  Outline.ofLines s.search s.disk load ⟨some path.toText, path.parent.toText, isRoot⟩ lines
    (pass.visit path.toText)

/-- Answers for a module, where at most `depth` modules may be read within each other. Beyond that a
module that has not been read counts as one in progress. -/
def load (s : ModuleSource) (depth : Nat) (path : Path) (pass : Pass) : ModuleReply × Pass :=
  match pass.finished.lookup path.toText with
  | some o => (.outline o, pass)
  | none =>
    if pass.visited.contains path.toText then (.inProgress, pass)
    else
      match s.disk.readSource path.toText s.maxLines with
      | .error e => (.unreadable e, pass)
      | .ok text =>
        match depth with
        | 0 => (.inProgress, pass)
        | depth + 1 =>
          let (o, pass) := s.outlineOf (s.load depth) false path (Line.ofSource text) pass
          (.outline o, pass.finish path.toText o)

/-- The greatest number of modules that can be read within each other. Each of them is another file,
and a file has two normal paths, one for each number of slashes at the start. -/
def depth (s : ModuleSource) : Nat :=
  2 * s.disk.files.length

/-- Answers for the module at a path. -/
def answer (s : ModuleSource) (path : Path) (pass : Pass) : ModuleReply × Pass :=
  s.load s.depth path pass

/-- What the reading of a text starts from. A text without a file, or with an empty file name,
includes from the working directory. -/
def start (s : ModuleSource) (isRoot : Bool) (file : Option String) (pass : Pass) : Origin × Pass :=
  match file.filter (· ≠ "") with
  | some name =>
    let path := s.disk.absolute name
    (⟨some path.toText, path.parent.toText, isRoot⟩, pass.visit path.toText)
  | none => (⟨file, s.disk.workingDirectory.toText, isRoot⟩, pass)

/-- The outline of a text. -/
def outline (s : ModuleSource) (isRoot : Bool) (file : Option String) (lines : List Line)
    (pass : Pass) : Outline × Pass :=
  let (origin, pass) := s.start isRoot file pass
  Outline.ofLines s.search s.disk s.answer origin lines pass

/-- The outline of any lines, or the number of the first line that is looked up in vain. -/
def outlineChecked (s : ModuleSource) (isRoot : Bool) (file : Option String) (lines : List Line)
    (pass : Pass) : Except Int (Outline × Pass) :=
  let (origin, pass) := s.start isRoot file pass
  Outline.ofLinesChecked s.search s.disk s.answer origin lines pass

end ModuleSource

end ScriptLint
