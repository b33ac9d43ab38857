import ScriptLint.Check.Braces
import ScriptLint.Check.Heads
import ScriptLint.Check.Includes
import ScriptLint.Outline.Basic
import ScriptLint.Outline.Exports

/-!
How an outline is drawn up.

A text is read line by line. A class is open from the brace on its line to the line that closes it;
what is declared meanwhile belongs to the innermost open class. An include line asks for the outline
of a module. Where that comes from is left open here: `load` answers for a module and passes on a
state of its own.
-/

namespace ScriptLint

/-- A class whose body is open. -/
structure OpenClass where
  /-- The name of the class. -/
  name : String
  /-- The line of its head. -/
  line : Int
  /-- The number of open braces on which its body rests. -/
  depth : Nat
  /-- The members so far. -/
  body : Body ClassDecl := {}

/-- The outline so far. -/
structure Draft (State : Type) where
  /-- The lines of the open braces, the innermost first. -/
  unclosed : List Int := []
  /-- The open classes, the innermost first. -/
  openClasses : List OpenClass := []
  /-- The declarations of the top level, those of open classes excepted. -/
  body : Body ClassDecl := {}
  /-- The include lines that name a module. -/
  includes : List Include := []
  /-- What they brought in. -/
  imports : Imports := {}
  /-- What was found. -/
  diagnostics : List Diagnostic := []
  /-- The state of the source of modules. -/
  state : State

/-- The class that an open class becomes, with an inner one that was open until now. -/
def OpenClass.close (file : Option String) (inner : Option ClassDecl) (c : OpenClass) : ClassDecl :=
  ⟨c.name, c.line, file, inner.elim c.body c.body.addClass⟩

/-- The class that open classes become, each within the next one. -/
def OpenClass.closeAll? (file : Option String) (classes : List OpenClass) : Option ClassDecl :=
  classes.foldl (fun inner c => some (c.close file inner)) none

namespace Draft

variable {State : Type}

/-- Changes the body that declarations go to: that of the innermost open class, or the top level. -/
def modifyBody (d : Draft State) (f : Body ClassDecl → Body ClassDecl) : Draft State :=
  match d.openClasses with
  | [] => { d with body := f d.body }
  | c :: cs => { d with openClasses := { c with body := f c.body } :: cs }

/-- The name of the innermost open class. -/
def owner? (d : Draft State) : Option String :=
  d.openClasses.head?.map (·.name)

/-- Closes the innermost classes whose bodies rest on more than `depth` braces. -/
def closeBelow (d : Draft State) (file : Option String) (depth : Nat) : Draft State :=
  let closed := d.openClasses.takeWhile (depth < ·.depth)
  let staying := d.openClasses.dropWhile (depth < ·.depth)
  match OpenClass.closeAll? file closed with
  | none => d
  | some c => { d with openClasses := staying }.modifyBody (·.addClass c)

/-- Adds findings. -/
def report (d : Draft State) (found : List Diagnostic) : Draft State :=
  { d with diagnostics := d.diagnostics ++ found }

/-- Adds what a line declares. `before` is the number of open braces in front of the line. -/
def declare (d : Draft State) (file : Option String) (before : Nat) (line : Int) :
    Statement → Draft State
  | .classHead name =>
    if before < d.unclosed.length then
      { d with openClasses := ⟨name.text, line, d.unclosed.length, {}⟩ :: d.openClasses }
    else d.modifyBody (·.addClass ⟨name.text, line, file, {}⟩)
  | .functionHead head =>
    d.modifyBody (·.addFunction
      { name := head.name.text
        params := head.params
        returnType := head.returnType.text
        line := line
        scope := d.owner?
        file := file
        returnTypeOffset := head.returnType.offset
        access := head.access.map (·.text) })
  | .macroHead name params =>
    d.modifyBody (·.addMacro { name := name.text, params := params, line := line, file := file })
  | .variableDecl _ name type =>
    d.modifyBody (·.addVariable
      { name := name.text
        type := type.text
        line := line
        scope := d.owner?.getD globalScope
        typeOffset := type.offset })
  | _ => d

/-- Takes over what an include line asks of the outline of a module. -/
def takeOver (d : Draft State) (line : Line) (path : Text.Token) (r : Resolution) (o : Outline) :
    Draft State :=
  let d := d.report (o.diagnostics.map (libraryDiagnostic line path r.file.toText))
  match r.selection with
  | none => { d with imports := d.imports.merge (o.table.exports r.file.toText) }
  | some selection =>
    match o.table.select? r.file.toText selection with
    | none => d.report [missingSymbol line path r selection]
    | some given => { d with imports := d.imports.merge given }

/-- Follows an include line. -/
def followInclude (d : Draft State) (search : ModuleSearch) (disk : Disk)
    (load : Path → State → ModuleReply × State) (directory : String) (line : Line)
    (path : Text.Token) : Draft State :=
  match search.resolve? disk directory path.text with
  | none => d.report [unresolvedInclude search line path]
  | some r =>
    let (reply, state) := load r.file d.state
    let d := { d with
      includes := d.includes ++ [r.toInclude path.text line.number]
      state := state }
    match reply with
    | .unreadable e => d.report [unreadableModule line path r.file.toText e]
    | .inProgress => d
    | .outline o => d.takeOver line path r o

/-- Reads one line. -/
def readLine (search : ModuleSearch) (disk : Disk) (load : Path → State → ModuleReply × State)
    (origin : Origin) (d : Draft State) (line : Line) : Draft State :=
  if line.isBlank then d
  else
    let (unclosed, excess) := matchBraces d.unclosed line
    let statement := Statement.ofText line.code
    let before := d.unclosed.length
    let d := { d with unclosed := unclosed }.closeBelow origin.file unclosed.length
    let d := d.report (if excess then [excessBrace line] else [])
    match statement with
    | .inclusion path => d.followInclude search disk load origin.directory line path
    | _ =>
      (d.declare origin.file before line.number statement).report
        (malformedDiagnostics line statement ++
          if origin.isRoot then headDiagnostics line statement else [])

/-- The outline behind the last line, where all open classes end. -/
def finish (origin : Origin) (lines : List Line) (d : Draft State) : Outline × State :=
  let d := match OpenClass.closeAll? origin.file d.openClasses with
    | none => d
    | some c => { d with body := d.body.addClass c }
  (⟨⟨origin.file, d.body, d.includes, d.imports⟩,
      d.diagnostics ++ unclosedDiagnostics lines d.unclosed⟩,
    d.state)

end Draft

namespace Outline

variable {State : Type}

/-- The outline of the lines of a text. -/
def ofLines (search : ModuleSearch) (disk : Disk) (load : Path → State → ModuleReply × State)
    (origin : Origin) (lines : List Line) (state : State) : Outline × State :=
  (lines.foldl (Draft.readLine search disk load origin) { state := state }).finish origin lines

/-- The outline of any lines, or the number of the first line that is looked up in vain. The lines
of a text have numbers that lead to them. -/
def ofLinesChecked (search : ModuleSearch) (disk : Disk) (load : Path → State → ModuleReply × State)
    (origin : Origin) (lines : List Line) (state : State) : Except Int (Outline × State) :=
  let d := lines.foldl (Draft.readLine search disk load origin) { state := state }
  match missingUnclosed? lines d.unclosed with
  | some number => .error number
  | none => .ok (d.finish origin lines)

end Outline

end ScriptLint
