import ScriptLint.Check.References
import ScriptLint.Check.Types
import ScriptLint.Config
import ScriptLint.Outline.Load

/-!
The analysis of one source text: its outline, with all modules that it includes, and then its
declared types and its uses of names. Every analysis reads the modules anew.
-/

namespace ScriptLint

/-- What the analysis of a text gives. -/
structure Analysis where
  /-- The file of the text. -/
  file : Option String
  /-- The symbol table. -/
  table : SymbolTable
  /-- The findings: those of the outline, then the types, then the uses of names. -/
  diagnostics : List Diagnostic

/-- The numbers of an analysis. -/
structure Summary where
  /-- The file of the text. -/
  file : Option String
  /-- The number of errors. -/
  errors : Nat
  /-- The number of warnings. -/
  warnings : Nat
  /-- The number of hints. -/
  hints : Nat
  /-- The number of classes of the top level. -/
  classes : Nat
  /-- The number of functions of the top level. -/
  functions : Nat
  /-- The number of macros of the top level. -/
  macros : Nat
  /-- The number of variables of the top level. -/
  vars : Nat
  /-- The number of include lines that name a module. -/
  includes : Nat

/-- The numbers of the analysis. -/
def Analysis.summary (a : Analysis) : Summary where
  file := a.file
  errors := (ofSeverity .error a.diagnostics).length
  warnings := (ofSeverity .warning a.diagnostics).length
  hints := (ofSeverity .hint a.diagnostics).length
  classes := a.table.body.classes.length
  functions := a.table.body.functions.length
  macros := a.table.body.macros.length
  vars := a.table.body.vars.length
  includes := a.table.includes.length

/-- Where the modules of an analysis come from. -/
def Config.modules (config : Config) (disk : Disk) : ModuleSource where
  disk := disk
  search := ⟨config.libraryDir.toText, config.extension⟩
  maxLines := config.maxLines

/-- Analyses a text as the content of a file. The file is where its include paths start, and need
not exist. -/
def analyze (disk : Disk) (config : Config) (file : Option String) (text : List Char) : Analysis :=
  let lines := Line.ofSource text
  let (outline, _) := (config.modules disk).outline true file lines {}
  { file := outline.table.file
    table := outline.table
    diagnostics := outline.diagnostics ++ TypeCheck.diagnostics lines outline.table ++
      References.diagnostics lines outline.table }

/-- Reads a file and analyses it. -/
def analyzeFile (disk : Disk) (config : Config) (file : String) : Except SourceError Analysis :=
  (disk.readSource file config.maxLines).map (analyze disk config (some file))

end ScriptLint
