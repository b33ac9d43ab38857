import ScriptLint.Report.Findings
import ScriptLint.Report.Symbols
import ScriptLint.Text.Quoted
import ScriptLint.Workspace

/-!
The tools that an editor calls. Each answers with a text, and some of them change the workspace.
That a file is missing or holds no source text is an answer too. A call is without one if the system
refuses to let an existing file be read, or if a directory cannot be looked for.
-/

namespace ScriptLint

/-- A call of a tool. -/
inductive ToolCall where
  /-- Opens a document with a text; the empty text means that on the disk. -/
  | openDocument (file text : String)
  /-- Gives a document a new text. -/
  | updateDocument (file text : String)
  /-- Closes a document. -/
  | closeDocument (file : String)
  /-- Reports on a document, or on a file that is not open. -/
  | analyzeFile (file : String) (withHints : Bool)
  /-- Shows the symbol table of a document, or of a file that is not open. -/
  | getSymbols (file : String)
  /-- Shows which module an include path names in a file of the directory. -/
  | resolveInclude (path directory : String)
  /-- Changes the library directory. -/
  | setLibraryDir (directory : String)

/-- Why a directory can be neither taken nor refused with an answer. -/
inductive DirectoryError where
  /-- The home directory that it starts at is not known. -/
  | noHome (e : HomeError)
  /-- Its path is too long to be looked for. -/
  | tooLong (path : String)
deriving DecidableEq

/-- The text of the error. -/
def DirectoryError.message : DirectoryError → String
  | .noHome e => e.message
  | .tooLong path => "[Errno 36] File name too long: " ++ Text.quoted path

/-- Why a call has no answer. -/
inductive ToolError where
  /-- The directory that is to be set cannot be looked for. -/
  | directory (e : DirectoryError)
  /-- The system does not let a file be read. -/
  | reading (e : SourceError)
deriving DecidableEq

/-- The text of the error. -/
def ToolError.message : ToolError → String
  | .directory e => e.message
  | .reading e => e.message

namespace Tool

/-- What is answered where a file cannot be read, by the text of that error. An error of the system
is not caught. -/
def caught (answer : String → String) (e : SourceError) : Except ToolError String :=
  if e.isLoadError then .ok (answer e.message) else .error (.reading e)

/-- The answer to a call for a file that cannot be read. -/
def failure (e : SourceError) : Except ToolError String :=
  caught ("Error: " ++ ·) e

/-- The latest analysis of an open document, or else a new one of the file. -/
def currentAnalysis (w : Workspace) (disk : Disk) (file : String) : Except SourceError Analysis :=
  match w.get? disk file with
  | some a => .ok a
  | none => analyzeFile disk w.config file

/-- Opens a document and reports on it. -/
def openDocument (w : Workspace) (disk : Disk) (file text : String) :
    Except ToolError String × Workspace :=
  let given := if text = "" then none else some text.toList
  match w.openDocument disk file given with
  | (.error e, w) => (failure e, w)
  | (.ok a, w) => (.ok (a.report false), w)

/-- Gives a document a new text and reports on it. -/
def updateDocument (w : Workspace) (disk : Disk) (file text : String) : String × Workspace :=
  let (a, w) := w.change disk file text.toList
  (a.report false, w)

/-- Closes a document. -/
def closeDocument (w : Workspace) (disk : Disk) (file : String) : String × Workspace :=
  match w.close disk file with
  | (true, w) => ("Closed " ++ file ++ ".", w)
  | (false, w) => (file ++ " was not open.", w)

/-- Reports on a file. -/
def reportOn (w : Workspace) (disk : Disk) (file : String) (withHints : Bool) :
    Except ToolError String :=
  match currentAnalysis w disk file with
  | .error e => failure e
  | .ok a => .ok (a.report withHints)

/-- Shows the symbol table of a file. -/
def symbolsOf (w : Workspace) (disk : Disk) (file : String) : Except ToolError String :=
  match currentAnalysis w disk file with
  | .error e => failure e
  | .ok a => .ok (a.table.toJson.render 0)

/-- Shows which module an include path names. -/
def resolveInclude (w : Workspace) (disk : Disk) (path directory : String) : String :=
  let search := (w.config.modules disk).search
  let here := (disk.absolute directory).toText
  match search.resolve? disk here path with
  | none =>
    "Could not resolve '" ++ path ++ "'. Searched: " ++
      ", ".intercalate (search.directories here)
  | some r =>
    let i := r.toInclude path 0
    "**" ++ path ++ "**\n- File: " ++ r.file.toText ++ "\n- Kind: " ++ i.kind.name ++
      "\n- Imports: " ++ i.name ++ i.parent.elim "" (fun p => " (inside " ++ p ++ ")") ++ "\n"

/-- Changes the library directory, if it exists, and analyses all documents again. -/
def setLibraryDir (w : Workspace) (disk : Disk) (home : TidyPath) (directory : String) :
    Except ToolError String × Workspace :=
  match (TidyPath.ofText directory).expandHome home with
  | .error e => (.error (.directory (.noHome e)), w)
  | .ok dir =>
    match disk.entry dir.toText with
    | .error .tooLong => (.error (.directory (.tooLong dir.toText)), w)
    | .error .missing | .ok (.file _ _) =>
      (.ok ("Error: Library directory not found at " ++ dir.toText), w)
    | .ok .directory =>
      match w.reconfigure disk { w.config with libraryDir := dir } with
      | (.error e, w) =>
        (caught ("Library directory set to " ++ dir.toText ++ ", but re-analysis failed: " ++ ·) e,
          w)
      | (.ok count, w) =>
        (.ok ("Library directory set to " ++ dir.toText ++ ". Re-analysed " ++ toString count ++
          " open documents."), w)

end Tool

/-- The answer to a call and the workspace behind it. -/
def ToolCall.run (w : Workspace) (disk : Disk) (home : TidyPath) :
    ToolCall → Except ToolError String × Workspace
  | .openDocument file text => Tool.openDocument w disk file text
  | .updateDocument file text => (Tool.updateDocument w disk file text).map .ok id
  | .closeDocument file => (Tool.closeDocument w disk file).map .ok id
  | .analyzeFile file withHints => (Tool.reportOn w disk file withHints, w)
  | .getSymbols file => (Tool.symbolsOf w disk file, w)
  | .resolveInclude path directory => (.ok (Tool.resolveInclude w disk path directory), w)
  | .setLibraryDir directory => Tool.setLibraryDir w disk home directory

end ScriptLint
