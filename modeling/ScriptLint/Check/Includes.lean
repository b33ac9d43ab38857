import ScriptLint.Diagnostic
import ScriptLint.Include.Search
import ScriptLint.SourceFile
import ScriptLint.Text.Cursor

/-!
What is said of an include line, always at its path: that no module has the path, that the module
cannot be read, what is wrong in the module itself, and that the module lacks the part asked for.
-/

namespace ScriptLint

/-- The finding that no module has the path. -/
def unresolvedInclude (search : ModuleSearch) (line : Line) (path : Text.Token) : Diagnostic :=
  .atOffset .unresolvedInclude
    ("Could not resolve include path '" ++ path.text ++ "'. Check paths and " ++
      search.libraryDir ++ " configuration.")
    none line path.offset path.text.length

/-- The finding that a module cannot be read. -/
def unreadableModule (line : Line) (path : Text.Token) (file : String) (e : SourceError) :
    Diagnostic :=
  { Diagnostic.atOffset .fileAccessError
      ("Error reading or parsing included file '" ++ file ++ "': " ++ e.message)
      none line path.offset path.text.length with
    source := librarySource }

/-- A finding of a module, reported on the line that includes it. -/
def libraryDiagnostic (line : Line) (path : Text.Token) (file : String) (found : Diagnostic) :
    Diagnostic :=
  { Diagnostic.atOffset found.code
      ("Error in included library '" ++ path.text ++ "': " ++ found.message ++ " (line " ++
        toString found.line ++ " in " ++ fileName file ++ ")")
      none line path.offset path.text.length with
    source := librarySource }

/-- What a part is called where a module lacks it. -/
def Selection.label : Selection → String
  | .topClass _ => "Class"
  | .innerClass _ _ => "Inner class"
  | .oneMacro _ => "Macro"

/-- The finding that a module lacks the part asked for. -/
def missingSymbol (line : Line) (path : Text.Token) (r : Resolution) (selection : Selection) :
    Diagnostic :=
  .atOffset .symbolNotFoundInInclude
    (selection.label ++ " '" ++ r.name ++ "' not found in '" ++ fileName r.file.toText ++
      "'. Path: " ++ path.text)
    none line path.offset path.text.length

end ScriptLint
