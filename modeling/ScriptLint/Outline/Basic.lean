import ScriptLint.Diagnostic
import ScriptLint.SourceFile
import ScriptLint.Symbol.Table

/-!
Outlines: the symbol table of a text, and what was found while it was drawn up.
-/

namespace ScriptLint

/-- The symbol table of a text, and what was found while it was drawn up. -/
structure Outline where
  /-- The declarations and imports. -/
  table : SymbolTable
  /-- The findings, in the order of the lines. -/
  diagnostics : List Diagnostic

/-- What is known of a module that is asked for. -/
inductive ModuleReply where
  /-- Its outline. -/
  | outline (o : Outline)
  /-- It cannot be read. -/
  | unreadable (e : SourceError)
  /-- Its outline is being drawn up, since it includes the file that asks. -/
  | inProgress

/-- What a text is drawn up as. -/
structure Origin where
  /-- The file of the text. -/
  file : Option String
  /-- The directory at which its include paths start. -/
  directory : String
  /-- Whether the text is the one to be analysed, and not a module that it includes. -/
  isRoot : Bool

end ScriptLint
