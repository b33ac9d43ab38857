import ScriptLint.Path.Tidy
import ScriptLint.Text.Numeral

/-!
The configuration of an analysis: where modules are looked for and how much of a file is read.
-/

namespace ScriptLint

/-- Where modules live and how they are read. -/
structure Config where
  /-- The directory of the module library. -/
  libraryDir : TidyPath
  /-- What is put behind a dotted path to make the name of a file. -/
  extension : String
  /-- The greatest number of lines read from a file. -/
  maxLines : Int

namespace Config

/-- The name of the library directory in a home directory. -/
def libraryName : String := ".pangylibs"

/-- The greatest number of lines, if nothing else is said. -/
def defaultMaxLines : Int := 100000

/-- The configuration of a user with the given home directory. -/
def default (home : TidyPath) : Config where
  libraryDir := { home with names := home.names ++ [libraryName] }
  extension := ".pgy"
  maxLines := defaultMaxLines

/-- The configuration from two settings, each of which may be missing. An empty directory and a
number that cannot be read count as missing. -/
def ofSettings (home : TidyPath) (libraryDir maxLines : Option String) :
    Except HomeError Config := do
  let base := default home
  let lines := (maxLines.bind fun text => Text.integer? text.toList).getD base.maxLines
  match libraryDir.filter (· ≠ "") with
  | none => return { base with maxLines := lines }
  | some text =>
    let dir ← (TidyPath.ofText text).expandHome home
    return { base with libraryDir := dir, maxLines := lines }

end Config

end ScriptLint
