import ScriptLint.Analysis

/-! An analysis in its parts: the outline that is drawn up, with the modules that it reaches, and
the two checks that go over the lines with the outline's table. -/
namespace ScriptLint

section Parts

variable (disk : Disk) (config : Config) (file : Option String) (text : List Char)

theorem analyze_table :
    (analyze disk config file text).table =
      ((config.modules disk).outline true file (Line.ofSource text) {}).1.table :=
  rfl

/-- What an analysis finds comes from the outline, from the types of the declarations, and from the
uses of names, in this order. -/
theorem analyze_diagnostics :
    (analyze disk config file text).diagnostics =
      ((config.modules disk).outline true file (Line.ofSource text) {}).1.diagnostics ++
        TypeCheck.diagnostics (Line.ofSource text) (analyze disk config file text).table ++
        References.diagnostics (Line.ofSource text) (analyze disk config file text).table :=
  rfl

end Parts

/-- A disk without files. -/
def Disk.bare : Disk where
  workingDirectory := { names := ["home"], isEntryName_of_mem := by decide }

/-- A configuration for texts that include nothing. -/
def Config.bare : Config where
  libraryDir := ⟨"/", []⟩
  extension := ".pgy"
  maxLines := 10

end ScriptLint
