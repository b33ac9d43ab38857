import ScriptLint.Check.References
import ScriptLint.Proofs.Renumber.Outline

/-! Checking a text whose lines have other numbers. Names are looked up in the renumbered table and
found as before, and what is said of them has the new number of the line. A call names the function
that it means, and this one has moved only if it is a function of the text itself. -/
namespace ScriptLint

open Text (Token)

/-- The functions that a table declares name its file, and those that it brings in name others. -/
structure SymbolTable.Separates (t : SymbolTable) : Prop where
  own : ∀ f ∈ t.allFunctions, f.file = t.file
  other : ∀ f ∈ t.imports.functions, f.file ≠ t.file

/-- The declared type on the line with the new number. -/
def TypeUse.renumber (ρ : Int → Int) (u : TypeUse) : TypeUse :=
  { u with line := ρ u.line }

variable {ρ : Int → Int} (hρ : KeepsOrder ρ) (t : SymbolTable) (line : Line)

namespace SymbolTable

theorem names_allClasses_renumber :
    (t.renumber ρ).allClasses.map (·.name) = t.allClasses.map (·.name) := by
  simp only [allClasses_renumber, List.map_map, Function.comp_def, ClassDecl.renumber_name]

theorem knownTypes_renumber (builtins : List String) :
    (t.renumber ρ).knownTypes builtins = t.knownTypes builtins := by
  unfold knownTypes classNames
  rw [names_allClasses_renumber]
  rfl

include hρ

theorem params_findMacro?_renumber (name : String) :
    ((t.renumber ρ).findMacro? name).map (·.params) = (t.findMacro? name).map (·.params) := by
  simp only [findMacro?, allMacros_renumber t hρ, List.find?_map, Option.map_or, Option.map_map]
  rfl

theorem findFunction?_renumber (h : t.Separates) (name : String) :
    (t.renumber ρ).findFunction? name = (t.findFunction? name).map (·.renumberIn ρ t.file) := by
  have hown : (t.renumber ρ).allFunctions.find? (·.name = name) =
      (t.allFunctions.find? (·.name = name)).map (·.renumberIn ρ t.file) := by
    rw [allFunctions_renumber t hρ, List.find?_map]
    refine Option.map_congr fun f hf => ?_
    exact (if_pos (h.own f (List.mem_of_find?_eq_some hf))).symm
  have hother : ∀ p : FunctionDecl → Bool, t.imports.functions.find? p =
      (t.imports.functions.find? p).map (·.renumberIn ρ t.file) := by
    intro p
    refine (Option.map_id' ..).symm.trans (Option.map_congr fun f hf => ?_)
    exact (if_neg (h.other f (List.mem_of_find?_eq_some hf))).symm
  unfold findFunction?
  rw [Option.map_or, hown]
  exact congrArg _ (hother _)

theorem typeUses_renumber : (t.renumber ρ).typeUses = t.typeUses.map (·.renumber ρ) := by
  have hfunction : ∀ f : FunctionDecl, (f.renumber ρ).typeUses =
      f.typeUses.map (·.renumber ρ) := by
    intro f
    simp only [FunctionDecl.typeUses, List.map_cons, List.map_map]
    rfl
  simp only [typeUses, allVariables_renumber t hρ, allFunctions_renumber t hρ, List.flatMap_map,
    List.map_append, List.map_map, List.map_flatMap, hfunction]
  rfl

theorem unknownTypes_renumber :
    (t.renumber ρ).unknownTypes = t.unknownTypes.map (·.renumber ρ) := by
  unfold unknownTypes
  rw [knownTypes_renumber, typeUses_renumber hρ, List.filter_map]
  rfl

end SymbolTable

namespace References

include hρ

theorem renumber_macroCallDiagnostics (file : Option String) (masked : List Char) (offset : Nat)
    (call : MacroCall) :
    (macroCallDiagnostics t line masked offset call).map (·.renumber ρ file) =
      macroCallDiagnostics (t.renumber ρ) (line.renumber ρ) masked offset call := by
  have hparams := t.params_findMacro?_renumber hρ call.name
  unfold macroCallDiagnostics
  cases hfound : t.findMacro? call.name with
  | none =>
    rw [hfound, Option.map_none, Option.map_eq_none_iff] at hparams
    rw [hparams]
    exact congrArg (fun d => [d]) (Diagnostic.renumber_atOffset ρ file line ..)
  | some m =>
    rw [hfound, Option.map_some] at hparams
    obtain ⟨moved, hmoved, hsame⟩ := Option.map_eq_some_iff.mp hparams
    rw [hmoved]
    dsimp only
    rw [hsame]
    cases call.argumentsAt.bind (Arguments.split? masked) with
    | none => rfl
    | some found =>
      dsimp only
      split
      · rfl
      · exact congrArg (fun d => [d])
          (Diagnostic.renumber_atOffset_withSeverity ρ file line ..)

theorem renumber_macroDiagnostics (file : Option String) :
    (macroDiagnostics t line).map (·.renumber ρ file) =
      macroDiagnostics (t.renumber ρ) (line.renumber ρ) := by
  unfold macroDiagnostics
  dsimp only
  rw [List.map_flatMap]
  simp only [renumber_macroCallDiagnostics hρ]
  rfl

omit hρ in
theorem renumber_wordDiagnostics (file : Option String) (names : List String) (base : Nat)
    (masked : List Char) (word : Token) :
    (wordDiagnostics t names line base masked word).map (·.renumber ρ file) =
      wordDiagnostics (t.renumber ρ) names (line.renumber ρ) base masked word := by
  unfold wordDiagnostics
  dsimp only
  rw [SymbolTable.hasClass_renumber]
  split
  · rfl
  split
  · split
    · rfl
    · exact congrArg (fun d => [d]) (Diagnostic.renumber_atOffset ρ file line ..)
  split
  · split
    · rfl
    · exact congrArg (fun d => [d]) (Diagnostic.renumber_atOffset ρ file line ..)
  · rfl

omit hρ in
theorem renumber_lineWordDiagnostics (file : Option String) (names : List String) :
    (lineWordDiagnostics t names line).map (·.renumber ρ file) =
      lineWordDiagnostics (t.renumber ρ) names (line.renumber ρ) := by
  have hdeclaration : isDeclaration (line.renumber ρ) = isDeclaration line := rfl
  unfold lineWordDiagnostics
  rw [hdeclaration]
  split
  · rfl
  · dsimp only
    rw [List.map_flatMap]
    simp only [renumber_wordDiagnostics]
    rfl

theorem variableNames_renumber : variableNames (t.renumber ρ) = variableNames t := by
  simp only [variableNames, SymbolTable.allVariables_renumber t hρ,
    SymbolTable.allFunctions_renumber t hρ, SymbolTable.allMacros_renumber t hρ, List.map_map,
    List.flatMap_map]
  rfl

variable {t} (h : t.Separates)
include h

theorem renumber_callDiagnostics (r : Region) (masked : List Char) (name : Token) :
    (callDiagnostics t line r masked name).map (·.renumber ρ t.file) =
      callDiagnostics (t.renumber ρ) (line.renumber ρ) r masked name := by
  have hnone : isNoCall (line.renumber ρ) masked name = isNoCall line masked name := rfl
  unfold callDiagnostics
  rw [hnone, SymbolTable.findFunction?_renumber hρ t h]
  split
  · rfl
  · cases t.findFunction? name.text with
    | some f =>
      exact congrArg (fun d : Diagnostic => [{ d with
        severity := .hint
        function := some (f.renumberIn ρ t.file) }])
        (Diagnostic.renumber_atOffset ρ t.file line ..)
    | none =>
      dsimp only [Option.map_none]
      split
      · rfl
      · exact congrArg (fun d => [d]) (Diagnostic.renumber_atOffset ρ t.file line ..)

theorem renumber_lineCallDiagnostics :
    (lineCallDiagnostics t line).map (·.renumber ρ t.file) =
      lineCallDiagnostics (t.renumber ρ) (line.renumber ρ) := by
  unfold lineCallDiagnostics
  dsimp only
  rw [List.map_flatMap]
  simp only [renumber_callDiagnostics hρ _ h]
  rfl

/-- The uses of names are reported alike whatever the numbers of the lines are. -/
theorem diagnostics_renumber (lines : List Line) :
    References.diagnostics (lines.map (·.renumber ρ)) (t.renumber ρ) =
      (References.diagnostics lines t).map (·.renumber ρ t.file) := by
  have hcoded : (lines.map (·.renumber ρ)).filter (fun line => !line.isBlank) =
      (lines.filter fun line => !line.isBlank).map (·.renumber ρ) := by
    rw [List.filter_map]
    rfl
  unfold References.diagnostics
  dsimp only
  rw [hcoded, variableNames_renumber hρ]
  simp only [List.flatMap_map, List.map_append, List.map_flatMap, renumber_macroDiagnostics hρ,
    renumber_lineWordDiagnostics, renumber_lineCallDiagnostics hρ _ h]

end References

theorem TypeUse.renumber_diagnostic (file : Option String) (u : TypeUse) :
    (u.diagnostic line).renumber ρ file = (u.renumber ρ).diagnostic (line.renumber ρ) :=
  Diagnostic.renumber_atOffset ρ file line ..

include hρ

/-- The declared types are reported alike whatever the numbers of the lines are, if each number
leads to the line that has moved there. -/
theorem TypeCheck.diagnostics_renumber (file : Option String) {lines moved : List Line}
    (hmoved : ∀ u ∈ t.typeUses,
      Line.at? moved (ρ u.line) = (Line.at? lines u.line).map (·.renumber ρ)) :
    TypeCheck.diagnostics moved (t.renumber ρ) =
      (TypeCheck.diagnostics lines t).map (·.renumber ρ file) := by
  unfold TypeCheck.diagnostics
  rw [SymbolTable.unknownTypes_renumber hρ, List.filterMap_map, List.map_filterMap]
  refine List.filterMap_congr fun u hu => ?_
  change (Line.at? moved (ρ u.line)).map _ = _
  rw [hmoved u (List.mem_of_mem_filter hu), Option.map_map, Option.map_map]
  exact Option.map_congr fun line _ => (TypeUse.renumber_diagnostic line file u).symm

end ScriptLint
