import ScriptLint.Proofs.Calls.Analysis
import ScriptLint.Proofs.Include.Selected
import ScriptLint.Proofs.Types.Analysis

/-! The verdict on a line that asks a module for a part of it. The line declares nothing and calls
no function, so beside the outline only the macro pass has anything to say of it: the sign and the
name that such a path may end in are taken for a call of the macro. A macro that the module has is
then known; one that it lacks is reported a second time. -/
namespace ScriptLint

open Text (Token)

/-- What an analysis says on a line. -/
def Analysis.findingsOn (a : Analysis) (line : Line) : List Diagnostic :=
  a.diagnostics.filter (·.line = line.number)

/-- What is said of the macro that a path asks for, as of a macro that is called there. -/
def SymbolTable.undeclaredMacro (t : SymbolTable) (line : Line) (path : Token) :
    Selection → List Diagnostic
  | .oneMacro name =>
    if (t.findMacro? name).isSome then []
    else [References.undefinedMacro line (path.offset + path.text.length - (name.length + 1)) name]
  | .topClass _ | .innerClass _ _ => []

/-- Of what is said of each line, that on one of them is what is said of it. -/
theorem filter_flatMap_of_fitLine {lines : List Line}
    (hnumbers : lines.Pairwise (·.number < ·.number)) {line : Line} (hline : line ∈ lines)
    {find : Line → List Diagnostic} (hfind : ∀ l, FitLine (find l) l) :
    (lines.flatMap find).filter (·.line = line.number) = find line := by
  rw [List.filter_flatMap]
  refine (flatMap_eq_of_mem hnumbers hline ?_).trans (hfind line).filter_eq_self
  intro other _ hapart
  refine (hfind other).filter_eq_nil ?_
  rcases hapart with hlt | hlt
  · exact Int.ne_of_gt hlt
  · exact Int.ne_of_lt hlt

section Checks

variable {text : List Char} {line : Line} (hline : line ∈ Line.ofSource text) {t : SymbolTable}
include hline

/-- The type check says nothing on a line that declares nothing. -/
theorem TypeCheck.filter_diagnostics {file : Option String}
    (hbody : t.body = declaredBody file (Line.ofSource text)) (hnone : line.declares? = none) :
    (TypeCheck.diagnostics (Line.ofSource text) t).filter (·.line = line.number) = [] := by
  rw [TypeCheck.diagnostics_eq hbody]
  refine List.filter_eq_nil_iff.mpr fun found hfound hnumber => ?_
  obtain ⟨⟨other, use⟩, hmem, rfl⟩ := List.mem_map.mp hfound
  obtain ⟨declaring, hdeclaring, huse⟩ := List.mem_flatMap.mp (List.mem_of_mem_filter hmem)
  obtain ⟨_, -, heq⟩ := List.mem_map.mp huse
  obtain ⟨rfl, rfl⟩ := Prod.mk.inj heq
  have hsome : declaring ∈ Line.ofSource text ∧ declaring.declares? ≠ none := by
    rcases List.mem_append.mp hdeclaring with h | h <;>
    · obtain ⟨hmem, hkind⟩ := List.mem_filter.mp h
      exact ⟨hmem, by simp [of_decide_eq_true hkind]⟩
  -- A number belongs to one line.
  have hat := Line.at?_ofSource hsome.1
  have hsame : declaring.number = line.number :=
    (Diagnostic.atOffset_line ..).symm.trans (of_decide_eq_true hnumber)
  rw [hsame, Line.at?_ofSource hline] at hat
  exact hsome.2 (Option.some.inj hat ▸ hnone)

/-- The uses of names in a line are looked at in three passes. -/
theorem References.filter_diagnostics (hb : line.isBlank = false) :
    (References.diagnostics (Line.ofSource text) t).filter (·.line = line.number) =
      macroDiagnostics t line ++ lineWordDiagnostics t (variableNames t) line ++
        lineCallDiagnostics t line := by
  have hnumbers := (Line.pairwise_number_ofSource text).filter fun line => !line.isBlank
  have hcoded : line ∈ (Line.ofSource text).filter fun line => !line.isBlank :=
    List.mem_filter.mpr ⟨hline, by simp [hb]⟩
  rw [References.diagnostics, List.filter_append, List.filter_append,
    filter_flatMap_of_fitLine hnumbers hcoded (fun _ => fitLine_macroDiagnostics t),
    filter_flatMap_of_fitLine hnumbers hcoded (fun _ => fitLine_lineWordDiagnostics t _),
    filter_flatMap_of_fitLine hnumbers hcoded (fun _ => fitLine_lineCallDiagnostics t)]

/-- The checks say of a line that holds only an include path what the macro pass says. -/
theorem Line.OnlyIncludes.filter_checks {path : Token} (h : line.OnlyIncludes path)
    {file : Option String} (hbody : t.body = declaredBody file (Line.ofSource text)) :
    (TypeCheck.diagnostics (Line.ofSource text) t ++
        References.diagnostics (Line.ofSource text) t).filter (·.line = line.number) =
      References.macroDiagnostics t line := by
  have hb := Line.isBlank_of_inclusion h.statement
  have hnone : line.declares? = none := by
    simp [Line.declares?, hb, h.statement, Statement.declares?]
  have hdeclaration : References.isDeclaration line = true := by
    simp [References.isDeclaration, h.statement]
  have hwords : References.lineWordDiagnostics t (References.variableNames t) line = [] := by
    rw [References.lineWordDiagnostics, if_pos hdeclaration]
  have hcalls : References.lineCallDiagnostics t line = [] :=
    References.lineCallDiagnostics_of_notMem (h.notMem_code (by decide) (by decide)) t
  rw [List.filter_append, TypeCheck.filter_diagnostics hline hbody hnone,
    References.filter_diagnostics hline hb, hwords, hcalls]
  simp

end Checks

/-- What the macro pass says of a line that asks for a part of a module. -/
theorem ModuleSource.Selects.macroDiagnostics_eq {s : ModuleSource} {file : Option String}
    {line : Line} {path : Token} {r : Resolution} {selection : Selection}
    (h : s.Selects file line path r selection) (t : SymbolTable) :
    References.macroDiagnostics t line = t.undeclaredMacro line path selection := by
  rcases h.only.macroDiagnostics_cases t with
    ⟨hsign, hnone⟩ | ⟨dotted, name, hdotted, hname, htext, hcall⟩
  · rw [hnone]
    cases selection with
    | oneMacro name =>
      exact absurd rfl (ModuleSearch.selection_of_sign_notMem h.resolved h.selection hsign name)
    | topClass _ | innerClass _ _ => rfl
  · have hnotIn : ∀ {c : Char}, Text.isNameChar c = false → c ∉ name.toList := by
      intro c hc hmem
      rw [hname.2 c hmem] at hc
      cases hc
    obtain rfl := ModuleSearch.selection_of_sign h.resolved h.selection htext hdotted
      (hnotIn (by decide)) (hnotIn (by decide))
    have hlength : path.text.length = dotted.length + (name.length + 1) := by
      rw [← String.length_toList, htext, List.length_append, List.length_cons,
        String.length_toList]
    have hoffset : path.offset + path.text.length - (name.length + 1) =
        path.offset + dotted.length := by
      omega
    rw [hcall, SymbolTable.undeclaredMacro, hoffset]

/-- A line that only asks a readable module for a part of it is told what was found in the module.
If the module has the part, that is all. If not, the line is told that, and if the part is a macro
that no other line brings in or declares, it is told a second time that there is no such macro. -/
theorem analyze_selective (disk : Disk) (config : Config) (file : Option String) {text : List Char}
    {line : Line} (hline : line ∈ Line.ofSource text) {path : Token} {r : Resolution}
    {selection : Selection} (h : (config.modules disk).Selects file line path r selection) :
    let a := analyze disk config file text
    ∃ o, (config.modules disk).DrawnUp file (Line.ofSource text) r.file o ∧
      (o.table.Provides selection →
        a.findingsOn line = o.diagnostics.map (libraryDiagnostic line path r.file.toText)) ∧
      (¬o.table.Provides selection →
        a.findingsOn line = o.diagnostics.map (libraryDiagnostic line path r.file.toText) ++
          missingSymbol line path r selection :: a.table.undeclaredMacro line path selection) := by
  intro a
  obtain ⟨before, after, hsplit⟩ := List.append_of_mem hline
  have hnumbered := Line.numbered_ofSource text
  rw [hsplit] at hnumbered
  obtain ⟨o, hmodule, houtline, hbrought⟩ := h.exists_outline hnumbered
  rw [← hsplit] at hmodule houtline hbrought
  obtain ⟨owner, hbody⟩ := exists_analyze_body disk config file text
  have hfindings : a.findingsOn line =
      o.diagnostics.map (libraryDiagnostic line path r.file.toText) ++
        (if (o.table.select? r.file.toText selection).isSome then []
        else [missingSymbol line path r selection]) ++
        a.table.undeclaredMacro line path selection := by
    rw [Analysis.findingsOn, analyze_diagnostics, List.append_assoc, List.filter_append,
      houtline, h.only.filter_checks hline hbody, h.macroDiagnostics_eq]
  refine ⟨o, hmodule, fun hprovides => ?_, fun hlacks => ?_⟩
  · have hgiven := (o.table.isSome_select?_iff r.file.toText selection).mpr hprovides
    have hknown : a.table.undeclaredMacro line path selection = [] := by
      cases selection with
      | oneMacro name =>
        -- The line itself brought the macro in.
        obtain ⟨m, hm, hname⟩ := List.mem_map.mp (hbrought name rfl hgiven)
        have hfound : (a.table.findMacro? name).isSome := by
          rw [SymbolTable.findMacro?, Option.isSome_or, Bool.or_eq_true]
          exact .inr (List.find?_isSome.mpr ⟨m, hm, decide_eq_true hname⟩)
        rw [SymbolTable.undeclaredMacro, if_pos hfound]
      | topClass _ | innerClass _ _ => rfl
    rw [hfindings, if_pos hgiven, hknown, List.append_nil, List.append_nil]
  · have hnone := mt (o.table.isSome_select?_iff r.file.toText selection).mp hlacks
    rw [hfindings, if_neg hnone, List.append_assoc, List.singleton_append]

/-- A line asks for a part of the module at a path if the search says so. -/
theorem ModuleSource.exists_selects {s : ModuleSource} {file : Option String} {line : Line}
    {path : Token} {selection : Selection} {name : String} (honly : line.OnlyIncludes path)
    (hask : ((s.search.resolve? s.disk (s.rootDirectory file).toText path.text).any fun r =>
      r.selection = some selection ∧ (s.moduleLines? r.file).isSome ∧
        s.rootPath file ≠ some r.file ∧ r.file.toText = name) = true) :
    ∃ r, s.Selects file line path r selection ∧ r.file.toText = name := by
  obtain ⟨r, hr, hall⟩ := (Option.any_eq_true _ _).mp hask
  obtain ⟨hselection, hreadable, hother, hname⟩ := of_decide_eq_true hall
  exact ⟨r, ⟨honly, hr, hselection, hreadable, hother⟩, hname⟩

/-- A directory with a module that has a class inside another one, and a macro. -/
def boxDisk : Disk where
  workingDirectory := { names := ["w"], isEntryName_of_mem := ModuleSource.isEntryName_w }
  directories := [["w"]]
  files := [(["w", "util.pgy"],
    "class Box \x7b\nclass Lid \x7b\n\x7d\n\x7d\nmacro m(a) \x7b\n\x7d".toUTF8.toList)]

/-- A line that asks the module for the inner class. -/
def lidLine : Line := ⟨1, "include util.Box.Lid".toList, false⟩

def lidPath : Token := ⟨"util.Box.Lid", 8⟩

theorem analyze_selective_boxDisk :
    ∃ r, (lidLine ∈ Line.ofSource lidLine.text ∧
        (Config.bare.modules boxDisk).Selects (some "/w/main.pgy") lidLine lidPath r
          (.innerClass "Box" "Lid")) ∧
      let a := analyze boxDisk Config.bare (some "/w/main.pgy") lidLine.text
      ∃ o, (Config.bare.modules boxDisk).DrawnUp (some "/w/main.pgy")
          (Line.ofSource lidLine.text) r.file o ∧
        (o.table.Provides (.innerClass "Box" "Lid") →
          a.findingsOn lidLine =
            o.diagnostics.map (libraryDiagnostic lidLine lidPath r.file.toText)) ∧
        (¬o.table.Provides (.innerClass "Box" "Lid") →
          a.findingsOn lidLine =
            o.diagnostics.map (libraryDiagnostic lidLine lidPath r.file.toText) ++
              missingSymbol lidLine lidPath r (.innerClass "Box" "Lid") ::
                a.table.undeclaredMacro lidLine lidPath (.innerClass "Box" "Lid")) := by
  have hlines : Line.ofSource lidLine.text = [lidLine] := by rfl
  have hline : lidLine ∈ Line.ofSource lidLine.text := hlines ▸ List.mem_singleton_self lidLine
  have honly : lidLine.OnlyIncludes lidPath := by decide +kernel
  obtain ⟨r, hr, -⟩ : ∃ r, (Config.bare.modules boxDisk).Selects (some "/w/main.pgy") lidLine
      lidPath r (.innerClass "Box" "Lid") ∧ r.file.toText = "/w/util.pgy" :=
    ModuleSource.exists_selects honly (by decide +kernel)
  exact ⟨r, ⟨hline, hr⟩, analyze_selective boxDisk Config.bare (some "/w/main.pgy") hline hr⟩

/-- The module has nothing wrong, includes nothing and lacks the macro, and there are two errors on
the line that asks for it. -/
theorem findingsOn_missingMacro :
    let s := Config.bare.modules boxDisk
    let text := "include util.@nope".toList
    let line : Line := ⟨1, text, false⟩
    (∀ path moduleLines, s.moduleLines? path = some moduleLines →
        s.resolutionsIn path.parent moduleLines = []) ∧
      ∃ r o, s.Selects (some "/w/main.pgy") line ⟨"util.@nope", 8⟩ r (.oneMacro "nope") ∧
        s.DrawnUp (some "/w/main.pgy") (Line.ofSource text) r.file o ∧ o.diagnostics = [] ∧
        ¬o.table.Provides (.oneMacro "nope") ∧
        ((analyze boxDisk Config.bare (some "/w/main.pgy") text).findingsOn line).map (·.code) =
          [.symbolNotFoundInInclude, .undefinedMacro] := by
  intro s text line
  have honly : line.OnlyIncludes ⟨"util.@nope", 8⟩ := by decide +kernel
  obtain ⟨r, hr, hname⟩ : ∃ r, s.Selects (some "/w/main.pgy") line ⟨"util.@nope", 8⟩ r
      (.oneMacro "nope") ∧ r.file.toText = "/w/util.pgy" :=
    ModuleSource.exists_selects honly (by decide +kernel)
  have hfinished : ((s.outline true (some "/w/main.pgy") (Line.ofSource text) {}).2.finished.lookup
      "/w/util.pgy").any (fun o => o.diagnostics.isEmpty &&
        !(o.table.select? "/w/util.pgy" (.oneMacro "nope")).isSome) = true := by
    decide +kernel
  obtain ⟨o, ho, hboth⟩ := (Option.any_eq_true _ _).mp hfinished
  obtain ⟨hclean, hlacks⟩ := Bool.and_eq_true_iff.mp hboth
  have hlacks : ¬o.table.Provides (.oneMacro "nope") := by
    rw [← o.table.isSome_select?_iff "/w/util.pgy"]
    simpa using hlacks
  have hmodule : s.DrawnUp (some "/w/main.pgy") (Line.ofSource text) r.file o :=
    ModuleSource.drawnUp_of_lookup (hname ▸ ho)
  refine ⟨fun path moduleLines hlines => ?_, r, o, hr, hmodule, List.isEmpty_iff.mp hclean,
    hlacks, by decide +kernel⟩
  have hnone := s.of_moduleLines? (P := fun path moduleLines =>
    (s.resolutionsIn path.parent moduleLines).isEmpty) (by decide +kernel) hlines
  exact List.isEmpty_iff.mp hnone

end ScriptLint
