import Mathlib.Data.List.Forall2
import ScriptLint.Proofs.Analysis.Parts
import ScriptLint.Proofs.Comments.Findings
import ScriptLint.Proofs.Outline.Unclosed

/-! Comments have no influence on an analysis. Two texts whose lines hold the same code, one by one,
are read in step: the drafts of their outlines agree behind every line, the columns of what was
found excepted, and so do the findings of every check over them. -/
namespace ScriptLint

namespace Draft

variable {State : Type}

/-- The draft with the columns of what was found forgotten. -/
def withoutColumns (d : Draft State) : Draft State :=
  { d with diagnostics := ScriptLint.withoutColumns d.diagnostics }

section Steps

variable (d : Draft State) (file : Option String)

theorem withoutColumns_report (found : List Diagnostic) :
    (d.report found).withoutColumns =
      d.withoutColumns.report (ScriptLint.withoutColumns found) := by
  simp only [withoutColumns, report, withoutColumns_append]

theorem withoutColumns_modifyBody (f : Body ClassDecl → Body ClassDecl) :
    (d.modifyBody f).withoutColumns = d.withoutColumns.modifyBody f := by
  obtain ⟨_, _ | _, _, _, _, _, _⟩ := d <;> rfl

theorem withoutColumns_closeBelow (depth : Nat) :
    (d.closeBelow file depth).withoutColumns = d.withoutColumns.closeBelow file depth := by
  unfold closeBelow
  dsimp only [withoutColumns]
  split
  · rfl
  · exact withoutColumns_modifyBody _ _

theorem withoutColumns_declare (before : Nat) (line : Int) (statement : Statement) :
    (d.declare file before line statement).withoutColumns =
      d.withoutColumns.declare file before line statement := by
  by_cases h : ∃ name, statement = .classHead name ∧ before < d.unclosed.length
  · obtain ⟨name, rfl, hlt⟩ := h
    rw [declare_of_opens d file hlt, declare_of_opens d.withoutColumns file hlt]
    rfl
  · have hnot : ∀ name, statement = .classHead name → ¬before < d.unclosed.length :=
      fun name hname hlt => h ⟨name, hname, hlt⟩
    rw [declare_of_not_opens d file hnot, declare_of_not_opens d.withoutColumns file hnot,
      withoutColumns_modifyBody]
    rfl

end Steps

section TwoRuns

variable {d e : Draft State} {a b : Line}

theorem withoutColumns_report_congr {found found' : List Diagnostic}
    (hd : d.withoutColumns = e.withoutColumns)
    (hfound : ScriptLint.withoutColumns found = ScriptLint.withoutColumns found') :
    (d.report found).withoutColumns = (e.report found').withoutColumns := by
  rw [withoutColumns_report, withoutColumns_report, hd, hfound]

variable (h : a.SameCode b) (hd : d.withoutColumns = e.withoutColumns)
include h hd

theorem withoutColumns_settle (file : Option String) :
    (d.settle file a).withoutColumns = (e.settle file b).withoutColumns := by
  -- Drafts that agree up to columns agree in the parts that the step goes by.
  have hunclosed : d.unclosed = e.unclosed := congrArg (·.unclosed) hd
  have hcounted : ∀ unclosed, { d with unclosed := unclosed }.withoutColumns =
      { e with unclosed := unclosed }.withoutColumns :=
    fun unclosed => congrArg (fun x : Draft State => { x with unclosed := unclosed }) hd
  have hexcess : (excessBrace a).withoutColumns = (excessBrace b).withoutColumns :=
    Diagnostic.withoutColumns_onLine h _ _
  unfold settle
  rw [h.matchBraces, hunclosed]
  refine withoutColumns_report_congr ?_ ?_
  · rw [withoutColumns_closeBelow, withoutColumns_closeBelow, hcounted]
  · split <;> simp [ScriptLint.withoutColumns, hexcess]

theorem withoutColumns_takeOver (path : Text.Token) (r : Resolution) (o : Outline) :
    (d.takeOver a path r o).withoutColumns = (e.takeOver b path r o).withoutColumns := by
  have hat := Diagnostic.withoutColumns_atOffset h
  have hlibrary : ScriptLint.withoutColumns
        (o.diagnostics.map (libraryDiagnostic a path r.file.toText)) =
      ScriptLint.withoutColumns (o.diagnostics.map (libraryDiagnostic b path r.file.toText)) := by
    simp only [ScriptLint.withoutColumns, List.map_map]
    refine List.map_congr_left fun found _ => ?_
    exact congrArg (fun d : Diagnostic => { d with source := librarySource }) (hat _ _ _ _ _)
  have htaken := withoutColumns_report_congr hd hlibrary
  have hmerged : ∀ more : Imports,
      { d.report (o.diagnostics.map (libraryDiagnostic a path r.file.toText)) with
        imports := d.imports.merge more }.withoutColumns =
      { e.report (o.diagnostics.map (libraryDiagnostic b path r.file.toText)) with
        imports := e.imports.merge more }.withoutColumns :=
    fun more => congrArg
      (fun x : Draft State => { x with imports := x.imports.merge more }) htaken
  unfold takeOver
  cases hselection : r.selection with
  | none => exact hmerged _
  | some selection =>
    dsimp only
    cases hselect : o.table.select? r.file.toText selection with
    | none =>
      exact withoutColumns_report_congr htaken (withoutColumns_singleton_congr (hat _ _ _ _ _))
    | some given => exact hmerged given

theorem withoutColumns_takeReply (path : Text.Token) (r : Resolution) (reply : ModuleReply) :
    (d.takeReply a path r reply).withoutColumns = (e.takeReply b path r reply).withoutColumns := by
  cases reply with
  | outline o => exact withoutColumns_takeOver h hd path r o
  | inProgress => exact hd
  | unreadable error =>
    have herror : (unreadableModule a path r.file.toText error).withoutColumns =
        (unreadableModule b path r.file.toText error).withoutColumns :=
      congrArg (fun d : Diagnostic => { d with source := librarySource })
        (Diagnostic.withoutColumns_atOffset h _ _ _ _ _)
    exact withoutColumns_report_congr hd (withoutColumns_singleton_congr herror)

variable (search : ModuleSearch) (disk : Disk) (load : Path → State → ModuleReply × State)
  (origin : Origin)

theorem withoutColumns_followInclude (directory : String) (path : Text.Token) :
    (d.followInclude search disk load directory a path).withoutColumns =
      (e.followInclude search disk load directory b path).withoutColumns := by
  cases hresolve : search.resolve? disk directory path.text with
  | none =>
    rw [followInclude_of_eq_none d search disk load hresolve,
      followInclude_of_eq_none e search disk load hresolve]
    exact withoutColumns_report_congr hd
      (withoutColumns_singleton_congr (Diagnostic.withoutColumns_atOffset h _ _ _ _ _))
  | some r =>
    -- Both ask for the same module in the same state, so they get the same answer.
    have hstate : d.state = e.state := congrArg (·.state) hd
    have hasked := congrArg (fun x : Draft State => { x with
      includes := x.includes ++ [r.toInclude path.text b.number]
      state := (load r.file e.state).2 }) hd
    rw [followInclude_of_eq_some d search disk load hresolve,
      followInclude_of_eq_some e search disk load hresolve, h.number, hstate]
    exact withoutColumns_takeReply h hasked path r _

/-- Lines with the same code change drafts in the same way. -/
theorem withoutColumns_readLine :
    (d.readLine search disk load origin a).withoutColumns =
      (e.readLine search disk load origin b).withoutColumns := by
  have hsettled := withoutColumns_settle h hd origin.file
  rcases b.isBlank_or_inclusion_or with hb | ⟨hb, ⟨path, hs⟩ | hs⟩
  · rw [readLine_of_isBlank d search disk load origin (h.isBlank.trans hb),
      readLine_of_isBlank e search disk load origin hb, hd]
  · rw [readLine_of_inclusion d search disk load origin (h.isBlank.trans hb)
        ((congrArg Statement.ofText h.code).trans hs),
      readLine_of_inclusion e search disk load origin hb hs]
    exact withoutColumns_followInclude h hsettled search disk load origin.directory path
  · have hunclosed : d.unclosed = e.unclosed := congrArg (·.unclosed) hd
    rw [readLine_of_ne_inclusion d search disk load origin (h.isBlank.trans hb)
        (h.code ▸ hs), readLine_of_ne_inclusion e search disk load origin hb hs, h.code,
      h.number, hunclosed]
    refine withoutColumns_report_congr ?_ ?_
    · rw [withoutColumns_declare, withoutColumns_declare, hsettled]
    · rw [withoutColumns_append, withoutColumns_append,
        withoutColumns_malformedDiagnostics h]
      split <;> simp [withoutColumns_headDiagnostics h]

end TwoRuns

variable (search : ModuleSearch) (disk : Disk) (load : Path → State → ModuleReply × State)
  (origin : Origin) {lines lines' : List Line} (h : List.Forall₂ Line.SameCode lines lines')
include h

theorem withoutColumns_readLines {d e : Draft State} (hd : d.withoutColumns = e.withoutColumns) :
    (lines.foldl (readLine search disk load origin) d).withoutColumns =
      (lines'.foldl (readLine search disk load origin) e).withoutColumns := by
  induction h generalizing d e with
  | nil => exact hd
  | cons hab _ ih => exact ih (withoutColumns_readLine hab hd search disk load origin)

theorem withoutColumns_unclosed (unclosed : List Int) :
    ScriptLint.withoutColumns (unclosedDiagnostics lines unclosed) =
      ScriptLint.withoutColumns (unclosedDiagnostics lines' unclosed) := by
  refine map_unclosedDiagnostics_eq h fun n a b hab => ?_
  have hbrace : (unclosedBrace a).withoutColumns = (unclosedBrace b).withoutColumns :=
    Diagnostic.withoutColumns_onLine hab _ _
  exact congrArg (fun d : Diagnostic => { d with line := n }) hbrace

end Draft

/-- The outline with the columns of what was found forgotten. -/
def Outline.withoutColumns (o : Outline) : Outline :=
  { o with diagnostics := ScriptLint.withoutColumns o.diagnostics }

section Outline

variable {State : Type} {lines lines' : List Line} (h : List.Forall₂ Line.SameCode lines lines')
include h

/-- The outlines of drafts that agree, over lines that agree. -/
theorem Draft.withoutColumns_finish (origin : Origin) {d e : Draft State}
    (hd : d.withoutColumns = e.withoutColumns) :
    (d.finish origin lines).1.withoutColumns = (e.finish origin lines').1.withoutColumns ∧
      (d.finish origin lines).2 = (e.finish origin lines').2 := by
  -- Apart from their findings the two drafts are one and the same.
  obtain ⟨unclosed, openClasses, body, includes, imports, found, state⟩ := d
  obtain ⟨_, _, _, _, _, found', _⟩ := e
  obtain ⟨rfl, rfl, rfl, rfl, rfl, hfound, rfl⟩ := Draft.mk.inj hd
  have hbraces := withoutColumns_unclosed h unclosed
  unfold finish
  cases OpenClass.closeAll? origin.file openClasses <;>
    simp only [Outline.withoutColumns, withoutColumns_append, hfound, hbraces, and_self]

theorem Outline.withoutColumns_ofLines (search : ModuleSearch) (disk : Disk)
    (load : Path → State → ModuleReply × State) (origin : Origin) (state : State) :
    (Outline.ofLines search disk load origin lines state).1.withoutColumns =
      (Outline.ofLines search disk load origin lines' state).1.withoutColumns :=
  (Draft.withoutColumns_finish h origin
    (Draft.withoutColumns_readLines search disk load origin h rfl)).1

theorem ModuleSource.withoutColumns_outline (s : ModuleSource) (isRoot : Bool)
    (file : Option String) (pass : Pass) :
    (s.outline isRoot file lines pass).1.withoutColumns =
      (s.outline isRoot file lines' pass).1.withoutColumns := by
  exact Outline.withoutColumns_ofLines h _ _ _ _ _

theorem withoutColumns_flatMap {find : Line → List Diagnostic}
    (hfind : ∀ a b, Line.SameCode a b → withoutColumns (find a) = withoutColumns (find b)) :
    withoutColumns (lines.flatMap find) = withoutColumns (lines'.flatMap find) := by
  induction h with
  | nil => rfl
  | cons hab _ ih =>
    rw [List.flatMap_cons, List.flatMap_cons, withoutColumns_append, withoutColumns_append,
      hfind _ _ hab, ih]

theorem References.withoutColumns_diagnostics (t : SymbolTable) :
    withoutColumns (References.diagnostics lines t) =
      withoutColumns (References.diagnostics lines' t) := by
  have hcoded : List.Forall₂ Line.SameCode (lines.filter fun line => !line.isBlank)
      (lines'.filter fun line => !line.isBlank) := by
    induction h with
    | nil => exact .nil
    | cons hab _ ih =>
      rw [List.filter_cons, List.filter_cons, hab.isBlank]
      split
      · exact .cons hab ih
      · exact ih
  unfold References.diagnostics
  simp only [withoutColumns_append]
  rw [withoutColumns_flatMap hcoded fun a b hab => withoutColumns_macroDiagnostics hab t,
    withoutColumns_flatMap hcoded fun a b hab => withoutColumns_lineWordDiagnostics hab t _,
    withoutColumns_flatMap hcoded fun a b hab => withoutColumns_lineCallDiagnostics hab t]

theorem TypeCheck.withoutColumns_diagnostics (t : SymbolTable) :
    withoutColumns (TypeCheck.diagnostics lines t) =
      withoutColumns (TypeCheck.diagnostics lines' t) := by
  have hat : ∀ u : TypeUse,
      (Line.at? lines u.line).map (fun l => (u.diagnostic l).withoutColumns) =
        (Line.at? lines' u.line).map (fun l => (u.diagnostic l).withoutColumns) :=
    fun u => Line.map_at?_eq h (fun _ _ hab => u.withoutColumns_diagnostic hab) u.line
  simp only [TypeCheck.diagnostics, withoutColumns, List.map_filterMap, Option.map_map]
  exact congrArg (fun f => List.filterMap f t.unknownTypes) (funext hat)

end Outline

/-- Lines with the same code, one by one, have the same numbers too. -/
theorem Line.forall₂_sameCode_ofSource {text text' : List Char}
    (h : (ofSource text).map (·.code) = (ofSource text').map (·.code)) :
    List.Forall₂ SameCode (ofSource text) (ofSource text') := by
  suffices hgo : ∀ (more more' : List (List Char)) (n : Nat) (inComment inComment' : Bool),
      (ofSource.go n inComment more).map (·.code) =
        (ofSource.go n inComment' more').map (·.code) →
      List.Forall₂ SameCode (ofSource.go n inComment more) (ofSource.go n inComment' more') from
    hgo _ _ _ _ _ h
  -- One text may be in a comment where the other is not: only the code is compared.
  intro more
  induction more with
  | nil =>
    intro more' n inComment inComment' heq
    cases more' with
    | nil => exact .nil
    | cons text' more' => cases heq
  | cons text more ih =>
    intro more' n inComment inComment' heq
    cases more' with
    | nil => cases heq
    | cons text' more' =>
      obtain ⟨hcode, hmore⟩ := List.cons.inj heq
      exact .cons ⟨rfl, hcode⟩ (ih more' _ _ _ hmore)

/-- Comments have no influence on an analysis. Texts whose lines hold the same code have the same
symbol table, and the same is found in them in the same order, the columns excepted. -/
theorem analyze_eq_of_code_eq (disk : Disk) (config : Config) (file : Option String)
    {text text' : List Char}
    (h : (Line.ofSource text).map (·.code) = (Line.ofSource text').map (·.code)) :
    let a := analyze disk config file text
    let a' := analyze disk config file text'
    a.file = a'.file ∧ a.table = a'.table ∧
      a.diagnostics.map (·.withoutColumns) = a'.diagnostics.map (·.withoutColumns) := by
  have hlines := Line.forall₂_sameCode_ofSource h
  have houtline := (config.modules disk).withoutColumns_outline hlines true file {}
  -- The columns are forgotten in the findings alone, so the tables are the same.
  have htables := congrArg Outline.table houtline
  have hread := congrArg Outline.diagnostics houtline
  intro a a'
  have htable : a.table = a'.table := htables
  have htypes := TypeCheck.withoutColumns_diagnostics hlines a.table
  have huses := References.withoutColumns_diagnostics hlines a.table
  refine ⟨congrArg SymbolTable.file htable, htable, ?_⟩
  calc withoutColumns a.diagnostics
    _ = withoutColumns
          ((config.modules disk).outline true file (Line.ofSource text) {}).1.diagnostics ++
        withoutColumns (TypeCheck.diagnostics (Line.ofSource text) a.table) ++
        withoutColumns (References.diagnostics (Line.ofSource text) a.table) := by
      rw [analyze_diagnostics, withoutColumns_append, withoutColumns_append]
    _ = withoutColumns
          ((config.modules disk).outline true file (Line.ofSource text') {}).1.diagnostics ++
        withoutColumns (TypeCheck.diagnostics (Line.ofSource text') a'.table) ++
        withoutColumns (References.diagnostics (Line.ofSource text') a'.table) := by
      rw [htypes, huses, htable]
      exact congrArg (· ++ _ ++ _) hread
    _ = withoutColumns a'.diagnostics := by
      rw [analyze_diagnostics, withoutColumns_append, withoutColumns_append]

/-- Comments move what is found to other columns. -/
theorem analyze_commented_listing :
    let plain := "var x Widget\nrun(x)".toList
    let commented := "/* one */var x Widget// two\nrun(/* three */x)".toList
    let a := analyze .bare .bare none plain
    let a' := analyze .bare .bare none commented
    (a.file = a'.file ∧ a.table = a'.table ∧
      a.diagnostics.map (·.withoutColumns) = a'.diagnostics.map (·.withoutColumns)) ∧
    a.diagnostics.map (·.startColumn) = [6, 0] ∧ a'.diagnostics.map (·.startColumn) = [15, 0] := by
  intro plain commented a a'
  exact ⟨analyze_eq_of_code_eq .bare .bare none (by decide +kernel), by decide +kernel,
    by decide +kernel⟩

end ScriptLint
