import ScriptLint.Proofs.Module.Codes

/-! A text as the one to be analysed and as a module. The two are drawn up alike, with the same
modules asked for in the same order; only the heads of the text are looked at in one of them and not
in the other. -/
namespace ScriptLint

/-- The finding is said of a head of the text itself, and not passed on from a module. -/
def Diagnostic.isOwnHead (d : Diagnostic) : Bool :=
  d.source = ownSource && headCodes.contains d.code

theorem Diagnostic.isOwnHead_of_code {d : Diagnostic} (h : d.code ∉ headCodes) :
    d.isOwnHead = false := by
  simp [isOwnHead, h]

theorem Diagnostic.isOwnHead_of_source {d : Diagnostic} (h : d.source = librarySource) :
    d.isOwnHead = false := by
  have hne : ¬librarySource = ownSource := by decide
  simp [isOwnHead, h, hne]

theorem isOwnHead_headDiagnostics (line : Line) (statement : Statement) :
    ∀ d ∈ headDiagnostics line statement, d.isOwnHead = true := by
  intro d hd
  have hsource : d.source = ownSource := (allOf_headDiagnostics line statement d hd).source
  have hcode : d.code ∈ headCodes := code_mem_headCodes line statement d hd
  simp [Diagnostic.isOwnHead, hsource, hcode]

theorem isOwnHead_malformedDiagnostics (line : Line) (statement : Statement) :
    ∀ d ∈ malformedDiagnostics line statement, d.isOwnHead = false := by
  cases statement with
  | malformed kind => exact List.forall_mem_singleton.mpr rfl
  | _ => exact List.forall_mem_nil _

namespace Draft

variable {State : Type}

/-- The draft of the same lines read as a module: what is said of its own heads is left out. -/
def asModule (d : Draft State) : Draft State :=
  { d with diagnostics := d.diagnostics.filter (!·.isOwnHead) }

variable (d : Draft State) (file : Option String)

theorem asModule_report (found : List Diagnostic) :
    (d.report found).asModule = d.asModule.report (found.filter (!·.isOwnHead)) := by
  simp only [asModule, report, List.filter_append]

theorem asModule_report_of_kept {found : List Diagnostic}
    (h : ∀ x ∈ found, x.isOwnHead = false) :
    (d.report found).asModule = d.asModule.report found := by
  have hkept : found.filter (!·.isOwnHead) = found := by
    apply List.filter_eq_self.mpr
    intro x hx
    simp [h x hx]
  rw [asModule_report, hkept]

theorem asModule_modifyBody (f : Body ClassDecl → Body ClassDecl) :
    (d.modifyBody f).asModule = d.asModule.modifyBody f := by
  obtain ⟨_, _ | _, _, _, _, _, _⟩ := d <;> rfl

theorem asModule_closeBelow (depth : Nat) :
    (d.closeBelow file depth).asModule = d.asModule.closeBelow file depth := by
  unfold closeBelow
  dsimp only [asModule]
  split
  · rfl
  · exact asModule_modifyBody _ _

theorem asModule_settle (line : Line) :
    (d.settle file line).asModule = d.asModule.settle file line := by
  have hbrace : ∀ x ∈ if (matchBraces d.unclosed line).2 then [excessBrace line] else [],
      x.isOwnHead = false :=
    forall_mem_ite (List.forall_mem_singleton.mpr rfl) (List.forall_mem_nil _)
  unfold settle
  rw [asModule_report_of_kept _ hbrace, asModule_closeBelow]
  rfl

theorem asModule_declare (before : Nat) (line : Int) (statement : Statement) :
    (d.declare file before line statement).asModule =
      d.asModule.declare file before line statement := by
  by_cases h : ∃ name, statement = .classHead name ∧ before < d.unclosed.length
  · obtain ⟨name, rfl, hlt⟩ := h
    rw [declare_of_opens d file hlt, declare_of_opens d.asModule file hlt]
    rfl
  · have hnot : ∀ name, statement = .classHead name → ¬before < d.unclosed.length :=
      fun name hname hlt => h ⟨name, hname, hlt⟩
    rw [declare_of_not_opens d file hnot, declare_of_not_opens d.asModule file hnot,
      asModule_modifyBody]
    rfl

/-- What an include line is told stays, also where it is passed on from the heads of a module. -/
theorem asModule_takeReply (line : Line) (path : Text.Token) (r : Resolution)
    (reply : ModuleReply) :
    (d.takeReply line path r reply).asModule = d.asModule.takeReply line path r reply := by
  cases reply with
  | inProgress => rfl
  | unreadable e =>
    exact d.asModule_report_of_kept
      (List.forall_mem_singleton.mpr (Diagnostic.isOwnHead_of_source rfl))
  | outline o =>
    have hlibrary : ∀ x ∈ o.diagnostics.map (libraryDiagnostic line path r.file.toText),
        x.isOwnHead = false :=
      List.forall_mem_map.mpr fun _ _ => Diagnostic.isOwnHead_of_source rfl
    change (d.takeOver line path r o).asModule = d.asModule.takeOver line path r o
    unfold takeOver
    cases r.selection with
    | none =>
      dsimp only
      rw [← d.asModule_report_of_kept hlibrary]
      rfl
    | some selection =>
      have hcode : (missingSymbol line path r selection).code = .symbolNotFoundInInclude :=
        Diagnostic.atOffset_code ..
      have hmissing : ∀ x ∈ [missingSymbol line path r selection], x.isOwnHead = false :=
        List.forall_mem_singleton.mpr
          (Diagnostic.isOwnHead_of_code (hcode ▸ by decide))
      dsimp only
      cases o.table.select? r.file.toText selection with
      | none =>
        dsimp only
        rw [asModule_report_of_kept _ hmissing, asModule_report_of_kept _ hlibrary]
      | some given =>
        dsimp only
        rw [← d.asModule_report_of_kept hlibrary]
        rfl

section Reading

variable (search : ModuleSearch) (disk : Disk) (load : Path → State → ModuleReply × State)
  (directory : String)

theorem asModule_followInclude (line : Line) (path : Text.Token) :
    (d.followInclude search disk load directory line path).asModule =
      d.asModule.followInclude search disk load directory line path := by
  cases hr : search.resolve? disk directory path.text with
  | none =>
    have hcode : (unresolvedInclude search line path).code = .unresolvedInclude :=
      Diagnostic.atOffset_code ..
    rw [followInclude_of_eq_none d search disk load hr,
      followInclude_of_eq_none d.asModule search disk load hr]
    exact d.asModule_report_of_kept (List.forall_mem_singleton.mpr
      (Diagnostic.isOwnHead_of_code (hcode ▸ by decide)))
  | some r =>
    rw [followInclude_of_eq_some d search disk load hr,
      followInclude_of_eq_some d.asModule search disk load hr, asModule_takeReply]
    rfl

/-- Of what a line adds, only what is said of its head is missing in a module. -/
theorem asModule_readLine (line : Line) :
    (d.readLine search disk load ⟨file, directory, true⟩ line).asModule =
      d.asModule.readLine search disk load ⟨file, directory, false⟩ line := by
  rcases line.isBlank_or_inclusion_or with hb | ⟨hb, ⟨path, hs⟩ | hs⟩
  · rw [readLine_of_isBlank d search disk load _ hb,
      readLine_of_isBlank d.asModule search disk load _ hb]
  · rw [readLine_of_inclusion d search disk load _ hb hs,
      readLine_of_inclusion d.asModule search disk load _ hb hs, asModule_followInclude,
      asModule_settle]
  · have hheads : (headDiagnostics line (Statement.ofText line.code)).filter
        (!·.isOwnHead) = [] := by
      apply List.filter_eq_nil_iff.mpr
      intro x hx
      simp [isOwnHead_headDiagnostics line _ x hx]
    have hmalformed : (malformedDiagnostics line (Statement.ofText line.code)).filter
        (!·.isOwnHead) = malformedDiagnostics line (Statement.ofText line.code) := by
      apply List.filter_eq_self.mpr
      intro x hx
      simp [isOwnHead_malformedDiagnostics line _ x hx]
    rw [readLine_of_ne_inclusion d search disk load _ hb hs,
      readLine_of_ne_inclusion d.asModule search disk load _ hb hs, asModule_report,
      asModule_declare, asModule_settle, List.filter_append, hmalformed]
    simp only [↓reduceIte, hheads, Bool.false_eq_true]
    rfl

theorem asModule_readLines (lines : List Line) :
    (lines.foldl (readLine search disk load ⟨file, directory, true⟩) d).asModule =
      lines.foldl (readLine search disk load ⟨file, directory, false⟩) d.asModule := by
  induction lines generalizing d with
  | nil => rfl
  | cons line lines ih => rw [List.foldl_cons, List.foldl_cons, ih, asModule_readLine]

end Reading

theorem asModule_finish (origin : Origin) (lines : List Line) :
    let made := d.finish origin lines
    d.asModule.finish origin lines =
      (⟨made.1.table, made.1.diagnostics.filter (!·.isOwnHead)⟩, made.2) := by
  have hbraces : (unclosedDiagnostics lines d.unclosed).filter (!·.isOwnHead) =
      unclosedDiagnostics lines d.unclosed := by
    refine List.filter_eq_self.mpr fun found hfound => ?_
    obtain ⟨line, -, n, -, rfl⟩ := exists_of_mem_unclosedDiagnostics hfound
    rfl
  unfold finish
  dsimp only [asModule]
  cases OpenClass.closeAll? origin.file d.openClasses <;>
    simp only [List.filter_append, hbraces]

end Draft

/-- The outline without what is said of the heads of the text itself. -/
def Outline.withoutOwnHeads (o : Outline) : Outline :=
  { o with diagnostics := o.diagnostics.filter (!·.isOwnHead) }

/-- Lines are drawn up as a module as they are when they are analysed, apart from their heads. If a
line is looked up in vain, it is the same one. -/
theorem Outline.ofLinesChecked_asModule {State : Type} (search : ModuleSearch) (disk : Disk)
    (load : Path → State → ModuleReply × State) (file : Option String) (directory : String)
    (lines : List Line) (state : State) :
    Outline.ofLinesChecked search disk load ⟨file, directory, false⟩ lines state =
      (Outline.ofLinesChecked search disk load ⟨file, directory, true⟩ lines state).map
        fun made => (made.1.withoutOwnHeads, made.2) := by
  have hread := Draft.asModule_readLines { state := state } file search disk load directory lines
  have hstart : ({ state := state } : Draft State).asModule = { state := state } := rfl
  rw [hstart] at hread
  unfold Outline.ofLinesChecked
  rw [← hread]
  generalize lines.foldl (Draft.readLine search disk load ⟨file, directory, true⟩)
    { state := state } = d
  -- The braces that are open are the same, and so are the lines that are looked up for them.
  have hunclosed : d.asModule.unclosed = d.unclosed := rfl
  dsimp only
  rw [hunclosed]
  cases hmissing : missingUnclosed? lines d.unclosed with
  | some number => rfl
  | none =>
    dsimp only
    rw [Draft.asModule_finish]
    rfl

theorem holdsOfModules_notMem_headCodes : HoldsOfModules (· ∉ headCodes) := by
  constructor <;> decide

/-- A finding that is not of an own head has another code, if no finding of other sources has. -/
theorem filter_isOwnHead_eq {found : List Diagnostic}
    (h : CodesWith (· ∉ headCodes) (found.filter (!·.isOwnHead))) :
    found.filter (!·.isOwnHead) = found.filter (·.code ∉ headCodes) := by
  apply List.filter_congr
  intro d hd
  by_cases hown : d.isOwnHead = true
  · have hcode : d.code ∈ headCodes := by
      by_contra hcode
      rw [Diagnostic.isOwnHead_of_code hcode] at hown
      cases hown
    simp [hown, hcode]
  · rw [Bool.not_eq_true] at hown
    have hcode : d.code ∉ headCodes := h d (List.mem_filter.mpr ⟨hd, by simp [hown]⟩)
    simp [hown, hcode]

namespace ModuleSource

section Checked

variable (s : ModuleSource) (file : Option String) (lines : List Line) (pass : Pass)

theorem outlineChecked_module :
    s.outlineChecked false file lines pass =
      (s.outlineChecked true file lines pass).map fun made =>
        (made.1.withoutOwnHeads, made.2) := by
  unfold outlineChecked start
  cases file.filter (· ≠ "") with
  | none => exact Outline.ofLinesChecked_asModule ..
  | some name => exact Outline.ofLinesChecked_asModule ..

/-- What is drawn up of any lines is the outline of a text, if it is one. -/
theorem outline_of_outlineChecked {isRoot : Bool} {made : Outline × Pass}
    (h : s.outlineChecked isRoot file lines pass = .ok made) :
    s.outline isRoot file lines pass = made :=
  Outline.ofLines_of_ofLinesChecked _ _ _ _ h

theorem outlineChecked_ofSource (isRoot : Bool) (text : List Char) :
    s.outlineChecked isRoot file (Line.ofSource text) pass =
      .ok (s.outline isRoot file (Line.ofSource text) pass) :=
  Outline.ofLinesChecked_eq _ _ _ _ (Line.numbered_ofSource text) _

end Checked

/-- Lines look the same whether they are analysed or included, whatever they are and whatever files
have been begun and finished before. If one of them is looked up in vain, it is the same. Else the
table and the files that are begun and finished behind them are the same, and as a module they have
the same findings in the same order, without what is said of their own heads. What a finished module
is found to have of this kind is passed on all the same. When no finished module has any, as is the
case with all modules that are drawn up, what is left out are the findings with the codes of heads,
and no module that is finished meanwhile has any. -/
theorem outline_module_eq_root (s : ModuleSource) (file : Option String) (lines : List Line)
    (pass : Pass) :
    let root := s.outlineChecked true file lines pass
    let module := s.outlineChecked false file lines pass
    (∀ number, module = .error number ↔ root = .error number) ∧
      ∀ made, root = .ok made →
        module = .ok (⟨made.1.table, made.1.diagnostics.filter (!·.isOwnHead)⟩, made.2) ∧
          (pass.CodesWith (· ∉ headCodes) →
            made.1.diagnostics.filter (!·.isOwnHead) =
                made.1.diagnostics.filter (·.code ∉ headCodes) ∧
              made.2.CodesWith (· ∉ headCodes)) := by
  intro root module
  have hmap : module = root.map fun made => (made.1.withoutOwnHeads, made.2) :=
    s.outlineChecked_module file lines pass
  refine ⟨fun number => ?_, fun made hroot => ?_⟩
  · rw [hmap]
    cases root <;> simp [Except.map]
  · have hmodule : module =
        .ok (⟨made.1.table, made.1.diagnostics.filter (!·.isOwnHead)⟩, made.2) := by
      rw [hmap, hroot]
      rfl
    refine ⟨hmodule, fun hpass => ?_⟩
    have houtline := s.outline_of_outlineChecked file lines pass hmodule
    have hnotRoot : false = true → ∀ code ∈ headCodes, code ∉ headCodes := by simp
    obtain ⟨hcodes, hlast⟩ :=
      s.codesWith_outline holdsOfModules_notMem_headCodes hnotRoot hpass file lines
    rw [houtline] at hcodes hlast
    exact ⟨filter_isOwnHead_eq hcodes, hlast⟩

/-- A class whose head opens no body is drawn up with two modules that were finished before. -/
theorem outline_module_eq_root_mutualModules :
    let before := (mutualModules.outline true (some "main.pgy") (Line.ofSource "include a".toList)
      {}).2
    let lines := Line.ofSource "include a\nclass K".toList
    let root := mutualModules.outline true (some "main.pgy") lines before
    let module := mutualModules.outline false (some "main.pgy") lines before
    (before.finished.length = 2 ∧ before.CodesWith (· ∉ headCodes)) ∧
      mutualModules.outlineChecked true (some "main.pgy") lines before = .ok root ∧
      mutualModules.outlineChecked false (some "main.pgy") lines before = .ok module ∧
      root.1.diagnostics.map (·.code) = [.missingBrace] ∧
      module.1.diagnostics = root.1.diagnostics.filter (·.code ∉ headCodes) := by
  intro before lines root module
  have hnothing : ({} : Pass).CodesWith (· ∉ headCodes) := fun _ h => (List.not_mem_nil h).elim
  have hfirst := mutualModules.outlineChecked_ofSource (some "main.pgy") {} true "include a".toList
  obtain ⟨-, hbefore⟩ := ((mutualModules.outline_module_eq_root (some "main.pgy")
    (Line.ofSource "include a".toList) {}).2 _ hfirst).2 hnothing
  have hcodes : root.1.diagnostics.map (·.code) = [.missingBrace] := by decide +kernel
  have hroot : mutualModules.outlineChecked true (some "main.pgy") lines before = .ok root :=
    mutualModules.outlineChecked_ofSource _ before true _
  have hmodule : mutualModules.outlineChecked false (some "main.pgy") lines before = .ok module :=
    mutualModules.outlineChecked_ofSource _ before false _
  obtain ⟨hsame, hfindings⟩ :=
    (mutualModules.outline_module_eq_root (some "main.pgy") lines before).2 root hroot
  have hdiagnostics : module.1.diagnostics = root.1.diagnostics.filter (!·.isOwnHead) := by
    rw [hmodule] at hsame
    rw [Except.ok.inj hsame]
  exact ⟨⟨by decide +kernel, hbefore⟩, hroot, hmodule, hcodes,
    hdiagnostics.trans (hfindings hbefore).1⟩

/-- Where a module is given as finished with a finding about one of its heads, as no module is drawn
up with, an include line passes it on whether the text is analysed or included. -/
theorem outline_module_ne_root :
    let head : Diagnostic := .onLine .missingBrace "" ⟨1, "class K".toList, false⟩
    let before : Pass := ⟨["/w/a.pgy"], [("/w/a.pgy", ⟨⟨some "/w/a.pgy", {}, [], {}⟩, [head]⟩)]⟩
    let lines := Line.ofSource "include a".toList
    let root := mutualModules.outline true (some "main.pgy") lines before
    let module := mutualModules.outline false (some "main.pgy") lines before
    mutualModules.outlineChecked true (some "main.pgy") lines before = .ok root ∧
      mutualModules.outlineChecked false (some "main.pgy") lines before = .ok module ∧
      module.1.diagnostics.map (·.code) = [.missingBrace] ∧
      root.1.diagnostics.filter (·.code ∉ headCodes) = [] := by
  intro head before lines root module
  exact ⟨mutualModules.outlineChecked_ofSource _ before true _,
    mutualModules.outlineChecked_ofSource _ before false _, by decide +kernel, by decide +kernel⟩

end ModuleSource

end ScriptLint
