import ScriptLint.Proofs.Placement.Analysis

/-! What can be found while an outline is drawn up. Each finding is of one of a few forms, and says
something of the line on which it is reported. -/
namespace ScriptLint

/-- The forms of what is found on a line while an outline is drawn up. -/
inductive Line.Gives (search : ModuleSearch) (line : Line) : Diagnostic → Prop where
  /-- A brace closes nothing. -/
  | excess : line.Gives search (excessBrace line)
  /-- A brace is never closed. -/
  | unclosed : line.Gives search (unclosedBrace line)
  /-- The line starts like a declaration and goes on otherwise. -/
  | malformed {d : Diagnostic} (h : d ∈ malformedDiagnostics line (Statement.ofText line.code)) :
      line.Gives search d
  /-- The head of a declaration or a condition is doubtful. -/
  | head {d : Diagnostic} (h : d ∈ headDiagnostics line (Statement.ofText line.code)) :
      line.Gives search d
  /-- No module has the path of the include line. -/
  | unresolved {path : Text.Token} (hs : Statement.ofText line.code = .inclusion path) :
      line.Gives search (unresolvedInclude search line path)
  /-- The module cannot be read. -/
  | unreadable {path : Text.Token} (hs : Statement.ofText line.code = .inclusion path)
      (file : String) (e : SourceError) : line.Gives search (unreadableModule line path file e)
  /-- Something was found in the module. -/
  | library {path : Text.Token} (hs : Statement.ofText line.code = .inclusion path)
      (file : String) (inner : Diagnostic) :
      line.Gives search (libraryDiagnostic line path file inner)
  /-- The module lacks what is asked for. -/
  | missing {path : Text.Token} (hs : Statement.ofText line.code = .inclusion path)
      (r : Resolution) (selection : Selection) :
      line.Gives search (missingSymbol line path r selection)

namespace Draft

variable {State : Type} {d : Draft State} {line : Line} {path : Text.Token} {found : Diagnostic}

theorem mem_settle_diagnostics (file : Option String)
    (h : found ∈ (d.settle file line).diagnostics) :
    found ∈ d.diagnostics ∨ found = excessBrace line := by
  rw [settle_diagnostics] at h
  refine (List.mem_append.mp h).imp_right fun hbrace => ?_
  split at hbrace
  · exact List.mem_singleton.mp hbrace
  · exact (List.not_mem_nil hbrace).elim

theorem mem_takeReply_diagnostics (search : ModuleSearch)
    (hs : Statement.ofText line.code = .inclusion path) (r : Resolution) (reply : ModuleReply)
    (h : found ∈ (d.takeReply line path r reply).diagnostics) :
    found ∈ d.diagnostics ∨ line.Gives search found := by
  cases reply with
  | unreadable e =>
    refine (List.mem_append.mp h).imp_right fun hnew => ?_
    rw [List.mem_singleton.mp hnew]
    exact .unreadable hs _ e
  | inProgress => exact Or.inl h
  | outline o =>
    have hlibrary : found ∈ (d.report (o.diagnostics.map
        (libraryDiagnostic line path r.file.toText))).diagnostics →
        found ∈ d.diagnostics ∨ line.Gives search found := by
      intro hmem
      refine (List.mem_append.mp hmem).imp_right fun hnew => ?_
      obtain ⟨inner, -, rfl⟩ := List.mem_map.mp hnew
      exact .library hs _ inner
    change found ∈ (d.takeOver line path r o).diagnostics at h
    unfold takeOver at h
    cases hselection : r.selection with
    | none =>
      rw [hselection] at h
      exact hlibrary h
    | some selection =>
      rw [hselection] at h
      dsimp only at h
      cases hgiven : o.table.select? r.file.toText selection with
      | some given =>
        rw [hgiven] at h
        exact hlibrary h
      | none =>
        rw [hgiven] at h
        rcases List.mem_append.mp h with hold | hnew
        · exact hlibrary hold
        · rw [List.mem_singleton.mp hnew]
          exact Or.inr (.missing hs r selection)

variable (search : ModuleSearch) (disk : Disk) (load : Path → State → ModuleReply × State)
  (origin : Origin)

/-- What is found while a line is read has one of the forms. -/
theorem mem_readLine_diagnostics
    (h : found ∈ (d.readLine search disk load origin line).diagnostics) :
    found ∈ d.diagnostics ∨ line.Gives search found := by
  have hsettle : found ∈ (d.settle origin.file line).diagnostics →
      found ∈ d.diagnostics ∨ line.Gives search found := by
    intro hmem
    refine (mem_settle_diagnostics origin.file hmem).imp_right ?_
    rintro rfl
    exact .excess
  rcases line.isBlank_or_inclusion_or with hblank | ⟨hblank, ⟨path, hs⟩ | hs⟩
  · rw [readLine_of_isBlank d search disk load origin hblank] at h
    exact Or.inl h
  · rw [readLine_of_inclusion d search disk load origin hblank hs] at h
    cases hresolve : search.resolve? disk origin.directory path.text with
    | none =>
      rw [followInclude_of_eq_none _ search disk load hresolve] at h
      rcases List.mem_append.mp h with hold | hnew
      · exact hsettle hold
      · rw [List.mem_singleton.mp hnew]
        exact Or.inr (.unresolved hs)
    | some r =>
      rw [followInclude_of_eq_some _ search disk load hresolve] at h
      rcases mem_takeReply_diagnostics search hs r _ h with hold | hnew
      · exact hsettle hold
      · exact Or.inr hnew
  · rw [readLine_of_ne_inclusion d search disk load origin hblank hs, report_diagnostics,
      declare_diagnostics] at h
    rcases List.mem_append.mp h with hold | hnew
    · exact hsettle hold
    · -- The heads are looked at only in the text itself, and not in a module.
      rcases List.mem_append.mp hnew with hmalformed | hhead
      · exact Or.inr (.malformed hmalformed)
      · split at hhead
        · exact Or.inr (.head hhead)
        · exact (List.not_mem_nil hhead).elim

theorem mem_readLines_diagnostics (lines : List Line) (d : Draft State)
    (h : found ∈ (lines.foldl (readLine search disk load origin) d).diagnostics) :
    found ∈ d.diagnostics ∨ ∃ line ∈ lines, line.Gives search found := by
  induction lines generalizing d with
  | nil => exact Or.inl h
  | cons line lines ih =>
    rcases ih _ h with hnext | ⟨later, hlater, hgives⟩
    · rcases mem_readLine_diagnostics search disk load origin hnext with hold | hnew
      · exact Or.inl hold
      · exact Or.inr ⟨line, List.mem_cons_self, hnew⟩
    · exact Or.inr ⟨later, List.mem_cons_of_mem _ hlater, hgives⟩

end Draft

theorem Outline.gives_of_mem_diagnostics {State : Type} {search : ModuleSearch} {disk : Disk}
    {load : Path → State → ModuleReply × State} {origin : Origin} {lines : List Line}
    {state : State} {found : Diagnostic} (hlines : Line.Numbered lines)
    (h : found ∈ (Outline.ofLines search disk load origin lines state).1.diagnostics) :
    ∃ line ∈ lines, line.Gives search found := by
  rw [Outline.ofLines, Draft.finish_diagnostics,
    hlines.unclosedDiagnostics_readLines search disk load origin state] at h
  rcases List.mem_append.mp h with hread | hbrace
  · rcases Draft.mem_readLines_diagnostics search disk load origin lines _ hread with
      hnone | hgives
    · exact (List.not_mem_nil hnone).elim
    · exact hgives
  · obtain ⟨line, hline, rfl⟩ := List.mem_map.mp hbrace
    exact ⟨line, (List.mem_filter.mp hline).1, .unclosed⟩

end ScriptLint
