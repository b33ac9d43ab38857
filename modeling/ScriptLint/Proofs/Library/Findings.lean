import ScriptLint.Proofs.Analysis.Checks
import ScriptLint.Proofs.Module.Order
import ScriptLint.Proofs.Outline.Found

/-! What each line adds to the findings of an outline. Whether a finding comes from a library is
written down in it: what is said of the text itself never claims to, and what is said of a module
that cannot be read or that has findings of its own always does. Modules are only told of errors. -/
namespace ScriptLint

namespace Diagnostic

@[simp] theorem atOffset_severity (code : DiagnosticCode) (message : String)
    (fallback : Option String) (line : Line) (offset length : Int) :
    (atOffset code message fallback line offset length).severity = .error := by
  unfold atOffset
  cases line.column? offset <;> rfl

/-- All findings are about the text itself. -/
def AllOwn (found : List Diagnostic) : Prop :=
  ∀ d ∈ found, d.source = ownSource

theorem AllOwn.filter_library {found : List Diagnostic} (h : AllOwn found) :
    found.filter (·.source = librarySource) = [] := by
  apply List.filter_eq_nil_iff.mpr
  intro d hd
  rw [h d hd]
  decide

end Diagnostic

open Diagnostic

theorem AllOf.allOwn {check : Check} {found : List Diagnostic} (h : AllOf check found) :
    AllOwn found :=
  fun d hd => (h d hd).source

theorem References.allOwn_diagnostics (t : SymbolTable) (lines : List Line) :
    AllOwn (diagnostics lines t) := by
  refine List.forall_mem_append.mpr ⟨List.forall_mem_append.mpr ⟨?_, ?_⟩, ?_⟩
  · exact (allOf_macros t _).allOwn
  · exact (allOf_words t _ _).allOwn
  · exact (allOf_calls t _).allOwn

theorem Line.Gives.source_eq {search : ModuleSearch} {d : Diagnostic} {line : Line}
    (h : line.Gives search d) (hsource : d.source ≠ librarySource) : d.source = ownSource := by
  cases h with
  | malformed h => exact (allOf_malformedDiagnostics line _ d h).source
  | head h => exact (allOf_headDiagnostics line _ d h).source
  | unreadable | library => exact absurd rfl hsource
  | unresolved | missing => exact Diagnostic.atOffset_source ..
  | excess | unclosed => rfl

namespace ModuleReply

variable (reply : ModuleReply) (line : Line) (path : Text.Token) (r : Resolution)

/-- What is said of the library on an include line that gets the answer. -/
def library : List Diagnostic :=
  match reply with
  | .outline o => o.diagnostics.map (libraryDiagnostic line path r.file.toText)
  | .unreadable e => [unreadableModule line path r.file.toText e]
  | .inProgress => []

/-- Besides that, the line may be told that the module lacks what it asks for. -/
theorem findings_eq_library_or :
    reply.findings line path r = reply.library line path r ∨
      ∃ selection, reply.findings line path r =
        reply.library line path r ++ [missingSymbol line path r selection] := by
  cases reply with
  | unreadable e => exact .inl rfl
  | inProgress => exact .inl rfl
  | outline o =>
    have htake : (ModuleReply.outline o).findings line path r =
        (({ state := () } : Draft Unit).takeOver line path r o).diagnostics := rfl
    rw [htake, Draft.takeOver]
    cases r.selection with
    | none => exact .inl rfl
    | some selection =>
      dsimp only
      cases o.table.select? r.file.toText selection with
      | none => exact .inr ⟨selection, rfl⟩
      | some given => exact .inl rfl

/-- Whatever it is, it is reported at the path of the include line. -/
theorem exists_of_mem_library {d : Diagnostic} (h : d ∈ reply.library line path r) :
    ∃ code message, d =
      { atOffset code message none line path.offset path.text.length with
        source := librarySource } := by
  cases reply with
  | outline o =>
    obtain ⟨inner, -, rfl⟩ := List.mem_map.mp h
    exact ⟨_, _, rfl⟩
  | unreadable e => exact ⟨_, _, List.mem_singleton.mp h⟩
  | inProgress => exact (List.not_mem_nil h).elim

theorem source_of_mem_library {d : Diagnostic} (h : d ∈ reply.library line path r) :
    d.source = librarySource := by
  obtain ⟨_, _, rfl⟩ := reply.exists_of_mem_library line path r h
  rfl

theorem severity_of_mem_library {d : Diagnostic} (h : d ∈ reply.library line path r) :
    d.severity = .error := by
  obtain ⟨_, _, rfl⟩ := reply.exists_of_mem_library line path r h
  exact atOffset_severity ..

theorem filter_findings :
    (reply.findings line path r).filter (·.source = librarySource) =
      reply.library line path r := by
  have hlibrary : (reply.library line path r).filter (·.source = librarySource) =
      reply.library line path r := by
    apply List.filter_eq_self.mpr
    intro d hd
    exact decide_eq_true (source_of_mem_library reply line path r hd)
  rcases reply.findings_eq_library_or line path r with heq | ⟨selection, heq⟩
  · rw [heq, hlibrary]
  · have hmissing : AllOwn [missingSymbol line path r selection] :=
      List.forall_mem_singleton.mpr (atOffset_source ..)
    rw [heq, List.filter_append, hlibrary, hmissing.filter_library, List.append_nil]

theorem severity_of_mem_findings {d : Diagnostic} (h : d ∈ reply.findings line path r) :
    d.severity = .error := by
  rcases reply.findings_eq_library_or line path r with heq | ⟨selection, heq⟩
  · rw [heq] at h
    exact reply.severity_of_mem_library line path r h
  · rw [heq] at h
    rcases List.mem_append.mp h with h | h
    · exact reply.severity_of_mem_library line path r h
    · rw [List.mem_singleton.mp h]
      exact atOffset_severity ..

end ModuleReply

namespace Draft

variable {State : Type} (search : ModuleSearch) (disk : Disk)
  (load : Path → State → ModuleReply × State) (origin : Origin) (d : Draft State) (line : Line)

/-- What a line that says something adds to the findings, apart from its braces. -/
def statementFindings : Statement → List Diagnostic
  | .inclusion path =>
    match search.resolve? disk origin.directory path.text with
    | none => [unresolvedInclude search line path]
    | some r => (load r.file d.state).1.findings line path r
  | statement =>
    malformedDiagnostics line statement ++
      if origin.isRoot then headDiagnostics line statement else []

/-- What a line adds to the findings. -/
def findings : List Diagnostic :=
  if line.isBlank then []
  else
    (if (matchBraces d.unclosed line).2 then [excessBrace line] else []) ++
      d.statementFindings search disk load origin line (Statement.ofText line.code)

theorem statementFindings_of_ne_inclusion {statement : Statement}
    (h : ∀ path, statement ≠ .inclusion path) :
    d.statementFindings search disk load origin line statement =
      malformedDiagnostics line statement ++
        if origin.isRoot then headDiagnostics line statement else [] := by
  cases statement with
  | inclusion path => exact absurd rfl (h path)
  | _ => rfl

theorem readLine_diagnostics :
    (d.readLine search disk load origin line).diagnostics =
      d.diagnostics ++ d.findings search disk load origin line := by
  unfold findings
  rcases line.isBlank_or_inclusion_or with hb | ⟨hb, ⟨path, hs⟩ | hs⟩
  · rw [readLine_of_isBlank d search disk load origin hb, if_pos hb, List.append_nil]
  · rw [readLine_of_inclusion d search disk load origin hb hs, hs, statementFindings,
      if_neg (ne_true_of_eq_false hb)]
    cases hr : search.resolve? disk origin.directory path.text with
    | none =>
      rw [followInclude_of_eq_none _ search disk load hr, report_diagnostics, settle_diagnostics,
        List.append_assoc]
    | some r =>
      rw [followInclude_of_eq_some _ search disk load hr, takeReply_diagnostics, settle_state]
      change (d.settle origin.file line).diagnostics ++ _ = _
      rw [settle_diagnostics, List.append_assoc]
  · rw [readLine_of_ne_inclusion d search disk load origin hb hs, if_neg (ne_true_of_eq_false hb),
      statementFindings_of_ne_inclusion search disk load origin d line hs, report_diagnostics,
      declare_diagnostics, settle_diagnostics, List.append_assoc]

theorem allOwn_brace (unclosed : List Int) :
    AllOwn (if (matchBraces unclosed line).2 then [excessBrace line] else []) :=
  forall_mem_ite (List.forall_mem_singleton.mpr rfl) (List.forall_mem_nil _)

theorem allOwn_findings (h : line.resolution? search disk origin.directory = none) :
    AllOwn (d.findings search disk load origin line) := by
  have hstatement : line.isBlank = false → AllOwn
      (d.statementFindings search disk load origin line (Statement.ofText line.code)) := by
    intro hb
    by_cases hs : ∃ path, Statement.ofText line.code = .inclusion path
    · obtain ⟨path, hs⟩ := hs
      rw [Line.resolution?_of_inclusion search disk hb hs] at h
      simp only [hs, statementFindings, h]
      exact List.forall_mem_singleton.mpr (atOffset_source ..)
    · rw [statementFindings_of_ne_inclusion _ _ _ _ _ _ fun path hp => hs ⟨path, hp⟩]
      exact List.forall_mem_append.mpr ⟨(allOf_malformedDiagnostics line _).allOwn,
        forall_mem_ite (allOf_headDiagnostics line _).allOwn (List.forall_mem_nil _)⟩
  unfold findings
  split
  · exact List.forall_mem_nil _
  · next hb =>
    exact List.forall_mem_append.mpr ⟨allOwn_brace line _, hstatement (Bool.not_eq_true _ ▸ hb)⟩

/-- A line that asks for a module says of libraries what the answer does. -/
theorem filter_findings_of_inclusion {path : Text.Token} {r : Resolution}
    (hb : line.isBlank = false) (hs : Statement.ofText line.code = .inclusion path)
    (hr : search.resolve? disk origin.directory path.text = some r) :
    (d.findings search disk load origin line).filter (·.source = librarySource) =
      (load r.file d.state).1.library line path r := by
  rw [findings, if_neg (ne_true_of_eq_false hb), hs, List.filter_append,
    (allOwn_brace line _).filter_library, List.nil_append]
  simp only [statementFindings, hr]
  exact ModuleReply.filter_findings _ _ _ _

/-- In a module the heads are not looked at, and nothing else is a mere warning or a hint. -/
theorem severity_of_mem_findings (hmodule : origin.isRoot = false) {found : Diagnostic}
    (h : found ∈ d.findings search disk load origin line) : found.severity = .error := by
  unfold findings at h
  split at h
  · exact (List.not_mem_nil h).elim
  rcases List.mem_append.mp h with hbrace | h
  · split at hbrace
    · rw [List.mem_singleton.mp hbrace]
      rfl
    · exact (List.not_mem_nil hbrace).elim
  cases hs : Statement.ofText line.code with
  | inclusion path =>
    rw [hs, statementFindings] at h
    split at h
    · rw [List.mem_singleton.mp h]
      exact atOffset_severity ..
    · exact ModuleReply.severity_of_mem_findings _ _ _ _ h
  | malformed kind =>
    rw [hs, statementFindings_of_ne_inclusion _ _ _ _ _ _ (by simp), hmodule] at h
    rw [List.mem_singleton.mp h]
    rfl
  | _ =>
    rw [hs, statementFindings_of_ne_inclusion _ _ _ _ _ _ (by simp), hmodule] at h
    exact (List.not_mem_nil h).elim

end Draft

section Outlines

variable {State : Type} {search : ModuleSearch} {disk : Disk}
  {load : Path → State → ModuleReply × State} {origin : Origin}

/-- What holds of all that lines add, and of open braces, holds of all that is found in an outline.
The lines are read in states that have a property which is kept whenever a module is asked for. -/
theorem Outline.forall_mem_ofLines {P : State → Prop} {Q : Diagnostic → Prop}
    (hkeep : ∀ path state, P state → P (load path state).2)
    (hline : ∀ (d : Draft State) line, P d.state →
      ∀ found ∈ d.findings search disk load origin line, Q found)
    (hbrace : ∀ line n, Q { unclosedBrace line with line := n }) (lines : List Line) {state : State}
    (h : P state) :
    ∀ found ∈ (Outline.ofLines search disk load origin lines state).1.diagnostics, Q found := by
  have hread : ∀ (lines : List Line) (d : Draft State), P d.state →
      (∀ found ∈ d.diagnostics, Q found) →
      ∀ found ∈ (lines.foldl (Draft.readLine search disk load origin) d).diagnostics, Q found := by
    intro lines
    induction lines with
    | nil => exact fun _ _ hfound => hfound
    | cons line lines ih =>
      intro d hd hfound
      apply ih
      · rw [Draft.readLine_state]
        cases line.resolution? search disk origin.directory with
        | none => exact hd
        | some r => exact hkeep r.file d.state hd
      · rw [Draft.readLine_diagnostics]
        exact List.forall_mem_append.mpr ⟨hfound, hline d line hd⟩
  rw [Outline.ofLines, Draft.finish_diagnostics]
  refine List.forall_mem_append.mpr ⟨hread lines _ h (List.forall_mem_nil _), ?_⟩
  intro found hfound
  obtain ⟨line, -, n, -, rfl⟩ := exists_of_mem_unclosedDiagnostics hfound
  exact hbrace line n

/-- Whatever answers for its modules, a module that is drawn up has errors as its only findings. -/
theorem Outline.severity_of_mem_ofLines (hmodule : origin.isRoot = false) (lines : List Line)
    (state : State) :
    ∀ found ∈ (Outline.ofLines search disk load origin lines state).1.diagnostics,
      found.severity = .error :=
  Outline.forall_mem_ofLines (P := fun _ => True) (Q := fun found => found.severity = .error)
    (fun _ _ _ => trivial)
    (fun d line _ _ => Draft.severity_of_mem_findings search disk load origin d line hmodule)
    (fun _ _ => rfl) lines trivial

end Outlines

end ScriptLint
