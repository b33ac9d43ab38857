import ScriptLint.Proofs.Library.Findings

/-! Which codes can be found while texts are drawn up. What is found in a module is passed on with
its code, so a property of all codes that the lines of a module can give holds of whatever a pass
knows of its modules. The codes of heads are not among them: heads are looked at in the text alone.
-/
namespace ScriptLint

/-- The codes of what is found in the heads of declarations and conditions. -/
def headCodes : List DiagnosticCode := [.missingBrace, .accessModifierMisuse]

/-- All findings have codes with the property. -/
def CodesWith (p : DiagnosticCode → Prop) (found : List Diagnostic) : Prop :=
  ∀ d ∈ found, p d.code

/-- The property holds of every code that a module can be found to have on its own lines. -/
structure HoldsOfModules (p : DiagnosticCode → Prop) : Prop where
  unresolved : p .unresolvedInclude
  missing : p .symbolNotFoundInInclude
  unreadable : p .fileAccessError
  malformed : p .malformedDeclaration
  braces : p .unbalancedBraces

theorem code_mem_headCodes (line : Line) (statement : Statement) :
    ∀ d ∈ headDiagnostics line statement, d.code ∈ headCodes := by
  have hbody : ∀ what, (missingBody what line).code ∈ headCodes := fun _ => List.mem_cons_self
  cases statement with
  | classHead name => exact forall_mem_of_unless (List.forall_mem_singleton.mpr List.mem_cons_self)
  | functionHead head =>
    refine List.forall_mem_append.mpr
      ⟨?_, forall_mem_of_unless (List.forall_mem_singleton.mpr (hbody _))⟩
    cases head.access with
    | none => exact List.forall_mem_nil _
    | some modifier =>
      have hcode : (misusedModifier line modifier).code = .accessModifierMisuse :=
        Diagnostic.atOffset_code ..
      exact List.forall_mem_singleton.mpr (hcode ▸ List.mem_cons_of_mem _ List.mem_cons_self)
  | macroHead _ _ => exact forall_mem_of_unless (List.forall_mem_singleton.mpr (hbody _))
  | conditional => exact forall_mem_of_unless (List.forall_mem_singleton.mpr (hbody _))
  | _ => exact List.forall_mem_nil _

theorem codesWith_malformedDiagnostics {p : DiagnosticCode → Prop} (h : p .malformedDeclaration)
    (line : Line) (statement : Statement) :
    CodesWith p (malformedDiagnostics line statement) := by
  cases statement with
  | malformed kind => exact List.forall_mem_singleton.mpr h
  | _ => exact List.forall_mem_nil _

variable {p : DiagnosticCode → Prop}

/-- An outline that is answered has only findings with codes of the property. -/
def ModuleReply.CodesWith (p : DiagnosticCode → Prop) (reply : ModuleReply) : Prop :=
  ∀ o, reply = .outline o → ScriptLint.CodesWith p o.diagnostics

theorem ModuleReply.codesWith_of_ne_outline {reply : ModuleReply} (h : ∀ o, reply ≠ .outline o) :
    reply.CodesWith p :=
  fun o ho => absurd ho (h o)

/-- What an include line is told has codes of the property. -/
theorem ModuleReply.CodesWith.findings {reply : ModuleReply} (h : reply.CodesWith p)
    (hp : HoldsOfModules p) (line : Line) (path : Text.Token) (r : Resolution) :
    ScriptLint.CodesWith p (reply.findings line path r) := by
  have hlibrary : ScriptLint.CodesWith p (reply.library line path r) := by
    cases reply with
    | outline o =>
      intro d hd
      obtain ⟨inner, hinner, rfl⟩ := List.mem_map.mp hd
      -- The finding is passed on with its code.
      have hcode : (libraryDiagnostic line path r.file.toText inner).code = inner.code :=
        Diagnostic.atOffset_code ..
      rw [hcode]
      exact h o rfl inner hinner
    | unreadable e =>
      have hcode : (unreadableModule line path r.file.toText e).code = .fileAccessError :=
        Diagnostic.atOffset_code ..
      exact List.forall_mem_singleton.mpr (hcode ▸ hp.unreadable)
    | inProgress => exact List.forall_mem_nil _
  rcases reply.findings_eq_library_or line path r with heq | ⟨selection, heq⟩
  · rw [heq]
    exact hlibrary
  · have hcode : (missingSymbol line path r selection).code = .symbolNotFoundInInclude :=
      Diagnostic.atOffset_code ..
    rw [heq]
    exact List.forall_mem_append.mpr
      ⟨hlibrary, List.forall_mem_singleton.mpr (hcode ▸ hp.missing)⟩

section Outlines

variable {State : Type} {search : ModuleSearch} {disk : Disk}
  {load : Path → State → ModuleReply × State} {origin : Origin}

theorem Draft.codesWith_findings {d : Draft State} (hp : HoldsOfModules p)
    (hroot : origin.isRoot = true → ∀ code ∈ headCodes, p code)
    (h : ∀ path, (load path d.state).1.CodesWith p) (line : Line) :
    CodesWith p (d.findings search disk load origin line) := by
  have hstatement : ∀ statement,
      CodesWith p (d.statementFindings search disk load origin line statement) := by
    intro statement
    cases statement with
    | inclusion path =>
      cases hr : search.resolve? disk origin.directory path.text with
      | none =>
        have hcode : (unresolvedInclude search line path).code = .unresolvedInclude :=
          Diagnostic.atOffset_code ..
        simp only [statementFindings, hr]
        exact List.forall_mem_singleton.mpr (hcode ▸ hp.unresolved)
      | some r =>
        simp only [statementFindings, hr]
        exact (h r.file).findings hp line path r
    | _ =>
      refine List.forall_mem_append.mpr ⟨codesWith_malformedDiagnostics hp.malformed line _, ?_⟩
      split
      · next hisRoot =>
        exact fun d hd => hroot hisRoot d.code (code_mem_headCodes line _ d hd)
      · exact List.forall_mem_nil _
  refine forall_mem_of_unless (List.forall_mem_append.mpr ⟨?_, hstatement _⟩)
  exact forall_mem_ite (List.forall_mem_singleton.mpr hp.braces) (List.forall_mem_nil _)

/-- Drawing up a text gives codes of the property, if the answers for its modules do. -/
theorem Outline.codesWith_ofLines (hp : HoldsOfModules p)
    (hroot : origin.isRoot = true → ∀ code ∈ headCodes, p code) {P : State → Prop}
    (h : ∀ path state, P state → P (load path state).2 ∧ (load path state).1.CodesWith p)
    (lines : List Line) {state : State} (hstart : P state) :
    CodesWith p (Outline.ofLines search disk load origin lines state).1.diagnostics := by
  refine Outline.forall_mem_ofLines (fun path state hstate => (h path state hstate).1) ?_
    (fun _ _ => hp.braces) lines hstart
  intro d line hd
  exact Draft.codesWith_findings hp hroot (fun path => (h path d.state hd).2) line

end Outlines

/-- All that a pass knows of finished modules has codes of the property. -/
def Pass.CodesWith (p : DiagnosticCode → Prop) (pass : Pass) : Prop :=
  ∀ entry ∈ pass.finished, ScriptLint.CodesWith p entry.2.diagnostics

namespace ModuleSource

variable (s : ModuleSource)

theorem codesWith_visit {pass : Pass} (h : pass.CodesWith p) (file : String) :
    (pass.visit file).CodesWith p := by
  intro entry hentry
  rw [Pass.visit_finished] at hentry
  exact h entry hentry

/-- A module that is not read anew is one that is known, or gives nothing. -/
theorem codesWith_answerBy {pass : Pass} (h : pass.CodesWith p)
    {read : List Line → Pass → ModuleReply × Pass}
    (hread : ∀ lines, (read lines pass).2.CodesWith p ∧ (read lines pass).1.CodesWith p)
    (path : Path) :
    (s.answerBy read path pass).2.CodesWith p ∧ (s.answerBy read path pass).1.CodesWith p := by
  unfold ModuleSource.answerBy
  cases hlookup : pass.finished.lookup path.toText with
  | some o =>
    refine ⟨h, ?_⟩
    rintro _ ⟨⟩
    exact h _ (Pass.mem_finished_of_lookup hlookup)
  | none =>
    dsimp only
    split
    · exact ⟨h, ModuleReply.codesWith_of_ne_outline (by simp)⟩
    · split
      · exact ⟨h, ModuleReply.codesWith_of_ne_outline (by simp)⟩
      · exact hread _

/-- Every answer keeps this and gives no more, by induction on how deep modules may be nested. -/
theorem codesWith_load (hp : HoldsOfModules p) {pass : Pass} (h : pass.CodesWith p) (depth : Nat)
    (path : Path) :
    (s.load depth path pass).2.CodesWith p ∧ (s.load depth path pass).1.CodesWith p := by
  induction depth generalizing path pass with
  | zero =>
    rw [load_zero]
    exact s.codesWith_answerBy h
      (fun _ => ⟨h, ModuleReply.codesWith_of_ne_outline (by simp)⟩) path
  | succ depth ih =>
    rw [load_add_one]
    refine s.codesWith_answerBy h (fun lines => ?_) path
    -- The module is drawn up with answers of less depth, and its heads are not looked at.
    have hmade : CodesWith p (s.outlineOf (s.load depth) false path lines pass).1.diagnostics :=
      Outline.codesWith_ofLines hp (by simp) (P := Pass.CodesWith p)
        (fun path' _ h' => ih h' path') lines (codesWith_visit h _)
    have hlast : (s.outlineOf (s.load depth) false path lines pass).2.CodesWith p :=
      Outline.ofLines_state_induction (P := Pass.CodesWith p) (fun path' _ h' => (ih h' path').1)
        (codesWith_visit h _)
    refine ⟨?_, ?_⟩
    · intro entry hentry
      rcases List.mem_append.mp hentry with hentry | hentry
      · exact hlast entry hentry
      · rw [List.mem_singleton.mp hentry]
        exact hmade
    · rintro _ ⟨⟩
      exact hmade

/-- An outline, and the pass behind it, have codes of the property if the pass before it has. Those
of heads are found in the text itself only. -/
theorem codesWith_outline (hp : HoldsOfModules p) {isRoot : Bool}
    (hroot : isRoot = true → ∀ code ∈ headCodes, p code) {pass : Pass} (h : pass.CodesWith p)
    (file : Option String) (lines : List Line) :
    CodesWith p (s.outline isRoot file lines pass).1.diagnostics ∧
      (s.outline isRoot file lines pass).2.CodesWith p := by
  have hstart : ((s.rootPath file).elim pass fun path => pass.visit path.toText).CodesWith p := by
    cases s.rootPath file with
    | none => exact h
    | some path => exact codesWith_visit h _
  rw [outline_eq]
  exact ⟨Outline.codesWith_ofLines hp hroot (P := Pass.CodesWith p)
      (fun path _ h' => s.codesWith_load hp h' s.depth path) lines hstart,
    Outline.ofLines_state_induction (P := Pass.CodesWith p)
      (fun path _ h' => (s.codesWith_load hp h' s.depth path).1) hstart⟩

end ModuleSource

end ScriptLint
