import Mathlib.Data.List.Basic
import ScriptLint.Proofs.Listing.Lines
import ScriptLint.Proofs.Outline.Declared
import ScriptLint.Proofs.Outline.Inclusions
import ScriptLint.Proofs.Placement.Analysis
import ScriptLint.Proofs.Renumber.Table

/-! Drawing up a text whose lines have other numbers. The numbers are put into declarations,
includes and findings, and they are how open braces are known; nothing is decided by them but
whether two braces stand on one line. So the outline is that of the text with its own numbers,
renumbered, and the same modules are asked for. -/
namespace ScriptLint

/-- The function, on the line with the new number if it is one of the file. -/
def FunctionDecl.renumberIn (ρ : Int → Int) (file : Option String) (f : FunctionDecl) :
    FunctionDecl :=
  if f.file = file then f.renumber ρ else f

/-- The finding on the line with the new number. A function of the file that it carries has moved
with its line. -/
def Diagnostic.renumber (ρ : Int → Int) (file : Option String) (d : Diagnostic) : Diagnostic :=
  { d with
    line := ρ d.line
    function := d.function.map (·.renumberIn ρ file) }

/-- The class that is open on lines with new numbers. -/
def OpenClass.renumber (ρ : Int → Int) (c : OpenClass) : OpenClass :=
  { c with
    line := ρ c.line
    body := c.body.renumber ρ }

/-- The draft of lines with new numbers. -/
def Draft.renumber {State : Type} (ρ : Int → Int) (file : Option String) (d : Draft State) :
    Draft State where
  unclosed := d.unclosed.map ρ
  openClasses := d.openClasses.map (·.renumber ρ)
  body := d.body.renumber ρ
  includes := d.includes.map (·.renumber ρ)
  imports := d.imports
  diagnostics := d.diagnostics.map (·.renumber ρ file)
  state := d.state

variable (ρ : Int → Int) (file : Option String)

namespace Diagnostic

variable (line : Line)

theorem renumber_atOffset (code : DiagnosticCode) (message : String) (fallback : Option String)
    (offset length : Int) :
    (atOffset code message fallback line offset length).renumber ρ file =
      atOffset code message fallback (line.renumber ρ) offset length := by
  have hcolumn : (line.renumber ρ).column? offset = line.column? offset := rfl
  unfold atOffset
  rw [hcolumn]
  cases line.column? offset <;> rfl

theorem renumber_atOffset_withSource (source : String) (code : DiagnosticCode) (message : String)
    (fallback : Option String) (offset length : Int) :
    { atOffset code message fallback line offset length with source := source }.renumber ρ file =
      { atOffset code message fallback (line.renumber ρ) offset length with source := source } :=
  congrArg (fun d : Diagnostic => { d with source := source })
    (renumber_atOffset ρ file line code message fallback offset length)

theorem renumber_atOffset_withSeverity (severity : Severity) (code : DiagnosticCode)
    (message : String) (fallback : Option String) (offset length : Int) :
    { atOffset code message fallback line offset length with
      severity := severity }.renumber ρ file =
      { atOffset code message fallback (line.renumber ρ) offset length with
        severity := severity } :=
  congrArg (fun d : Diagnostic => { d with severity := severity })
    (renumber_atOffset ρ file line code message fallback offset length)

end Diagnostic

theorem renumber_headDiagnostics (line : Line) (statement : Statement) :
    (headDiagnostics line statement).map (·.renumber ρ file) =
      headDiagnostics (line.renumber ρ) statement := by
  cases statement with
  | classHead name =>
    change List.map _ (if line.trimmed.getLast? = some '\x7b' ∨ isOneLiner line.code then []
      else _) = if line.trimmed.getLast? = some '\x7b' ∨ isOneLiner line.code then [] else _
    split <;> rfl
  | functionHead head =>
    have haccess : (head.access.map (misusedModifier line)).toList.map (·.renumber ρ file) =
        (head.access.map (misusedModifier (line.renumber ρ))).toList := by
      cases head.access with
      | none => rfl
      | some modifier =>
        exact congrArg (fun d => [d])
          (Diagnostic.renumber_atOffset_withSeverity ρ file line _ _ _ _ _ _)
    unfold headDiagnostics
    rw [List.map_append, haccess]
    refine congrArg _ ?_
    change List.map _ (if opensBrace line.code then [] else _) =
      if opensBrace line.code then [] else _
    split <;> rfl
  | macroHead name params =>
    change List.map _ (if opensBrace line.code then [] else _) =
      if opensBrace line.code then [] else _
    split <;> rfl
  | conditional =>
    change List.map _ (if opensBrace line.code then [] else _) =
      if opensBrace line.code then [] else _
    split <;> rfl
  | _ => rfl

theorem renumber_malformedDiagnostics (line : Line) (statement : Statement) :
    (malformedDiagnostics line statement).map (·.renumber ρ file) =
      malformedDiagnostics (line.renumber ρ) statement := by
  cases statement <;> rfl

theorem matchBraces_renumber (unclosed : List Int) (line : Line) :
    matchBraces (unclosed.map ρ) (line.renumber ρ) =
      ((matchBraces unclosed line).1.map ρ, (matchBraces unclosed line).2) := by
  have hstep : ∀ (known : List Int × Bool) (c : Char),
      matchBrace (ρ line.number) (known.1.map ρ, known.2) c =
        ((matchBrace line.number known c).1.map ρ, (matchBrace line.number known c).2) := by
    rintro ⟨unclosed, excess⟩ c
    by_cases hopen : c = '\x7b'
    · subst hopen
      rfl
    · by_cases hclose : c = '\x7d'
      · subst hclose
        cases unclosed <;> rfl
      · rw [matchBrace_of_ne hopen hclose, matchBrace_of_ne hopen hclose]
  have hfold : ∀ (text : List Char) (known : List Int × Bool),
      text.foldl (matchBrace (ρ line.number)) (known.1.map ρ, known.2) =
        ((text.foldl (matchBrace line.number) known).1.map ρ,
          (text.foldl (matchBrace line.number) known).2) := by
    intro text
    induction text with
    | nil => exact fun _ => rfl
    | cons c cs ih =>
      intro known
      rw [List.foldl_cons, List.foldl_cons, hstep, ih]
  exact hfold (Literal.mask line.code) (unclosed, false)

theorem Statement.renumber_addTo (owner origin : Option String) (line : Int)
    (statement : Statement) (b : Body ClassDecl) :
    (statement.addTo owner origin line b).renumber ρ =
      statement.addTo owner origin (ρ line) (b.renumber ρ) := by
  cases statement with
  | classHead name =>
    have hclass : (⟨name.text, line, origin, {}⟩ : ClassDecl).renumber ρ =
        ⟨name.text, ρ line, origin, {}⟩ := by
      rw [ClassDecl.renumber_eq]
      rfl
    change (b.addClass ⟨name.text, line, origin, {}⟩).renumber ρ =
      (b.renumber ρ).addClass ⟨name.text, ρ line, origin, {}⟩
    rw [Body.renumber_addClass, hclass]
  | functionHead head => exact Body.renumber_addFunction ρ b _
  | macroHead name params => exact Body.renumber_addMacro ρ b _
  | variableDecl access name type => exact Body.renumber_addVariable ρ b _
  | _ => rfl

theorem OpenClass.renumber_close (origin : Option String) (inner : Option ClassDecl)
    (c : OpenClass) :
    (c.close origin inner).renumber ρ =
      (c.renumber ρ).close origin (inner.map (·.renumber ρ)) := by
  unfold close
  rw [ClassDecl.renumber_eq]
  cases inner with
  | none => rfl
  | some inner => exact congrArg _ (Body.renumber_addClass ρ c.body inner)

theorem OpenClass.closeAll?_renumber (origin : Option String) (classes : List OpenClass) :
    closeAll? origin (classes.map (·.renumber ρ)) =
      (closeAll? origin classes).map (·.renumber ρ) := by
  have hfold : ∀ (classes : List OpenClass) (inner : Option ClassDecl),
      (classes.map (·.renumber ρ)).foldl (fun inner c => some (c.close origin inner))
          (inner.map (·.renumber ρ)) =
        (classes.foldl (fun inner c => some (c.close origin inner)) inner).map
          (·.renumber ρ) := by
    intro classes
    induction classes with
    | nil => exact fun _ => rfl
    | cons c cs ih =>
      intro inner
      rw [List.map_cons, List.foldl_cons, List.foldl_cons, ← ih, Option.map_some,
        OpenClass.renumber_close]
  exact hfold classes none

namespace Draft

variable {State : Type} (d : Draft State) (origin : Option String)

theorem renumber_report (found : List Diagnostic) :
    (d.report found).renumber ρ file =
      (d.renumber ρ file).report (found.map (·.renumber ρ file)) := by
  simp only [renumber, report, List.map_append]

theorem renumber_modifyBody {f g : Body ClassDecl → Body ClassDecl}
    (h : ∀ b, (f b).renumber ρ = g (b.renumber ρ)) :
    (d.modifyBody f).renumber ρ file = (d.renumber ρ file).modifyBody g := by
  obtain ⟨_, _ | ⟨c, cs⟩, _, _, _, _, _⟩ := d
  · simp [modifyBody, renumber, h]
  · simp [modifyBody, renumber, OpenClass.renumber, h]

theorem renumber_closeBelow (depth : Nat) :
    (d.closeBelow origin depth).renumber ρ file =
      (d.renumber ρ file).closeBelow origin depth := by
  have htake : (d.openClasses.map (·.renumber ρ)).takeWhile (depth < ·.depth) =
      (d.openClasses.takeWhile (depth < ·.depth)).map (·.renumber ρ) := List.takeWhile_map ..
  have hdrop : (d.openClasses.map (·.renumber ρ)).dropWhile (depth < ·.depth) =
      (d.openClasses.dropWhile (depth < ·.depth)).map (·.renumber ρ) := List.dropWhile_map ..
  have hclosed : OpenClass.closeAll? origin
      ((d.openClasses.takeWhile (depth < ·.depth)).map (·.renumber ρ)) =
      (OpenClass.closeAll? origin (d.openClasses.takeWhile (depth < ·.depth))).map
        (·.renumber ρ) := OpenClass.closeAll?_renumber ..
  unfold closeBelow
  dsimp only [renumber]
  rw [htake, hdrop, hclosed]
  cases OpenClass.closeAll? origin (d.openClasses.takeWhile (depth < ·.depth)) with
  | none => rfl
  | some c =>
    exact renumber_modifyBody ρ file { d with openClasses := d.openClasses.dropWhile _ }
      fun b => Body.renumber_addClass ρ b c

theorem renumber_settle (line : Line) :
    (d.settle origin line).renumber ρ file =
      (d.renumber ρ file).settle origin (line.renumber ρ) := by
  have hbraces : matchBraces (d.renumber ρ file).unclosed (line.renumber ρ) = _ :=
    matchBraces_renumber ρ d.unclosed line
  have hexcess : (if (matchBraces d.unclosed line).2 then [excessBrace line] else []).map
      (·.renumber ρ file) =
      if (matchBraces d.unclosed line).2 then [excessBrace (line.renumber ρ)] else [] := by
    split <;> rfl
  unfold settle
  dsimp only
  rw [renumber_report, renumber_closeBelow, hexcess, hbraces, List.length_map]
  rfl

theorem renumber_declare (before : Nat) (line : Int) (statement : Statement) :
    (d.declare origin before line statement).renumber ρ file =
      (d.renumber ρ file).declare origin before (ρ line) statement := by
  have hlength : (d.renumber ρ file).unclosed.length = d.unclosed.length := List.length_map ..
  have howner : (d.renumber ρ file).owner? = d.owner? := by
    unfold owner? renumber
    cases d.openClasses <;> rfl
  by_cases h : ∃ name, statement = .classHead name ∧ before < d.unclosed.length
  · obtain ⟨name, rfl, hlt⟩ := h
    rw [declare_of_opens d origin hlt, declare_of_opens _ origin (hlength.symm ▸ hlt), hlength]
    rfl
  · have hnot : ∀ name, statement = .classHead name → ¬before < d.unclosed.length :=
      fun name hname hlt => h ⟨name, hname, hlt⟩
    rw [declare_of_not_opens d origin hnot, declare_of_not_opens _ origin (hlength.symm ▸ hnot),
      howner]
    exact renumber_modifyBody ρ file d fun b => Statement.renumber_addTo ρ _ origin line statement b

theorem renumber_takeReply (line : Line) (path : Text.Token) (r : Resolution)
    (reply : ModuleReply) :
    (d.takeReply line path r reply).renumber ρ file =
      (d.renumber ρ file).takeReply (line.renumber ρ) path r reply := by
  have hat := Diagnostic.renumber_atOffset ρ file line
  have hsource := Diagnostic.renumber_atOffset_withSource ρ file line librarySource
  cases reply with
  | inProgress => rfl
  | unreadable e => exact congrArg (fun x => (d.renumber ρ file).report [x]) (hsource ..)
      |> (renumber_report ρ file d [unreadableModule line path r.file.toText e]).trans
  | outline o =>
    have hlibrary : (o.diagnostics.map (libraryDiagnostic line path r.file.toText)).map
        (·.renumber ρ file) =
        o.diagnostics.map (libraryDiagnostic (line.renumber ρ) path r.file.toText) := by
      rw [List.map_map]
      exact List.map_congr_left fun found _ => hsource ..
    have htold := renumber_report ρ file d
      (o.diagnostics.map (libraryDiagnostic line path r.file.toText))
    rw [hlibrary] at htold
    have hmerged : ∀ more : Imports,
        { d.report (o.diagnostics.map (libraryDiagnostic line path r.file.toText)) with
          imports := d.imports.merge more }.renumber ρ file =
        { (d.renumber ρ file).report
            (o.diagnostics.map (libraryDiagnostic (line.renumber ρ) path r.file.toText)) with
          imports := d.imports.merge more } :=
      fun more => congrArg (fun x : Draft State => { x with imports := d.imports.merge more }) htold
    change (d.takeOver line path r o).renumber ρ file =
      (d.renumber ρ file).takeOver (line.renumber ρ) path r o
    unfold takeOver
    cases r.selection with
    | none => exact hmerged _
    | some selection =>
      dsimp only
      cases o.table.select? r.file.toText selection with
      | some given => exact hmerged given
      | none =>
        dsimp only
        rw [renumber_report, htold]
        exact congrArg (fun x => Draft.report _ [x]) (hat ..)

section Reading

variable (search : ModuleSearch) (disk : Disk) (load : Path → State → ModuleReply × State)
  (directory : String)

theorem renumber_followInclude (line : Line) (path : Text.Token) :
    (d.followInclude search disk load directory line path).renumber ρ file =
      (d.renumber ρ file).followInclude search disk load directory (line.renumber ρ) path := by
  cases hr : search.resolve? disk directory path.text with
  | none =>
    rw [followInclude_of_eq_none d search disk load hr,
      followInclude_of_eq_none _ search disk load hr, renumber_report]
    exact congrArg (fun x => Draft.report _ [x]) (Diagnostic.renumber_atOffset ρ file line ..)
  | some r =>
    rw [followInclude_of_eq_some d search disk load hr,
      followInclude_of_eq_some _ search disk load hr, renumber_takeReply]
    -- The include that is added has the new number.
    simp only [renumber, List.map_append, List.map_cons, List.map_nil]
    rfl

theorem renumber_readLine (root : Origin) (line : Line) :
    (d.readLine search disk load root line).renumber ρ file =
      (d.renumber ρ file).readLine search disk load root (line.renumber ρ) := by
  have hlength : (d.renumber ρ file).unclosed.length = d.unclosed.length := List.length_map ..
  rcases line.isBlank_or_inclusion_or with hb | ⟨hb, ⟨path, hs⟩ | hs⟩
  · have hblank : (line.renumber ρ).isBlank = true := hb
    rw [readLine_of_isBlank d search disk load root hb,
      readLine_of_isBlank _ search disk load root hblank]
  · have hblank : (line.renumber ρ).isBlank = false := hb
    have hread : Statement.ofText (line.renumber ρ).code = .inclusion path := hs
    rw [readLine_of_inclusion d search disk load root hb hs,
      readLine_of_inclusion _ search disk load root hblank hread, renumber_followInclude,
      renumber_settle]
  · have hblank : (line.renumber ρ).isBlank = false := hb
    have hread : ∀ path, Statement.ofText (line.renumber ρ).code ≠ .inclusion path := hs
    have hfound : (malformedDiagnostics line (Statement.ofText line.code) ++
        if root.isRoot then headDiagnostics line (Statement.ofText line.code) else []).map
          (·.renumber ρ file) =
        malformedDiagnostics (line.renumber ρ) (Statement.ofText line.code) ++
          if root.isRoot then headDiagnostics (line.renumber ρ) (Statement.ofText line.code)
          else [] := by
      rw [List.map_append, renumber_malformedDiagnostics]
      split
      · rw [renumber_headDiagnostics]
      · rfl
    rw [readLine_of_ne_inclusion d search disk load root hb hs,
      readLine_of_ne_inclusion _ search disk load root hblank hread, renumber_report,
      renumber_declare, renumber_settle, hfound, hlength]
    rfl

theorem renumber_readLines (root : Origin) (lines : List Line) :
    (lines.foldl (readLine search disk load root) d).renumber ρ file =
      (lines.map (·.renumber ρ)).foldl (readLine search disk load root) (d.renumber ρ file) := by
  induction lines generalizing d with
  | nil => rfl
  | cons line lines ih =>
    rw [List.map_cons, List.foldl_cons, List.foldl_cons, ih, renumber_readLine]

end Reading

end Draft

/-- The outline of lines with new numbers. -/
def Outline.renumber (o : Outline) : Outline where
  table := o.table.renumber ρ
  diagnostics := o.diagnostics.map (·.renumber ρ file)

variable {ρ}

theorem Draft.renumber_finish {State : Type} (d : Draft State) (root : Origin)
    {lines lines' : List Line}
    (h : unclosedDiagnostics lines' (d.renumber ρ file).unclosed =
      (unclosedDiagnostics lines d.unclosed).map (·.renumber ρ file)) :
    (d.renumber ρ file).finish root lines' =
      ((d.finish root lines).1.renumber ρ file, (d.finish root lines).2) := by
  unfold finish Outline.renumber SymbolTable.renumber
  dsimp only [renumber] at h ⊢
  rw [OpenClass.closeAll?_renumber]
  cases OpenClass.closeAll? root.file d.openClasses with
  | none =>
    dsimp only [Option.map_none]
    rw [h, List.map_append]
  | some c =>
    dsimp only [Option.map_some]
    rw [h, List.map_append, Body.renumber_addClass]

/-- On which lines a brace is open does not depend on what their numbers are. -/
theorem renumber_unclosedBraces (hρ : ρ.Injective) (lines : List Line) (unclosed : List Int) :
    ((lines.map (·.renumber ρ)).filter
        fun line => (unclosed.map ρ).contains line.number).map unclosedBrace =
      ((lines.filter fun line => unclosed.contains line.number).map unclosedBrace).map
        (·.renumber ρ file) := by
  rw [List.filter_map, List.map_map, List.map_map]
  refine congrArg₂ List.map rfl (List.filter_congr fun line _ => ?_)
  -- A brace is known by the number of its line.
  simp only [Function.comp_def, Line.renumber, List.contains_eq_mem, List.mem_map_of_injective hρ]

end ScriptLint
