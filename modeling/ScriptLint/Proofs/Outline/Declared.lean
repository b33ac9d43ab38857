import ScriptLint.Proofs.Outline.Steps

/-! What the lines of a text declare, apart from what their include lines bring in. The modules
behind the include lines, the findings and the kind of reading have no part in it. -/
namespace ScriptLint

namespace Draft

variable {State : Type}

/-- The part of a draft that declarations depend on. -/
def bare (d : Draft State) : Draft Unit where
  unclosed := d.unclosed
  openClasses := d.openClasses
  body := d.body
  state := ()

/-- Reads the braces and the declaration of one line. -/
def declareLine (file : Option String) (d : Draft Unit) (line : Line) : Draft Unit :=
  if line.isBlank then d
  else
    ((d.settle file line).declare file d.unclosed.length line.number
      (Statement.ofText line.code)).bare

/-- The top level when all open classes end. -/
def closedBody (file : Option String) (d : Draft State) : Body ClassDecl :=
  (OpenClass.closeAll? file d.openClasses).elim d.body d.body.addClass

variable (d : Draft State) (file : Option String)

@[simp] theorem bare_report (found : List Diagnostic) : (d.report found).bare = d.bare := rfl

theorem bare_modifyBody (f : Body ClassDecl → Body ClassDecl) :
    (d.modifyBody f).bare = d.bare.modifyBody f := by
  obtain ⟨_, _ | _, _, _, _, _, _⟩ := d <;> rfl

theorem bare_closeBelow (depth : Nat) :
    (d.closeBelow file depth).bare = d.bare.closeBelow file depth := by
  unfold closeBelow
  dsimp only [bare]
  split
  · rfl
  · exact bare_modifyBody _ _

theorem bare_settle (line : Line) :
    (d.settle file line).bare = (d.bare.settle file line).bare := by
  unfold settle
  simp only [bare_report, bare_closeBelow]
  rfl

theorem bare_declare (before : Nat) (line : Int) (statement : Statement) :
    (d.declare file before line statement).bare =
      (d.bare.declare file before line statement).bare := by
  by_cases h : ∃ name, statement = .classHead name ∧ before < d.unclosed.length
  · obtain ⟨name, rfl, hlt⟩ := h
    rw [declare_of_opens d file hlt, declare_of_opens d.bare file hlt]
    rfl
  · have hnot : ∀ name, statement = .classHead name → ¬before < d.unclosed.length :=
      fun name hname hlt => h ⟨name, hname, hlt⟩
    rw [declare_of_not_opens d file hnot, declare_of_not_opens d.bare file hnot, bare_modifyBody,
      bare_modifyBody]
    rfl

variable (search : ModuleSearch) (disk : Disk) (load : Path → State → ModuleReply × State)
  (origin : Origin)

theorem bare_takeOver (line : Line) (path : Text.Token) (r : Resolution) (o : Outline) :
    (d.takeOver line path r o).bare = d.bare := by
  unfold takeOver
  cases r.selection with
  | none => rfl
  | some selection =>
    dsimp only
    cases o.table.select? r.file.toText selection <;> rfl

theorem bare_followInclude (directory : String) (line : Line) (path : Text.Token) :
    (d.followInclude search disk load directory line path).bare = d.bare := by
  cases h : search.resolve? disk directory path.text with
  | none => rw [followInclude_of_eq_none d search disk load h, bare_report]
  | some r =>
    rw [followInclude_of_eq_some d search disk load h]
    cases (load r.file d.state).1 with
    | outline o => exact bare_takeOver _ _ _ _ _
    | _ => rfl

theorem bare_readLine (line : Line) :
    (d.readLine search disk load origin line).bare = d.bare.declareLine origin.file line := by
  rcases line.isBlank_or_inclusion_or with h | ⟨h, ⟨path, hs⟩ | hs⟩
  · simp [readLine_of_isBlank d search disk load origin h, declareLine, h]
  · -- An include line has braces to count, but declares nothing.
    rw [readLine_of_inclusion d search disk load origin h hs, bare_followInclude, bare_settle]
    simp [declareLine, h, hs, declare]
  · rw [readLine_of_ne_inclusion d search disk load origin h hs, bare_report, bare_declare,
      bare_settle, ← bare_declare]
    simp only [declareLine, h, Bool.false_eq_true, ↓reduceIte]
    rfl

theorem bare_readLines (lines : List Line) :
    (lines.foldl (readLine search disk load origin) d).bare =
      lines.foldl (declareLine origin.file) d.bare := by
  induction lines generalizing d with
  | nil => rfl
  | cons line lines ih => rw [List.foldl_cons, List.foldl_cons, ih, bare_readLine]

theorem finish_body (lines : List Line) :
    (d.finish origin lines).1.table.body = d.closedBody origin.file := by
  unfold finish closedBody
  cases OpenClass.closeAll? origin.file d.openClasses <;> rfl

end Draft

/-- What the lines of a text in the given file declare. -/
def declaredBody (file : Option String) (lines : List Line) : Body ClassDecl :=
  (lines.foldl (Draft.declareLine file) { state := () }).closedBody file

/-- An outline declares what its lines declare, wherever its modules come from. -/
theorem Outline.ofLines_body {State : Type} (search : ModuleSearch) (disk : Disk)
    (load : Path → State → ModuleReply × State) (origin : Origin) (lines : List Line)
    (state : State) :
    (Outline.ofLines search disk load origin lines state).1.table.body =
      declaredBody origin.file lines := by
  have h := Draft.bare_readLines { state := state } search disk load origin lines
  rw [ofLines, Draft.finish_body]
  exact congrArg (Draft.closedBody origin.file) h

end ScriptLint
