import ScriptLint.Proofs.Outline.Inclusions

/-! Two readings of the same lines whose modules come from different sources. As long as both
sources give the same answers, the two outlines are the same, whatever else the sources remember;
and what relates their states at the start relates them at the end. -/
namespace ScriptLint

namespace Draft

variable {State State' : Type}

/-- The draft with another state of the source of modules. -/
def withState (d : Draft State) (state : State') : Draft State' where
  unclosed := d.unclosed
  openClasses := d.openClasses
  body := d.body
  includes := d.includes
  imports := d.imports
  diagnostics := d.diagnostics
  state := state

variable (d : Draft State) (state : State') (file : Option String)

theorem withState_report (found : List Diagnostic) :
    (d.report found).withState state = (d.withState state).report found := rfl

theorem withState_modifyBody (f : Body ClassDecl → Body ClassDecl) :
    (d.modifyBody f).withState state = (d.withState state).modifyBody f := by
  obtain ⟨_, _ | _, _, _, _, _, _⟩ := d <;> rfl

theorem withState_closeBelow (depth : Nat) :
    (d.closeBelow file depth).withState state = (d.withState state).closeBelow file depth := by
  unfold closeBelow
  dsimp only [withState]
  split
  · rfl
  · exact withState_modifyBody _ _ _

theorem withState_settle (line : Line) :
    (d.settle file line).withState state = (d.withState state).settle file line := by
  unfold settle
  rw [withState_report, withState_closeBelow]
  rfl

theorem withState_declare (before : Nat) (line : Int) (statement : Statement) :
    (d.declare file before line statement).withState state =
      (d.withState state).declare file before line statement := by
  by_cases h : ∃ name, statement = .classHead name ∧ before < d.unclosed.length
  · obtain ⟨name, rfl, hlt⟩ := h
    rw [declare_of_opens d file hlt, declare_of_opens (d.withState state) file hlt]
    rfl
  · have hnot : ∀ name, statement = .classHead name → ¬before < d.unclosed.length :=
      fun name hname hlt => h ⟨name, hname, hlt⟩
    rw [declare_of_not_opens d file hnot, declare_of_not_opens (d.withState state) file hnot,
      withState_modifyBody]
    rfl

theorem withState_takeReply (line : Line) (path : Text.Token) (r : Resolution)
    (reply : ModuleReply) :
    (d.takeReply line path r reply).withState state =
      (d.withState state).takeReply line path r reply := by
  cases reply with
  | outline o =>
    change (d.takeOver line path r o).withState state = (d.withState state).takeOver line path r o
    unfold takeOver
    cases r.selection with
    | none => rfl
    | some selection =>
      dsimp only
      cases o.table.select? r.file.toText selection <;> rfl
  | _ => rfl

theorem withState_finish (origin : Origin) (lines : List Line) :
    (d.withState state).finish origin lines = ((d.finish origin lines).1, state) := by
  unfold finish
  dsimp only [withState]
  cases OpenClass.closeAll? origin.file d.openClasses <;> rfl

variable (search : ModuleSearch) (disk : Disk) (load : Path → State → ModuleReply × State)
  (load' : Path → State' → ModuleReply × State') (origin : Origin)

/-- Reading a line depends on the state only through the answer for the module of the line. -/
theorem withState_readLine (line : Line)
    (h : ∀ r ∈ line.resolution? search disk origin.directory,
      (load' r.file state).1 = (load r.file d.state).1) :
    (d.withState state).readLine search disk load' origin line =
      (d.readLine search disk load origin line).withState
        ((line.resolution? search disk origin.directory).elim state
          fun r => (load' r.file state).2) := by
  rcases line.isBlank_or_inclusion_or with hb | ⟨hb, ⟨path, hs⟩ | hs⟩
  · rw [readLine_of_isBlank _ search disk load' origin hb,
      readLine_of_isBlank d search disk load origin hb, Line.resolution?_of_isBlank search disk hb]
    rfl
  · rw [Line.resolution?_of_inclusion search disk hb hs] at h ⊢
    rw [readLine_of_inclusion _ search disk load' origin hb hs,
      readLine_of_inclusion d search disk load origin hb hs]
    cases hr : search.resolve? disk origin.directory path.text with
    | none =>
      rw [followInclude_of_eq_none _ search disk load' hr,
        followInclude_of_eq_none _ search disk load hr, withState_report, withState_settle]
      rfl
    | some r =>
      rw [followInclude_of_eq_some _ search disk load' hr,
        followInclude_of_eq_some _ search disk load hr, withState_takeReply, ← withState_settle,
        settle_state, ← h r hr]
      -- Apart from the states, the two drafts have the same inclusions added.
      rfl
  · rw [readLine_of_ne_inclusion _ search disk load' origin hb hs,
      readLine_of_ne_inclusion d search disk load origin hb hs,
      Line.resolution?_of_ne_inclusion search disk hs, withState_report, withState_declare,
      withState_settle]
    rfl

/-- Two sources that give the same answers, as long as their states are related, are in step with
each other over all lines. -/
theorem withState_readLines {R : State → State' → Prop} {lines : List Line}
    (hload : ∀ r ∈ resolutions search disk origin.directory lines, ∀ state state',
      R state state' → (load' r.file state').1 = (load r.file state).1 ∧
        R (load r.file state).2 (load' r.file state').2)
    (h : R d.state state) :
    ∃ state', R (lines.foldl (readLine search disk load origin) d).state state' ∧
      lines.foldl (readLine search disk load' origin) (d.withState state) =
        (lines.foldl (readLine search disk load origin) d).withState state' := by
  induction lines generalizing d state with
  | nil => exact ⟨state, h, rfl⟩
  | cons line lines ih =>
    have hmore : ∀ r ∈ resolutions search disk origin.directory lines, ∀ state state',
        R state state' → (load' r.file state').1 = (load r.file state).1 ∧
          R (load r.file state).2 (load' r.file state').2 := by
      intro r hr
      refine hload r (List.mem_filterMap.mpr ?_)
      obtain ⟨later, hlater, hsome⟩ := List.mem_filterMap.mp hr
      exact ⟨later, List.mem_cons_of_mem _ hlater, hsome⟩
    have hline : ∀ r ∈ line.resolution? search disk origin.directory,
        (load' r.file state).1 = (load r.file d.state).1 ∧
          R (load r.file d.state).2 (load' r.file state).2 := by
      intro r hr
      exact hload r (List.mem_filterMap.mpr ⟨line, List.mem_cons_self, hr⟩) _ _ h
    rw [List.foldl_cons, List.foldl_cons,
      withState_readLine d state search disk load load' origin line fun r hr => (hline r hr).1]
    refine ih _ _ hmore ?_
    rw [readLine_state]
    cases hr : line.resolution? search disk origin.directory with
    | none => exact h
    | some r => exact (hline r hr).2

variable {search disk load origin} in
/-- What holds of a state and is kept by each answer that the lines ask for holds behind them. -/
theorem readLines_keeps {P : State → Prop} {d : Draft State} {lines : List Line}
    (hload : ∀ r ∈ resolutions search disk origin.directory lines, ∀ state,
      P state → P (load r.file state).2)
    (h : P d.state) : P (lines.foldl (readLine search disk load origin) d).state := by
  have hboth : ∀ r ∈ resolutions search disk origin.directory lines, ∀ a b : State,
      (a = b ∧ P a) → (load r.file b).1 = (load r.file a).1 ∧
        ((load r.file a).2 = (load r.file b).2 ∧ P (load r.file a).2) := by
    rintro r hr a b ⟨rfl, ha⟩
    exact ⟨rfl, rfl, hload r hr a ha⟩
  obtain ⟨_, ⟨_, hlast⟩, _⟩ :=
    withState_readLines d d.state search disk load load origin hboth ⟨rfl, h⟩
  exact hlast

end Draft

/-- Outlines of the same lines with sources in step are the same. -/
theorem Outline.ofLines_lockstep {State State' : Type} {search : ModuleSearch} {disk : Disk}
    {load : Path → State → ModuleReply × State} {load' : Path → State' → ModuleReply × State'}
    {origin : Origin} {lines : List Line} {state : State} {state' : State'}
    (R : State → State' → Prop)
    (hload : ∀ r ∈ resolutions search disk origin.directory lines, ∀ state state',
      R state state' → (load' r.file state').1 = (load r.file state).1 ∧
        R (load r.file state).2 (load' r.file state').2)
    (h : R state state') :
    (Outline.ofLines search disk load' origin lines state').1 =
        (Outline.ofLines search disk load origin lines state).1 ∧
      R (Outline.ofLines search disk load origin lines state).2
        (Outline.ofLines search disk load' origin lines state').2 := by
  obtain ⟨last, hlast, hrun⟩ :=
    Draft.withState_readLines { state := state } state' search disk load load' origin hload h
  have hstart : ({ state := state } : Draft State).withState state' = { state := state' } := rfl
  rw [hstart] at hrun
  simp only [Outline.ofLines, hrun, Draft.withState_finish, Draft.finish_state]
  exact ⟨trivial, hlast⟩

end ScriptLint
