import ScriptLint.Proofs.Outline.Steps

/-! The modules that the include lines of a text name. What an outline brings in, and what is known
of the modules behind it, come from them alone: they are asked for one after the other, in the order
of the lines. -/
namespace ScriptLint

/-- The module and the part that a line asks for, if it is an include line whose path names one. -/
def Line.resolution? (search : ModuleSearch) (disk : Disk) (directory : String) (line : Line) :
    Option Resolution :=
  if line.isBlank then none
  else
    match Statement.ofText line.code with
    | .inclusion path => search.resolve? disk directory path.text
    | _ => none

/-- The modules and parts that lines ask for, in their order. -/
def resolutions (search : ModuleSearch) (disk : Disk) (directory : String) (lines : List Line) :
    List Resolution :=
  lines.filterMap (Line.resolution? search disk directory)

namespace Imports

/-- The imports with the part of an outline that is asked for, if it is there. -/
def take (i : Imports) (r : Resolution) (o : Outline) : Imports :=
  match r.selection with
  | none => i.merge (o.table.exports r.file.toText)
  | some selection => (o.table.select? r.file.toText selection).elim i i.merge

/-- The imports behind the answer for a module. -/
def takeReply (i : Imports) (r : Resolution) : ModuleReply → Imports
  | .outline o => i.take r o
  | .unreadable _ | .inProgress => i

/-- What is taken over is all that the module gives, or the part asked for if it is there. -/
theorem take_eq_or (i : Imports) (r : Resolution) (o : Outline) :
    i.take r o = i ∨ ∃ given, i.take r o = i.merge given ∧
      (given = o.table.exports r.file.toText ∨
        ∃ selection, o.table.select? r.file.toText selection = some given) := by
  unfold take
  cases r.selection with
  | none => exact Or.inr ⟨_, rfl, Or.inl rfl⟩
  | some selection =>
    cases hgiven : o.table.select? r.file.toText selection with
    | none => exact Or.inl (by simp [hgiven])
    | some given => exact Or.inr ⟨given, by simp [hgiven], Or.inr ⟨selection, hgiven⟩⟩

/-- An answer adds something to the imports or nothing. -/
theorem takeReply_eq_or (i : Imports) (r : Resolution) (reply : ModuleReply) :
    i.takeReply r reply = i ∨ ∃ more, i.takeReply r reply = i.merge more := by
  cases reply with
  | outline o =>
    rcases i.take_eq_or r o with heq | ⟨given, heq, -⟩
    · exact Or.inl heq
    · exact Or.inr ⟨given, heq⟩
  | _ => exact Or.inl rfl

/-- Asks for a module, and takes what is asked of it. -/
def bring {State : Type} (load : Path → State → ModuleReply × State)
    (known : Imports × State) (r : Resolution) : Imports × State :=
  (known.1.takeReply r (load r.file known.2).1, (load r.file known.2).2)

end Imports

section Reading

variable {State : Type} (search : ModuleSearch) (disk : Disk)
  (load : Path → State → ModuleReply × State) (origin : Origin)

theorem Line.resolution?_of_isBlank {directory : String} {line : Line}
    (h : line.isBlank = true) : line.resolution? search disk directory = none := by
  simp [resolution?, h]

theorem Line.resolution?_of_inclusion {directory : String} {line : Line} {path : Text.Token}
    (h : line.isBlank = false) (hs : Statement.ofText line.code = .inclusion path) :
    line.resolution? search disk directory = search.resolve? disk directory path.text := by
  simp [resolution?, h, hs]

theorem Line.resolution?_of_ne_inclusion {directory : String} {line : Line}
    (hs : ∀ path, Statement.ofText line.code ≠ .inclusion path) :
    line.resolution? search disk directory = none := by
  unfold resolution?
  split
  · rfl
  · split
    · next path hp => exact absurd hp (hs path)
    · rfl

variable {search disk} in
theorem Line.exists_of_resolution?_eq_some {directory : String} {line : Line} {r : Resolution}
    (h : line.resolution? search disk directory = some r) :
    ∃ path, line.isBlank = false ∧ Statement.ofText line.code = .inclusion path ∧
      search.resolve? disk directory path.text = some r := by
  rcases line.isBlank_or_inclusion_or with hb | ⟨hb, ⟨path, hs⟩ | hs⟩
  · rw [resolution?_of_isBlank search disk hb] at h
    cases h
  · rw [resolution?_of_inclusion search disk hb hs] at h
    exact ⟨path, hb, hs, h⟩
  · rw [resolution?_of_ne_inclusion search disk hs] at h
    cases h

namespace Draft

theorem takeOver_imports (d : Draft State) (line : Line) (path : Text.Token) (r : Resolution)
    (o : Outline) : (d.takeOver line path r o).imports = d.imports.take r o := by
  unfold takeOver Imports.take
  cases r.selection with
  | none => rfl
  | some selection => cases h : o.table.select? r.file.toText selection <;> simp [h]

theorem takeOver_state (d : Draft State) (line : Line) (path : Text.Token) (r : Resolution)
    (o : Outline) : (d.takeOver line path r o).state = d.state := by
  unfold takeOver
  cases r.selection with
  | none => rfl
  | some selection => cases h : o.table.select? r.file.toText selection <;> simp [h]

/-- Following an include line asks for the module that it names, if there is one. -/
theorem followInclude_imports_state (d : Draft State) (directory : String) (line : Line)
    (path : Text.Token) :
    let next := d.followInclude search disk load directory line path
    (next.imports, next.state) =
      (search.resolve? disk directory path.text).elim (d.imports, d.state)
        (Imports.bring load (d.imports, d.state)) := by
  cases h : search.resolve? disk directory path.text with
  | none => simp [followInclude_of_eq_none d search disk load h]
  | some r =>
    rw [followInclude_of_eq_some d search disk load h]
    cases hreply : (load r.file d.state).1 <;>
      simp [Imports.bring, Imports.takeReply, takeReply, hreply, takeOver_imports, takeOver_state]

/-- A line changes the imports and the state by what it asks of a module. -/
theorem readLine_imports_state (d : Draft State) (line : Line) :
    let next := d.readLine search disk load origin line
    (next.imports, next.state) =
      (line.resolution? search disk origin.directory).elim (d.imports, d.state)
        (Imports.bring load (d.imports, d.state)) := by
  rcases line.isBlank_or_inclusion_or with h | ⟨h, ⟨path, hs⟩ | hs⟩
  · rw [readLine_of_isBlank d search disk load origin h,
      Line.resolution?_of_isBlank search disk h]
    rfl
  · rw [readLine_of_inclusion d search disk load origin h hs,
      Line.resolution?_of_inclusion search disk h hs]
    simpa using followInclude_imports_state search disk load (d.settle origin.file line)
      origin.directory line path
  · rw [readLine_of_ne_inclusion d search disk load origin h hs,
      Line.resolution?_of_ne_inclusion search disk hs]
    simp

theorem readLine_state (d : Draft State) (line : Line) :
    (d.readLine search disk load origin line).state =
      (line.resolution? search disk origin.directory).elim d.state
        fun r => (load r.file d.state).2 := by
  have h := congrArg Prod.snd (readLine_imports_state search disk load origin d line)
  cases hr : line.resolution? search disk origin.directory <;> simpa [hr, Imports.bring] using h

theorem readLines_imports_state (d : Draft State) (lines : List Line) :
    let next := lines.foldl (readLine search disk load origin) d
    (next.imports, next.state) =
      (resolutions search disk origin.directory lines).foldl (Imports.bring load)
        (d.imports, d.state) := by
  induction lines generalizing d with
  | nil => rfl
  | cons line lines ih =>
    have hline := readLine_imports_state search disk load origin d line
    dsimp only at hline ih ⊢
    rw [List.foldl_cons, ih, hline]
    cases h : line.resolution? search disk origin.directory <;> simp [resolutions, h]

theorem finish_imports (d : Draft State) (lines : List Line) :
    (d.finish origin lines).1.table.imports = d.imports := by
  unfold finish
  dsimp only
  split <;> rfl

theorem finish_state (d : Draft State) (lines : List Line) :
    (d.finish origin lines).2 = d.state := by
  unfold finish
  dsimp only
  split <;> rfl

/-- Two loaders that agree on what a line asks for read the line alike. -/
theorem readLine_congr {load' : Path → State → ModuleReply × State} (d : Draft State) (line : Line)
    (h : ∀ r ∈ line.resolution? search disk origin.directory,
      load' r.file d.state = load r.file d.state) :
    d.readLine search disk load' origin line = d.readLine search disk load origin line := by
  rcases line.isBlank_or_inclusion_or with hb | ⟨hb, ⟨path, hs⟩ | hs⟩
  · rw [readLine_of_isBlank _ _ _ _ _ hb, readLine_of_isBlank _ _ _ _ _ hb]
  · rw [Line.resolution?_of_inclusion search disk hb hs] at h
    rw [readLine_of_inclusion _ _ _ _ _ hb hs, readLine_of_inclusion _ _ _ _ _ hb hs]
    cases hr : search.resolve? disk origin.directory path.text with
    | none => rw [followInclude_of_eq_none _ _ _ _ hr, followInclude_of_eq_none _ _ _ _ hr]
    | some r =>
      have hanswer := h r hr
      rw [followInclude_of_eq_some _ _ _ _ hr, followInclude_of_eq_some _ _ _ _ hr, settle_state,
        hanswer]
  · rw [readLine_of_ne_inclusion _ _ _ _ _ hb hs, readLine_of_ne_inclusion _ _ _ _ _ hb hs]

end Draft

namespace Outline

/-- The imports of an outline, and the state behind it, come from the modules that its include lines
name. -/
theorem ofLines_imports_state (lines : List Line) (state : State) :
    ((Outline.ofLines search disk load origin lines state).1.table.imports,
      (Outline.ofLines search disk load origin lines state).2) =
      (resolutions search disk origin.directory lines).foldl (Imports.bring load)
        ({}, state) := by
  have h := Draft.readLines_imports_state search disk load origin { state := state } lines
  simpa only [ofLines, Draft.finish_imports, Draft.finish_state] using h

variable {search disk load origin}

/-- What holds of a state and is kept whenever a module is asked for holds behind an outline. -/
theorem ofLines_state_induction {P : State → Prop}
    (hkeep : ∀ path state, P state → P (load path state).2) {lines : List Line} {state : State}
    (h : P state) : P (Outline.ofLines search disk load origin lines state).2 := by
  have hfold : ∀ (rs : List Resolution) (known : Imports × State), P known.2 →
      P (rs.foldl (Imports.bring load) known).2 := by
    intro rs
    induction rs with
    | nil => exact fun _ hk => hk
    | cons r rs ih => exact fun known hk => ih _ (hkeep r.file known.2 hk)
  -- Only the answers of the loader change the state, and they keep what holds of it.
  have hend := hfold (resolutions search disk origin.directory lines) ({}, state) h
  rwa [← ofLines_imports_state] at hend

/-- Two loaders that agree on all states that can arise make the same outline. -/
theorem ofLines_congr {load' : Path → State → ModuleReply × State} {P : State → Prop}
    (hkeep : ∀ path state, P state → P (load path state).2)
    (heq : ∀ path state, P state → load' path state = load path state) {lines : List Line}
    {state : State} (h : P state) :
    Outline.ofLines search disk load' origin lines state =
      Outline.ofLines search disk load origin lines state := by
  have hfold : ∀ (lines : List Line) (d : Draft State), P d.state →
      lines.foldl (Draft.readLine search disk load' origin) d =
        lines.foldl (Draft.readLine search disk load origin) d := by
    intro lines
    induction lines with
    | nil => intro d _; rw [List.foldl_nil, List.foldl_nil]
    | cons line lines ih =>
      intro d hd
      -- The loaders agree on this line, and its answer leads to a state on which they agree.
      have hnext : P (d.readLine search disk load origin line).state := by
        rw [Draft.readLine_state]
        cases line.resolution? search disk origin.directory with
        | none => exact hd
        | some r => exact hkeep r.file d.state hd
      rw [List.foldl_cons, List.foldl_cons,
        Draft.readLine_congr search disk load origin d line fun r _ => heq r.file d.state hd]
      exact ih _ hnext
  unfold ofLines
  rw [hfold lines _ h]

end Outline

end Reading

end ScriptLint
