import ScriptLint.Proofs.Module.Order
import ScriptLint.Proofs.Outline.Complete

/-! Drawing up an outline with look-ups that can fail. The line of an open brace is looked up by its
number, what is said of a malformed line by its word, what a missing part is called by the kind of
the include, and this kind says how the part is found. Where something is not there the reading
stops without a result; only that a module cannot be read is caught, on the line that includes it.
All else is there, so nothing stops a text, as long as nothing stops the modules it asks for. -/
namespace ScriptLint

/-- Why a text is left without a result. -/
inductive Stop where
  /-- No line has the number. -/
  | missingLine (number : Int)
  /-- Nothing is said of lines that start with the word. -/
  | missingText (word : String)
  /-- What the include asks for has no name. -/
  | missingName (kind : IncludeKind)
  /-- It is not known what the include asks for. -/
  | unknownKind (kind : IncludeKind)
  /-- A file cannot be read. -/
  | unreadable (e : SourceError)
  /-- More modules are being read within each other than is allowed. -/
  | tooDeep

namespace Strict

/-- What a look-up finds; if it finds nothing, that is where all stops. -/
def require {α : Type} (stop : Stop) : Option α → Except Stop α
  | some x => .ok x
  | none => .error stop

/-- What is said of a line that starts like a declaration, by the word it starts with. -/
def expectations : List (String × String) :=
  DeclarationKind.all.map fun kind => (kind.word, kind.expectation)

/-- What the part is called that an include asks for, by the kind of the include. -/
def partNames : List (IncludeKind × String) :=
  [(.topClass, "Class"), (.innerClass, "Inner class"), (.oneMacro, "Macro")]

/-- The finding in a line of the given number that it has an opening brace without a partner. -/
def unclosedBrace (lines : List Line) (number : Int) : Except Stop Diagnostic := do
  let line ← require (.missingLine number) (Line.at? lines number)
  return { ScriptLint.unclosedBrace line with line := number }

/-- What an include asks of the module with the given table, if the module has it. -/
def askedFor (t : SymbolTable) (file : String) (i : Include) : Except Stop (Option Imports) :=
  if i.kind = .wholeFile then .ok (some (t.exports file))
  else if i.kind = .topClass then .ok (t.topClass? file i.name)
  else if i.kind = .innerClass then
    .ok (i.parent.bind fun parent => t.innerClass? file parent i.name)
  else if i.kind = .oneMacro then .ok (t.oneMacro? file i.name)
  else .error (.unknownKind i.kind)

variable {State : Type}

/-- Takes over what an include line asks of the outline of a module. -/
def takeOver (d : Draft State) (line : Line) (path : Text.Token) (r : Resolution) (o : Outline) :
    Except Stop (Draft State) := do
  let d := d.report (o.diagnostics.map (libraryDiagnostic line path r.file.toText))
  let i := r.toInclude path.text line.number
  match ← askedFor o.table r.file.toText i with
  | some given => return { d with imports := d.imports.merge given }
  | none =>
    let part ← require (.missingName i.kind) (partNames.lookup i.kind)
    return d.report [.atOffset .symbolNotFoundInInclude
      (part ++ " '" ++ i.name ++ "' not found in '" ++ i.fileName ++ "'. Path: " ++ i.path)
      none line path.offset path.text.length]

/-- Follows an include line. Of all that can stop its module, only an unreadable file is reported;
a module that is in progress gives no outline. -/
def followInclude (d : Draft State) (search : ModuleSearch) (disk : Disk)
    (load : Path → State → Except Stop (Option Outline × State)) (directory : String) (line : Line)
    (path : Text.Token) : Except Stop (Draft State) :=
  match search.resolve? disk directory path.text with
  | none => .ok (d.report [unresolvedInclude search line path])
  | some r =>
    let d := { d with includes := d.includes ++ [r.toInclude path.text line.number] }
    match load r.file d.state with
    | .error (.unreadable e) => .ok (d.report [unreadableModule line path r.file.toText e])
    | .error stop => .error stop
    | .ok (none, state) => .ok { d with state := state }
    | .ok (some o, state) => takeOver { d with state := state } line path r o

/-- Reads one line. -/
def readLine (search : ModuleSearch) (disk : Disk)
    (load : Path → State → Except Stop (Option Outline × State)) (origin : Origin)
    (d : Draft State) (line : Line) : Except Stop (Draft State) :=
  if line.isBlank then .ok d
  else
    let settled := d.settle origin.file line
    match Statement.ofText line.code with
    | .inclusion path => followInclude settled search disk load origin.directory line path
    | .malformed kind => do
      let text ← require (.missingText kind.word) (expectations.lookup kind.word)
      return settled.report [.onLine .malformedDeclaration text line]
    | statement =>
      .ok ((settled.declare origin.file d.unclosed.length line.number statement).report
        (if origin.isRoot then headDiagnostics line statement else []))

/-- The outline behind the last line. Each line with open braces is reported once, in order. -/
def finish (origin : Origin) (lines : List Line) (d : Draft State) :
    Except Stop (Outline × State) := do
  let found ← (ascending d.unclosed).mapM (unclosedBrace lines)
  let (o, state) := d.finish origin []
  return ({ o with diagnostics := o.diagnostics ++ found }, state)

/-- The outline of the lines of a text. -/
def outline (search : ModuleSearch) (disk : Disk)
    (load : Path → State → Except Stop (Option Outline × State)) (origin : Origin)
    (lines : List Line) (state : State) : Except Stop (Outline × State) := do
  let d ← lines.foldlM (readLine search disk load origin) { state := state }
  finish origin lines d

/-- An answer for a module as one that fails where the module cannot be read. -/
def ofAnswer : ModuleReply × State → Except Stop (Option Outline × State)
  | (.outline o, state) => .ok (some o, state)
  | (.inProgress, state) => .ok (none, state)
  | (.unreadable e, _) => .error (.unreadable e)

/-- Asked for the module, the loader that can fail gives the answer of the other one. Nothing is
learnt from a module that cannot be read. -/
structure Answers (load : Path → State → ModuleReply × State)
    (strict : Path → State → Except Stop (Option Outline × State)) (path : Path) (state : State) :
    Prop where
  eq_ofAnswer : strict path state = ofAnswer (load path state)
  state_eq : ∀ e, (load path state).1 = .unreadable e → (load path state).2 = state

section Lookups

/-- Each kind of declaration has a word of its own. -/
theorem lookup_expectations (kind : DeclarationKind) :
    expectations.lookup kind.word = some kind.expectation := by
  cases kind <;> rfl

theorem lookup_partNames (selection : Selection) :
    partNames.lookup (IncludeKind.ofSelection (some selection)) = some selection.label := by
  cases selection <;> rfl

/-- The name that an include brings in is that of the part it asks for. -/
theorem exists_name_eq {search : ModuleSearch} {disk : Disk} {directory path : String}
    {r : Resolution} (h : search.resolve? disk directory path = some r) :
    ∃ leftOver, r.name = ModuleSearch.nameOf r.file leftOver r.selection := by
  obtain ⟨⟨file, leftOver⟩, -, rfl⟩ := Option.map_eq_some_iff.mp h
  exact ⟨leftOver, rfl⟩

/-- Every kind of include says how the part is found. -/
theorem askedFor_eq {t : SymbolTable} {r : Resolution} {leftOver : List String}
    (h : r.name = ModuleSearch.nameOf r.file leftOver r.selection) (file path : String)
    (number : Int) :
    askedFor t file (r.toInclude path number) =
      .ok (r.selection.elim (some (t.exports file)) (t.select? file)) := by
  obtain ⟨moduleFile, name, selection⟩ := r
  obtain rfl : name = ModuleSearch.nameOf moduleFile leftOver selection := h
  rcases selection with _ | ⟨name⟩ | ⟨parent, name⟩ | ⟨name⟩ <;> rfl

theorem takeOver_eq (d : Draft State) (line : Line) (path : Text.Token) {r : Resolution}
    {leftOver : List String} (h : r.name = ModuleSearch.nameOf r.file leftOver r.selection)
    (o : Outline) : takeOver d line path r o = .ok (d.takeOver line path r o) := by
  rw [takeOver, askedFor_eq h]
  unfold Draft.takeOver
  cases hselection : r.selection with
  | none => rfl
  | some selection =>
    have hkind : (r.toInclude path.text line.number).kind =
        IncludeKind.ofSelection (some selection) := by rw [Resolution.toInclude, hselection]
    -- Only for a part that is missing is its name looked up.
    change (match o.table.select? r.file.toText selection with | some _ => _ | none => _) = _
    cases hgiven : o.table.select? r.file.toText selection with
    | some given => simp only [hgiven]; rfl
    | none =>
      simp only [hgiven, hkind, lookup_partNames]
      rfl

end Lookups

section Braces

theorem mapM_unclosedBrace_eq {lines : List Line} {numbers : List Int}
    (h : ∀ n ∈ numbers, (Line.at? lines n).isSome) :
    numbers.mapM (unclosedBrace lines) = .ok (numbers.filterMap fun n =>
      (Line.at? lines n).map fun line => { ScriptLint.unclosedBrace line with line := n }) := by
  induction numbers with
  | nil => rfl
  | cons n numbers ih =>
    obtain ⟨hn, hmore⟩ := List.forall_mem_cons.mp h
    obtain ⟨line, hline⟩ := Option.isSome_iff_exists.mp hn
    have hfound : unclosedBrace lines n =
        .ok { ScriptLint.unclosedBrace line with line := n } := by
      rw [unclosedBrace, hline]
      rfl
    rw [List.mapM_cons, hfound, ih hmore, List.filterMap_cons, hline]
    rfl

/-- The line of every open brace is found behind the last line of a text. -/
theorem finish_eq (origin : Origin) {text : List Char} {d : Draft State}
    (h : ∀ n ∈ d.unclosed, ∃ line ∈ Line.ofSource text, line.number = n) :
    finish origin (Line.ofSource text) d = .ok (d.finish origin (Line.ofSource text)) := by
  have hfound : ∀ n ∈ ascending d.unclosed, (Line.at? (Line.ofSource text) n).isSome := by
    intro n hn
    obtain ⟨line, hline, rfl⟩ := h n (mem_ascending.mp hn)
    rw [Line.at?_ofSource hline]
    rfl
  rw [finish, mapM_unclosedBrace_eq hfound]
  unfold Draft.finish
  cases OpenClass.closeAll? origin.file d.openClasses <;>
    simp only [unclosedDiagnostics_nil, List.append_nil] <;> rfl

end Braces

section Reading

variable {search : ModuleSearch} {disk : Disk} {origin : Origin}
  {load : Path → State → ModuleReply × State}
  {strict : Path → State → Except Stop (Option Outline × State)}

/-- That a module cannot be read is caught; a module that is read has what can be asked of it, or
it has a name for what it lacks. -/
theorem followInclude_eq {d : Draft State} {directory : String} (line : Line) {path : Text.Token}
    (h : ∀ r ∈ search.resolve? disk directory path.text, Answers load strict r.file d.state) :
    followInclude d search disk strict directory line path =
      .ok (d.followInclude search disk load directory line path) := by
  cases hr : search.resolve? disk directory path.text with
  | none => simp only [followInclude, hr, Draft.followInclude_of_eq_none d search disk load hr]
  | some r =>
    obtain ⟨hanswer, hstate⟩ := h r hr
    obtain ⟨leftOver, hname⟩ := exists_name_eq hr
    rw [Draft.followInclude_of_eq_some d search disk load hr]
    simp only [followInclude, hr, hanswer]
    -- What an unreadable module leaves behind is not taken over, and need not be.
    generalize load r.file d.state = answer at hstate ⊢
    obtain ⟨reply, state⟩ := answer
    cases reply with
    | unreadable e =>
      obtain rfl : state = d.state := hstate e rfl
      rfl
    | inProgress => rfl
    | outline o => exact takeOver_eq _ line path hname o

/-- No line stops the reading. -/
theorem readLine_eq {d : Draft State} {line : Line}
    (h : ∀ r ∈ line.resolution? search disk origin.directory,
      Answers load strict r.file d.state) :
    readLine search disk strict origin d line = .ok (d.readLine search disk load origin line) := by
  rcases line.isBlank_or_inclusion_or with hb | ⟨hb, ⟨path, hs⟩ | hs⟩
  · rw [Draft.readLine_of_isBlank d search disk load origin hb, readLine, if_pos hb]
  · rw [Line.resolution?_of_inclusion search disk hb hs] at h
    rw [Draft.readLine_of_inclusion d search disk load origin hb hs]
    simp only [readLine, hb, Bool.false_eq_true, ↓reduceIte, hs]
    apply followInclude_eq
    simpa using h
  · rw [Draft.readLine_of_ne_inclusion d search disk load origin hb hs]
    simp only [readLine, hb, Bool.false_eq_true, ↓reduceIte]
    cases hst : Statement.ofText line.code with
    | inclusion path => exact absurd hst (hs path)
    | malformed kind =>
      simp only [lookup_expectations]
      cases origin.isRoot <;> rfl
    | _ => rfl

variable (search disk origin) in
/-- No text stops the reading, if the answers it gets for modules are kept to. -/
theorem outline_eq {P : State → Prop}
    (hkeep : ∀ path state, P state → P (load path state).2)
    (hanswers : ∀ path state, P state → Answers load strict path state) (text : List Char)
    {state : State} (hstate : P state) :
    outline search disk strict origin (Line.ofSource text) state =
      .ok (Outline.ofLines search disk load origin (Line.ofSource text) state) := by
  have hfold : ∀ (lines : List Line) (d : Draft State), P d.state →
      lines.foldlM (readLine search disk strict origin) d =
        .ok (lines.foldl (Draft.readLine search disk load origin) d) := by
    intro lines
    induction lines with
    | nil => exact fun d _ => rfl
    | cons line lines ih =>
      intro d hd
      have hline : readLine search disk strict origin d line =
          .ok (d.readLine search disk load origin line) :=
        readLine_eq fun r _ => hanswers r.file d.state hd
      have hnext : P (d.readLine search disk load origin line).state := by
        rw [Draft.readLine_state]
        cases line.resolution? search disk origin.directory with
        | none => exact hd
        | some r => exact hkeep r.file d.state hd
      rw [List.foldlM_cons, hline]
      exact ih _ hnext
  rw [outline, hfold _ _ hstate]
  -- What is open behind the last line was opened on a line of the text.
  apply finish_eq
  intro n hn
  rcases Draft.exists_line_of_mem_unclosed search disk load origin hn with hnone | hline
  · exact (List.not_mem_nil hnone).elim
  · exact hline

end Reading

end Strict

end ScriptLint
