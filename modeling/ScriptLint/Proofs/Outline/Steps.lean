import ScriptLint.Outline.Draft

/-! What one line does to a draft. A line is blank, an include line, or another statement; each part
of the draft is changed by one of the steps that this takes and left alone by the others. -/
namespace ScriptLint

/-- A line is blank, an include line, or another statement. -/
theorem Line.isBlank_or_inclusion_or (line : Line) :
    line.isBlank = true ∨
      line.isBlank = false ∧ ((∃ path, Statement.ofText line.code = .inclusion path) ∨
        ∀ path, Statement.ofText line.code ≠ .inclusion path) := by
  cases line.isBlank
  · by_cases h : ∃ path, Statement.ofText line.code = .inclusion path
    · exact Or.inr ⟨rfl, Or.inl h⟩
    · exact Or.inr ⟨rfl, Or.inr fun path hp => h ⟨path, hp⟩⟩
  · exact Or.inl rfl

/-- The declaration that the head of a function makes. -/
def FunctionHead.toDecl (head : FunctionHead) (file scope : Option String) (line : Int) :
    FunctionDecl where
  name := head.name.text
  params := head.params
  returnType := head.returnType.text
  line := line
  scope := scope
  file := file
  returnTypeOffset := head.returnType.offset
  access := head.access.map (·.text)

/-- Adds what a statement declares to the open body, `owner` being the class of that body. -/
def Statement.addTo (owner file : Option String) (line : Int) :
    Statement → Body ClassDecl → Body ClassDecl
  | .classHead name, b => b.addClass ⟨name.text, line, file, {}⟩
  | .functionHead head, b => b.addFunction (head.toDecl file owner line)
  | .macroHead name params, b =>
    b.addMacro { name := name.text, params := params, line := line, file := file }
  | .variableDecl _ name type, b =>
    b.addVariable
      { name := name.text
        type := type.text
        line := line
        scope := owner.getD globalScope
        typeOffset := type.offset }
  | _, b => b

namespace Draft

variable {State : Type} (d : Draft State) (file : Option String)

section Frame

variable (f : Body ClassDecl → Body ClassDecl) (found : List Diagnostic)

@[simp] theorem modifyBody_unclosed : (d.modifyBody f).unclosed = d.unclosed := by
  unfold modifyBody; split <;> rfl

@[simp] theorem modifyBody_includes : (d.modifyBody f).includes = d.includes := by
  unfold modifyBody; split <;> rfl

@[simp] theorem modifyBody_imports : (d.modifyBody f).imports = d.imports := by
  unfold modifyBody; split <;> rfl

@[simp] theorem modifyBody_diagnostics : (d.modifyBody f).diagnostics = d.diagnostics := by
  unfold modifyBody; split <;> rfl

@[simp] theorem modifyBody_state : (d.modifyBody f).state = d.state := by
  unfold modifyBody; split <;> rfl

@[simp] theorem report_unclosed : (d.report found).unclosed = d.unclosed := rfl

@[simp] theorem report_openClasses : (d.report found).openClasses = d.openClasses := rfl

@[simp] theorem report_body : (d.report found).body = d.body := rfl

@[simp] theorem report_includes : (d.report found).includes = d.includes := rfl

@[simp] theorem report_imports : (d.report found).imports = d.imports := rfl

@[simp] theorem report_diagnostics :
    (d.report found).diagnostics = d.diagnostics ++ found := rfl

@[simp] theorem report_state : (d.report found).state = d.state := rfl

@[simp] theorem closeBelow_unclosed (depth : Nat) :
    (d.closeBelow file depth).unclosed = d.unclosed := by
  unfold closeBelow; dsimp only; split <;> simp

@[simp] theorem closeBelow_includes (depth : Nat) :
    (d.closeBelow file depth).includes = d.includes := by
  unfold closeBelow; dsimp only; split <;> simp

@[simp] theorem closeBelow_imports (depth : Nat) :
    (d.closeBelow file depth).imports = d.imports := by
  unfold closeBelow; dsimp only; split <;> simp

@[simp] theorem closeBelow_diagnostics (depth : Nat) :
    (d.closeBelow file depth).diagnostics = d.diagnostics := by
  unfold closeBelow; dsimp only; split <;> simp

@[simp] theorem closeBelow_state (depth : Nat) :
    (d.closeBelow file depth).state = d.state := by
  unfold closeBelow; dsimp only; split <;> simp

variable (before : Nat) (line : Int) (statement : Statement)

@[simp] theorem declare_unclosed :
    (d.declare file before line statement).unclosed = d.unclosed := by
  unfold declare; split <;> (try split) <;> simp

@[simp] theorem declare_includes :
    (d.declare file before line statement).includes = d.includes := by
  unfold declare; split <;> (try split) <;> simp

@[simp] theorem declare_imports :
    (d.declare file before line statement).imports = d.imports := by
  unfold declare; split <;> (try split) <;> simp

@[simp] theorem declare_diagnostics :
    (d.declare file before line statement).diagnostics = d.diagnostics := by
  unfold declare; split <;> (try split) <;> simp

@[simp] theorem declare_state :
    (d.declare file before line statement).state = d.state := by
  unfold declare; split <;> (try split) <;> simp

end Frame

/-- The draft in front of what a line says: the braces of the line are counted, and the classes that
they close are closed. -/
def settle (line : Line) : Draft State :=
  let unclosed := matchBraces d.unclosed line
  ({ d with unclosed := unclosed.1 }.closeBelow file unclosed.1.length).report
    (if unclosed.2 then [excessBrace line] else [])

@[simp] theorem settle_unclosed (line : Line) :
    (d.settle file line).unclosed = (matchBraces d.unclosed line).1 := by
  simp [settle]

@[simp] theorem settle_includes (line : Line) :
    (d.settle file line).includes = d.includes := by
  simp [settle]

@[simp] theorem settle_imports (line : Line) :
    (d.settle file line).imports = d.imports := by
  simp [settle]

@[simp] theorem settle_state (line : Line) : (d.settle file line).state = d.state := by
  simp [settle]

@[simp] theorem settle_diagnostics (line : Line) :
    (d.settle file line).diagnostics =
      d.diagnostics ++ if (matchBraces d.unclosed line).2 then [excessBrace line] else [] := by
  simp [settle]

theorem declare_of_opens {before : Nat} {line : Int} {name : Text.Token}
    (h : before < d.unclosed.length) :
    d.declare file before line (.classHead name) =
      { d with openClasses := ⟨name.text, line, d.unclosed.length, {}⟩ :: d.openClasses } := by
  simp only [declare, h, ↓reduceIte]

theorem modifyBody_id : d.modifyBody id = d := by
  obtain ⟨_, _ | _, _, _, _, _, _⟩ := d <;> rfl

theorem declare_of_not_opens {before : Nat} {line : Int} {statement : Statement}
    (h : ∀ name, statement = .classHead name → ¬before < d.unclosed.length) :
    d.declare file before line statement =
      d.modifyBody (statement.addTo d.owner? file line) := by
  cases statement with
  | classHead name =>
    simp only [declare, h name rfl, ↓reduceIte]
    rfl
  | functionHead head => rfl
  | macroHead name params => rfl
  | variableDecl access name type => rfl
  | _ => exact (modifyBody_id d).symm

section Line

variable (search : ModuleSearch) (disk : Disk) (load : Path → State → ModuleReply × State)
  (origin : Origin)

/-- What the answer for a module does to the draft that asked for it. -/
def takeReply (line : Line) (path : Text.Token) (r : Resolution) : ModuleReply → Draft State
  | .unreadable e => d.report [unreadableModule line path r.file.toText e]
  | .inProgress => d
  | .outline o => d.takeOver line path r o

theorem followInclude_of_eq_none {directory : String} {line : Line} {path : Text.Token}
    (h : search.resolve? disk directory path.text = none) :
    d.followInclude search disk load directory line path =
      d.report [unresolvedInclude search line path] := by
  simp only [followInclude, h]

theorem followInclude_of_eq_some {directory : String} {line : Line} {path : Text.Token}
    {r : Resolution} (h : search.resolve? disk directory path.text = some r) :
    d.followInclude search disk load directory line path =
      { d with
        includes := d.includes ++ [r.toInclude path.text line.number]
        state := (load r.file d.state).2 }.takeReply line path r (load r.file d.state).1 := by
  simp only [followInclude, h]
  cases (load r.file d.state).1 <;> rfl

theorem readLine_of_isBlank {line : Line} (h : line.isBlank = true) :
    d.readLine search disk load origin line = d := by
  simp [readLine, h]

theorem readLine_of_inclusion {line : Line} {path : Text.Token} (h : line.isBlank = false)
    (hs : Statement.ofText line.code = .inclusion path) :
    d.readLine search disk load origin line =
      (d.settle origin.file line).followInclude search disk load origin.directory line path := by
  simp only [readLine, h, hs, settle]
  rfl

theorem readLine_of_ne_inclusion {line : Line} (h : line.isBlank = false)
    (hs : ∀ path, Statement.ofText line.code ≠ .inclusion path) :
    d.readLine search disk load origin line =
      ((d.settle origin.file line).declare origin.file d.unclosed.length line.number
          (Statement.ofText line.code)).report
        (malformedDiagnostics line (Statement.ofText line.code) ++
          if origin.isRoot then headDiagnostics line (Statement.ofText line.code) else []) := by
  simp only [readLine, h, settle]
  cases hst : Statement.ofText line.code with
  | inclusion path => exact absurd hst (hs path)
  | _ => rfl

end Line

end Draft

end ScriptLint
