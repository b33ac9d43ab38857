import ScriptLint.Analysis
import ScriptLint.Proofs.Line.Columns

/-! Findings in two lines with the same comment-free text. Every check looks at that text alone; the
line as written only decides the columns of what is found. -/
namespace ScriptLint

/-- The lines have the same number and differ in their comments at most. -/
structure Line.SameCode (a b : Line) : Prop where
  number : a.number = b.number
  code : a.code = b.code

/-- The finding with its columns forgotten. -/
def Diagnostic.withoutColumns (d : Diagnostic) : Diagnostic :=
  { d with startColumn := 0, endColumn := 0 }

/-- Findings with their columns forgotten. -/
def withoutColumns (found : List Diagnostic) : List Diagnostic :=
  found.map (·.withoutColumns)

theorem withoutColumns_append (a b : List Diagnostic) :
    withoutColumns (a ++ b) = withoutColumns a ++ withoutColumns b :=
  List.map_append

theorem withoutColumns_singleton_congr {d e : Diagnostic}
    (h : d.withoutColumns = e.withoutColumns) : withoutColumns [d] = withoutColumns [e] :=
  congrArg (fun x => [x]) h

theorem withoutColumns_flatMap_congr {α : Type} {items : List α} {find find' : α → List Diagnostic}
    (h : ∀ x, withoutColumns (find x) = withoutColumns (find' x)) :
    withoutColumns (items.flatMap find) = withoutColumns (items.flatMap find') := by
  unfold withoutColumns at h ⊢
  rw [List.map_flatMap, List.map_flatMap]
  exact congrArg (fun f => items.flatMap f) (funext h)

variable {a b : Line} (h : a.SameCode b)
include h

theorem Line.SameCode.trimmed : a.trimmed = b.trimmed := by
  rw [Line.trimmed, Line.trimmed, h.code]

theorem Line.SameCode.isBlank : a.isBlank = b.isBlank := by
  rw [Line.isBlank, Line.isBlank, h.trimmed]

theorem Line.SameCode.isSome_column? (offset : Int) :
    (a.column? offset).isSome = (b.column? offset).isSome := by
  rw [Bool.eq_iff_iff, a.isSome_column?_iff, b.isSome_column?_iff, h.code]

theorem Line.SameCode.matchBraces (unclosed : List Int) :
    ScriptLint.matchBraces unclosed a = ScriptLint.matchBraces unclosed b := by
  rw [ScriptLint.matchBraces, ScriptLint.matchBraces, h.code, h.number]

namespace Diagnostic

theorem withoutColumns_onLine (code : DiagnosticCode) (message : String) :
    (onLine code message a).withoutColumns = (onLine code message b).withoutColumns := by
  simp only [withoutColumns, onLine, h.number]

/-- Whether a finding falls back on the whole line does not depend on the comments. -/
theorem withoutColumns_atOffset (code : DiagnosticCode) (message : String)
    (fallback : Option String) (offset length : Int) :
    (atOffset code message fallback a offset length).withoutColumns =
      (atOffset code message fallback b offset length).withoutColumns := by
  -- The columns may differ, but the lines have one at the same offsets.
  have hsome := h.isSome_column? offset
  unfold atOffset
  cases ha : a.column? offset with
  | none =>
    cases hb : b.column? offset with
    | none => exact withoutColumns_onLine h _ _
    | some column => simp [ha, hb] at hsome
  | some column =>
    cases hb : b.column? offset with
    | none => simp [ha, hb] at hsome
    | some column' => simp only [withoutColumns, h.number]

end Diagnostic

theorem withoutColumns_headDiagnostics (statement : Statement) :
    withoutColumns (headDiagnostics a statement) =
      withoutColumns (headDiagnostics b statement) := by
  have hline := Diagnostic.withoutColumns_onLine h
  have hmodifier : ∀ m,
      (misusedModifier a m).withoutColumns = (misusedModifier b m).withoutColumns :=
    fun m => congrArg (fun d : Diagnostic => { d with severity := .warning })
      (Diagnostic.withoutColumns_atOffset h _ _ _ _ _)
  have hbody : ∀ what, (missingBody what a).withoutColumns = (missingBody what b).withoutColumns :=
    fun what => congrArg (fun d : Diagnostic => { d with severity := .warning }) (hline _ _)
  -- Whether something is missing is read off the code, and only the place differs.
  cases statement with
  | classHead name =>
    simp only [headDiagnostics, h.trimmed, h.code]
    split <;> simp [withoutColumns, hline]
  | functionHead head =>
    simp only [headDiagnostics, h.code, withoutColumns_append]
    cases head.access <;> split <;> simp [withoutColumns, hmodifier, hbody]
  | macroHead name params =>
    simp only [headDiagnostics, h.code]
    split <;> simp [withoutColumns, hbody]
  | conditional =>
    simp only [headDiagnostics, h.code]
    split <;> simp [withoutColumns, hbody]
  | _ => rfl

theorem withoutColumns_malformedDiagnostics (statement : Statement) :
    withoutColumns (malformedDiagnostics a statement) =
      withoutColumns (malformedDiagnostics b statement) := by
  cases statement with
  | malformed kind =>
    exact withoutColumns_singleton_congr (Diagnostic.withoutColumns_onLine h _ _)
  | _ => rfl

namespace References

theorem withoutColumns_macroDiagnostics (t : SymbolTable) :
    withoutColumns (macroDiagnostics t a) = withoutColumns (macroDiagnostics t b) := by
  have hcall : ∀ masked offset call, withoutColumns (macroCallDiagnostics t a masked offset call) =
      withoutColumns (macroCallDiagnostics t b masked offset call) := by
    intro masked offset call
    have hat := Diagnostic.withoutColumns_atOffset h
    have harity : ∀ close name given expected,
        (wrongArity a offset close name given expected).withoutColumns =
          (wrongArity b offset close name given expected).withoutColumns :=
      fun close name given expected =>
        congrArg (fun d : Diagnostic => { d with severity := .warning }) (hat _ _ _ _ _)
    unfold macroCallDiagnostics
    cases t.findMacro? call.name with
    | none => simp [withoutColumns, undefinedMacro, hat]
    | some m =>
      dsimp only
      cases call.argumentsAt.bind (Arguments.split? masked) with
      | none => rfl
      | some found =>
        dsimp only
        split <;> simp [withoutColumns, harity]
  unfold macroDiagnostics
  rw [h.code]
  exact withoutColumns_flatMap_congr fun call => hcall _ call.1 call.2

theorem region_eq : region a = region b := by
  rw [region, region, h.code]

theorem withoutColumns_lineWordDiagnostics (t : SymbolTable) (names : List String) :
    withoutColumns (lineWordDiagnostics t names a) =
      withoutColumns (lineWordDiagnostics t names b) := by
  have hword : ∀ base masked word, withoutColumns (wordDiagnostics t names a base masked word) =
      withoutColumns (wordDiagnostics t names b base masked word) := by
    intro base masked word
    have hat := Diagnostic.withoutColumns_atOffset h
    unfold wordDiagnostics
    dsimp only
    split
    · rfl
    · split
      · split <;> simp [withoutColumns, undefinedClass, hat]
      · split
        · split <;> simp [withoutColumns, undefinedVariable, hat]
        · rfl
  have hdeclaration : isDeclaration a = isDeclaration b := by
    rw [isDeclaration, isDeclaration, h.code]
  unfold lineWordDiagnostics
  rw [hdeclaration, region_eq h]
  split
  · rfl
  · exact withoutColumns_flatMap_congr fun found => hword _ _ found.2

theorem withoutColumns_lineCallDiagnostics (t : SymbolTable) :
    withoutColumns (lineCallDiagnostics t a) = withoutColumns (lineCallDiagnostics t b) := by
  have hcall : ∀ r masked name, withoutColumns (callDiagnostics t a r masked name) =
      withoutColumns (callDiagnostics t b r masked name) := by
    intro r masked name
    have hat := Diagnostic.withoutColumns_atOffset h
    have hinfo : ∀ offset name f, (functionInfo a offset name f).withoutColumns =
        (functionInfo b offset name f).withoutColumns :=
      fun offset name f => congrArg
        (fun d : Diagnostic => { d with severity := .hint, function := some f }) (hat _ _ _ _ _)
    have hnoCall : isNoCall a masked name = isNoCall b masked name := by
      rw [isNoCall, isNoCall, isDefinition, isDefinition, h.code]
    unfold callDiagnostics
    rw [hnoCall]
    split
    · rfl
    · split
      · simp [withoutColumns, hinfo]
      · split <;> simp [withoutColumns, undefinedFunction, hat]
  unfold lineCallDiagnostics
  rw [region_eq h]
  exact withoutColumns_flatMap_congr fun found => hcall _ _ found.2

end References

theorem TypeUse.withoutColumns_diagnostic (u : TypeUse) :
    (u.diagnostic a).withoutColumns = (u.diagnostic b).withoutColumns := by
  unfold TypeUse.diagnostic
  rw [h.code]
  exact Diagnostic.withoutColumns_atOffset h _ _ _ _ _

end ScriptLint
