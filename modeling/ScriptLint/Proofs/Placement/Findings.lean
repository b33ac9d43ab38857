import ScriptLint.Check.Braces
import ScriptLint.Check.Heads
import ScriptLint.Check.Includes
import ScriptLint.Check.References
import ScriptLint.Check.Types
import ScriptLint.Proofs.Line.Columns
import ScriptLint.Proofs.Statement.Tokens

/-! Where findings are placed. What a check finds stands in the comment-free text of its line, so it
has columns there; only what is said of a line as a whole takes all of the line. -/
namespace ScriptLint

/-- The findings that are about a line as a whole. -/
def lineCodes : List DiagnosticCode :=
  [.malformedDeclaration, .missingBrace, .unbalancedBraces]

/-- The finding is on the line and lies within it, and takes it as a whole exactly if it is of the
kind that does. -/
structure Diagnostic.Fits (d : Diagnostic) (line : Line) : Prop where
  number : d.line = line.number
  start_nonneg : 0 ≤ d.startColumn
  start_le : d.startColumn ≤ d.endColumn
  end_le : d.endColumn ≤ line.text.length
  wholeLine_iff : d.wholeLine = true ↔ d.source = ownSource ∧ d.code ∈ lineCodes

namespace Diagnostic

variable {line : Line}

section Place

variable (code : DiagnosticCode) (message : String) (fallback : Option String) (line : Line)
  (offset length : Int)

@[simp] theorem atOffset_line :
    (atOffset code message fallback line offset length).line = line.number := by
  unfold atOffset
  cases line.column? offset <;> rfl

@[simp] theorem atOffset_code :
    (atOffset code message fallback line offset length).code = code := by
  unfold atOffset
  cases line.column? offset <;> rfl

@[simp] theorem atOffset_source :
    (atOffset code message fallback line offset length).source = ownSource := by
  unfold atOffset
  cases line.column? offset <;> rfl

end Place

theorem fits_onLine {code : DiagnosticCode} (hcode : code ∈ lineCodes) (message : String) :
    (onLine code message line).Fits line where
  number := rfl
  start_nonneg := Int.le_refl 0
  start_le := Int.natCast_nonneg _
  end_le := Int.le_refl _
  wholeLine_iff := iff_of_true rfl ⟨rfl, hcode⟩

/-- A place in the line that has a column is where the finding starts. -/
theorem atOffset_of_column? {offset : Int} {column : Nat} (h : line.column? offset = some column)
    (code : DiagnosticCode) (message : String) (fallback : Option String) (length : Int) :
    atOffset code message fallback line offset length =
      { message := message
        line := line.number
        startColumn := column
        endColumn := column + length
        code := code } := by
  simp only [atOffset, h]

variable {offset length : Nat}

/-- A part of the comment-free text has its place, and the fallback is not used. -/
theorem exists_atOffset_eq (hpos : 0 < length) (h : offset + length ≤ line.code.length)
    (code : DiagnosticCode) (message : String) (fallback : Option String) :
    ∃ column : Nat, column + length ≤ line.text.length ∧
      atOffset code message fallback line offset length =
        { message := message
          line := line.number
          startColumn := column
          endColumn := column + length
          code := code } := by
  obtain ⟨column, hcolumn, hle⟩ := line.column?_of_add_le hpos h
  exact ⟨column, hle, atOffset_of_column? hcolumn code message fallback length⟩

theorem fits_atOffset {code : DiagnosticCode} (hcode : code ∉ lineCodes) (hpos : 0 < length)
    (h : offset + length ≤ line.code.length) (message : String) (fallback : Option String) :
    (atOffset code message fallback line offset length).Fits line := by
  obtain ⟨column, hle, heq⟩ := exists_atOffset_eq hpos h code message fallback
  rw [heq]
  refine ⟨rfl, ?_, ?_, ?_, iff_of_false Bool.false_ne_true fun hboth => hcode hboth.2⟩
  · exact Int.natCast_nonneg column
  · change (column : Int) ≤ column + length
    omega
  · change (column : Int) + length ≤ line.text.length
    omega

/-- What is found in a module is reported in part of a line, whatever it is. -/
theorem fits_library (hpos : 0 < length) (h : offset + length ≤ line.code.length)
    (code : DiagnosticCode) (message : String) (fallback : Option String) :
    { atOffset code message fallback line offset length with source := librarySource }.Fits
      line := by
  obtain ⟨column, hle, heq⟩ := exists_atOffset_eq hpos h code message fallback
  have hsource : librarySource ≠ ownSource := by decide
  rw [heq]
  refine ⟨rfl, ?_, ?_, ?_, iff_of_false Bool.false_ne_true fun hboth => hsource hboth.1⟩
  · exact Int.natCast_nonneg column
  · change (column : Int) ≤ column + length
    omega
  · change (column : Int) + length ≤ line.text.length
    omega

/-- How grave a finding is has nothing to do with its place. -/
theorem Fits.withSeverity {d : Diagnostic} (h : d.Fits line) (severity : Severity) :
    { d with severity := severity }.Fits line :=
  ⟨h.number, h.start_nonneg, h.start_le, h.end_le, h.wholeLine_iff⟩

theorem Fits.withFunction {d : Diagnostic} (h : d.Fits line) (severity : Severity)
    (f : FunctionDecl) : { d with severity := severity, function := some f }.Fits line :=
  ⟨h.number, h.start_nonneg, h.start_le, h.end_le, h.wholeLine_iff⟩

end Diagnostic

/-- All findings fit the line. -/
def FitLine (found : List Diagnostic) (line : Line) : Prop :=
  ∀ d ∈ found, d.Fits line

variable {line : Line}

theorem fitLine_nil : FitLine [] line :=
  fun _ h => (List.not_mem_nil h).elim

theorem fitLine_singleton {d : Diagnostic} (h : d.Fits line) : FitLine [d] line :=
  fun _ hmem => List.mem_singleton.mp hmem ▸ h

theorem fitLine_append {a b : List Diagnostic} (ha : FitLine a line) (hb : FitLine b line) :
    FitLine (a ++ b) line :=
  fun d hmem => (List.mem_append.mp hmem).elim (ha d) (hb d)

theorem fitLine_flatMap {α : Type} {items : List α} {find : α → List Diagnostic}
    (h : ∀ x ∈ items, FitLine (find x) line) : FitLine (items.flatMap find) line := by
  intro d hmem
  obtain ⟨x, hx, hd⟩ := List.mem_flatMap.mp hmem
  exact h x hx d hd

section Heads

theorem fits_excessBrace : (excessBrace line).Fits line :=
  Diagnostic.fits_onLine (by decide) _

theorem fits_unclosedBrace : (unclosedBrace line).Fits line :=
  Diagnostic.fits_onLine (by decide) _

theorem fits_missingBody (what : String) : (missingBody what line).Fits line := by
  refine Diagnostic.Fits.withSeverity ?_ .warning
  exact Diagnostic.fits_onLine (by decide) _

theorem fits_misusedModifier {modifier : Text.Token} (h : modifier.In line.code) :
    (misusedModifier line modifier).Fits line := by
  refine Diagnostic.Fits.withSeverity ?_ .warning
  exact Diagnostic.fits_atOffset (by decide) h.length_pos h.add_le _ _

theorem fitLine_malformedDiagnostics (statement : Statement) :
    FitLine (malformedDiagnostics line statement) line := by
  cases statement with
  | malformed kind => exact fitLine_singleton (Diagnostic.fits_onLine (by decide) _)
  | _ => exact fitLine_nil

theorem fitLine_headDiagnostics {statement : Statement} (h : statement.TokensIn line.code) :
    FitLine (headDiagnostics line statement) line := by
  have hbody : ∀ what, FitLine (if opensBrace line.code then [] else [missingBody what line])
      line := by
    intro what
    split
    · exact fitLine_nil
    · exact fitLine_singleton (fits_missingBody what)
  cases statement with
  | classHead name =>
    simp only [headDiagnostics]
    split
    · exact fitLine_nil
    · exact fitLine_singleton (Diagnostic.fits_onLine (by decide) _)
  | functionHead head =>
    refine fitLine_append ?_ (hbody _)
    intro d hd
    obtain ⟨modifier, hmodifier, rfl⟩ := Option.map_eq_some_iff.mp (Option.mem_toList.mp hd)
    exact fits_misusedModifier (h.access modifier hmodifier)
  | macroHead name params => exact hbody _
  | conditional => exact hbody _
  | _ => exact fitLine_nil

end Heads

section Includes

variable {path : Text.Token} (h : path.In line.code)
include h

theorem fits_unresolvedInclude (search : ModuleSearch) :
    (unresolvedInclude search line path).Fits line :=
  Diagnostic.fits_atOffset (by decide) h.length_pos h.add_le _ _

theorem fits_unreadableModule (file : String) (e : SourceError) :
    (unreadableModule line path file e).Fits line :=
  Diagnostic.fits_library h.length_pos h.add_le _ _ _

theorem fits_libraryDiagnostic (file : String) (found : Diagnostic) :
    (libraryDiagnostic line path file found).Fits line :=
  Diagnostic.fits_library h.length_pos h.add_le _ _ _

theorem fits_missingSymbol (r : Resolution) (selection : Selection) :
    (missingSymbol line path r selection).Fits line :=
  Diagnostic.fits_atOffset (by decide) h.length_pos h.add_le _ _

end Includes

/-- A type that stands where its declaration says is found there. -/
theorem TypeUse.diagnostic_of_hasAt {u : TypeUse} (h : Text.HasAt line.code u.type u.offset) :
    u.diagnostic line = .atOffset .unknownType u.message (some u.fallback) line u.offset
      u.type.length := by
  obtain ⟨t, ht, htype, hoffset⟩ := h
  have hplace : 0 ≤ u.offset ∧ (line.code.drop u.offset.toNat).take u.type.toList.length =
      u.type.toList := by
    rw [hoffset, htype]
    exact ⟨Int.natCast_nonneg _, (List.prefix_iff_eq_take.mp ht.found).symm⟩
  rw [TypeUse.diagnostic, if_pos hplace, String.length_toList]

theorem TypeUse.fits_diagnostic {u : TypeUse} (h : Text.HasAt line.code u.type u.offset) :
    (u.diagnostic line).Fits line := by
  rw [TypeUse.diagnostic_of_hasAt h]
  obtain ⟨t, ht, htype, hoffset⟩ := h
  rw [hoffset, htype]
  exact Diagnostic.fits_atOffset (by decide) ht.length_pos ht.add_le _ _

end ScriptLint
