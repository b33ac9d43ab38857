import ScriptLint.Check.References
import ScriptLint.Proofs.Literals.Heads
import ScriptLint.Proofs.Literals.Lines
import ScriptLint.Proofs.Literals.Regions
import ScriptLint.Proofs.Literals.Statements
import ScriptLint.Proofs.Outline.Steps

/-! Findings in two lines that differ in their literals. Most of what is read of a line is read of
its masked text. What is read of the text as it is, is named one by one: the parameters of a head,
the brackets of conditions and calls, the braces of bodies. Where the literals keep away from these
nothing tells the lines apart. -/
namespace ScriptLint

open Literal (IsQuote)
open Statement (ofText)

/-- The literals of the lines do not take part in what is read of a line as it is. -/
structure Line.Inert (a b : Line) : Prop where
  /-- No quote stands in code behind a backslash. -/
  quotes : ∀ x ∈ a.text.zip a.marks, x.2 = .code → ¬IsQuote x.1
  /-- No literal stands among the parameters of a head. -/
  params : (ofText a.code).hasParameters ∨ (ofText b.code).hasParameters →
    ∀ x ∈ a.code.takeWhile (· != ')'), ¬IsQuote x
  /-- A condition is not closed by the bracket of a literal. -/
  closes : (ofText a.code).isConditional ∨ (ofText b.code).isConditional →
    (')' ∈ a.code ↔ ')' ∈ b.code)
  /-- The body of a head is not opened by the brace of a literal. -/
  opens : (ofText a.code).hasParameters ∨ (ofText a.code).isConditional →
    ('\x7b' ∈ a.code ↔ '\x7b' ∈ b.code)
  /-- The head of a class has no brace in a literal. -/
  body : (ofText a.code).isClassHead → Literal.Mode.outside.Without ['\x7b', '\x7d'] a.code ∧
    Literal.Mode.outside.Without ['\x7b', '\x7d'] b.code
  /-- A line with a call in the external form has no round bracket in a literal. -/
  external : (References.region a).isExternal ∨ (References.region b).isExternal →
    Literal.Mode.outside.Without ['(', ')'] a.code ∧
      Literal.Mode.outside.Without ['(', ')'] b.code

/-- The same is read of both lines. -/
structure Line.Agree (a b : Line) : Prop where
  twin : a.Twin b
  isBlank : a.isBlank = b.isBlank
  mask : Literal.mask a.code = Literal.mask b.code
  maskContents : Literal.maskContents a.code = Literal.maskContents b.code
  statement : ofText a.code = ofText b.code
  declares : isDeclarationLine a.code = isDeclarationLine b.code
  opens : (ofText a.code).hasParameters ∨ (ofText a.code).isConditional →
    opensBrace a.code = opensBrace b.code
  body : (ofText a.code).isClassHead →
    (a.trimmed.getLast? = some '\x7b' ↔ b.trimmed.getLast? = some '\x7b') ∧
      isOneLiner a.code = isOneLiner b.code
  region : Literal.mask (References.region a).text = Literal.mask (References.region b).text ∧
    (References.region a).offset = (References.region b).offset ∧
    (References.region a).isExternal = (References.region b).isExternal

/-- The same is read of lines whose literals keep away from what is read as it is. -/
theorem Line.Twin.agree {a b : Line} (h : a.Twin b) (hinert : a.Inert b) (ha : '\n' ∉ a.text)
    (hb : '\n' ∉ b.text) : a.Agree b := by
  have halike := h.alike hinert.quotes ha hb
  exact {
    twin := h
    isBlank := halike.isEmpty_trim_eq
    mask := halike.mask_eq
    maskContents := halike.maskContents_eq
    statement := Statement.ofText_congr halike hinert.params hinert.closes
    declares := halike.isDeclarationLine_eq
    opens := fun hhead => by
      rw [opensBrace, opensBrace, Bool.eq_iff_iff, List.contains_iff_mem, List.contains_iff_mem,
        hinert.opens hhead]
    body := fun hclass => by
      have hbrace : ∀ {text : List Char}, Literal.Mode.outside.Without ['\x7b', '\x7d'] text →
          '\x7b' ∉ Literal.Mode.outside.contents text :=
        fun hwithout => hwithout '\x7b' List.mem_cons_self
      obtain ⟨hwa, hwb⟩ := hinert.body hclass
      exact ⟨halike.getLast?_trim_iff (hbrace hwa) (hbrace hwb), halike.isOneLiner_eq hwa hwb⟩
    region := References.region_congr halike hinert.external }

namespace Line.Agree

variable {a b : Line} (h : a.Agree b)
include h

theorem onLine (code : DiagnosticCode) (message : String) :
    Diagnostic.onLine code message a = Diagnostic.onLine code message b := by
  rw [Diagnostic.onLine, Diagnostic.onLine, h.twin.number, h.twin.length_text_eq]

theorem atOffset (code : DiagnosticCode) (message : String) (fallback : Option String)
    (offset length : Int) :
    Diagnostic.atOffset code message fallback a offset length =
      Diagnostic.atOffset code message fallback b offset length := by
  unfold Diagnostic.atOffset
  rw [h.twin.column?_eq, h.twin.number]
  simp only [h.onLine]

theorem matchBraces (unclosed : List Int) :
    ScriptLint.matchBraces unclosed a = ScriptLint.matchBraces unclosed b := by
  rw [ScriptLint.matchBraces, ScriptLint.matchBraces, h.mask, h.twin.number]

theorem headDiagnostics :
    ScriptLint.headDiagnostics a (ofText a.code) =
      ScriptLint.headDiagnostics b (ofText a.code) := by
  have hopens := h.opens
  have hbody := h.body
  cases hs : ofText a.code with
  | classHead name =>
    rw [hs] at hbody
    obtain ⟨hlast, hone⟩ := hbody rfl
    simp only [ScriptLint.headDiagnostics, hlast, hone, h.onLine]
  | functionHead head =>
    rw [hs] at hopens
    have hmodifier : misusedModifier a = misusedModifier b :=
      funext fun m => by rw [misusedModifier, misusedModifier, h.atOffset]
    simp only [ScriptLint.headDiagnostics, hopens (.inl rfl), missingBody, h.onLine, hmodifier]
  | macroHead name params =>
    rw [hs] at hopens
    simp only [ScriptLint.headDiagnostics, hopens (.inl rfl), missingBody, h.onLine]
  | conditional =>
    rw [hs] at hopens
    simp only [ScriptLint.headDiagnostics, hopens (.inr rfl), missingBody, h.onLine]
  | _ => rfl

theorem malformedDiagnostics (statement : Statement) :
    ScriptLint.malformedDiagnostics a statement = ScriptLint.malformedDiagnostics b statement := by
  cases statement with
  | malformed kind => simp only [ScriptLint.malformedDiagnostics, h.onLine]
  | _ => rfl

theorem macroDiagnostics (t : SymbolTable) :
    References.macroDiagnostics t a = References.macroDiagnostics t b := by
  have hcall : ∀ masked offset call, References.macroCallDiagnostics t a masked offset call =
      References.macroCallDiagnostics t b masked offset call := by
    intro masked offset call
    simp only [References.macroCallDiagnostics, References.undefinedMacro, References.wrongArity,
      h.atOffset]
  rw [References.macroDiagnostics, References.macroDiagnostics, h.maskContents]
  simp only [hcall]

theorem isDeclaration : References.isDeclaration a = References.isDeclaration b := by
  rw [References.isDeclaration, References.isDeclaration, h.declares, h.statement]

theorem lineWordDiagnostics (t : SymbolTable) (names : List String) :
    References.lineWordDiagnostics t names a = References.lineWordDiagnostics t names b := by
  obtain ⟨hmask, hoffset, -⟩ := h.region
  have hword : ∀ base masked word, References.wordDiagnostics t names a base masked word =
      References.wordDiagnostics t names b base masked word := by
    intro base masked word
    simp only [References.wordDiagnostics, References.undefinedClass,
      References.undefinedVariable, h.atOffset]
  unfold References.lineWordDiagnostics
  simp only [h.isDeclaration, hmask, hoffset, hword]

theorem lineCallDiagnostics (t : SymbolTable) :
    References.lineCallDiagnostics t a = References.lineCallDiagnostics t b := by
  obtain ⟨hmask, hoffset, hexternal⟩ := h.region
  have hnoCall : ∀ masked name, References.isNoCall a masked name =
      References.isNoCall b masked name := by
    intro masked name
    rw [References.isNoCall, References.isNoCall, References.isDefinition,
      References.isDefinition, h.statement]
  unfold References.lineCallDiagnostics
  simp only [References.callDiagnostics, References.functionInfo, References.undefinedFunction,
    hmask, hoffset, hexternal, hnoCall, h.atOffset]

end Line.Agree

theorem TypeUse.diagnostic_of_agree {a b : Line} (h : a.Agree b) {u : TypeUse}
    (ha : Text.HasAt a.code u.type u.offset) (hb : Text.HasAt b.code u.type u.offset) :
    u.diagnostic a = u.diagnostic b := by
  rw [diagnostic_of_hasAt ha, diagnostic_of_hasAt hb, h.atOffset]

namespace Draft

variable {State : Type} {a b : Line} (h : a.Agree b) (d : Draft State)
include h

theorem settle_of_agree (file : Option String) : d.settle file a = d.settle file b := by
  unfold settle excessBrace
  rw [h.matchBraces, h.onLine]

theorem takeOver_of_agree (path : Text.Token) (r : Resolution) (o : Outline) :
    d.takeOver a path r o = d.takeOver b path r o := by
  have hlibrary : libraryDiagnostic a path r.file.toText =
      libraryDiagnostic b path r.file.toText :=
    funext fun found => by rw [libraryDiagnostic, libraryDiagnostic, h.atOffset]
  unfold takeOver missingSymbol
  simp only [hlibrary, h.atOffset]

variable (search : ModuleSearch) (disk : Disk) (load : Path → State → ModuleReply × State)
  (origin : Origin)

theorem followInclude_of_agree (directory : String) (path : Text.Token) :
    d.followInclude search disk load directory a path =
      d.followInclude search disk load directory b path := by
  unfold followInclude unresolvedInclude unreadableModule
  simp only [h.atOffset, h.twin.number, takeOver_of_agree h]

theorem readLine_of_agree :
    d.readLine search disk load origin a = d.readLine search disk load origin b := by
  rcases b.isBlank_or_inclusion_or with hb | ⟨hb, ⟨path, hs⟩ | hs⟩
  · rw [readLine_of_isBlank d search disk load origin (h.isBlank.trans hb),
      readLine_of_isBlank d search disk load origin hb]
  · rw [readLine_of_inclusion d search disk load origin (h.isBlank.trans hb)
        (h.statement.trans hs),
      readLine_of_inclusion d search disk load origin hb hs, settle_of_agree h,
      followInclude_of_agree h]
  · have hs' : ∀ path, ofText a.code ≠ .inclusion path := by rwa [h.statement]
    rw [readLine_of_ne_inclusion d search disk load origin (h.isBlank.trans hb) hs',
      readLine_of_ne_inclusion d search disk load origin hb hs, settle_of_agree h, h.twin.number,
      h.malformedDiagnostics, h.headDiagnostics, h.statement]

end Draft

end ScriptLint
