import ScriptLint.Proofs.Outline.Found
import ScriptLint.Proofs.Subject.Marks

/-! What the findings of an analysis are about, and that they mark just that. Each check takes a
token from its line, speaks of it in the message, and places the finding on it; so the marked text
is the token, whatever base, region or mask the offsets went through. -/
namespace ScriptLint

open Text (Cursor Token)

/-- The line includes the module of the path. -/
def Line.Includes (line : Line) (path : String) : Prop :=
  ∃ token, Statement.ofText line.code = .inclusion token ∧ token.text = path

/-- The line is the head of a function with the access modifier. -/
def Line.HasModifier (line : Line) (modifier : String) : Prop :=
  ∃ head token, Statement.ofText line.code = .functionHead head ∧ head.access = some token ∧
    token.text = modifier

/-- The message of the finding starts like this. -/
def Diagnostic.Says (d : Diagnostic) (start : String) : Prop :=
  ∃ rest, d.message = start ++ rest

/-- The piece of the line is what a finding of the given code in the text itself is about: the path
of an include line; the type that is not known; the word or the name that was looked up; the sign
with the name of a macro, up to a closing bracket if its arguments are at issue; the modifier. -/
def Diagnostic.Concerns (d : Diagnostic) (t : SymbolTable) (line : Line) (piece : String) :
    DiagnosticCode → Prop
  | .unresolvedInclude | .symbolNotFoundInInclude => line.Includes piece
  | .unknownType =>
    ∃ u ∈ t.unknownTypes, u.line = line.number ∧ u.type = piece ∧ d.message = u.message
  | .undefinedClass =>
    piece.toList.head?.any Text.isUppercase = true ∧ t.hasClass piece = false ∧
      d.Says ("Class '" ++ piece ++ "'")
  | .undefinedVariable =>
    References.isVariableWord piece = true ∧ piece ∉ References.variableNames t ∧
      d.Says ("Variable '" ++ piece ++ "'")
  | .undefinedFunction =>
    Text.IsName piece ∧ t.findFunction? piece = none ∧ d.Says ("Function '" ++ piece ++ "'")
  | .functionInfo =>
    Text.IsName piece ∧ d.function.isSome ∧ d.function = t.findFunction? piece ∧
      d.message = "Function info: " ++ piece
  | .undefinedMacro =>
    ∃ name, Text.IsName name ∧ piece = "@" ++ name ∧ t.findMacro? name = none ∧
      d.Says ("Undefined macro '" ++ piece ++ "'")
  | .macroArityMismatch =>
    ∃ name, Text.IsName name ∧ ("@" ++ name).toList <+: piece.toList ∧
      piece.toList.getLast?.any Arguments.closesBracket = true ∧ (t.findMacro? name).isSome ∧
      d.Says ("Macro '@" ++ name ++ "'")
  | .accessModifierMisuse =>
    line.HasModifier piece ∧
      d.Says ("Functions are public by default and do not support '" ++ piece ++ "'")
  | .fileAccessError | .malformedDeclaration | .missingBrace | .unbalancedBraces => False

/-- The piece of the line is what the finding is about. Whatever was found in a library, it is the
path of the include line. -/
def Diagnostic.IsAbout (d : Diagnostic) (t : SymbolTable) (line : Line) (piece : String) : Prop :=
  if d.source = librarySource then line.Includes piece else d.Concerns t line piece d.code

/-- The finding is on the line, and unless it takes the line as a whole, it marks what it is
about. -/
structure Diagnostic.PointsAt (d : Diagnostic) (t : SymbolTable) (line : Line) : Prop where
  number : d.line = line.number
  subject : d.wholeLine = false →
    ∃ piece : String, d.marked? line = some piece.toList ∧ d.IsAbout t line piece

/-- The finding is on the line, and unless it takes the line as a whole, it spans a token of the
line that it is about. -/
structure Diagnostic.SpansSubject (d : Diagnostic) (t : SymbolTable) (line : Line) : Prop where
  number : d.line = line.number
  subject : d.wholeLine = false →
    ∃ token : Token, token.In line.code ∧ d.Spans line token ∧ d.IsAbout t line token.text

variable {t : SymbolTable} {line : Line}

namespace Diagnostic

/-- What spans the token that it is about marks that token. -/
theorem SpansSubject.pointsAt {d : Diagnostic} (h : d.SpansSubject t line) : d.PointsAt t line := by
  refine ⟨h.number, fun hpart => ?_⟩
  obtain ⟨token, hin, hspans, habout⟩ := h.subject hpart
  exact ⟨token.text, hspans.marked? hin, habout⟩

/-- A message that goes on with a quote behind the start says the start in quotes. -/
theorem says_of_quote {d : Diagnostic} {start quoted more : String} (rest : String)
    (h : d.message = start ++ quoted ++ more) (hquoted : quoted = "'" ++ rest) :
    d.Says (start ++ "'") :=
  ⟨rest ++ more, by rw [h, hquoted]; simp only [String.append_assoc]⟩

theorem IsAbout.of_own {d : Diagnostic} {piece : String} {code : DiagnosticCode}
    (hsource : d.source = ownSource) (hcode : d.code = code) (h : d.Concerns t line piece code) :
    d.IsAbout t line piece := by
  have hne : d.source ≠ librarySource := by
    rw [hsource]
    decide
  rw [IsAbout, if_neg hne, hcode]
  exact h

/-- What the text itself says of a token of the line spans the token. -/
theorem spansSubject_atOffset {token : Token} (h : token.In line.code) {code : DiagnosticCode}
    {message : String} (fallback : Option String)
    (hconcerns : ∀ d : Diagnostic, d.message = message → d.Concerns t line token.text code) :
    (atOffset code message fallback line token.offset token.text.length).SpansSubject t line := by
  obtain ⟨first, last, heq, hspans⟩ := exists_atOffset_spans h code message fallback
  rw [heq]
  exact ⟨rfl, fun _ => ⟨token, h, hspans _ rfl rfl, .of_own rfl rfl (hconcerns _ rfl)⟩⟩

theorem spansSubject_library {path : Token} (h : path.In line.code)
    (hs : Statement.ofText line.code = .inclusion path) (code : DiagnosticCode)
    (message : String) (fallback : Option String) :
    { atOffset code message fallback line path.offset path.text.length with
      source := librarySource }.SpansSubject t line := by
  obtain ⟨first, last, heq, hspans⟩ := exists_atOffset_spans h code message fallback
  rw [heq]
  refine ⟨rfl, fun _ => ⟨path, h, hspans _ rfl rfl, ?_⟩⟩
  rw [IsAbout, if_pos rfl]
  exact ⟨path, hs, rfl⟩

theorem spansSubject_onLine (code : DiagnosticCode) (message : String) :
    (onLine code message line).SpansSubject t line :=
  ⟨rfl, fun h => Bool.noConfusion h⟩

theorem SpansSubject.withSeverity {d : Diagnostic} (h : d.SpansSubject t line)
    (severity : Severity) :
    { d with severity := severity }.SpansSubject t line :=
  ⟨h.number, h.subject⟩

end Diagnostic

section Outline

theorem spansSubject_of_mem_headDiagnostics {d : Diagnostic} {statement : Statement}
    (hs : Statement.ofText line.code = statement) (h : d ∈ headDiagnostics line statement) :
    d.SpansSubject t line := by
  have htokens := Statement.tokensIn_ofText line.code
  rw [hs] at htokens
  have hbody : ∀ what, d ∈ (if opensBrace line.code then [] else [missingBody what line]) →
      d.SpansSubject t line := by
    intro what hd
    split at hd
    · exact (List.not_mem_nil hd).elim
    · rw [List.mem_singleton.mp hd]
      exact (Diagnostic.spansSubject_onLine _ _).withSeverity .warning
  cases statement with
  | classHead name =>
    simp only [headDiagnostics] at h
    split at h
    · exact (List.not_mem_nil h).elim
    · rw [List.mem_singleton.mp h]
      exact Diagnostic.spansSubject_onLine _ _
  | functionHead head =>
    rcases List.mem_append.mp h with hmodifier | hopen
    · obtain ⟨modifier, haccess, rfl⟩ := Option.map_eq_some_iff.mp (Option.mem_toList.mp hmodifier)
      refine Diagnostic.SpansSubject.withSeverity ?_ .warning
      refine Diagnostic.spansSubject_atOffset (htokens.access modifier haccess) none fun d hd => ?_
      refine ⟨⟨head, modifier, hs, haccess, rfl⟩, ?_⟩
      exact Diagnostic.says_of_quote " access modifier." (hd.trans String.append_empty.symm) rfl
    · exact hbody _ hopen
  | macroHead name params => exact hbody _ h
  | conditional => exact hbody _ h
  | _ => exact (List.not_mem_nil h).elim

/-- What is found while an outline is drawn up spans what it is about. -/
theorem Line.Gives.spansSubject {search : ModuleSearch} {d : Diagnostic} (h : line.Gives search d) :
    d.SpansSubject t line := by
  have hpath : ∀ {path : Token}, Statement.ofText line.code = .inclusion path →
      path.In line.code := by
    intro path hs
    have htokens := Statement.tokensIn_ofText line.code
    rwa [hs] at htokens
  cases h with
  | excess => exact Diagnostic.spansSubject_onLine _ _
  | unclosed => exact Diagnostic.spansSubject_onLine _ _
  | malformed h =>
    cases hs : Statement.ofText line.code with
    | malformed kind =>
      rw [hs] at h
      rw [List.mem_singleton.mp h]
      exact Diagnostic.spansSubject_onLine _ _
    | _ =>
      rw [hs] at h
      exact (List.not_mem_nil h).elim
  | head h => exact spansSubject_of_mem_headDiagnostics rfl h
  | unresolved hs =>
    exact Diagnostic.spansSubject_atOffset (hpath hs) none fun _ _ => ⟨_, hs, rfl⟩
  | unreadable hs file e => exact Diagnostic.spansSubject_library (hpath hs) hs _ _ _
  | library hs file inner => exact Diagnostic.spansSubject_library (hpath hs) hs _ _ _
  | missing hs r selection =>
    exact Diagnostic.spansSubject_atOffset (hpath hs) none fun _ _ => ⟨_, hs, rfl⟩

theorem Line.Gives.pointsAt {search : ModuleSearch} {d : Diagnostic} (h : line.Gives search d) :
    d.PointsAt t line :=
  h.spansSubject.pointsAt

end Outline

/-- A type that is not known is found where its declaration has it. -/
theorem TypeUse.spansSubject_diagnostic {u : TypeUse} (hu : u ∈ t.unknownTypes)
    (hline : u.line = line.number) (h : Text.HasAt line.code u.type u.offset) :
    (u.diagnostic line).SpansSubject t line := by
  rw [TypeUse.diagnostic_of_hasAt h]
  obtain ⟨token, hin, htype, hoffset⟩ := h
  rw [hoffset, htype]
  exact Diagnostic.spansSubject_atOffset hin _ fun d hd => ⟨u, hu, hline, htype, hd⟩

namespace References

/-- A word of the masked region of a line is a word of the line. -/
theorem in_of_word? {c next : Cursor} {word : Token}
    (hc : c.On (Literal.mask (region line).text)) (h : word? c = some (word, next)) :
    Token.In ⟨word.text, (region line).offset + word.offset⟩ line.code := by
  obtain ⟨hreads, hchars, -⟩ := reads_of_word? h
  refine in_of_in_mask_region (hreads.token_in hc) fun hblank => ?_
  -- A blank ends a word.
  exact absurd (hchars ' ' hblank) (by decide)

theorem spansSubject_of_mem_lineWordDiagnostics {d : Diagnostic}
    (h : d ∈ lineWordDiagnostics t (variableNames t) line) : d.SpansSubject t line := by
  unfold lineWordDiagnostics at h
  split at h
  · exact (List.not_mem_nil h).elim
  obtain ⟨⟨offset, word⟩, hmem, hd⟩ := List.mem_flatMap.mp h
  obtain ⟨c, next, hc, -, hread⟩ := Text.exists_of_mem_occurrences hmem
  have hin := in_of_word? hc hread
  unfold wordDiagnostics at hd
  dsimp only at hd
  split at hd
  · exact (List.not_mem_nil hd).elim
  · split at hd
    · next hcapital =>
      split at hd
      · exact (List.not_mem_nil hd).elim
      · next hclass =>
        rw [List.mem_singleton.mp hd]
        refine Diagnostic.spansSubject_atOffset hin _ fun d hd => ?_
        refine ⟨hcapital, by simpa using hclass, ?_⟩
        exact Diagnostic.says_of_quote " is not defined." hd rfl
    · split at hd
      · next hvariable =>
        split at hd
        · exact (List.not_mem_nil hd).elim
        · next hnames =>
          rw [List.mem_singleton.mp hd]
          refine Diagnostic.spansSubject_atOffset hin _ fun d hd => ?_
          simp only [Bool.or_eq_true, not_or] at hnames
          refine ⟨hvariable, by simpa using hnames.1.2, ?_⟩
          exact Diagnostic.says_of_quote " is not defined." hd rfl
      · exact (List.not_mem_nil hd).elim

/-- The name of a call in the masked region of a line is a name in the line. -/
theorem in_of_call? {c next : Cursor} {name : Token}
    (hc : c.On (Literal.mask (region line).text)) (h : call? c = some (name, next)) :
    Text.IsName name.text ∧
      Token.In ⟨name.text, (region line).offset + name.offset⟩ line.code := by
  simp only [call?, Option.bind_eq_bind, Option.bind_eq_some_iff] at h
  obtain ⟨⟨name', c₁⟩, hname, c₂, hopen, heq⟩ := h
  cases heq
  have hisName := Cursor.isName_of_name? hname
  have hin := (Cursor.reads_of_name? hname).token_in hc
  exact ⟨hisName, in_of_in_mask_region hin hisName.blank_notMem⟩

theorem spansSubject_of_mem_lineCallDiagnostics {d : Diagnostic}
    (h : d ∈ lineCallDiagnostics t line) : d.SpansSubject t line := by
  obtain ⟨⟨offset, name⟩, hmem, hd⟩ := List.mem_flatMap.mp h
  obtain ⟨c, next, hc, -, hread⟩ := Text.exists_of_mem_occurrences hmem
  obtain ⟨hname, hin⟩ := in_of_call? hc hread
  change d ∈ callDiagnostics t line (region line) (Literal.mask (region line).text) name at hd
  unfold callDiagnostics at hd
  split at hd
  · exact (List.not_mem_nil hd).elim
  · cases hfind : t.findFunction? name.text with
    | some f =>
      rw [hfind] at hd
      rw [List.mem_singleton.mp hd]
      -- The finding carries the function, so it is not one that only has a place and a message.
      obtain ⟨first, last, heq, hspans⟩ := Diagnostic.exists_atOffset_spans hin .functionInfo
        ("Function info: " ++ name.text)
        (some ("Function info: " ++ name.text ++ " (Position undetermined)"))
      dsimp only at heq
      rw [functionInfo, heq]
      refine ⟨rfl, fun _ => ⟨_, hin, hspans _ rfl rfl, .of_own rfl rfl ?_⟩⟩
      exact ⟨hname, rfl, hfind.symm, rfl⟩
    | none =>
      rw [hfind] at hd
      dsimp only at hd
      split at hd
      · exact (List.not_mem_nil hd).elim
      · rw [List.mem_singleton.mp hd]
        refine Diagnostic.spansSubject_atOffset hin _ fun d hd => ⟨hname, hfind, ?_⟩
        exact Diagnostic.says_of_quote " is not defined." hd rfl

/-- The sign and the name of a macro call stand in the line, and its arguments behind them. -/
theorem in_of_macroCall? {c next : Cursor} {call : MacroCall}
    (hc : c.On (Literal.maskContents line.code)) (h : macroCall? c = some (call, next)) :
    Text.IsName call.name ∧ Token.In ⟨"@" ++ call.name, c.offset⟩ line.code ∧
      ∀ n ∈ call.argumentsAt, c.offset + ("@" ++ call.name).length ≤ n := by
  simp only [macroCall?, Option.bind_eq_bind, Option.bind_eq_some_iff] at h
  obtain ⟨c₁, hat, ⟨name, c₂⟩, hname, hread⟩ := h
  have hisName := Cursor.isName_of_name? hname
  have hreads := Cursor.reads_of_name? hname
  have hc₁ : c₁.On (Literal.maskContents line.code) := (Cursor.reaches_of_word? hat).on hc
  have hnext : c₁ = c.advance 1 := Cursor.eq_advance_of_word? hat
  have hrest : c.rest = "@".toList ++ c₁.rest := by
    obtain ⟨rest, hrest⟩ := Cursor.prefix_of_word? hat
    rw [hnext, Cursor.advance, ← hrest]
    rfl
  have hfound : name.text.toList <+: c₁.rest := by
    have hin := (hreads.token_in hc₁).found
    rwa [hreads.offset_eq, ← show c₁.rest = _ from hc₁] at hin
  have hplace : Token.In ⟨"@" ++ name.text, c.offset⟩ line.code := by
    refine ⟨by simp, Literal.prefix_drop_of_maskContents ?_ ?_⟩
    · simpa using hisName.blank_notMem
    · rw [← show c.rest = _ from hc, hrest, String.toList_append]
      exact (List.prefix_append_right_inj _).mpr hfound
  have hbehind : c.offset + ("@" ++ name.text).length = c₂.offset := by
    have hlength := hreads.offset_add_length
    have hfirst : c₁.offset = c.offset + 1 := by
      rw [hnext]
      rfl
    have hsum : ("@" ++ name.text).length = 1 + name.text.length := String.length_append ..
    omega
  dsimp only at hread
  cases hopen : c₂.skipBlanks.word? "(" with
  | none =>
    rw [hopen] at hread
    cases hread
    exact ⟨hisName, hplace, fun n hn => (Option.not_mem_none n hn).elim⟩
  | some last =>
    rw [hopen] at hread
    cases hread
    refine ⟨hisName, hplace, fun n hn => ?_⟩
    have hle : c₂.offset ≤ next.offset := (Cursor.reaches_of_skipBlanks_word? hopen).offset_le
    have hlast : next.offset = n := Option.some.inj hn
    change c.offset + ("@" ++ name.text).length ≤ n
    omega

/-- The text from the sign to the closing bracket is a token of the line that starts with the name
of the macro. -/
theorem in_of_split? {name : String} {offset start close : Nat} {args : List (List Char)}
    (hname : Token.In ⟨"@" ++ name, offset⟩ line.code)
    (hstart : offset + ("@" ++ name).length ≤ start)
    (hsplit : Arguments.split? (Literal.maskContents line.code) start = some (args, close)) :
    ∃ token : Token, token.In line.code ∧ token.offset = offset ∧
      token.text.length = close + 1 - offset ∧
      ("@" ++ name).toList <+: token.text.toList ∧
      token.text.toList.getLast?.any Arguments.closesBracket = true := by
  obtain ⟨hle, hlt⟩ := Arguments.split?_lt hsplit
  rw [Literal.length_maskContents] at hlt
  have hclose := Literal.closesBracket_of_split?_maskContents hsplit
  have hlength : ((line.code.drop offset).take (close + 1 - offset)).length =
      close + 1 - offset := by
    rw [List.length_take, List.length_drop]
    omega
  have hprefix : ("@" ++ name).toList <+: (line.code.drop offset).take (close + 1 - offset) := by
    refine List.prefix_take_iff.mpr ⟨hname.found, ?_⟩
    rw [String.length_toList]
    omega
  refine ⟨⟨String.ofList ((line.code.drop offset).take (close + 1 - offset)), offset⟩,
    ⟨?_, ?_⟩, rfl, ?_, ?_, ?_⟩
  · rw [String.toList_ofList]
    exact List.length_pos_iff.mp (by omega)
  · rw [String.toList_ofList]
    exact List.take_prefix _ _
  · rw [← String.length_toList, String.toList_ofList, hlength]
  · rwa [String.toList_ofList]
  · have hlast : close + 1 - offset - 1 < close + 1 - offset := by omega
    have hindex : offset + (close + 1 - offset - 1) = close := by omega
    rw [String.toList_ofList, List.getLast?_eq_getElem?, hlength, List.getElem?_take_of_lt hlast,
      List.getElem?_drop, hindex]
    exact hclose

theorem spansSubject_undefinedMacro {name : String} {offset : Nat} (hname : Text.IsName name)
    (hin : Token.In ⟨"@" ++ name, offset⟩ line.code) (hfind : t.findMacro? name = none) :
    (undefinedMacro line offset name).SpansSubject t line := by
  have hlength : (name.length + 1 : Int) = ("@" ++ name).length := by
    have hsum : ("@" ++ name).length = 1 + name.length := String.length_append ..
    omega
  rw [undefinedMacro, hlength]
  refine Diagnostic.spansSubject_atOffset hin _ fun d hd => ⟨name, hname, rfl, hfind, ?_⟩
  -- The sign stands in the message with the quote before it, here it belongs to the name.
  have hmessage : d.message = "Undefined macro '" ++ ("@" ++ name) ++
      "'. Make sure it's defined in this file or imported correctly." ++ "" := by
    rw [hd, String.append_empty, ← String.append_assoc]
    rfl
  exact Diagnostic.says_of_quote ". Make sure it's defined in this file or imported correctly."
    hmessage rfl

theorem spansSubject_wrongArity {name : String} {offset start close expected : Nat}
    {args : List (List Char)} {m : MacroDecl} (hname : Text.IsName name)
    (hin : Token.In ⟨"@" ++ name, offset⟩ line.code) (hfind : t.findMacro? name = some m)
    (hstart : offset + ("@" ++ name).length ≤ start)
    (hsplit : Arguments.split? (Literal.maskContents line.code) start = some (args, close)) :
    (wrongArity line offset close name args.length expected).SpansSubject t line := by
  obtain ⟨token, htoken, hplace, hlength, hprefix, hcloses⟩ := in_of_split? hin hstart hsplit
  have hle := (Arguments.split?_lt hsplit).1
  have hwidth : (close : Int) + 1 - offset = token.text.length := by omega
  rw [wrongArity, hwidth, ← hplace]
  refine Diagnostic.SpansSubject.withSeverity ?_ .warning
  refine Diagnostic.spansSubject_atOffset htoken _ fun d hd => ?_
  refine ⟨name, hname, hprefix, hcloses, by rw [hfind]; rfl, ?_⟩
  have hmessage : d.message = "Macro '@" ++ name ++ "' called with " ++
      (toString args.length ++ " parameters but expects " ++ toString expected ++ ".") := by
    rw [hd]
    simp only [String.append_assoc]
  exact Diagnostic.says_of_quote " called with " hmessage rfl

theorem spansSubject_of_mem_macroDiagnostics {d : Diagnostic} (h : d ∈ macroDiagnostics t line) :
    d.SpansSubject t line := by
  obtain ⟨⟨offset, call⟩, hmem, hd⟩ := List.mem_flatMap.mp h
  obtain ⟨c, next, hc, hoffset, hread⟩ := Text.exists_of_mem_occurrences hmem
  obtain ⟨hname, hin, harguments⟩ := in_of_macroCall? hc hread
  change c.offset = offset at hoffset
  rw [hoffset] at hin harguments
  change d ∈ macroCallDiagnostics t line (Literal.maskContents line.code) offset call at hd
  unfold macroCallDiagnostics at hd
  cases hfind : t.findMacro? call.name with
  | none =>
    rw [hfind] at hd
    rw [List.mem_singleton.mp hd]
    exact spansSubject_undefinedMacro hname hin hfind
  | some m =>
    rw [hfind] at hd
    dsimp only at hd
    cases hargs : call.argumentsAt.bind (Arguments.split? (Literal.maskContents line.code)) with
    | none =>
      rw [hargs] at hd
      exact (List.not_mem_nil hd).elim
    | some found =>
      obtain ⟨args, close⟩ := found
      obtain ⟨start, hstart, hsplit⟩ := Option.bind_eq_some_iff.mp hargs
      rw [hargs] at hd
      dsimp only at hd
      split at hd
      · exact (List.not_mem_nil hd).elim
      · rw [List.mem_singleton.mp hd]
        exact spansSubject_wrongArity hname hin hfind (harguments start hstart) hsplit

end References

theorem spansSubject_of_mem_references {lines : List Line} {d : Diagnostic}
    (h : d ∈ References.diagnostics lines t) : ∃ line ∈ lines, d.SpansSubject t line := by
  have hpass : ∀ {find : Line → List Diagnostic},
      (∀ line, ∀ found ∈ find line, found.SpansSubject t line) →
      d ∈ (lines.filter fun line => !line.isBlank).flatMap find →
        ∃ line ∈ lines, d.SpansSubject t line := by
    intro find hfind hmem
    obtain ⟨line, hline, hfound⟩ := List.mem_flatMap.mp hmem
    exact ⟨line, (List.mem_filter.mp hline).1, hfind line d hfound⟩
  rcases List.mem_append.mp h with h | hcall
  · rcases List.mem_append.mp h with hmacro | hword
    · exact hpass (fun _ _ => References.spansSubject_of_mem_macroDiagnostics) hmacro
    · exact hpass (fun _ _ => References.spansSubject_of_mem_lineWordDiagnostics) hword
  · exact hpass (fun _ _ => References.spansSubject_of_mem_lineCallDiagnostics) hcall

theorem spansSubject_of_mem_typeCheck {text : List Char} {d : Diagnostic}
    (htypes : t.TypesIn (Line.ofSource text))
    (h : d ∈ TypeCheck.diagnostics (Line.ofSource text) t) :
    ∃ line ∈ Line.ofSource text, d.SpansSubject t line := by
  obtain ⟨u, hu, hsome⟩ := List.mem_filterMap.mp h
  obtain ⟨line, hline, hnumber, hplace⟩ := htypes u (List.mem_filter.mp hu).1
  rw [hnumber, Line.at?_ofSource hline] at hsome
  cases hsome
  exact ⟨line, hline, TypeUse.spansSubject_diagnostic hu hnumber hplace⟩

theorem pointsAt_of_mem_references {lines : List Line} {d : Diagnostic}
    (h : d ∈ References.diagnostics lines t) : ∃ line ∈ lines, d.PointsAt t line := by
  obtain ⟨line, hline, hspans⟩ := spansSubject_of_mem_references h
  exact ⟨line, hline, hspans.pointsAt⟩

theorem pointsAt_of_mem_typeCheck {text : List Char} {d : Diagnostic}
    (htypes : t.TypesIn (Line.ofSource text))
    (h : d ∈ TypeCheck.diagnostics (Line.ofSource text) t) :
    ∃ line ∈ Line.ofSource text, d.PointsAt t line := by
  obtain ⟨line, hline, hspans⟩ := spansSubject_of_mem_typeCheck htypes h
  exact ⟨line, hline, hspans.pointsAt⟩

/-- Every finding of an analysis that does not take a line as a whole starts at a character of the
comment-free text of its line, and what it marks there is what it is about. -/
theorem analyze_marks (disk : Disk) (config : Config) (file : Option String) (text : List Char) :
    ∀ d ∈ (analyze disk config file text).diagnostics, d.wholeLine = false →
      ∃ line ∈ Line.ofSource text, line.number = d.line ∧
        ∃ piece : String, d.marked? line = some piece.toList ∧
          d.IsAbout (analyze disk config file text).table line piece := by
  intro d hd hpart
  have houtline := congrArg Prod.fst
    (ModuleSource.outline_eq (s := config.modules disk) true file (Line.ofSource text) {})
  have hpoints : ∃ line ∈ Line.ofSource text,
      d.PointsAt (analyze disk config file text).table line := by
    rw [analyze_diagnostics] at hd
    rcases List.mem_append.mp hd with hd | huse
    · rcases List.mem_append.mp hd with hread | htype
      · rw [houtline] at hread
        obtain ⟨line, hline, hgives⟩ :=
          Outline.gives_of_mem_diagnostics (Line.numbered_ofSource text) hread
        exact ⟨line, hline, hgives.pointsAt⟩
      · refine pointsAt_of_mem_typeCheck ?_ htype
        rw [analyze_table, houtline]
        exact Outline.typesIn_ofLines _ _ _ _ _ _
    · exact pointsAt_of_mem_references huse
  obtain ⟨line, hline, hnumber, hsubject⟩ := hpoints
  exact ⟨line, hline, hnumber.symm, hsubject hpart⟩

/-- A class among the arguments of a call, behind a comment, is what its finding marks. -/
theorem analyze_marks_commented :
    ∃ d ∈ (analyze .bare .bare none "/* one */print(Widget)".toList).diagnostics,
      d.wholeLine = false ∧
      ∃ line ∈ Line.ofSource "/* one */print(Widget)".toList, line.number = d.line ∧
        ∃ piece : String, d.marked? line = some piece.toList ∧
          d.IsAbout (analyze .bare .bare none "/* one */print(Widget)".toList).table line
            piece := by
  have hparts : (analyze .bare .bare none "/* one */print(Widget)".toList).diagnostics.map
      (·.wholeLine) = [false] := by
    decide +kernel
  obtain ⟨d, hd, hpart⟩ := List.mem_map.mp (hparts ▸ List.mem_singleton_self false)
  exact ⟨d, hd, hpart, analyze_marks .bare .bare none _ d hd hpart⟩

example : (Line.ofSource "/* one */print(Widget)".toList).flatMap (fun line =>
    (analyze .bare .bare none "/* one */print(Widget)".toList).diagnostics.map
      (·.marked? line)) = [some "Widget".toList] := by
  decide +kernel

end ScriptLint
