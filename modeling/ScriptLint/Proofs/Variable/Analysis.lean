import ScriptLint.Proofs.Calls.Sites
import ScriptLint.Proofs.Line.Joined
import ScriptLint.Proofs.Subject.Analysis
import ScriptLint.Proofs.Variable.Table

/-! What declaring a variable at the end of a text changes in its analysis: the words that name the
variable are no longer reported, wherever they stand, and all other findings stay as they are. -/
namespace ScriptLint

open Text (Cursor Token)

/-- A declaration of the variable. -/
def Identifier.declaration (x : Identifier) : List Char :=
  "var ".toList ++ (x.chars ++ " int".toList)

/-- The finding says of the word that no variable of this name is declared. -/
def Diagnostic.SaysUndefined (d : Diagnostic) (word : String) : Prop :=
  d.code = .undefinedVariable ∧ d.Says ("Variable '" ++ word ++ "'")

theorem Diagnostic.says_iff {d : Diagnostic} {start : String} :
    d.Says start ↔ start.toList <+: d.message.toList := by
  constructor
  · rintro ⟨rest, hrest⟩
    rw [hrest, String.toList_append]
    exact List.prefix_append _ _
  · rintro ⟨rest, hrest⟩
    refine ⟨String.ofList rest, String.toList_injective ?_⟩
    rw [String.toList_append, String.toList_ofList, hrest]

theorem Diagnostic.atOffset_message_or (code : DiagnosticCode) (message : String)
    (fallback : Option String) (line : Line) (offset length : Int) :
    let d := atOffset code message fallback line offset length
    d.message = message ∨ fallback = some d.message := by
  unfold atOffset
  cases line.column? offset with
  | some column => exact .inl rfl
  | none =>
    cases fallback with
    | none => exact .inl rfl
    | some text =>
      by_cases htext : text = ""
      · exact .inl (by simp [onLine, Option.filter, htext])
      · exact .inr (by simp [onLine, Option.filter, htext])

instance (d : Diagnostic) (start : String) : Decidable (d.Says start) :=
  decidable_of_iff' _ Diagnostic.says_iff

instance (d : Diagnostic) (word : String) : Decidable (d.SaysUndefined word) :=
  inferInstanceAs (Decidable (_ ∧ _))

/-- The text in front of the first quote is known if it has none itself. -/
theorem takeWhile_quote {name : List Char} (h : '\x27' ∉ name) (rest : List Char) :
    (name ++ '\x27' :: rest).takeWhile (· != '\x27') = name := by
  have hname : ∀ c ∈ name, (c != '\x27') = true := by
    intro c hc
    simpa using fun heq : c = '\x27' => h (heq ▸ hc)
  rw [List.takeWhile_append_of_pos hname]
  exact List.append_nil _

/-- What is said of a word is said of no other word. -/
theorem eq_of_says_variable {d : Diagnostic} {word other : String} (hword : '\x27' ∉ word.toList)
    (hother : '\x27' ∉ other.toList) (h : d.Says ("Variable '" ++ word ++ "'"))
    (h' : d.Says ("Variable '" ++ other ++ "'")) : word = other := by
  obtain ⟨rest, hrest⟩ := h
  obtain ⟨rest', hrest'⟩ := h'
  have hboth := congrArg String.toList (hrest.symm.trans hrest')
  simp only [String.toList_append, List.append_assoc] at hboth
  have hnames := List.append_cancel_left hboth
  have hfront := congrArg (List.takeWhile (· != '\x27')) hnames
  change (word.toList ++ '\x27' :: rest.toList).takeWhile _ =
    (other.toList ++ '\x27' :: rest'.toList).takeWhile _ at hfront
  rw [takeWhile_quote hword, takeWhile_quote hother] at hfront
  exact String.toList_injective hfront

/-- Findings with codes of another part say of no word that it is undefined. -/
theorem CodesOf.filter_saysUndefined {check : Check} {found : List Diagnostic}
    (h : CodesOf check found) (hcheck : check ≠ .words) (word : String) :
    found.filter (fun d => ¬d.SaysUndefined word) = found := by
  refine List.filter_eq_self.mpr fun d hd => decide_eq_true fun hsaid => hcheck ?_
  rw [← h d hd, hsaid.1]
  rfl

namespace References

variable {t t' : SymbolTable} {line : Line}

theorem says_undefinedVariable (line : Line) (offset : Nat) (word : String) :
    (undefinedVariable line offset word).Says ("Variable '" ++ word ++ "'") := by
  have hmessage : ∃ more, (undefinedVariable line offset word).message =
      "Variable '" ++ word ++ "' is not defined." ++ more := by
    rcases Diagnostic.atOffset_message_or .undefinedVariable
      ("Variable '" ++ word ++ "' is not defined." ++ " Check spelling or define it before use.")
      (some ("Variable '" ++ word ++ "' is not defined." ++
        " (Could not determine exact location)")) line offset word.length with hfound | hfallback
    · exact ⟨_, hfound⟩
    · exact ⟨_, (Option.some.inj hfallback).symm⟩
  obtain ⟨more, hmore⟩ := hmessage
  have hquote : "' is not defined." = "'" ++ " is not defined." := rfl
  refine ⟨" is not defined." ++ more, ?_⟩
  rw [hmore, hquote]
  simp only [String.append_assoc]

/-- A word is said to be undefined only where it stands itself. -/
theorem saysUndefined_undefinedVariable_iff {offset : Nat} {word : String} {x : Identifier}
    (hword : isVariableWord word = true) :
    (undefinedVariable line offset word).SaysUndefined x.text ↔ word = x.text := by
  have hquote : ∀ {name : List Char}, (∀ c ∈ name, Text.isNameChar c = true) → '\x27' ∉ name :=
    fun h hmem => absurd (h _ hmem) (by decide)
  have hsaid := says_undefinedVariable line offset word
  constructor
  · rintro ⟨-, hx⟩
    refine eq_of_says_variable (hquote (isIdentifier_of_isVariableWord hword).isName.2) ?_ hsaid hx
    rw [Identifier.text, String.toList_ofList]
    exact hquote x.goesOn
  · rintro rfl
    exact ⟨Diagnostic.atOffset_code .., hsaid⟩

section OneMore

variable {names names' : List String} {x : Identifier}
  (hclasses : ∀ name, t'.hasClass name = t.hasClass name)
  (hnames : ∀ word, word ∈ names' ↔ word = x.text ∨ word ∈ names)
include hclasses hnames

/-- With one more variable known, a word is reported as before unless it is that variable. -/
theorem wordDiagnostics_declared (base : Nat) (masked : List Char) (word : Token) :
    wordDiagnostics t' names' line base masked word =
      (wordDiagnostics t names line base masked word).filter
        (fun d => ¬d.SaysUndefined x.text) := by
  unfold wordDiagnostics
  dsimp only
  split
  · rfl
  split
  · -- What is said of a class has another code.
    have hkept : ¬(undefinedClass line (base + word.offset) word.text).SaysUndefined x.text := by
      rintro ⟨hcode, -⟩
      rw [undefinedClass, Diagnostic.atOffset_code] at hcode
      cases hcode
    rw [hclasses]
    split
    · rfl
    · simp [hkept]
  split
  · next hvariable =>
    have hsaid : (undefinedVariable line (base + word.offset) word.text).SaysUndefined x.text ↔
        word.text = x.text :=
      saysUndefined_undefinedVariable_iff hvariable
    by_cases hx : word.text = x.text
    · have hknown : names'.contains word.text = true := by simp [hnames, hx]
      simp only [hknown, Bool.or_true, Bool.true_or, ↓reduceIte]
      split
      · rfl
      · simp [hsaid.mpr hx]
    · have hsame : names'.contains word.text = names.contains word.text := by
        rw [Bool.eq_iff_iff]
        simp [hnames, hx]
      rw [hsame]
      split
      · rfl
      · simp [hsaid, hx]
  · rfl

theorem lineWordDiagnostics_declared :
    lineWordDiagnostics t' names' line =
      (lineWordDiagnostics t names line).filter (fun d => ¬d.SaysUndefined x.text) := by
  unfold lineWordDiagnostics
  split
  · rfl
  · dsimp only
    rw [List.filter_flatMap]
    simp only [wordDiagnostics_declared hclasses hnames]

end OneMore

theorem macroDiagnostics_congr (h : ∀ name, t'.findMacro? name = t.findMacro? name) :
    macroDiagnostics t' line = macroDiagnostics t line := by
  simp only [macroDiagnostics, macroCallDiagnostics, h]

theorem lineCallDiagnostics_congr (h : ∀ name, t'.findFunction? name = t.findFunction? name) :
    lineCallDiagnostics t' line = lineCallDiagnostics t line := by
  simp only [lineCallDiagnostics, callDiagnostics, h]

end References

section Declaration

variable (x : Identifier)

/-- The line of the declaration, if it has number `n`. -/
def Identifier.declarationLine (n : Nat) : Line :=
  ⟨n, x.declaration, false⟩

/-- The type of the declaration. -/
def intType : TypeName :=
  ⟨⟨['i', 'n', 't'], by decide, List.all_eq_true.mp (by decide)⟩, false⟩

/-- Lines that are not indented. -/
def Layout.flush : Layout where
  indent _ := []
  isBlank_indent := by simp
  lineFeed_indent := by simp
  closesAtOnce _ := false
  endsLastLine := false

theorem Identifier.declaration_eq :
    x.declaration = Layout.variableStart x ++ intType.chars := by
  have hspace : " int".toList = ' ' :: intType.chars := rfl
  rw [declaration, hspace, Layout.variableStart]
  simp

theorem Identifier.isParamChar_declaration :
    ∀ c ∈ x.declaration, Layout.isParamChar c = true :=
  List.forall_mem_append.mpr ⟨List.all_eq_true.mp rfl,
    List.forall_mem_append.mpr ⟨Layout.isParamChar_identifier x, List.all_eq_true.mp rfl⟩⟩

theorem Identifier.states_declarationLine (n : Nat) :
    Layout.States (x.declarationLine n) (.variableDecl none ⟨x.text, 4⟩
      ⟨"int", (Layout.variableStart x).length⟩) := by
  have h := Layout.states_variable Layout.flush n x intType
  have hlength : (Layout.flush.indent n).length + (Layout.variableStart x).length =
      (Layout.variableStart x).length := Nat.zero_add _
  rw [hlength, ← declaration_eq] at h
  exact h

theorem Identifier.isPlain_declaration : ∀ c ∈ x.declaration, Text.isPlain c = true :=
  fun c hc => Layout.isPlain_of_isHeadChar
    (Layout.isHeadChar_of_isParamChar (x.isParamChar_declaration c hc))

theorem Identifier.notMem_code_declarationLine {c : Char} (h : Layout.isParamChar c = false)
    (n : Nat) : c ∉ (x.declarationLine n).code := by
  intro hmem
  rw [declarationLine, Line.code_of_plain x.isPlain_declaration] at hmem
  rw [x.isParamChar_declaration c hmem] at h
  cases h

theorem Identifier.matchBraces_declarationLine (n : Nat) (unclosed : List Int) :
    matchBraces unclosed (x.declarationLine n) = (unclosed, false) :=
  matchBraces_of_notMem (x.notMem_code_declarationLine rfl n)
    (x.notMem_code_declarationLine rfl n) unclosed

theorem Identifier.declares?_declarationLine (n : Nat) :
    (x.declarationLine n).declares? = some .variableDecl := by
  have h := x.states_declarationLine n
  rw [Line.declares?, h.isBlank, h.ofText]
  rfl

theorem Identifier.classHead?_declarationLine (n : Nat) :
    (x.declarationLine n).classHead? = none := by
  have h := x.states_declarationLine n
  rw [Line.classHead?, h.isBlank, h.ofText]
  rfl

/-- Its names are declared and not used. -/
theorem Identifier.isDeclaration_declarationLine (n : Nat) :
    References.isDeclaration (x.declarationLine n) = true := by
  rw [References.isDeclaration, (x.states_declarationLine n).ofText, Bool.or_true]

theorem Identifier.typeUses_declarationLine (n : Nat) :
    (x.declarationLine n).typeUses.map (·.type) = ["int"] := by
  have h := x.states_declarationLine n
  simp only [Line.typeUses, Line.members, h.isBlank, h.ofText]
  rfl

/-- The declaration is the last line of the text, if the text in front of it is ended there. -/
theorem Identifier.ofSource_append_declaration {text : List Char}
    (hreturn : text.getLast? ≠ some '\r')
    (hcomment : ∀ line ∈ (Line.ofSource text).getLast?, line.endsInComment = false) :
    Line.ofSource (text ++ '\n' :: x.declaration) =
      Line.ofSource text ++ [x.declarationLine ((Line.ofSource text).length + 1)] := by
  obtain ⟨ended, -, hsame, hlines⟩ := Text.exists_sourceLines text
  have hended : ended = Text.sourceLines text := hsame hreturn
  have hlast : Text.sourceLines x.declaration = [x.declaration] := by
    have hfeed := Text.lineFeed_notMem_of_plain x.isPlain_declaration
    rw [Text.sourceLines, Text.mergeReturns_of_notMem hfeed, Text.pieces_of_notMem hfeed]
  have hopen : Line.openBehind false (Text.sourceLines text) = false := by
    rw [Line.openBehind_eq 1]
    change (Line.ofSource text).getLast?.elim false (·.endsInComment) = false
    cases hline : (Line.ofSource text).getLast? with
    | none => rfl
    | some line => exact hcomment line hline
  have hlength : 1 + (Text.sourceLines text).length = (Line.ofSource text).length + 1 := by
    rw [Line.ofSource, Line.length_ofSource_go, Nat.add_comm]
  rw [Line.ofSource, hlines, hended, Line.ofSource_go_append, hopen, hlast, hlength]
  rfl

end Declaration

section Analysis

/-- The types that are declared are reported as before: that of the new variable is built in. -/
theorem TypeCheck.diagnostics_declared {text text' : List Char} {t t' : SymbolTable}
    {file : Option String} {x : Identifier} {n : Nat}
    (hlines : Line.ofSource text' = Line.ofSource text ++ [x.declarationLine n])
    (hbody : t.body = declaredBody file (Line.ofSource text))
    (hbody' : t'.body = declaredBody file (Line.ofSource text'))
    (himports : t'.imports = t.imports) :
    TypeCheck.diagnostics (Line.ofSource text') t' =
      TypeCheck.diagnostics (Line.ofSource text) t := by
  have hunknown : ∀ type, IsUnknownType (Line.ofSource text') t'.imports type ↔
      IsUnknownType (Line.ofSource text) t.imports type := by
    intro type
    rw [isUnknownType_iff, isUnknownType_iff, himports, hlines]
    simp only [List.forall_mem_append, List.forall_mem_singleton, x.classHead?_declarationLine n,
      Option.map_none, ne_eq, reduceCtorEq, not_false_eq_true, and_true]
  have hvars : linesOfKind .variableDecl (Line.ofSource text') =
      linesOfKind .variableDecl (Line.ofSource text) ++ [x.declarationLine n] := by
    rw [hlines, linesOfKind, List.filter_append]
    simp [linesOfKind, x.declares?_declarationLine n]
  have hfunctions : linesOfKind .functionDecl (Line.ofSource text') =
      linesOfKind .functionDecl (Line.ofSource text) := by
    rw [hlines, linesOfKind, List.filter_append]
    simp [linesOfKind, x.declares?_declarationLine n]
  have hbuiltin : ((x.declarationLine n).typeUses.map (x.declarationLine n, ·)).filter
      (fun use => IsUnknownType (Line.ofSource text) t.imports use.2.type) = [] := by
    refine List.filter_eq_nil_iff.mpr fun use huse hneeds => ?_
    obtain ⟨u, hu, rfl⟩ := List.mem_map.mp huse
    have htype : u.type ∈ (x.declarationLine n).typeUses.map (·.type) := List.mem_map_of_mem hu
    rw [x.typeUses_declarationLine n, List.mem_singleton] at htype
    apply (of_decide_eq_true hneeds).not_builtin
    rw [htype]
    decide
  rw [TypeCheck.diagnostics_eq hbody, TypeCheck.diagnostics_eq hbody']
  simp only [hunknown]
  rw [locatedUses, locatedUses, hvars, hfunctions]
  simp only [List.flatMap_append, List.filter_append, List.flatMap_singleton, hbuiltin,
    List.append_nil]

/-- The uses of names are reported as before, except where a word names the new variable. -/
theorem References.diagnostics_declared {lines : List Line} {t t' : SymbolTable}
    {file : Option String} {x : Identifier} {n : Nat}
    (hbody : t.body = declaredBody file lines)
    (hbody' : t'.body = declaredBody file (lines ++ [x.declarationLine n]))
    (hnumbers : lines.Pairwise (·.number < ·.number)) (himports : t'.imports = t.imports) :
    References.diagnostics (lines ++ [x.declarationLine n]) t' =
      (References.diagnostics lines t).filter (fun d => ¬d.SaysUndefined x.text) := by
  have hkind := x.declares?_declarationLine n
  have hstates := x.states_declarationLine n
  have hfunctions : t'.allFunctions = t.allFunctions :=
    SymbolTable.allFunctions_append hbody hbody' hnumbers (by simp [hkind])
  have hmacros : t'.allMacros = t.allMacros :=
    SymbolTable.allMacros_append hbody hbody' hnumbers (by simp [hkind])
  have hclasses := SymbolTable.hasClass_append hbody hbody' himports
    (x.classHead?_declarationLine n)
  have hnames : ∀ word, word ∈ variableNames t' ↔ word = x.text ∨ word ∈ variableNames t := by
    intro word
    have hvars := SymbolTable.mem_names_append hbody hbody' hstates.isBlank hstates.ofText word
    simp only [variableNames, List.mem_append, hvars, hfunctions, hmacros, or_assoc]
  have hmacro : macroDiagnostics t' = macroDiagnostics t := funext fun line =>
    macroDiagnostics_congr fun name => by rw [SymbolTable.findMacro?, hmacros, himports]; rfl
  have hcall : lineCallDiagnostics t' = lineCallDiagnostics t := funext fun line =>
    lineCallDiagnostics_congr fun name => by
      rw [SymbolTable.findFunction?, hfunctions, himports]; rfl
  have hword : lineWordDiagnostics t' (variableNames t') = fun line =>
      (lineWordDiagnostics t (variableNames t) line).filter (fun d => ¬d.SaysUndefined x.text) :=
    funext fun _ => lineWordDiagnostics_declared hclasses hnames
  -- On the new line itself nothing is looked up.
  have hcoded : (lines ++ [x.declarationLine n]).filter (fun line => !line.isBlank) =
      lines.filter (fun line => !line.isBlank) ++ [x.declarationLine n] := by
    simp [List.filter_append, hstates.isBlank]
  have hlastMacros := macroDiagnostics_of_notMem (x.notMem_code_declarationLine rfl n) t
  have hlastCalls := lineCallDiagnostics_of_notMem (x.notMem_code_declarationLine rfl n) t
  have hlastWords : lineWordDiagnostics t (variableNames t) (x.declarationLine n) = [] :=
    if_pos (x.isDeclaration_declarationLine n)
  unfold References.diagnostics
  dsimp only
  rw [hcoded, hmacro, hcall, hword, ← List.filter_flatMap]
  simp only [List.flatMap_append, List.flatMap_singleton, hlastMacros, hlastCalls, hlastWords,
    List.append_nil, List.filter_append]
  rw [(allOf_macros t _).codesOf.filter_saysUndefined (by decide),
    (allOf_calls t _).codesOf.filter_saysUndefined (by decide)]

/-- Declaring a variable on a line of its own at the end of a text removes the findings that say of
its name that it is undefined, and changes nothing else: all others stay, in the same order and with
the same places, and nothing new is reported, whatever braces and classes are still open there. The
text must not end in a carriage return or within a block comment, since the declaration would not be
on a line of its own then, or not be code. -/
theorem analyze_declaration (disk : Disk) (config : Config) (file : Option String)
    {text : List Char} (hreturn : text.getLast? ≠ some '\r')
    (hcomment : ∀ line ∈ (Line.ofSource text).getLast?, line.endsInComment = false)
    (x : Identifier) :
    (analyze disk config file (text ++ '\n' :: x.declaration)).diagnostics =
      (analyze disk config file text).diagnostics.filter (fun d => ¬d.SaysUndefined x.text) := by
  let s := config.modules disk
  let n := (Line.ofSource text).length + 1
  have hlines := x.ofSource_append_declaration hreturn hcomment
  have hnumbers := Line.pairwise_number_ofSource text
  have hnumbered := Line.numbered_ofSource (text ++ '\n' :: x.declaration)
  rw [hlines] at hnumbered
  obtain ⟨hfindings, himports⟩ := Outline.ofLines_append_of_states s.search s.disk s.answer
    (s.rootOrigin true file) (x.states_declarationLine n) (x.matchBraces_declarationLine n)
    hnumbered (s.rootPass file)
  rw [← hlines, ← ModuleSource.outline_eq_rootPass, ← ModuleSource.outline_eq_rootPass]
    at hfindings himports
  have hbody : ∀ more, (analyze disk config file more).table.body =
      declaredBody (s.rootOrigin true file).file (Line.ofSource more) := by
    intro more
    rw [analyze_table, ModuleSource.outline_eq_rootPass]
    exact Outline.ofLines_body ..
  have hbody' := hbody (text ++ '\n' :: x.declaration)
  have htypes := TypeCheck.diagnostics_declared hlines (hbody text) hbody' himports
  rw [hlines] at hbody'
  have hnames := References.diagnostics_declared (hbody text) hbody' hnumbers himports
  rw [← hlines] at hnames
  have houtline := (s.codesOf_outline true file (Line.ofSource text)).filter_saysUndefined
    (by decide) x.text
  have hdeclared := (allOf_typeCheck (analyze disk config file text).table
    (Line.ofSource text)).codesOf.filter_saysUndefined (by decide) x.text
  rw [analyze_diagnostics, analyze_diagnostics, List.filter_append, List.filter_append, houtline,
    hdeclared, htypes, hnames]
  exact congrArg (· ++ _ ++ _) hfindings

/-- A variable that is declared in a class whose brace is still open, behind its use there. -/
theorem analyze_declaration_openClass :
    let text := "class A \x7b\nprint(x, y)".toList
    let x : Identifier := ⟨['x'], by decide, List.all_eq_true.mp (by decide)⟩
    (text.getLast? ≠ some '\r' ∧
      ∀ line ∈ (Line.ofSource text).getLast?, line.endsInComment = false) ∧
    (analyze .bare .bare none text).diagnostics.map (fun d => (d.code, d.line, d.startColumn)) =
      [(.unbalancedBraces, 1, 0), (.undefinedVariable, 2, 6), (.undefinedVariable, 2, 9)] ∧
    (analyze .bare .bare none (text ++ '\n' :: x.declaration)).diagnostics =
      (analyze .bare .bare none text).diagnostics.filter (fun d => ¬d.SaysUndefined x.text) := by
  intro text x
  have hreturn : text.getLast? ≠ some '\r' := by decide
  have hcomment : ∀ line ∈ (Line.ofSource text).getLast?, line.endsInComment = false := by decide
  exact ⟨⟨hreturn, hcomment⟩, by decide +kernel,
    analyze_declaration .bare .bare none hreturn hcomment x⟩

end Analysis

end ScriptLint
