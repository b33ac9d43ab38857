import ScriptLint.Proofs.Analysis.Codes
import ScriptLint.Proofs.Calls.Sites
import ScriptLint.Proofs.Outline.Complete

/-! What is said of the calls of functions. Each call site that is not exempt has one outcome: a
hint with the function that is meant, or an error, or nothing if the function is built in. Since no
two sites of a line start at the same column, the findings at the column of a site are its outcome.
-/
namespace ScriptLint

open Text (Cursor Token cursorAt)

/-- The function that the table gives to a name that is called: the declared one with the smallest
line, or else the first imported one that is no method, or else none. -/
inductive SymbolTable.Resolves (t : SymbolTable) (name : String) : Option FunctionDecl → Prop
  | declared {f : FunctionDecl} (hmem : f ∈ t.allFunctions) (hname : f.name = name)
      (hfirst : ∀ g ∈ t.allFunctions, g.name = name → f.line ≤ g.line) : t.Resolves name (some f)
  | imported {f : FunctionDecl} {before after : List FunctionDecl}
      (hnone : ∀ g ∈ t.allFunctions, g.name ≠ name)
      (hsplit : t.imports.functions = before ++ f :: after) (hname : f.name = name)
      (hmethod : f.isMethod = false) (hfirst : ∀ g ∈ before, g.name = name → g.isMethod = true) :
      t.Resolves name (some f)
  | nothing (hnone : ∀ g ∈ t.allFunctions, g.name ≠ name)
      (hmethods : ∀ g ∈ t.imports.functions, g.name = name → g.isMethod = true) :
      t.Resolves name none

/-- What is said of a call of the name that starts at the column of the line. -/
inductive CallOutcome (t : SymbolTable) (line : Line) (name : String) (column : Nat) :
    List Diagnostic → Prop
  /-- The function that is meant is told. -/
  | hint {f : FunctionDecl} (h : t.Resolves name (some f)) :
      CallOutcome t line name column
        [{ message := "Function info: " ++ name
           line := line.number
           startColumn := column
           endColumn := column + name.length
           severity := .hint
           code := .functionInfo
           function := some f }]
  /-- There is no such function. -/
  | error (h : t.Resolves name none) (hbuiltin : name ∉ builtinFunctions) :
      CallOutcome t line name column
        [{ message := "Function '" ++ name ++
             "' is not defined. Check spelling or ensure it's properly imported."
           line := line.number
           startColumn := column
           endColumn := column + name.length
           severity := .error
           code := .undefinedFunction }]
  /-- The function is built in. -/
  | builtin (h : t.Resolves name none) (hbuiltin : name ∈ builtinFunctions) :
      CallOutcome t line name column []

/-- What an analysis says of calls at a place. -/
def Analysis.callsAt (a : Analysis) (number column : Int) : List Diagnostic :=
  a.diagnostics.filter fun d => (d.code = .functionInfo ∨ d.code = .undefinedFunction) ∧
    d.line = number ∧ d.startColumn = column

/-- A name with a bracket behind it that is no call of a function: that of a macro or a method, or a
word of the language. -/
def References.Exempt (text : List Char) (name : Token) : Prop :=
  (text.take name.offset).getLast? = some '@' ∨
    (Text.trimEnd (text.take name.offset)).getLast? = some '.' ∨
    name.text = "new" ∨ name.text ∈ callKeywords

instance (text : List Char) (name : Token) : Decidable (References.Exempt text name) :=
  inferInstanceAs (Decidable (_ ∨ _ ∨ _ ∨ _))

namespace SymbolTable

variable {t : SymbolTable} {name : String}

/-- The search for a function finds the one that is meant. -/
theorem resolves_findFunction? (t : SymbolTable) (name : String) :
    t.Resolves name (t.findFunction? name) := by
  unfold findFunction?
  cases hlocal : t.allFunctions.find? (·.name = name) with
  | some f =>
    obtain ⟨hname, before, after, hsplit, hbefore⟩ := List.find?_eq_some_iff_append.mp hlocal
    have hmem : f ∈ t.allFunctions := List.mem_of_find?_eq_some hlocal
    refine .declared hmem (of_decide_eq_true hname) fun g hg hgname => ?_
    have hsorted : t.allFunctions.Pairwise fun a b => a.line ≤ b.line :=
      pairwise_mergeSort_line _ _
    rw [hsplit] at hg hsorted
    -- Before the one that was found no function has the name, and the others have later lines.
    rcases List.mem_append.mp hg with hg | hg
    · exact absurd (decide_eq_true hgname) (by simpa using hbefore g hg)
    · rcases List.mem_cons.mp hg with rfl | hg
      · exact Int.le_refl _
      · exact List.rel_of_pairwise_cons (List.pairwise_append.mp hsorted).2.1 hg
  | none =>
    have hnone : ∀ g ∈ t.allFunctions, g.name ≠ name := by
      simpa using List.find?_eq_none.mp hlocal
    cases himported : t.imports.functions.find? fun f => f.name = name && !f.isMethod with
    | some f =>
      obtain ⟨hf, before, after, hsplit, hbefore⟩ := List.find?_eq_some_iff_append.mp himported
      simp only [Bool.and_eq_true, decide_eq_true_eq, Bool.not_eq_true'] at hf
      refine .imported hnone hsplit hf.1 hf.2 fun g hg hgname => ?_
      simpa [hgname] using hbefore g hg
    | none =>
      refine .nothing hnone fun g hg hgname => ?_
      simpa [hgname] using List.find?_eq_none.mp himported g hg

/-- No imported method is meant by a bare name, if methods are all that belongs to a class. -/
theorem Resolves.isMethod_eq_false {f : FunctionDecl} (h : t.Resolves name (some f))
    (hlocal : ∀ g ∈ t.allFunctions, g.owner = none) :
    f.isMethod = false ∧ (f ∈ t.allFunctions ∨ f ∈ t.imports.functions) := by
  cases h with
  | declared hmem =>
    refine ⟨?_, Or.inl hmem⟩
    rw [FunctionDecl.isMethod, hlocal f hmem]
    rfl
  | imported _ hsplit _ hmethod =>
    exact ⟨hmethod, Or.inr (by simp [hsplit])⟩

end SymbolTable

namespace References

variable {t : SymbolTable} {line : Line} {name : Token}

section Site

variable {r : Region} {masked : List Char} {column : Nat}
  (hcolumn : line.column? (r.offset + name.offset : Nat) = some column)
include hcolumn

theorem callOutcome_callDiagnostics (hcall : (!r.isExternal && isNoCall line masked name) = false) :
    CallOutcome t line name.text column (callDiagnostics t line r masked name) := by
  have hmeans := t.resolves_findFunction? name.text
  simp only [callDiagnostics, hcall, Bool.false_eq_true, ↓reduceIte]
  cases hfind : t.findFunction? name.text with
  | some f =>
    rw [hfind] at hmeans
    dsimp only [functionInfo]
    rw [Diagnostic.atOffset_of_column? hcolumn]
    exact .hint hmeans
  | none =>
    rw [hfind] at hmeans
    dsimp only
    by_cases hbuiltin : name.text ∈ builtinFunctions
    · rw [if_pos (by simpa using hbuiltin)]
      exact .builtin hmeans hbuiltin
    · rw [if_neg (by simpa using hbuiltin)]
      have hmessage : "Function '" ++ name.text ++ "' is not defined." ++
          " Check spelling or ensure it's properly imported." = "Function '" ++ name.text ++
            "' is not defined. Check spelling or ensure it's properly imported." := by
        rw [String.append_assoc]
        rfl
      rw [undefinedFunction, Diagnostic.atOffset_of_column? hcolumn, hmessage]
      exact .error hmeans hbuiltin

/-- Whatever is said of a call is said at its column. -/
theorem place_of_mem_callDiagnostics {d : Diagnostic}
    (h : d ∈ callDiagnostics t line r masked name) :
    d.line = line.number ∧ d.startColumn = column := by
  cases hcall : !r.isExternal && isNoCall line masked name with
  | true =>
    rw [callDiagnostics, if_pos hcall] at h
    exact (List.not_mem_nil h).elim
  | false =>
    have houtcome := callOutcome_callDiagnostics (t := t) hcolumn hcall
    generalize callDiagnostics t line r masked name = found at h houtcome
    cases houtcome with
    | hint | error =>
      rw [List.mem_singleton.mp h]
      exact ⟨rfl, rfl⟩
    | builtin => exact (List.not_mem_nil h).elim

end Site

/-- A function that a finding carries is the one that a called name means. -/
theorem exists_of_mem_lineCallDiagnostics {d : Diagnostic} (h : d ∈ lineCallDiagnostics t line)
    (hcode : d.code = .functionInfo) :
    ∃ name f, t.Resolves name (some f) ∧ d.function = some f := by
  obtain ⟨⟨offset, name⟩, hmem, hd⟩ := List.mem_flatMap.mp h
  have hmeans := t.resolves_findFunction? name.text
  change d ∈ callDiagnostics t line (region line) (Literal.mask (region line).text) name at hd
  unfold callDiagnostics at hd
  split at hd
  · exact (List.not_mem_nil hd).elim
  · cases hfind : t.findFunction? name.text with
    | some f =>
      rw [hfind] at hd hmeans
      rw [List.mem_singleton.mp hd]
      exact ⟨name.text, f, hmeans, rfl⟩
    | none =>
      rw [hfind] at hd
      dsimp only at hd
      split at hd
      · exact (List.not_mem_nil hd).elim
      · rw [List.mem_singleton.mp hd, undefinedFunction, Diagnostic.atOffset_code] at hcode
        cases hcode

theorem region_of_isExternal_eq_false (h : (region line).isExternal = false) :
    region line = ⟨line.code, 0, false⟩ := by
  unfold region at h ⊢
  cases hread : (Text.occurrences externalCall? line.code).head? with
  | none => rfl
  | some found =>
    rw [hread] at h
    cases h

theorem exists_externalCall? (h : (region line).isExternal = true) :
    ∃ start next, externalCall? (cursorAt line.code start) =
      some (((region line).text, (region line).offset), next) := by
  unfold region at h ⊢
  cases hread : (Text.occurrences externalCall? line.code).head? with
  | none =>
    rw [hread] at h
    cases h
  | some found =>
    obtain ⟨next, hcall⟩ := Text.exists_of_mem_occurrences_at (List.mem_of_head? hread)
    exact ⟨found.1, next, hcall⟩

/-- A line without calls in the external form is looked at as a whole. -/
theorem region_of_no_external (h : ∀ offset, externalCall? (cursorAt line.code offset) = none) :
    region line = ⟨line.code, 0, false⟩ := by
  apply region_of_isExternal_eq_false
  by_contra hexternal
  obtain ⟨start, next, hread⟩ := exists_externalCall? (eq_true_of_ne_false hexternal)
  rw [h start] at hread
  cases hread

theorem isNoCall_eq_false {masked : List Char} (hline : isDefinition line = false)
    (hname : ¬Exempt masked name) : isNoCall line masked name = false := by
  simp only [Exempt, not_or] at hname
  obtain ⟨hat, hdot, hnew, hkeyword⟩ := hname
  simp [isNoCall, hline, hat, hdot, hnew, hkeyword]

end References

section Sites

variable {t : SymbolTable} {line : Line}

/-- A call site of the masked region of a line stands in the line. -/
theorem References.CallSite.in_line {name : Token}
    (h : CallSite (Literal.mask (region line).text) name) :
    Token.In ⟨name.text, (region line).offset + name.offset⟩ line.code := by
  obtain ⟨blanks, behind, hsplit, -⟩ := h.opens
  refine in_of_in_mask_region ⟨?_, ⟨_, hsplit.symm⟩⟩ h.identifier.isName.blank_notMem
  exact fun hempty => h.identifier.isName.1 (String.toList_eq_nil_iff.mp hempty)

/-- What is said of a line at the column of a call site is what is said of that call. -/
theorem References.filter_lineCallDiagnostics {name : Token} {column : Nat}
    (hsite : CallSite (Literal.mask (region line).text) name)
    (hcolumn : line.column? ((region line).offset + name.offset : Nat) = some column) :
    (lineCallDiagnostics t line).filter
        (fun d => d.line = line.number ∧ d.startColumn = (column : Int)) =
      callDiagnostics t line (region line) (Literal.mask (region line).text) name := by
  have hother : ∀ found ∈ Text.occurrences call? (Literal.mask (region line).text),
      found.1 ≠ name.offset →
      (callDiagnostics t line (region line) (Literal.mask (region line).text) found.2).filter
        (fun d => d.line = line.number ∧ d.startColumn = (column : Int)) = [] := by
    intro found hfound hne
    obtain ⟨hoffset, hother⟩ := mem_occurrences_call?_iff.mp hfound
    obtain ⟨elsewhere, helsewhere, hback⟩ := Line.exists_column_of_in hother.in_line
    refine List.filter_eq_nil_iff.mpr fun d hd hplace => hne ?_
    have hstart : (elsewhere : Int) = column := by
      rw [← (place_of_mem_callDiagnostics helsewhere hd).2]
      exact (of_decide_eq_true hplace).2
    -- The column of a site leads back to its offset.
    have hsame := Line.codeOffset?_of_column? hsite.in_line hcolumn
    rw [← hstart, hback] at hsame
    have hoffsets : (region line).offset + found.2.offset = (region line).offset + name.offset :=
      Option.some.inj hsame
    omega
  rw [lineCallDiagnostics, List.filter_flatMap]
  refine (flatMap_eq_of_mem (Text.pairwise_occurrences_apart _ _) hsite.mem_occurrences ?_).trans ?_
  · intro found hfound hapart
    refine hother found hfound fun heq => ?_
    rcases hapart with ⟨hlt, -⟩ | ⟨hlt, -⟩
    · exact absurd heq (Nat.ne_of_gt hlt)
    · exact absurd heq (Nat.ne_of_lt hlt)
  · refine List.filter_eq_self.mpr fun d hd => ?_
    simpa using place_of_mem_callDiagnostics hcolumn hd

end Sites

/-- What an analysis says of calls on one of its lines is what the line says of them. -/
theorem callsAt_analyze (disk : Disk) (config : Config) (file : Option String) {text : List Char}
    {line : Line} (hline : line ∈ Line.ofSource text) (hblank : line.isBlank = false)
    (column : Int) :
    (analyze disk config file text).callsAt line.number column =
      (References.lineCallDiagnostics (analyze disk config file text).table line).filter
        (fun d => d.line = line.number ∧ d.startColumn = column) := by
  let t := (analyze disk config file text).table
  have hcoded : line ∈ (Line.ofSource text).filter fun line => !line.isBlank :=
    List.mem_filter.mpr ⟨hline, by simp [hblank]⟩
  have hcalls : (analyze disk config file text).callsAt line.number column =
      ((analyze disk config file text).ofCheck .calls).filter
        (fun d => d.line = line.number ∧ d.startColumn = column) := by
    rw [Analysis.callsAt, Analysis.ofCheck, List.filter_filter]
    refine List.filter_congr fun d _ => ?_
    rw [← Bool.decide_and, decide_eq_decide, DiagnosticCode.check_eq_calls_iff]
    tauto
  -- Of all findings only those of the call check have these codes.
  rw [hcalls, analyze_ofCheck_calls, List.filter_flatMap]
  refine flatMap_eq_of_mem ((Line.pairwise_number_ofSource text).filter _) hcoded ?_
  intro other _ hapart
  -- What is said of another line has the number of that line.
  refine List.filter_eq_nil_iff.mpr fun d hd hplace => ?_
  have hnumber := (References.fitLine_lineCallDiagnostics t d hd).number
  have hsame := (of_decide_eq_true hplace).1
  omega

section Analyses

open References

variable (disk : Disk) (config : Config) (file : Option String) {text : List Char} {line : Line}

/-- What an analysis says of calls at the column of a call site is what the line says of that
call. -/
theorem exists_column_of_callSite (hline : line ∈ Line.ofSource text)
    (hblank : line.isBlank = false) {name : Token}
    (hsite : CallSite (Literal.mask (region line).text) name) :
    ∃ column : Nat, line.column? ((region line).offset + name.offset : Nat) = some column ∧
      (analyze disk config file text).callsAt line.number column =
        callDiagnostics (analyze disk config file text).table line (region line)
          (Literal.mask (region line).text) name := by
  obtain ⟨column, hcolumn, -⟩ := Line.exists_column_of_in hsite.in_line
  refine ⟨column, hcolumn, ?_⟩
  rw [callsAt_analyze disk config file hline hblank, filter_lineCallDiagnostics hsite hcolumn]

/-- A call site that is not exempt has its outcome in the analysis. -/
theorem exists_callOutcome_analyze (hline : line ∈ Line.ofSource text)
    (hblank : line.isBlank = false) (hdefinition : isDefinition line = false)
    (hexternal : ∀ offset, externalCall? (cursorAt line.code offset) = none) {name : Token}
    (hsite : CallSite (Literal.mask line.code) name)
    (hexempt : ¬Exempt (Literal.mask line.code) name) :
    ∃ column : Nat, line.column? name.offset = some column ∧
      CallOutcome (analyze disk config file text).table line name.text column
        ((analyze disk config file text).callsAt line.number column) := by
  have hregion := region_of_no_external hexternal
  have hsite' : CallSite (Literal.mask (region line).text) name := by rwa [hregion]
  obtain ⟨column, hcolumn, hcalls⟩ :=
    exists_column_of_callSite disk config file hline hblank hsite'
  have hcall : (!(region line).isExternal &&
      isNoCall line (Literal.mask (region line).text) name) = false := by
    rw [hregion, isNoCall_eq_false hdefinition hexempt]
    rfl
  -- The region is the whole line, so offsets in it are offsets in the line.
  refine ⟨column, by simpa [hregion] using hcolumn, ?_⟩
  rw [hcalls]
  exact callOutcome_callDiagnostics hcolumn hcall

/-- The functions of the text are no methods: only those that came in with a class are. -/
theorem owner_of_mem_allFunctions_analyze {f : FunctionDecl}
    (h : f ∈ (analyze disk config file text).table.allFunctions) : f.owner = none := by
  obtain ⟨owner, hbody⟩ := exists_analyze_body disk config file text
  obtain ⟨level, hlevel, hf⟩ := List.mem_flatMap.mp (List.mem_mergeSort.mp h)
  have hlevel : level ∈ (analyze disk config file text).table.body.levels := hlevel
  rw [hbody] at hlevel
  exact owner_of_mem_declaredBody hlevel hf

/-- The function of a hint can be called by its bare name. -/
theorem exists_function_of_functionInfo {d : Diagnostic}
    (hd : d ∈ (analyze disk config file text).diagnostics) (hinfo : d.code = .functionInfo) :
    ∃ f, d.function = some f ∧ f.isMethod = false ∧
      (f ∈ (analyze disk config file text).table.allFunctions ∨
        f ∈ (analyze disk config file text).table.imports.functions) := by
  have hmem : d ∈ (analyze disk config file text).ofCheck .calls :=
    List.mem_filter.mpr ⟨hd, by rw [hinfo]; rfl⟩
  rw [analyze_ofCheck_calls] at hmem
  obtain ⟨line, -, hd⟩ := List.mem_flatMap.mp hmem
  obtain ⟨name, f, hmeans, hfunction⟩ := exists_of_mem_lineCallDiagnostics hd hinfo
  exact ⟨f, hfunction, hmeans.isMethod_eq_false fun g hg =>
    owner_of_mem_allFunctions_analyze disk config file hg⟩

/-- What is said of the words of a line that declares nothing is said in the analysis. -/
theorem wordDiagnostics_subset_analyze (hline : line ∈ Line.ofSource text)
    (hblank : line.isBlank = false) (hdeclaration : isDeclaration line = false)
    {found : Nat × Token}
    (hfound : found ∈ Text.occurrences word? (Literal.mask (region line).text)) :
    wordDiagnostics (analyze disk config file text).table
        (variableNames (analyze disk config file text).table) line (region line).offset
        (Literal.mask (region line).text) found.2 ⊆
      (analyze disk config file text).diagnostics := by
  intro d hd
  have hcoded : line ∈ (Line.ofSource text).filter fun line => !line.isBlank :=
    List.mem_filter.mpr ⟨hline, by simp [hblank]⟩
  have hword : d ∈ lineWordDiagnostics (analyze disk config file text).table
      (variableNames (analyze disk config file text).table) line := by
    rw [lineWordDiagnostics, hdeclaration]
    exact List.mem_flatMap.mpr ⟨found, hfound, hd⟩
  rw [analyze_diagnostics, diagnostics]
  exact List.mem_append_right _ (List.mem_append_left _ (List.mem_append_right _
    (List.mem_flatMap.mpr ⟨line, hcoded, hword⟩)))

end Analyses

open References in
/-- In a line that is no definition and has no call in the external form, each call site that is not
exempt has one outcome, which is all that is said of calls at its column. Hints carry functions that
can be called by their bare name, never a method that came in with a class. No name falls between
the two passes: a word that is skipped for the bracket behind it is a call site, and any other that
looks like a variable is known or reported. -/
theorem analyze_calls (disk : Disk) (config : Config) (file : Option String) (text : List Char) :
    let lines := Line.ofSource text
    let a := analyze disk config file text
    (∀ line ∈ lines, line.isBlank = false → isDefinition line = false →
      (∀ offset, externalCall? (cursorAt line.code offset) = none) →
      ∀ name, CallSite (Literal.mask line.code) name → ¬Exempt (Literal.mask line.code) name →
        ∃ column : Nat, line.column? name.offset = some column ∧
          CallOutcome a.table line name.text column (a.callsAt line.number column)) ∧
    (∀ d ∈ a.diagnostics, d.code = .functionInfo → ∃ f, d.function = some f ∧
      f.isMethod = false ∧ (f ∈ a.table.allFunctions ∨ f ∈ a.table.imports.functions)) ∧
    (∀ line ∈ lines, ∀ word, SkippedWord (Literal.mask (region line).text) word →
      CallSite (Literal.mask (region line).text) word) ∧
    (∀ line ∈ lines, line.isBlank = false → isDeclaration line = false →
      ∀ found ∈ Text.occurrences word? (Literal.mask (region line).text),
        isVariableWord found.2.text = true → found.2.text ∉ keywords →
        found.2.text ∉ builtinTypes →
        ((Literal.mask (region line).text).take found.2.offset).getLast? ≠ some '.' →
        CallSite (Literal.mask (region line).text) found.2 ∨
          found.2.text ∈ variableNames a.table ∨ found.2.text ∈ builtinFunctions ∨
          undefinedVariable line ((region line).offset + found.2.offset) found.2.text ∈
            a.diagnostics) := by
  intro lines a
  refine ⟨?_, fun d => exists_function_of_functionInfo disk config file,
    fun line _ word hword => hword.callSite, ?_⟩
  · intro line hline hblank hdefinition hexternal name hsite hexempt
    exact exists_callOutcome_analyze disk config file hline hblank hdefinition hexternal hsite
      hexempt
  · intro line hline hblank hdeclaration found hfound hlowercase hkeyword htype hdot
    have hcases := callSite_or_mem_wordDiagnostics a.table line (variableNames a.table)
      (region line).offset hfound hlowercase hkeyword htype hdot
    have hsubset := wordDiagnostics_subset_analyze disk config file hline hblank hdeclaration hfound
    exact hcases.imp_right (Or.imp_right (Or.imp_right fun hreported => hsubset hreported))

/-- A function that is called on the line behind it is told. -/
theorem analyze_calls_bare :
    let text := "def f() -> int \x7b\x7d\nf (1)".toList
    let line : Line := ⟨2, "f (1)".toList, false⟩
    ∃ name, (line ∈ Line.ofSource text ∧ line.isBlank = false ∧
        References.isDefinition line = false ∧
        (∀ offset, References.externalCall? (cursorAt line.code offset) = none) ∧
        References.CallSite (Literal.mask line.code) name ∧
        ¬References.Exempt (Literal.mask line.code) name) ∧
      ∃ column : Nat, line.column? name.offset = some column ∧
        CallOutcome (analyze .bare .bare none text).table line name.text column
          ((analyze .bare .bare none text).callsAt line.number column) := by
  intro text line
  have hsites : (Text.occurrences References.call? (Literal.mask line.code)).map
      (fun found => decide (References.Exempt (Literal.mask line.code) found.2)) = [false] := by
    decide +kernel
  obtain ⟨found, hfound, hexempt⟩ := List.mem_map.mp (hsites ▸ List.mem_singleton_self false)
  have hsite := (References.mem_occurrences_call?_iff.mp hfound).2
  have hline : line ∈ Line.ofSource text := List.mem_cons_of_mem _ List.mem_cons_self
  have hblank : line.isBlank = false := by decide +kernel
  have hdefinition : References.isDefinition line = false := by decide +kernel
  have hexternal : ∀ offset, References.externalCall? (cursorAt line.code offset) = none := by
    have hstarts : ∀ offset < 5, (References.externalCall? (cursorAt line.code offset)).isNone := by
      decide +kernel
    intro offset
    by_cases hlt : offset < 5
    · exact Option.isNone_iff_eq_none.mp (hstarts offset hlt)
    · have hlength : line.code.length = 5 := by decide +kernel
      rw [cursorAt, List.drop_eq_nil_of_le (by omega)]
      rfl
  have hcall : ¬References.Exempt (Literal.mask line.code) found.2 := of_decide_eq_false hexempt
  exact ⟨found.2, ⟨hline, hblank, hdefinition, hexternal, hsite, hcall⟩,
    (analyze_calls .bare .bare none text).1 line hline hblank hdefinition hexternal found.2 hsite
      hcall⟩

end ScriptLint
