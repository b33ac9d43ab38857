import ScriptLint.Proofs.Calls.Analysis
import ScriptLint.Proofs.Macros.Written
import ScriptLint.Proofs.Subject.Analysis

/-! The number of arguments of a macro call is that of the arguments as written. Each call of a
macro with a bracket behind its name is found, and what is said of the number of its arguments
stands at the column of its sign, where nothing else is said of one. -/
namespace ScriptLint

open Text (Cursor Token cursorAt)

namespace References

/-- The macro is called with arguments: its sign is at the offset, and the arguments start at
`start`, behind the bracket that opens them. -/
structure MacroSite (text : List Char) (name : String) (offset start : Nat) : Prop where
  identifier : Text.IsIdentifier name
  opens : ∃ gap behind, text.drop offset = '@' :: (name.toList ++ (gap ++ '(' :: behind)) ∧
    (∀ c ∈ gap, Text.isBlank c = true) ∧ start = offset + (name.length + gap.length + 2)

/-- The warning that a macro is called with another number of arguments than it has parameters. -/
def arityWarning (line : Line) (name : String) (first last : Int) (given expected : Nat) :
    Diagnostic where
  message := "Macro '@" ++ name ++ "' called with " ++ toString given ++
    " parameters but expects " ++ toString expected ++ "."
  line := line.number
  startColumn := first
  endColumn := last
  severity := .warning
  code := .macroArityMismatch

/-- What is said at a column of the line on the number of arguments of a macro. -/
def arityAt (t : SymbolTable) (line : Line) (column : Nat) : List Diagnostic :=
  (macroDiagnostics t line).filter fun d => d.code = .macroArityMismatch ∧ d.startColumn = column

section Site

variable {text : List Char} {name : String} {offset start : Nat}

/-- A call of a macro is read as it stands. -/
theorem MacroSite.macroCall? (h : MacroSite text name offset start) :
    ∃ next, References.macroCall? (cursorAt text offset) = some (⟨name, some start⟩, next) := by
  obtain ⟨hname, gap, behind, hsplit, hgap, rfl⟩ := h
  have hopen : ('(' :: behind).head?.any Text.isBlank = false := rfl
  have hsign : (cursorAt text offset).word? "@" =
      some ⟨offset + 1, name.toList ++ (gap ++ '(' :: behind)⟩ := by
    rw [cursorAt, hsplit]
    exact Cursor.word?_append offset "@" _
  have hread := Cursor.name?_append (offset + 1) hname.start hname.isName.2
    (isNameChar_head_of_blanks behind hgap)
  rw [String.ofList_toList, String.length_toList] at hread
  have hword : (⟨offset + 1 + name.length + gap.length, '(' :: behind⟩ : Cursor).word? "(" =
      some ⟨offset + (name.length + gap.length + 2), behind⟩ := by
    rw [show offset + (name.length + gap.length + 2) =
      offset + 1 + name.length + gap.length + 1 by omega]
    exact Cursor.word?_append _ "(" behind
  refine ⟨⟨offset + (name.length + gap.length + 2), behind⟩, ?_⟩
  simp only [References.macroCall?, hsign, Option.bind_eq_bind, Option.bind_some, hread,
    Cursor.skipBlanks_append _ gap hgap hopen, hword]
  rfl

/-- Behind the sign of a macro call nothing that was read is a sign. -/
theorem sign_notMem_of_macroCall? {call : MacroCall} {next : Cursor}
    (h : References.macroCall? (cursorAt text offset) = some (call, next)) :
    ∃ read, text.drop offset = '@' :: (read ++ next.rest) ∧ '@' ∉ read ∧
      next.offset = offset + (read.length + 1) := by
  simp only [References.macroCall?, Option.bind_eq_bind, Option.bind_eq_some_iff] at h
  obtain ⟨c, hat, ⟨token, d⟩, hname, hread⟩ := h
  have hsign : text.drop offset = '@' :: c.rest := Cursor.rest_of_word? hat
  have hc : c.offset = offset + 1 := by
    rw [Cursor.eq_advance_of_word? hat]
    rfl
  have hreads := Cursor.reads_of_name? hname
  have hrest := hreads.rest_eq
  have hoffset := hreads.offset_add_length
  have hnotName : '@' ∉ token.text.toList := fun hmem =>
    absurd ((Cursor.isName_of_name? hname).2 '@' hmem) (by decide)
  dsimp only at hread
  cases hopen : d.skipBlanks.word? "(" with
  | none =>
    rw [hopen] at hread
    cases hread
    refine ⟨token.text.toList, by rw [hsign, hrest], hnotName, ?_⟩
    rw [String.length_toList]
    omega
  | some last =>
    rw [hopen] at hread
    cases hread
    obtain ⟨blanks, hblanks, hskip, hskipped⟩ := Cursor.exists_skipBlanks d
    have hbracket : d.skipBlanks.rest = '(' :: next.rest := Cursor.rest_of_word? hopen
    have hnext : next.offset = d.skipBlanks.offset + 1 := by
      rw [Cursor.eq_advance_of_word? hopen]
      rfl
    have hnotBlank : '@' ∉ blanks := fun hmem => absurd (hblanks '@' hmem) (by decide)
    refine ⟨token.text.toList ++ (blanks ++ ['(']), ?_, by simp [hnotName, hnotBlank], ?_⟩
    · rw [hsign, hrest, hskip, hbracket]
      simp
    · rw [hnext, hskipped, ← hoffset, hc]
      simp only [List.length_append, String.length_toList, List.length_singleton]
      omega

/-- Each call of a macro with arguments is found. -/
theorem MacroSite.mem_occurrences (h : MacroSite text name offset start) :
    (offset, ⟨name, some start⟩) ∈ Text.occurrences References.macroCall? text := by
  obtain ⟨next, hread⟩ := h.macroCall?
  obtain ⟨gap, behind, hsplit, -⟩ := h.opens
  have hlt : offset < text.length := by
    refine Nat.lt_of_not_le fun hle => ?_
    rw [List.drop_eq_nil_of_le hle] at hsplit
    cases hsplit
  have hsign : text[offset]? = some '@' := by
    rw [← List.head?_drop, hsplit]
    rfl
  rcases Text.mem_occurrences_or_inside hlt hread with
    hmem | ⟨earlier, -, hbefore, last, hearlier, hinside⟩
  · exact hmem
  · -- The sign would be among the characters that were read behind an earlier one.
    obtain ⟨read, hread', hnot, hlast⟩ := sign_notMem_of_macroCall? hearlier
    obtain ⟨k, rfl⟩ : ∃ k, offset = earlier.1 + (k + 1) := ⟨offset - earlier.1 - 1, by omega⟩
    have hk : k < read.length := by omega
    rw [← List.getElem?_drop, hread', List.getElem?_cons_succ, List.getElem?_append_left hk]
      at hsign
    exact absurd (List.mem_of_getElem? hsign) hnot

/-- Behind the bracket that opens the arguments the mask of a text is that of the rest. -/
theorem MacroSite.drop_maskContents (h : MacroSite (Literal.maskContents text) name offset start) :
    (Literal.maskContents text).drop start = Literal.maskContents (text.drop start) := by
  obtain ⟨-, gap, behind, hsplit, -, rfl⟩ := h
  have hindex : ('@' :: (name.toList ++ (gap ++ '(' :: behind)))[name.length + gap.length + 1]? =
      some '(' := by
    rw [← String.length_toList, List.getElem?_cons_succ, List.getElem?_append_right (by omega),
      Nat.add_sub_cancel_left, List.getElem?_append_right (by omega), Nat.sub_self]
    rfl
  have hbracket : (Literal.Mode.outside.maskContents text)[offset +
      (name.length + gap.length + 1)]? = some '(' := by
    rw [← List.getElem?_drop, ← hindex, ← hsplit]
    rfl
  exact Literal.Mode.drop_maskContents hbracket (by decide) (by decide)

end Site

section Findings

variable {t : SymbolTable} {line : Line} {offset column : Nat} {call : MacroCall}

/-- What is said of a macro call is said at the column of its sign. -/
theorem startColumn_of_mem_macroCallDiagnostics {masked : List Char} {d : Diagnostic}
    (hcolumn : line.column? offset = some column)
    (h : d ∈ macroCallDiagnostics t line masked offset call) : d.startColumn = column := by
  unfold macroCallDiagnostics at h
  cases hfind : t.findMacro? call.name with
  | none =>
    rw [hfind] at h
    rw [List.mem_singleton.mp h, undefinedMacro, Diagnostic.atOffset_of_column? hcolumn]
  | some m =>
    rw [hfind] at h
    dsimp only at h
    cases hargs : call.argumentsAt.bind (Arguments.split? masked) with
    | none =>
      rw [hargs] at h
      exact (List.not_mem_nil h).elim
    | some found =>
      rw [hargs] at h
      dsimp only at h
      split at h
      · exact (List.not_mem_nil h).elim
      · rw [List.mem_singleton.mp h, wrongArity, Diagnostic.atOffset_of_column? hcolumn]

/-- The sign of a macro call has a column, and what is said there on the number of arguments is said
of this call. -/
theorem exists_arityAt_eq (t : SymbolTable)
    (hmem : (offset, call) ∈ Text.occurrences macroCall? (Literal.maskContents line.code)) :
    ∃ column : Nat, line.column? offset = some column ∧
      arityAt t line column =
        (macroCallDiagnostics t line (Literal.maskContents line.code) offset call).filter
          (·.code = .macroArityMismatch) := by
  have hplace : ∀ found ∈ Text.occurrences macroCall? (Literal.maskContents line.code),
      ∃ column : Nat, line.column? found.1 = some column ∧
        line.codeOffset? column = some found.1 := by
    intro found hfound
    obtain ⟨next, hread⟩ := Text.exists_of_mem_occurrences_at hfound
    have hon : (cursorAt (Literal.maskContents line.code) found.1).On
        (Literal.maskContents line.code) := rfl
    exact Line.exists_column_of_in (in_of_macroCall? hon hread).2.1
  obtain ⟨column, hcolumn, hback⟩ := hplace _ hmem
  refine ⟨column, hcolumn, ?_⟩
  rw [arityAt, macroDiagnostics, List.filter_flatMap]
  refine (flatMap_eq_of_mem (Text.pairwise_occurrences_apart _ _) hmem ?_).trans ?_
  · intro found hfound hapart
    -- Another call has another offset, so its sign has another column.
    have hne : found.1 ≠ offset := by
      rcases hapart with ⟨hlt, -⟩ | ⟨hlt, -⟩
      · exact Nat.ne_of_gt hlt
      · exact Nat.ne_of_lt hlt
    obtain ⟨elsewhere, helsewhere, hback'⟩ := hplace found hfound
    refine List.filter_eq_nil_iff.mpr fun d hd hsaid => hne ?_
    have hstart := startColumn_of_mem_macroCallDiagnostics helsewhere hd
    rw [(of_decide_eq_true hsaid).2] at hstart
    rw [← Int.ofNat_inj.mp hstart, hback] at hback'
    exact (Option.some.inj hback').symm
  · refine List.filter_congr fun d hd => ?_
    simp [startColumn_of_mem_macroCallDiagnostics hcolumn hd]

/-- What is said on the number of arguments of a call whose list ends, and of one whose list does
not. -/
theorem filter_macroCallDiagnostics {masked : List Char} {name : String} {start : Nat}
    {m : MacroDecl} (hfind : t.findMacro? name = some m)
    (hcolumn : line.column? offset = some column) :
    (macroCallDiagnostics t line masked offset ⟨name, some start⟩).filter
        (·.code = .macroArityMismatch) =
      match Arguments.split? masked start with
      | none => []
      | some (args, close) =>
        if args.length = m.params.length then []
        else [arityWarning line name column (column + (close + 1 - offset)) args.length
          m.params.length] := by
  simp only [macroCallDiagnostics, hfind, Option.bind_some]
  cases Arguments.split? masked start with
  | none => rfl
  | some found =>
    dsimp only
    split
    · rfl
    · rw [wrongArity, Diagnostic.atOffset_of_column? hcolumn]
      rfl

end Findings

end References

open Arguments Literal in
/-- For a call of a macro that the table knows, the arguments are those of the list behind the
bracket, whether they are taken from the masked text or masked one by one; the only finding on their
number is a warning at the sign, when there are not as many as parameters. Where the list does not
end there is none. -/
theorem References.arityAt_of_arguments (t : SymbolTable) {line : Line} {name : String}
    {m : MacroDecl} {offset start : Nat} (hfind : t.findMacro? name = some m)
    (hsite : MacroSite (maskContents line.code) name offset start) :
    ∃ column : Nat, line.column? offset = some column ∧
      (∀ args inner behind, (∀ arg ∈ args, IsArgument arg) → Lists args inner →
        (maskContents line.code).drop start = inner ++ ')' :: behind →
          split? (maskContents line.code) start =
            some (args.map Text.trim, start + inner.length) ∧
          arityAt t line column = if args.length = m.params.length then [] else
            [arityWarning line name column (column + (start + inner.length + 1 - offset))
              args.length m.params.length]) ∧
      (∀ args inner behind, (∀ arg ∈ args, Complete arg ∧ IsArgument (maskContents arg)) →
        Lists args inner → line.code.drop start = inner ++ ')' :: behind →
          split? (maskContents line.code) start =
            some (args.map fun arg => Text.trim (maskContents arg), start + inner.length) ∧
          arityAt t line column = if args.length = m.params.length then [] else
            [arityWarning line name column (column + (start + inner.length + 1 - offset))
              args.length m.params.length]) ∧
      ((∀ front, front <+: (maskContents line.code).drop start → 0 ≤ depth front) →
        arityAt t line column = []) := by
  obtain ⟨column, hcolumn, harity⟩ := exists_arityAt_eq t hsite.mem_occurrences
  rw [filter_macroCallDiagnostics hfind hcolumn] at harity
  have hlist : ∀ args inner behind, (∀ arg ∈ args, IsArgument arg) → Lists args inner →
      (maskContents line.code).drop start = inner ++ ')' :: behind →
        split? (maskContents line.code) start =
          some (args.map Text.trim, start + inner.length) ∧
        arityAt t line column = if args.length = m.params.length then [] else
          [arityWarning line name column (column + (start + inner.length + 1 - offset))
            args.length m.params.length] := by
    intro args inner behind hargs hlists htext
    have hsplit := hlists.split? hargs htext
    refine ⟨hsplit, ?_⟩
    rw [harity, hsplit]
    simp
  refine ⟨column, hcolumn, hlist, fun args inner behind hargs hlists htext => ?_, fun hopen => ?_⟩
  · obtain ⟨hcomplete, hmasked⟩ := hlists.masked fun arg h => (hargs arg h).1
    have hclose : ∀ c ∈ [')'], ¬IsQuote c := List.forall_mem_singleton.mpr (by decide)
    have hbracket : maskContents (')' :: behind) = ')' :: maskContents behind :=
      maskContents_append hclose behind
    have hargs' : ∀ arg ∈ args.map maskContents, IsArgument arg := by
      simpa using fun arg h => (hargs arg h).2
    have hread := hlist _ _ (maskContents behind) hargs' hmasked (by
      rw [hsite.drop_maskContents, htext, hcomplete, hbracket])
    simpa [length_maskContents, Function.comp_def] using hread
  · rw [harity, split?_eq_none_iff.mpr hopen]

/-- A line that calls a macro with a literal that holds a comma and a bracket, and with a list. -/
def calledLine : Line :=
  ⟨3, "@m(\x22x, (y\x22, [1, 2])".toList, false⟩

/-- A line that calls a macro and does not close the bracket behind it. -/
def openLine : Line :=
  ⟨4, "@m(a, (b)".toList, false⟩

/-- A table with a macro of one parameter. -/
def macroTable : SymbolTable :=
  { body := { macros := [⟨"m", ["a"], 1, none⟩] } }

open Arguments Literal References in
/-- The call has two arguments, and the macro one parameter. -/
theorem References.arityAt_calledLine :
    (∃ column : Nat, calledLine.column? 0 = some column ∧
      split? (maskContents calledLine.code) 3 =
        some (["\x22     \x22".toList, "[1, 2]".toList], 18) ∧
      arityAt macroTable calledLine column =
        [arityWarning calledLine "m" column (column + 19) 2 1]) ∧
    ∃ column : Nat, openLine.column? 0 = some column ∧ arityAt macroTable openLine column = [] := by
  have hchars : "m".toList.all Text.isNameChar = true := by decide
  have hname : Text.IsIdentifier "m" := ⟨by decide, by decide, List.all_eq_true.mp hchars⟩
  have hsite : MacroSite (maskContents calledLine.code) "m" 0 3 :=
    ⟨hname, [], "\x22     \x22, [1, 2])".toList, by decide +kernel, by simp, rfl⟩
  have hsite' : MacroSite (maskContents openLine.code) "m" 0 3 :=
    ⟨hname, [], "a, (b)".toList, by decide +kernel, by simp, rfl⟩
  have hmacro : ∃ m, macroTable.findMacro? "m" = some m ∧ m.params.length = 1 :=
    ⟨⟨"m", ["a"], 1, none⟩, by simp [macroTable, SymbolTable.findMacro?, SymbolTable.allMacros,
      SymbolTable.bodies, SymbolTable.allClasses], rfl⟩
  obtain ⟨m, hfind, hparams⟩ := hmacro
  have hargs : ∀ arg ∈ ["\x22x, (y\x22".toList, "[1, 2]".toList],
      Complete arg ∧ IsArgument (maskContents arg) := by
    have hliteral : Complete "\x22x, (y\x22".toList := fun _ => rfl
    have hlist : Complete "[1, 2]".toList := fun _ => rfl
    have hpieces : ∀ arg ∈ ["\x22x, (y\x22".toList, "[1, 2]".toList],
        IsPiece (maskContents arg) ∧ Text.trim (maskContents arg) ≠ [] := by
      decide +kernel
    intro arg harg
    refine ⟨?_, (hpieces arg harg).1, (hpieces arg harg).2⟩
    rcases List.mem_cons.mp harg with rfl | harg
    · exact hliteral
    · exact List.mem_singleton.mp harg ▸ hlist
  have hlists : Lists ["\x22x, (y\x22".toList, "[1, 2]".toList] "\x22x, (y\x22, [1, 2]".toList :=
    .more ⟨[], [], rfl, by simp, by simp⟩ (.one ⟨[' '], [], rfl, by simp [Text.isBlank], by simp⟩)
  obtain ⟨column, hcolumn, -, hwritten, -⟩ := arityAt_of_arguments macroTable hfind hsite
  obtain ⟨column', hcolumn', -, -, hopen⟩ := arityAt_of_arguments macroTable hfind hsite'
  obtain ⟨hsplit, harity⟩ := hwritten _ _ [] hargs hlists (by decide +kernel)
  refine ⟨⟨column, hcolumn, hsplit, ?_⟩, column', hcolumn', hopen fun front hfront => ?_⟩
  · rw [harity, hparams]
    rfl
  · have hfronts : ∀ front ∈ ((maskContents openLine.code).drop 3).inits, 0 ≤ depth front := by
      decide +kernel
    exact hfronts front ((List.mem_inits front _).mpr hfront)

end ScriptLint
