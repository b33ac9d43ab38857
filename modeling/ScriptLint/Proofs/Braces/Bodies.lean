import ScriptLint.Proofs.Braces.Analysis
import ScriptLint.Proofs.Root.Heads
import ScriptLint.Proofs.Statement.Forms

/-! Heads that open no body. A function, a macro and a condition need an opening brace somewhere on
their line, a class needs one at its end, or a closing one behind it. The heads look for braces in
the whole line, and the matching of braces only outside of literals; where no brace in a literal
stands for one of a body they agree. -/
namespace ScriptLint

namespace Braces

/-- Only an opening brace leaves more braces open than were open before it. -/
theorem length_matchBrace_iff (number : Int) (state : List Int × Bool) (c : Char) :
    state.1.length < (matchBrace number state c).1.length ↔ c = '\x7b' := by
  obtain ⟨unclosed, excess⟩ := state
  by_cases hopen : c = '\x7b'
  · rw [hopen]
    exact iff_of_true (Nat.lt_succ_self _) rfl
  · by_cases hclose : c = '\x7d'
    · rw [hclose]
      cases unclosed <;> simp [matchBrace]
    · simp [matchBrace, hopen, hclose]

/-- A brace of the line is open behind it: there is a character behind which more braces are open
than in front of it. -/
def Opens (number : Int) (unclosed : List Int) (text : List Char) : Prop :=
  ∃ front c, front ++ [c] <+: text ∧
    (front.foldl (matchBrace number) (unclosed, false)).1.length <
      ((front ++ [c]).foldl (matchBrace number) (unclosed, false)).1.length

theorem opens_iff {number : Int} {unclosed : List Int} {text : List Char} :
    Opens number unclosed text ↔ '\x7b' ∈ text := by
  constructor
  · rintro ⟨front, c, hprefix, hlt⟩
    rw [List.foldl_append, List.foldl_cons, List.foldl_nil, length_matchBrace_iff] at hlt
    exact hprefix.subset (by simp [hlt])
  · intro hmem
    obtain ⟨front, back, rfl⟩ := List.append_of_mem hmem
    refine ⟨front, '\x7b', ⟨back, by simp⟩, ?_⟩
    rw [List.foldl_append, List.foldl_cons, List.foldl_nil, length_matchBrace_iff]

end Braces

namespace Literal

/-- A character that the mask leaves is one of the text. -/
theorem getElem?_of_getElem?_mask {text : List Char} {k : Nat} {c : Char}
    (h : (mask text)[k]? = some c) (hc : c ≠ ' ') : text[k]? = some c := by
  have hprefix : [c] <+: (mask text).drop k := by
    rw [List.drop_eq_getElem?_toList_append, h]
    exact List.prefix_append _ _
  have hnot : ' ' ∉ [c] := fun hmem => hc (List.mem_singleton.mp hmem).symm
  obtain ⟨behind, hbehind⟩ := prefix_drop_of_mask hnot hprefix
  rw [← Nat.add_zero k, ← List.getElem?_drop, ← hbehind]
  rfl

end Literal

namespace Line

variable (line : Line)

/-- The comment-free text ends with an opening brace outside of literals, blanks aside. -/
def EndsOpen : Prop :=
  ∃ i, line.braced[i]? = some '\x7b' ∧
    ∀ c ∈ line.code.drop (i + 1), Text.isBlank c = true

/-- Outside of literals there is a closing brace behind an opening one. -/
def OpensAndCloses : Prop :=
  ∃ i j : Nat, i < j ∧ line.braced[i]? = some '\x7b' ∧ line.braced[j]? = some '\x7d'

/-- The body of what the line starts is seen to follow: at the end of the line of a class or on the
line itself, and anywhere on the line of anything else. -/
def OpensBody : Prop :=
  match Statement.ofText line.code with
  | .classHead _ => line.EndsOpen ∨ line.OpensAndCloses
  | _ => '\x7b' ∈ line.braced

/-- The character stands at the place, in a literal. -/
def InLiteral (k : Nat) (c : Char) : Prop :=
  line.code[k]? = some c ∧ line.braced[k]? ≠ some c

/-- A brace in a literal stands where one of a body would: for a class at the end of the line, or as
one of two braces of which the later one closes; for anything else as an opening brace anywhere on
the line. -/
def BodyInLiteral : Prop :=
  match Statement.ofText line.code with
  | .classHead _ =>
    (∃ i, line.InLiteral i '\x7b' ∧ ∀ c ∈ line.code.drop (i + 1), Text.isBlank c = true) ∨
      ∃ i j : Nat, i < j ∧ line.code[i]? = some '\x7b' ∧ line.code[j]? = some '\x7d' ∧
        (line.InLiteral i '\x7b' ∨ line.InLiteral j '\x7d')
  | _ => ∃ i, line.InLiteral i '\x7b'

/-- What is said of a line that starts something with a body and opens none. -/
def missingBody? : Option Diagnostic :=
  match Statement.ofText line.code with
  | .classHead _ => some (.onLine .missingBrace "Class definition should end with '\x7b'" line)
  | .functionHead _ => some (missingBody "Function definition" line)
  | .macroHead _ _ => some (missingBody "Macro definition" line)
  | .conditional => some (missingBody "If statement" line)
  | _ => none

/-- What is said of missing braces on the line. -/
def missingBraces : List Diagnostic :=
  (headDiagnostics line (Statement.ofText line.code)).filter (·.code = .missingBrace)

/-- Whether the check of heads takes a brace of the line for that of a body. -/
def seesBody : Bool :=
  match Statement.ofText line.code with
  | .classHead _ => line.trimmed.getLast? = some '\x7b' || isOneLiner line.code
  | _ => opensBrace line.code

variable {line}

/-- The text opens and closes a brace if there are two such characters in this order. -/
theorem isOneLiner_iff {text : List Char} : isOneLiner text = true ↔
    ∃ i j : Nat, i < j ∧ text[i]? = some '\x7b' ∧ text[j]? = some '\x7d' := by
  rw [isOneLiner, List.contains_iff_mem]
  induction text with
  | nil => simp
  | cons c cs ih =>
    by_cases hc : c = '\x7b'
    · -- The first character opens, so it does not matter which later one closes.
      rw [hc, List.dropWhile_cons_of_neg (by decide), List.mem_cons]
      constructor
      · rintro (h | hmem)
        · exact absurd h (by decide)
        · obtain ⟨j, hj⟩ := List.mem_iff_getElem?.mp hmem
          exact ⟨0, j + 1, Nat.succ_pos j, rfl, hj⟩
      · rintro ⟨i, j, hlt, -, hj⟩
        obtain ⟨j, rfl⟩ : ∃ k, j = k + 1 := ⟨j - 1, by omega⟩
        exact .inr (List.mem_of_getElem? hj)
    · rw [List.dropWhile_cons_of_pos (by simpa using hc), ih]
      constructor
      · rintro ⟨i, j, hlt, hi, hj⟩
        exact ⟨i + 1, j + 1, Nat.succ_lt_succ hlt, hi, hj⟩
      · rintro ⟨i, j, hlt, hi, hj⟩
        cases i with
        | zero => exact absurd (Option.some.inj hi) hc
        | succ i =>
          obtain ⟨j, rfl⟩ : ∃ k, j = k + 1 := ⟨j - 1, by omega⟩
          exact ⟨i, j, Nat.lt_of_succ_lt_succ hlt, hi, hj⟩

/-- The text ends with an opening brace if there is one with blanks behind it. -/
theorem getLast?_trimmed_iff : line.trimmed.getLast? = some '\x7b' ↔
    ∃ i, line.code[i]? = some '\x7b' ∧ ∀ c ∈ line.code.drop (i + 1), Text.isBlank c = true := by
  rw [trimmed, Text.getLast?_trim_eq_some_iff (by decide)]
  constructor
  · rintro ⟨front, back, htext, hback⟩
    refine ⟨front.length, by simp [htext], ?_⟩
    simpa [htext] using hback
  · rintro ⟨i, hi, hback⟩
    refine ⟨line.code.take i, line.code.drop (i + 1), ?_, hback⟩
    obtain ⟨hlt, heq⟩ := List.getElem?_eq_some_iff.mp hi
    rw [← heq, List.getElem_cons_drop, List.take_append_drop]

/-- The brace of a body that follows is seen. -/
theorem seesBody_of_opensBody (h : line.OpensBody) : line.seesBody = true := by
  have hin : ∀ {i : Nat} {c : Char}, line.braced[i]? = some c → c ≠ ' ' →
      line.code[i]? = some c :=
    fun hi hc => Literal.getElem?_of_getElem?_mask hi hc
  unfold OpensBody at h
  unfold seesBody
  split at h
  · simp only [Bool.or_eq_true, decide_eq_true_eq, getLast?_trimmed_iff, isOneLiner_iff]
    rcases h with ⟨i, hi, hback⟩ | ⟨i, j, hlt, hi, hj⟩
    · exact .inl ⟨i, hin hi (by decide), hback⟩
    · exact .inr ⟨i, j, hlt, hin hi (by decide), hin hj (by decide)⟩
  · exact List.contains_iff_mem.mpr (Literal.mem_of_mem_mask h (by decide))

/-- A character of the text is left by the mask, or it is in a literal. -/
theorem getElem?_braced_or {k : Nat} {c : Char} (h : line.code[k]? = some c) :
    line.braced[k]? = some c ∨ line.InLiteral k c := by
  by_cases hbraced : line.braced[k]? = some c
  · exact .inl hbraced
  · exact .inr ⟨h, hbraced⟩

/-- What is seen is the brace of a body, or one in a literal that stands for it. -/
theorem opensBody_or_of_seesBody (h : line.seesBody = true) :
    line.OpensBody ∨ line.BodyInLiteral := by
  unfold seesBody at h
  unfold OpensBody BodyInLiteral
  split at h
  · simp only [Bool.or_eq_true, decide_eq_true_eq, getLast?_trimmed_iff, isOneLiner_iff] at h
    -- One brace in a literal is enough to mislead the second test, whichever of the two it is.
    rcases h with ⟨i, hi, hback⟩ | ⟨i, j, hlt, hi, hj⟩
    · rcases getElem?_braced_or hi with hbraced | hliteral
      · exact .inl (.inl ⟨i, hbraced, hback⟩)
      · exact .inr (.inl ⟨i, hliteral, hback⟩)
    · rcases getElem?_braced_or hi with hopen | hliteral
      · rcases getElem?_braced_or hj with hclose | hliteral
        · exact .inl (.inr ⟨i, j, hlt, hopen, hclose⟩)
        · exact .inr (.inr ⟨i, j, hlt, hi, hj, .inr hliteral⟩)
      · exact .inr (.inr ⟨i, j, hlt, hi, hj, .inl hliteral⟩)
  · obtain ⟨i, hi⟩ := List.mem_iff_getElem?.mp (List.contains_iff_mem.mp h)
    exact (getElem?_braced_or hi).imp List.mem_of_getElem? fun hliteral => ⟨i, hliteral⟩

/-- A brace that stands for one of a body is in a literal, and there is an opening one on the
line. -/
theorem mem_code_of_bodyInLiteral (h : line.BodyInLiteral) :
    '\x7b' ∈ line.code ∧ ∃ k c, line.InLiteral k c := by
  unfold BodyInLiteral at h
  split at h
  · rcases h with ⟨i, hi, -⟩ | ⟨i, j, -, hi, -, hliteral⟩
    · exact ⟨List.mem_of_getElem? hi.1, i, _, hi⟩
    · exact ⟨List.mem_of_getElem? hi, hliteral.elim (⟨i, _, ·⟩) (⟨j, _, ·⟩)⟩
  · obtain ⟨i, hi⟩ := h
    exact ⟨List.mem_of_getElem? hi.1, i, _, hi⟩

/-- A line that starts something with a body is told once if it opens none. -/
theorem missingBraces_eq (line : Line) :
    line.missingBraces = if line.seesBody then [] else line.missingBody?.toList := by
  have hbody : ∀ what, (missingBody what line).code = .missingBrace := fun _ => rfl
  unfold missingBraces seesBody missingBody?
  cases Statement.ofText line.code with
  | classHead name =>
    by_cases hsees : line.trimmed.getLast? = some '\x7b' ∨ isOneLiner line.code = true
    · simp [headDiagnostics, hsees]
    · simp [headDiagnostics, hsees, Diagnostic.onLine]
  | functionHead head =>
    have haccess : ((head.access.map (misusedModifier line)).toList.filter
        (·.code = .missingBrace)) = [] := by
      cases head.access with
      | none => rfl
      | some modifier =>
        have hcode : (misusedModifier line modifier).code = .accessModifierMisuse :=
          Diagnostic.atOffset_code ..
        simp [hcode]
    rw [headDiagnostics, List.filter_append, haccess, List.nil_append]
    cases opensBrace line.code <;> simp [hbody]
  | macroHead name params =>
    cases hopens : opensBrace line.code <;> simp [headDiagnostics, hopens, hbody]
  | conditional => cases hopens : opensBrace line.code <;> simp [headDiagnostics, hopens, hbody]
  | _ => simp [headDiagnostics]

/-- A line that is blank has blanks only. -/
theorem isBlank_of_mem_code (h : line.isBlank = true) : ∀ c ∈ line.code, Text.isBlank c = true := by
  intro c hc
  by_contra hblank
  rw [isBlank_of_mem hc (Bool.eq_false_iff.mpr hblank)] at h
  cases h

end Line

section Outlines

variable {State : Type} {search : ModuleSearch} {disk : Disk}
  {load : Path → State → ModuleReply × State} {file : Option String} {directory : String}

namespace Draft

variable (d : Draft State) (line : Line)

/-- What a line adds in the text itself is what it adds in a module, and what is said of its
head. -/
theorem findings_root :
    d.findings search disk load ⟨file, directory, true⟩ line =
      d.findings search disk load ⟨file, directory, false⟩ line ++
        headDiagnostics line (Statement.ofText line.code) := by
  unfold findings
  by_cases hb : line.isBlank = true
  · have hother := Grammar.Form.ofText_of_blank (Line.isBlank_of_mem_code hb)
    rw [if_pos hb, if_pos hb, hother]
    rfl
  · rw [if_neg hb, if_neg hb, List.append_assoc]
    congr 1
    cases Statement.ofText line.code with
    | inclusion path => exact (List.append_nil _).symm
    | _ => simp [statementFindings]

theorem filter_findings_missingBrace
    (h : ∀ path, (load path d.state).1.CodesWith (· ≠ .missingBrace)) :
    (d.findings search disk load ⟨file, directory, true⟩ line).filter (·.code = .missingBrace) =
      line.missingBraces := by
  have hmodules : HoldsOfModules (· ≠ .missingBrace) := by constructor <;> decide
  have hnone : (d.findings search disk load ⟨file, directory, false⟩ line).filter
      (·.code = .missingBrace) = [] := by
    refine List.filter_eq_nil_iff.mpr fun found hfound hcode => ?_
    exact codesWith_findings hmodules (by simp) h line found hfound (of_decide_eq_true hcode)
  rw [findings_root, List.filter_append, hnone, List.nil_append]
  rfl

end Draft

/-- What an outline says of missing braces is what its lines say, one after the other. -/
theorem Outline.filter_ofLines_missingBrace {P : State → Prop}
    (h : ∀ path state, P state →
      P (load path state).2 ∧ (load path state).1.CodesWith (· ≠ .missingBrace))
    (lines : List Line) {state : State} (hstart : P state) :
    (Outline.ofLines search disk load ⟨file, directory, true⟩ lines state).1.diagnostics.filter
        (·.code = .missingBrace) = lines.flatMap (·.missingBraces) := by
  have hread : ∀ (lines : List Line) (d : Draft State), P d.state →
      (lines.foldl (Draft.readLine search disk load ⟨file, directory, true⟩) d).diagnostics.filter
          (·.code = .missingBrace) =
        d.diagnostics.filter (·.code = .missingBrace) ++ lines.flatMap (·.missingBraces) := by
    intro lines
    induction lines with
    | nil => exact fun d _ => (List.append_nil _).symm
    | cons line lines ih =>
      intro d hd
      have hnext : P (d.readLine search disk load ⟨file, directory, true⟩ line).state := by
        rw [Draft.readLine_state]
        cases line.resolution? search disk directory with
        | none => exact hd
        | some r => exact (h r.file d.state hd).1
      rw [List.foldl_cons, ih _ hnext, Draft.readLine_diagnostics, List.filter_append,
        Draft.filter_findings_missingBrace d line fun path => (h path d.state hd).2,
        List.append_assoc, List.flatMap_cons]
  have hclosed : ∀ unclosed : List Int,
      (unclosedDiagnostics lines unclosed).filter (·.code = .missingBrace) = [] := by
    intro unclosed
    refine List.filter_eq_nil_iff.mpr fun found hfound => ?_
    obtain ⟨line, -, n, -, rfl⟩ := exists_of_mem_unclosedDiagnostics hfound
    have hcode : (unclosedBrace line).code = .unbalancedBraces := rfl
    simp [hcode]
  rw [Outline.ofLines, Draft.finish_diagnostics, List.filter_append, hread lines _ hstart, hclosed,
    List.append_nil]
  rfl

end Outlines

section Analyses

variable (disk : Disk) (config : Config) (file : Option String)

/-- What an analysis says of missing braces is what the lines of the text say. -/
theorem analyze_filter_missingBrace (text : List Char) :
    (analyze disk config file text).diagnostics.filter (·.code = .missingBrace) =
      (Line.ofSource text).flatMap (·.missingBraces) := by
  have houtline : ∀ d : Diagnostic, decide (d.code = .missingBrace) = true →
      d.code.check = .outline := by
    intro d hd
    rw [of_decide_eq_true hd]
    rfl
  have hmodules : HoldsOfModules (· ≠ .missingBrace) := by constructor <;> decide
  have hstart : ({} : Pass).CodesWith (· ≠ .missingBrace) := fun _ h => (List.not_mem_nil h).elim
  rw [analyze_filter_outline disk config file text houtline, ModuleSource.outline_eq]
  refine Outline.filter_ofLines_missingBrace (P := Pass.CodesWith (· ≠ .missingBrace))
    (fun path _ h => (config.modules disk).codesWith_load hmodules h _ path) _ ?_
  cases (config.modules disk).rootPath file with
  | none => exact hstart
  | some path => exact ModuleSource.codesWith_visit hstart _

/-- What an analysis says of missing braces on a line is what the line says. -/
theorem filter_missingBrace_number {text : List Char} {line : Line}
    (hline : line ∈ Line.ofSource text) :
    (analyze disk config file text).diagnostics.filter
        (fun d => d.code = .missingBrace ∧ d.line = line.number) = line.missingBraces := by
  have hnumber : ∀ other : Line, ∀ d ∈ other.missingBraces, d.line = other.number := by
    intro other d hd
    have htokens := Statement.tokensIn_ofText other.code
    exact (fitLine_headDiagnostics htokens d (List.mem_filter.mp hd).1).number
  have hsplit : (analyze disk config file text).diagnostics.filter
      (fun d => d.code = .missingBrace ∧ d.line = line.number) =
        ((analyze disk config file text).diagnostics.filter (·.code = .missingBrace)).filter
          (·.line = line.number) := by
    rw [List.filter_filter]
    refine List.filter_congr fun d _ => ?_
    rw [← Bool.decide_and, decide_eq_decide, and_comm]
  rw [hsplit, analyze_filter_missingBrace, List.filter_flatMap]
  refine (flatMap_eq_of_mem (Line.pairwise_number_ofSource text) hline ?_).trans ?_
  · intro other _ hapart
    refine List.filter_eq_nil_iff.mpr fun d hd hsame => ?_
    have hother := hnumber other d hd
    have hline := of_decide_eq_true hsame
    omega
  · exact List.filter_eq_self.mpr fun d hd => decide_eq_true (hnumber line d hd)

end Analyses

open Braces in
/-- On each line of a text that is analysed: nothing is said of missing braces unless the line
starts a class, a function, a macro or a condition. Nothing is said of one whose body is seen to
follow outside of literals, which on a line that is no class is to say that matching its braces
opens one; and of one where none follows there is one finding, unless a brace in a literal stands
where one of a body would. -/
theorem analyze_missingBraces (disk : Disk) (config : Config) (file : Option String)
    (text : List Char) :
    ∀ line ∈ Line.ofSource text,
      let found := (analyze disk config file text).diagnostics.filter fun d =>
        d.code = .missingBrace ∧ d.line = line.number
      (line.missingBody? = none → found = []) ∧
        (∀ d, line.missingBody? = some d →
          (line.OpensBody → found = []) ∧
            (¬line.BodyInLiteral → ¬line.OpensBody → found = [d])) ∧
        ∀ unclosed, Opens line.number unclosed line.braced ↔ '\x7b' ∈ line.braced := by
  intro line hline found
  have hfound : found = if line.seesBody then [] else line.missingBody?.toList :=
    (filter_missingBrace_number disk config file hline).trans (Line.missingBraces_eq line)
  refine ⟨fun hnone => ?_, fun d hd => ⟨fun hopens => ?_, fun hout hopens => ?_⟩,
    fun unclosed => opens_iff⟩
  · rw [hfound, hnone]
    exact ite_self _
  · rw [hfound, Line.seesBody_of_opensBody hopens]
    rfl
  · have hsees : ¬line.seesBody = true := fun h =>
      (Line.opensBody_or_of_seesBody h).elim hopens hout
    rw [hfound, if_neg hsees, hd]
    rfl

/-- A class with a member behind its opening brace. -/
def openedClass : Line := ⟨1, "class A \x7b var x int".toList, false⟩

/-- A condition that opens no body, with a closing brace in a literal. -/
def openCondition : Line := ⟨2, "if (x == \"\x7d\")".toList, false⟩

/-- The class is said to have no brace at its end, and the condition no body, since the brace in its
literal closes. -/
theorem analyze_missingBraces_openedClass :
    let a := analyze .bare .bare none (openedClass.text ++ '\n' :: openCondition.text)
    (a.diagnostics.filter fun d => d.code = .missingBrace ∧ d.line = 1) =
        [.onLine .missingBrace "Class definition should end with '\x7b'" openedClass] ∧
      (a.diagnostics.filter fun d => d.code = .missingBrace ∧ d.line = 2).length = 1 := by
  intro a
  have hfound := analyze_missingBraces .bare .bare none
    (openedClass.text ++ '\n' :: openCondition.text)
  have hclass : openedClass ∈ Line.ofSource (openedClass.text ++ '\n' :: openCondition.text) :=
    List.mem_of_getElem? (i := 0) rfl
  have hcondition : openCondition ∈
      Line.ofSource (openedClass.text ++ '\n' :: openCondition.text) :=
    List.mem_of_getElem? (i := 1) rfl
  have hopens : ∀ line ∈ [openedClass, openCondition], ¬line.OpensBody := by
    have hsees : ∀ line ∈ [openedClass, openCondition], line.seesBody = false := by decide +kernel
    intro line hline h
    have hseen := Line.seesBody_of_opensBody h
    rw [hsees line hline] at hseen
    cases hseen
  have hclassOut : ¬openedClass.BodyInLiteral := by
    have hcode : openedClass.braced = openedClass.code := by decide +kernel
    intro h
    obtain ⟨-, k, c, hk, hbraced⟩ := Line.mem_code_of_bodyInLiteral h
    exact hbraced (hcode ▸ hk)
  have hconditionOut : ¬openCondition.BodyInLiteral := by
    have hnone : '\x7b' ∉ openCondition.code := by decide +kernel
    exact fun h => hnone (Line.mem_code_of_bodyInLiteral h).1
  obtain ⟨-, hclassFound, -⟩ := hfound openedClass hclass
  obtain ⟨-, hconditionFound, -⟩ := hfound openCondition hcondition
  have hbody : openedClass.missingBody? = some (.onLine .missingBrace
      "Class definition should end with '\x7b'" openedClass) := rfl
  have hbody' : openCondition.missingBody?.isSome = true := by decide +kernel
  obtain ⟨d, hd⟩ := Option.isSome_iff_exists.mp hbody'
  have hlast := (hconditionFound d hd).2 hconditionOut (hopens _ (by simp))
  exact ⟨(hclassFound _ hbody).2 hclassOut (hopens _ (by simp)), congrArg List.length hlast⟩

/-- A class is said to open no body on a line that opens a brace outside of literals. -/
theorem missingBrace_openedClass :
    let text := openedClass.text ++ "\n\x7d".toList
    openedClass ∈ Line.ofSource text ∧
      (∃ name, Statement.ofText openedClass.code = .classHead name) ∧
      '\x7b' ∈ openedClass.braced ∧
      ∃ d ∈ (analyze .bare .bare none text).diagnostics,
        d.code = .missingBrace ∧ d.line = openedClass.number := by
  refine ⟨List.mem_of_getElem? (i := 0) rfl, ⟨⟨"A", 6⟩, rfl⟩, ?_, ?_⟩
  · decide +kernel
  · decide +kernel

end ScriptLint
