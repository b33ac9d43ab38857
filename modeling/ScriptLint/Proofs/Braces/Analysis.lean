import ScriptLint.Proofs.Analysis.Codes
import ScriptLint.Proofs.Braces.Partners
import ScriptLint.Proofs.Include.Selected

/-! Braces without partners are what an analysis finds. Between two lines it knows on which lines
the open braces stand. A line takes as many of them off as it has closing braces without a partner
of its own, and finds out if there are not enough; what it leaves open it puts on. So the braces
that are open in the end are those that no later line has closed. -/
namespace ScriptLint

open Braces

namespace Braces

theorem matchBraces_eq (unclosed : List Int) (line : Line) :
    matchBraces unclosed line =
      (List.replicate (openers line.braced) line.number ++ unclosed.drop (closers line.braced),
        decide (unclosed.length < closers line.braced)) := by
  have hfold := foldl_matchBrace line.number line.braced unclosed false
  rwa [Bool.false_or] at hfold

/-- The text of lines in which braces count. -/
def braces (lines : List Line) : List Char :=
  lines.flatMap (·.braced)

@[simp] theorem braces_nil : braces [] = [] := rfl

@[simp] theorem braces_cons (line : Line) (lines : List Line) :
    braces (line :: lines) = line.braced ++ braces lines := rfl

@[simp] theorem braces_append (before after : List Line) :
    braces (before ++ after) = braces before ++ braces after :=
  List.flatMap_append

/-- The numbers of the lines, once for each of their braces that is still open behind the last of
them, the latest first. -/
def stillOpen : List Line → List Int
  | [] => []
  | line :: lines =>
    stillOpen lines ++
      List.replicate (openers line.braced - closers (braces lines)) line.number

/-- Lines take off the open braces that they close, and put on those that they leave open. -/
theorem foldl_matchBraces (lines : List Line) (unclosed : List Int) :
    lines.foldl (fun unclosed line => (matchBraces unclosed line).1) unclosed =
      stillOpen lines ++ unclosed.drop (closers (braces lines)) := by
  induction lines generalizing unclosed with
  | nil => rfl
  | cons line lines ih =>
    have hdrop : closers line.braced + (closers (braces lines) - openers line.braced) =
        closers (braces (line :: lines)) := by
      rw [braces_cons, closers_append]
    rw [List.foldl_cons, ih, matchBraces_eq, List.drop_append, List.drop_replicate,
      List.length_replicate, List.drop_drop, hdrop, stillOpen, List.append_assoc]

theorem length_stillOpen (lines : List Line) :
    (stillOpen lines).length = openers (braces lines) := by
  induction lines with
  | nil => rfl
  | cons line lines ih =>
    rw [stillOpen, List.length_append, List.length_replicate, ih, braces_cons, openers_append]
    omega

theorem exists_line_of_mem_stillOpen {lines : List Line} {number : Int}
    (h : number ∈ stillOpen lines) : ∃ line ∈ lines, line.number = number := by
  induction lines with
  | nil => exact (List.not_mem_nil h).elim
  | cons line lines ih =>
    rcases List.mem_append.mp h with h | h
    · obtain ⟨later, hlater, heq⟩ := ih h
      exact ⟨later, List.mem_cons_of_mem _ hlater, heq⟩
    · exact ⟨line, List.mem_cons_self, (List.eq_of_mem_replicate h).symm⟩

/-- A line is among those with open braces if it has one that nothing behind it closes. -/
theorem mem_stillOpen_iff {before after : List Line} {line : Line}
    (hbefore : ∀ l ∈ before, l.number ≠ line.number)
    (hafter : ∀ l ∈ after, l.number ≠ line.number) :
    line.number ∈ stillOpen (before ++ line :: after) ↔
      LoneOpener line.braced (braces after) := by
  rw [loneOpener_iff]
  induction before with
  | nil =>
    have hnot : line.number ∉ stillOpen after := by
      intro h
      obtain ⟨later, hlater, heq⟩ := exists_line_of_mem_stillOpen h
      exact hafter later hlater heq
    rw [List.nil_append, stillOpen, List.mem_append, List.mem_replicate]
    simp only [hnot, false_or, and_true]
    omega
  | cons first before ih =>
    rw [List.forall_mem_cons] at hbefore
    rw [List.cons_append, stillOpen, List.mem_append, List.mem_replicate, ih hbefore.2]
    simp only [Ne.symm hbefore.1, and_false, or_false]

/-- If no line has a closing brace without a partner, by induction from the last line on: the lines
before it have none, and it finds as many open braces as it closes. -/
theorem closers_braces_eq_zero {lines : List Line}
    (h : ∀ before line after, lines = before ++ line :: after →
      closers line.braced ≤ openers (braces before)) : closers (braces lines) = 0 := by
  induction lines using List.reverseRecOn with
  | nil => rfl
  | append_singleton before line ih =>
    have hlast := h before line [] rfl
    have hfirst : closers (braces before) = 0 := by
      apply ih
      intro front other back heq
      apply h front other (back ++ [line])
      rw [heq, List.append_assoc, List.cons_append]
    rw [braces_append, closers_append, hfirst, braces_cons, braces_nil, List.append_nil]
    omega

theorem openers_braces_eq_zero {lines : List Line}
    (h : ∀ before line after, lines = before ++ line :: after →
      openers line.braced ≤ closers (braces after)) : openers (braces lines) = 0 := by
  induction lines with
  | nil => rfl
  | cons line after ih =>
    have hfirst := h [] line after rfl
    have hrest : openers (braces after) = 0 := by
      apply ih
      intro front other back heq
      apply h (line :: front) other back
      rw [heq, List.cons_append]
    rw [braces_cons, openers_append]
    omega

/-- The braces of lines pair up if no line has one without a partner. -/
theorem balanced_braces_iff (lines : List Line) :
    Balanced (braces lines) ↔ ∀ before line after, lines = before ++ line :: after →
      ¬LoneCloser (braces before) line.braced ∧ ¬LoneOpener line.braced (braces after) := by
  simp only [balanced_iff, loneCloser_iff, loneOpener_iff, Nat.not_lt]
  constructor
  · rintro ⟨hclosers, hopeners⟩ before line after rfl
    rw [braces_append, braces_cons, closers_append, closers_append] at hclosers
    rw [braces_append, braces_cons, openers_append, openers_append, closers_append] at hopeners
    omega
  · intro h
    exact ⟨closers_braces_eq_zero fun before line after heq => (h before line after heq).1,
      openers_braces_eq_zero fun before line after heq => (h before line after heq).2⟩

end Braces

/-- The finding says of the text itself that a brace has no partner. -/
def Diagnostic.IsOwnBrace (d : Diagnostic) : Prop :=
  d.source = ownSource ∧ d.code = .unbalancedBraces

instance (d : Diagnostic) : Decidable d.IsOwnBrace :=
  inferInstanceAs (Decidable (_ ∧ _))

/-- What an analysis says of the braces of the text itself. -/
def Analysis.ownBraces (a : Analysis) : List Diagnostic :=
  a.diagnostics.filter (·.IsOwnBrace)

/-- Nothing is said of the braces of the text by what is said of a library, or of something else. -/
theorem filter_isOwnBrace_eq_nil {found : List Diagnostic}
    (h : ∀ d ∈ found, d.source = librarySource ∨ d.code ≠ .unbalancedBraces) :
    found.filter (·.IsOwnBrace) = [] := by
  apply List.filter_eq_nil_iff.mpr
  intro d hd hown
  obtain ⟨hsource, hcode⟩ := of_decide_eq_true hown
  rcases h d hd with hlibrary | hother
  · rw [hlibrary] at hsource
    exact absurd hsource (by decide)
  · exact hother hcode

section Outlines

variable {State : Type} (search : ModuleSearch) (disk : Disk)
  (load : Path → State → ModuleReply × State) (origin : Origin)

namespace Draft

variable (d : Draft State) (line : Line)

theorem filter_statementFindings (statement : Statement) :
    (d.statementFindings search disk load origin line statement).filter (·.IsOwnBrace) = [] := by
  apply filter_isOwnBrace_eq_nil
  cases statement with
  | inclusion path =>
    unfold statementFindings
    dsimp only
    split
    · refine List.forall_mem_singleton.mpr (.inr ?_)
      rw [unresolvedInclude, Diagnostic.atOffset_code]
      decide
    · next r _ =>
      let reply := (load r.file d.state).1
      have hlibrary : ∀ found ∈ reply.library line path r,
          found.source = librarySource ∨ found.code ≠ .unbalancedBraces :=
        fun found hfound => .inl (reply.source_of_mem_library line path r hfound)
      change ∀ found ∈ reply.findings line path r, _
      rcases reply.findings_eq_library_or line path r with heq | ⟨selection, heq⟩
      · rwa [heq]
      · rw [heq]
        refine List.forall_mem_append.mpr ⟨hlibrary, List.forall_mem_singleton.mpr (.inr ?_)⟩
        rw [missingSymbol, Diagnostic.atOffset_code]
        decide
  | _ =>
    have hmalformed :=
      codesWith_malformedDiagnostics (p := (· ≠ .unbalancedBraces)) (by decide) line
    intro found hfound
    right
    rcases List.mem_append.mp hfound with hfound | hfound
    · exact hmalformed _ found hfound
    · split at hfound
      · have hhead := code_mem_headCodes line _ found hfound
        intro hcode
        rw [hcode] at hhead
        exact absurd hhead (by decide)
      · exact (List.not_mem_nil hfound).elim

/-- A line is said to have a closing brace too many if it has more of them than are open. -/
theorem filter_findings :
    (d.findings search disk load origin line).filter (·.IsOwnBrace) =
      if d.unclosed.length < closers line.braced then [excessBrace line] else [] := by
  unfold findings
  by_cases hb : line.isBlank = true
  · have hnone : ¬d.unclosed.length < closers line.braced := by
      rw [(Line.unpaired_of_isBlank hb).1]
      exact Nat.not_lt_zero _
    rw [if_pos hb, if_neg hnone]
    rfl
  · rw [if_neg hb, List.filter_append, filter_statementFindings, List.append_nil, matchBraces_eq]
    have hown : (excessBrace line).IsOwnBrace := ⟨rfl, rfl⟩
    by_cases hexcess : d.unclosed.length < closers line.braced <;> simp [hexcess, hown]

theorem readLine_unclosed :
    (d.readLine search disk load origin line).unclosed = (matchBraces d.unclosed line).1 := by
  cases hb : line.isBlank with
  | true =>
    obtain ⟨hclosers, hopeners⟩ := Line.unpaired_of_isBlank hb
    rw [readLine_of_isBlank d search disk load origin hb, matchBraces_eq, hclosers, hopeners]
    rfl
  | false => exact readLine_unclosed_of_coded search disk load origin hb

theorem readLines_unclosed (lines : List Line) :
    (lines.foldl (readLine search disk load origin) d).unclosed =
      stillOpen lines ++ d.unclosed.drop (closers (braces lines)) := by
  rw [← foldl_matchBraces]
  induction lines generalizing d with
  | nil => rfl
  | cons line lines ih => rw [List.foldl_cons, List.foldl_cons, ih, readLine_unclosed]

end Draft

section Around

variable {before after : List Line} {line : Line} (h : Line.Numbered (before ++ line :: after))
include h

theorem filter_number_eq :
    (before ++ line :: after).filter (·.number = line.number) = [line] := by
  obtain ⟨hbefore, hafter⟩ := h.number_ne
  have hnone : ∀ {lines : List Line}, (∀ l ∈ lines, l.number ≠ line.number) →
      lines.filter (·.number = line.number) = [] := by
    intro lines h
    exact List.filter_eq_nil_iff.mpr fun l hl heq => h l hl (of_decide_eq_true heq)
  rw [List.filter_append, hnone hbefore, List.nil_append, List.filter_cons_of_pos (by simp),
    hnone hafter]

/-- What is said of a line behind the last one: that it has a brace that is still open. -/
theorem filter_unclosedBraces_number (unclosed : List Int) :
    (((before ++ line :: after).filter fun l => unclosed.contains l.number).map
        unclosedBrace).filter (·.line = line.number) =
      if line.number ∈ unclosed then [unclosedBrace line] else [] := by
  have hfilter : ((before ++ line :: after).filter fun l => unclosed.contains l.number).filter
      (·.number = line.number) = [line].filter fun l => unclosed.contains l.number := by
    rw [List.filter_comm, filter_number_eq h]
  rw [List.filter_map]
  change (List.filter (fun l : Line => decide (l.number = line.number)) _).map unclosedBrace = _
  rw [hfilter]
  by_cases hmem : line.number ∈ unclosed <;> simp [hmem]

/-- What is said of the braces of a line: that one of them closes nothing, and that one of them is
closed by nothing. -/
theorem Outline.filter_ofLines_braces (state : State) :
    ((Outline.ofLines search disk load origin (before ++ line :: after)
        state).1.diagnostics.filter (·.IsOwnBrace)).filter (·.line = line.number) =
      (if LoneCloser (braces before) line.braced then [excessBrace line] else []) ++
        if LoneOpener line.braced (braces after) then [unclosedBrace line] else [] := by
  obtain ⟨hbefore, hafter⟩ := h.number_ne
  let d : Draft State := before.foldl (Draft.readLine search disk load origin) { state := state }
  let last := after.foldl (Draft.readLine search disk load origin)
    (d.readLine search disk load origin line)
  have hunclosed : d.unclosed = stillOpen before := by
    have hread := Draft.readLines_unclosed search disk load origin { state := state } before
    rwa [List.drop_nil, List.append_nil] at hread
  have hlast : last.unclosed = stillOpen (before ++ line :: after) := by
    have hread := Draft.readLines_unclosed search disk load origin { state := state }
      (before ++ line :: after)
    rwa [List.drop_nil, List.append_nil, List.foldl_append, List.foldl_cons] at hread
  have hread : (last.diagnostics.filter (·.IsOwnBrace)).filter (·.line = line.number) =
      if LoneCloser (braces before) line.braced then [excessBrace line] else [] := by
    have hnone := Draft.filter_readLines search disk load origin hbefore { state := state }
    change d.diagnostics.filter (·.line = line.number) = [] at hnone
    rw [List.filter_comm, Draft.filter_readLines search disk load origin hafter,
      Draft.readLine_diagnostics, List.filter_append, hnone, List.nil_append, List.filter_comm,
      Draft.filter_findings, hunclosed, length_stillOpen]
    simp only [loneCloser_iff]
    split
    · exact List.filter_cons_of_pos (decide_eq_true rfl)
    · rfl
  have hclosed : ((((before ++ line :: after).filter fun l => last.unclosed.contains l.number).map
      unclosedBrace).filter (·.IsOwnBrace)).filter (·.line = line.number) =
      if LoneOpener line.braced (braces after) then [unclosedBrace line] else [] := by
    rw [List.filter_comm, filter_unclosedBraces_number h, hlast]
    simp only [mem_stillOpen_iff hbefore hafter]
    split
    · exact List.filter_cons_of_pos (decide_eq_true ⟨rfl, rfl⟩)
    · rfl
  rw [Outline.ofLines, Draft.finish_diagnostics,
    h.unclosedDiagnostics_readLines search disk load origin state, List.foldl_append,
    List.foldl_cons, List.filter_append, List.filter_append]
  exact congrArg₂ (· ++ ·) hread hclosed

end Around

end Outlines

section Analyses

variable (disk : Disk) (config : Config) (file : Option String) (text : List Char)

/-- The findings about the braces of the text are made while it is drawn up. -/
theorem analyze_ownBraces :
    (analyze disk config file text).ownBraces =
      ((config.modules disk).outline true file (Line.ofSource text) {}).1.diagnostics.filter
        (·.IsOwnBrace) := by
  refine analyze_filter_outline disk config file text fun d hd => ?_
  obtain ⟨-, hcode⟩ := of_decide_eq_true hd
  rw [hcode]
  rfl

variable {text}

/-- What an analysis says of the braces of a line. -/
theorem filter_ownBraces {before after : List Line} {line : Line}
    (h : Line.ofSource text = before ++ line :: after) :
    (analyze disk config file text).ownBraces.filter (·.line = line.number) =
      (if LoneCloser (braces before) line.braced then [excessBrace line] else []) ++
        if LoneOpener line.braced (braces after) then [unclosedBrace line] else [] := by
  have hnumbered := Line.numbered_ofSource text
  rw [h] at hnumbered
  rw [analyze_ownBraces, ModuleSource.outline_eq, h]
  exact Outline.filter_ofLines_braces _ _ _ _ hnumbered _

theorem exists_line_of_mem_ownBraces {d : Diagnostic}
    (h : d ∈ (analyze disk config file text).ownBraces) :
    ∃ line ∈ Line.ofSource text, d.line = line.number := by
  rw [analyze_ownBraces, ModuleSource.outline_eq] at h
  obtain ⟨line, hline, hfits⟩ :=
    Outline.ofLines_fit _ _ _ _ (Line.numbered_ofSource text) _ d (List.mem_filter.mp h).1
  exact ⟨line, hline, hfits.number⟩

end Analyses

/-- An analysis says of the braces of a line that there is a closing one without a partner, if there
is, and that there is an opening one without a partner, if there is, each once. It says nothing of
braces elsewhere, and nothing at all if and only if the braces of the text pair up. -/
theorem analyze_braces (disk : Disk) (config : Config) (file : Option String)
    (text : List Char) :
    let found := (analyze disk config file text).ownBraces
    (∀ before line after, Line.ofSource text = before ++ line :: after →
      found.filter (·.line = line.number) =
        (if LoneCloser (braces before) line.braced then [excessBrace line] else []) ++
          if LoneOpener line.braced (braces after) then [unclosedBrace line] else []) ∧
      (∀ d ∈ found, ∃ line ∈ Line.ofSource text, d.line = line.number) ∧
      (found = [] ↔ Balanced (braces (Line.ofSource text))) := by
  refine ⟨fun before line after => filter_ownBraces disk config file,
    fun d => exists_line_of_mem_ownBraces disk config file, ?_⟩
  rw [balanced_braces_iff]
  constructor
  · intro hnone before line after heq
    have hline := filter_ownBraces disk config file heq
    rw [hnone, List.filter_nil, eq_comm, List.append_eq_nil_iff] at hline
    simpa using hline
  · intro hpaired
    apply List.eq_nil_iff_forall_not_mem.mpr
    intro d hd
    -- A finding is on some line, and that line has no brace without a partner.
    obtain ⟨line, hmem, hnumber⟩ := exists_line_of_mem_ownBraces disk config file hd
    obtain ⟨before, after, heq⟩ := List.append_of_mem hmem
    have hline := filter_ownBraces disk config file heq
    obtain ⟨hcloser, hopener⟩ := hpaired before line after heq
    rw [if_neg hcloser, if_neg hopener] at hline
    exact List.filter_eq_nil_iff.mp hline d hd (decide_eq_true hnumber)

/-- A line that closes a brace before it opens one. -/
def crossedLine : Line := ⟨1, "\x7d \x7b".toList, false⟩

/-- Both braces of the line are found to have no partner. -/
theorem analyze_braces_crossedLine :
    Line.ofSource crossedLine.text = [] ++ crossedLine :: [] ∧
      (analyze .bare .bare none crossedLine.text).ownBraces.filter (·.line = 1) =
        [excessBrace crossedLine, unclosedBrace crossedLine] := by
  have hlines : Line.ofSource crossedLine.text = [] ++ crossedLine :: [] := by rfl
  have hfound := (analyze_braces .bare .bare none crossedLine.text).1 [] crossedLine [] hlines
  have hcloser : LoneCloser (braces []) crossedLine.braced := by decide +kernel
  have hopener : LoneOpener crossedLine.braced (braces []) := by decide +kernel
  rw [if_pos hcloser, if_pos hopener] at hfound
  exact ⟨hlines, hfound⟩

end ScriptLint
