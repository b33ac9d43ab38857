import ScriptLint.Proofs.Analysis.Parts
import ScriptLint.Proofs.Line.Joined
import ScriptLint.Proofs.Module.Provenance
import ScriptLint.Proofs.Renumber.Checks
import ScriptLint.Proofs.Strict.Outline

/-! What inserting a line of comment changes in the analysis of a text. The lines behind it have
other numbers, and nothing else is different: no line is read differently, the same modules are
asked for, and what is found is found in the same order. -/
namespace ScriptLint

/-- The number of a line after a line has been inserted that has the number `first` now. -/
def pushDown (first n : Int) : Int :=
  if first ≤ n then n + 1 else n

theorem keepsOrder_pushDown (first : Int) : KeepsOrder (pushDown first) := by
  intro m n hlt
  unfold pushDown
  split <;> split <;> omega

/-- The analysis of a text whose lines have other numbers. Its symbols and includes, its findings
and the functions of its own that these tell of have the numbers of their lines; what was brought in
from modules stays. -/
def Analysis.renumber (ρ : Int → Int) (a : Analysis) : Analysis where
  file := a.file
  table := a.table.renumber ρ
  diagnostics := a.diagnostics.map (·.renumber ρ a.file)

namespace Line

/-- Lines that are numbered from the next number on. -/
theorem ofSource_go_add_one (n : Nat) (inComment : Bool) (texts : List (List Char)) :
    ofSource.go (n + 1) inComment texts =
      (ofSource.go n inComment texts).map (·.renumber (· + 1)) := by
  induction texts generalizing n inComment with
  | nil => rfl
  | cons text texts ih =>
    rw [ofSource.go, ih, ofSource.go, List.map_cons]
    rfl

/-- A line that is put in at a line feed, and behind which a block comment is open exactly if one is
open there, moves the lines behind it down by one. -/
theorem exists_ofSource_insert {front back line content : List Char} {here : Line}
    (hline : Text.sourceLines (line ++ ['\n']) = [content, []])
    (hhere : (ofSource (front ++ '\n' :: back))[front.count '\n' + 1]? = some here)
    (hstate : (⟨here.number, content, here.startsInComment⟩ : Line).endsInComment =
      here.startsInComment) :
    ∃ before after, ofSource (front ++ '\n' :: back) = before ++ here :: after ∧
      ofSource (front ++ '\n' :: (line ++ '\n' :: back)) =
        before ++ ⟨here.number, content, here.startsInComment⟩ ::
          (here :: after).map (·.renumber (· + 1)) := by
  obtain ⟨ended, hlength, -, hlines⟩ := Text.exists_sourceLines front
  obtain ⟨inserted, -, -, hinserted⟩ := Text.exists_sourceLines line
  have hcontent : inserted ++ [[]] = [content] ++ [[]] := (hinserted []).symm.trans hline
  have hcontent := List.append_cancel_right hcontent
  obtain ⟨text, more, hback⟩ :=
    List.exists_cons_of_ne_nil (Text.pieces_ne_nil '\n' (Text.mergeReturns back))
  have hback : Text.sourceLines back = text :: more := hback
  have hnew : Text.sourceLines (line ++ '\n' :: back) = content :: text :: more := by
    rw [hinserted, hcontent, hback]
    rfl
  -- The line behind the line feed is the one after those that have ended.
  have hbehind : here = ⟨(1 + ended.length : Nat), text, openBehind false ended⟩ := by
    have hfront := length_ofSource_go 1 false ended
    rw [← hlength, ofSource, hlines, ofSource_go_append, hback,
      List.getElem?_append_right hfront.le, hfront, Nat.sub_self] at hhere
    exact (Option.some.inj hhere).symm
  have hrest : ofSource.go (1 + ended.length) (openBehind false ended) (text :: more) =
      here :: ofSource.go (1 + ended.length + 1) here.endsInComment more := by
    rw [hbehind]
    rfl
  refine ⟨ofSource.go 1 false ended, ofSource.go (1 + ended.length + 1) here.endsInComment more,
    ?_, ?_⟩
  · rw [ofSource, hlines, ofSource_go_append, hback, hrest]
  · rw [← hrest, ← ofSource_go_add_one, ofSource, hlines, ofSource_go_append, hnew, ofSource.go]
    rw [hbehind] at hstate ⊢
    exact congrArg (fun inComment => _ ++ _ :: ofSource.go _ inComment _) hstate

/-- The lines in front of one keep their numbers, and it and those behind it have the next ones. -/
theorem map_pushDown {before after : List Line} {here : Line}
    (hnumbers : (before ++ here :: after).Pairwise (·.number < ·.number)) :
    (before ++ here :: after).map (·.renumber (pushDown here.number)) =
      before ++ (here :: after).map (·.renumber (· + 1)) := by
  obtain ⟨-, hafter, hbefore⟩ := List.pairwise_append.mp hnumbers
  rw [List.map_append]
  congr 1
  · refine (List.map_congr_left fun l hl => ?_).trans (List.map_id _)
    have hlt : l.number < here.number := hbefore l hl here List.mem_cons_self
    exact congrArg (fun n => { l with number := n }) (if_neg (Int.not_le.mpr hlt))
  · refine List.map_congr_left fun l hl => ?_
    have hle : here.number ≤ l.number := by
      rcases List.mem_cons.mp hl with rfl | hl
      · exact Int.le_refl _
      · exact Int.le_of_lt ((List.pairwise_cons.mp hafter).1 l hl)
    exact congrArg (fun n => { l with number := n }) (if_pos hle)

end Line

section Blank

variable {before after : List Line} {blank : Line} (hblank : blank.isBlank = true)
include hblank

/-- A text with a line more, which is blank, is drawn up as the text without it and with other
numbers is. -/
theorem Outline.ofLines_renumber {ρ : Int → Int} (hρ : ρ.Injective) {lines : List Line}
    (hlines : Line.Numbered lines) (hlines' : Line.Numbered (before ++ blank :: after))
    (hmoved : before ++ after = lines.map (·.renumber ρ)) (file : Option String) {State : Type}
    (search : ModuleSearch) (disk : Disk) (load : Path → State → ModuleReply × State)
    (origin : Origin) (state : State) :
    let made := Outline.ofLines search disk load origin lines state
    Outline.ofLines search disk load origin (before ++ blank :: after) state =
      (made.1.renumber ρ file, made.2) := by
  let d := lines.foldl (Draft.readLine search disk load origin) { state := state }
  have hread : (before ++ blank :: after).foldl (Draft.readLine search disk load origin)
      { state := state } = d.renumber ρ file := by
    have hstart : ({ state := state } : Draft State).renumber ρ file = { state := state } := rfl
    have hlast := Draft.renumber_readLines ρ file { state := state } search disk load origin lines
    rw [hstart, ← hmoved, List.foldl_append] at hlast
    rw [List.foldl_append, List.foldl_cons,
      Draft.readLine_of_isBlank _ search disk load origin hblank, hlast]
  have hbraces := hlines'.unclosedDiagnostics_readLines search disk load origin state
  rw [hread] at hbraces
  -- No brace is open on the blank line, since the lines that are read have other numbers.
  have hclosed : blank.number ∉ (d.renumber ρ file).unclosed := by
    obtain ⟨hbefore, hafter⟩ := hlines'.number_ne
    intro hmem
    obtain ⟨n, hn, hsame⟩ := List.mem_map.mp hmem
    rcases Draft.exists_line_of_mem_unclosed search disk load origin hn with
      hnone | ⟨line, hline, rfl⟩
    · exact List.not_mem_nil hnone
    · have hin : line.renumber ρ ∈ before ++ after := hmoved ▸ List.mem_map_of_mem hline
      rcases List.mem_append.mp hin with hin | hin
      · exact hbefore _ hin hsame
      · exact hafter _ hin hsame
  unfold Outline.ofLines
  rw [hread]
  apply Draft.renumber_finish
  calc unclosedDiagnostics (before ++ blank :: after) (d.renumber ρ file).unclosed
      = ((before ++ after).filter
          fun line => (d.unclosed.map ρ).contains line.number).map unclosedBrace := by
        rw [hbraces, List.filter_append, List.filter_cons_of_neg (by simpa using hclosed),
          ← List.filter_append]
        rfl
    _ = ((lines.filter fun line => d.unclosed.contains line.number).map unclosedBrace).map
          (·.renumber ρ file) := by
        rw [hmoved, renumber_unclosedBraces file hρ]
    _ = (unclosedDiagnostics lines d.unclosed).map (·.renumber ρ file) := by
        rw [hlines.unclosedDiagnostics_readLines search disk load origin state]

theorem References.diagnostics_of_isBlank (t : SymbolTable) :
    References.diagnostics (before ++ blank :: after) t =
      References.diagnostics (before ++ after) t := by
  have hcoded : (before ++ blank :: after).filter (fun line => !line.isBlank) =
      (before ++ after).filter fun line => !line.isBlank := by
    rw [List.filter_append, List.filter_cons_of_neg (by simp [hblank]), ← List.filter_append]
  unfold References.diagnostics
  rw [hcoded]

end Blank

/-- A function that a text declares names the file of the text. -/
theorem SymbolTable.file_of_mem_allFunctions {t : SymbolTable} {file : Option String}
    {lines : List Line} (hbody : t.body = declaredBody file lines) {f : FunctionDecl}
    (hf : f ∈ t.allFunctions) : f.file = file := by
  obtain ⟨level, hlevel, hf⟩ := List.mem_flatMap.mp (List.mem_mergeSort.mp hf)
  have hplaced : ∃ owner, (owner, Member.ofFunction f) ∈ t.body.placed none := by
    have hmember := Body.mem_members_of_functions hf
    rcases List.mem_cons.mp hlevel with rfl | hlevel
    · exact ⟨none, List.mem_append_left _ (List.mem_map_of_mem hmember)⟩
    · obtain ⟨c, hc, rfl⟩ := List.mem_map.mp hlevel
      exact ⟨some c.head, List.mem_append_right _
        (List.mem_flatMap.mpr ⟨c, hc, List.mem_map_of_mem hmember⟩)⟩
  obtain ⟨owner, hplaced⟩ := hplaced
  rw [hbody] at hplaced
  exact (fits_of_mem_placed hplaced).2

/-- A text is not read as a module while it is drawn up, so what it brings in is not its own. -/
theorem ModuleSource.separates_outline (s : ModuleSource) (isRoot : Bool) (file : Option String)
    (lines : List Line) : (s.outline isRoot file lines {}).1.table.Separates := by
  have hmade : ((s.outline isRoot file lines {}).1.table.file,
      (s.outline isRoot file lines {}).1.table.body) =
      ((s.rootOrigin isRoot file).file, declaredBody (s.rootOrigin isRoot file).file lines) := by
    rw [outline_eq_rootPass]
    exact Prod.ext rfl (Outline.ofLines_body ..)
  obtain ⟨hfile, hbody⟩ := Prod.mk.inj hmade
  refine ⟨fun f hf => ?_, fun f hf heq => ?_⟩
  · rw [hfile, SymbolTable.file_of_mem_allFunctions hbody hf]
  · obtain ⟨path, _, o, hfinished, hpath, -⟩ :=
      (s.stable_sourced.outline isRoot file lines).2.1.functions f hf
    have hguarded : (s.outline isRoot file lines {}).2.Guarded (s.rootProgress file) := by
      rw [outline_eq_rootPass, Outline.ofLines, Draft.finish_state]
      exact (faithful_readLines isRoot file lines).guarded
    rw [hfile, hpath] at heq
    unfold rootOrigin at heq
    cases hroot : s.rootPath file with
    | none =>
      -- A text without a file has no name that a path has.
      rw [hroot] at heq
      have hname : file = some path.toText := heq.symm
      simp [rootPath, hname, path.toText_ne_empty] at hroot
    | some root =>
      rw [hroot] at heq
      have hsame : path = root := Path.toText_injective (Option.some.inj heq)
      have hin : path ∈ s.rootProgress file := by simp [rootProgress, hroot, hsame]
      exact hguarded.not_mem_finishedFiles hin (List.mem_map_of_mem hfinished.mem)

/-- A text whose lines are those of another one with new numbers, and one that is blank, has the
analysis of that text with the new numbers. -/
theorem analyze_eq_renumber (disk : Disk) (config : Config) (file : Option String)
    {text text' : List Char} {before after : List Line} {blank : Line} {ρ : Int → Int}
    (hρ : KeepsOrder ρ) (hblank : blank.isBlank = true)
    (hlines' : Line.ofSource text' = before ++ blank :: after)
    (hmoved : before ++ after = (Line.ofSource text).map (·.renumber ρ)) :
    analyze disk config file text' = (analyze disk config file text).renumber ρ := by
  let s := config.modules disk
  let t := (analyze disk config file text).table
  have hnumbered' := Line.numbered_ofSource text'
  rw [hlines'] at hnumbered'
  have hmem : ∀ l ∈ Line.ofSource text, l.renumber ρ ∈ Line.ofSource text' := by
    intro l hl
    have hin : l.renumber ρ ∈ before ++ after := hmoved ▸ List.mem_map_of_mem hl
    rw [hlines']
    exact (List.mem_append.mp hin).elim (List.mem_append_left _)
      fun hin => List.mem_append_right _ (List.mem_cons_of_mem _ hin)
  have houtline : (s.outline true file (Line.ofSource text') {}).1 =
      (s.outline true file (Line.ofSource text) {}).1.renumber ρ t.file := by
    rw [ModuleSource.outline_eq_rootPass, ModuleSource.outline_eq_rootPass, hlines']
    exact congrArg Prod.fst (Outline.ofLines_renumber hblank hρ.injective
      (Line.numbered_ofSource text) hnumbered' hmoved t.file ..)
  have htable : (analyze disk config file text').table = t.renumber ρ := congrArg (·.table) houtline
  have htypes : TypeCheck.diagnostics (Line.ofSource text') (t.renumber ρ) =
      (TypeCheck.diagnostics (Line.ofSource text) t).map (·.renumber ρ t.file) := by
    refine TypeCheck.diagnostics_renumber hρ t t.file fun u hu => ?_
    obtain ⟨l, hl, hnumber, -⟩ := analyze_typesIn disk config file text u hu
    rw [hnumber, Line.at?_ofSource hl]
    exact Line.at?_ofSource (hmem l hl)
  have hnames : References.diagnostics (Line.ofSource text') (t.renumber ρ) =
      (References.diagnostics (Line.ofSource text) t).map (·.renumber ρ t.file) := by
    rw [hlines', References.diagnostics_of_isBlank hblank, hmoved]
    exact References.diagnostics_renumber hρ (s.separates_outline true file _) _
  have hdiagnostics : (analyze disk config file text').diagnostics =
      (analyze disk config file text).diagnostics.map (·.renumber ρ t.file) := by
    rw [analyze_diagnostics, analyze_diagnostics, htable, htypes, hnames, houtline,
      List.map_append, List.map_append]
    rfl
  calc analyze disk config file text'
      = ⟨(analyze disk config file text').table.file, (analyze disk config file text').table,
          (analyze disk config file text').diagnostics⟩ := rfl
    _ = (analyze disk config file text).renumber ρ := by
        rw [htable, hdiagnostics]
        rfl

/-- Inserting a line between two lines of a text, if it holds nothing but blanks and comments and
leaves a block comment open exactly if one is open there, moves the lines behind it down by one. The
analysis is that of the text without it, with the new numbers: what was found stays in the same
order and says the same, in the same columns, and what was brought in from modules stays as it is.
-/
theorem analyze_insert_blank (disk : Disk) (config : Config) (file : Option String)
    {front back line content : List Char} {here : Line}
    (hline : Text.sourceLines (line ++ ['\n']) = [content, []])
    (hhere : (Line.ofSource (front ++ '\n' :: back))[front.count '\n' + 1]? = some here)
    (hblank : (⟨here.number, content, here.startsInComment⟩ : Line).isBlank = true)
    (hstate : (⟨here.number, content, here.startsInComment⟩ : Line).endsInComment =
      here.startsInComment) :
    analyze disk config file (front ++ '\n' :: (line ++ '\n' :: back)) =
      (analyze disk config file (front ++ '\n' :: back)).renumber (pushDown here.number) := by
  let text := front ++ '\n' :: back
  obtain ⟨before, after, hlines, hlines'⟩ := Line.exists_ofSource_insert hline hhere hstate
  have hnumbers := Line.pairwise_number_ofSource text
  rw [hlines] at hnumbers
  -- Apart from the new line, the lines are those of the text with their new numbers.
  have hmoved : before ++ (here :: after).map (·.renumber (· + 1)) =
      (Line.ofSource text).map (·.renumber (pushDown here.number)) := by
    rw [hlines]
    exact (Line.map_pushDown hnumbers).symm
  exact analyze_eq_renumber disk config file (keepsOrder_pushDown here.number) hblank hlines' hmoved

/-- A line that is put into a block comment, in a class whose brace is open. The function that is
called has moved with its line. -/
theorem analyze_insert_blank_inComment :
    let front := "class A \x7b\n/* one".toList
    let back := "three */\ndef f() -> void \x7b\n\x7d\nf(x)".toList
    let line := " two".toList
    let here : Line := ⟨3, "three */".toList, true⟩
    let inserted : Line := ⟨3, line, true⟩
    (Text.sourceLines (line ++ ['\n']) = [line, []] ∧
      (Line.ofSource (front ++ '\n' :: back))[front.count '\n' + 1]? = some here ∧
      inserted.isBlank = true ∧ inserted.endsInComment = here.startsInComment) ∧
    (analyze .bare .bare none (front ++ '\n' :: back)).diagnostics.map
        (fun d => (d.code, d.line, d.function.map (·.line))) =
      [(.unbalancedBraces, 1, none), (.undefinedVariable, 6, none),
        (.functionInfo, 6, some 4)] ∧
    analyze .bare .bare none (front ++ '\n' :: (line ++ '\n' :: back)) =
      (analyze .bare .bare none (front ++ '\n' :: back)).renumber (pushDown 3) := by
  intro front back line here inserted
  have hline : Text.sourceLines (line ++ ['\n']) = [line, []] := by decide
  have hhere : (Line.ofSource (front ++ '\n' :: back))[front.count '\n' + 1]? = some here :=
    rfl
  have hblank : inserted.isBlank = true := by decide
  have hstate : inserted.endsInComment = here.startsInComment := by decide
  exact ⟨⟨hline, hhere, hblank, hstate⟩, by decide +kernel,
    analyze_insert_blank .bare .bare none hline hhere hblank hstate⟩

end ScriptLint
