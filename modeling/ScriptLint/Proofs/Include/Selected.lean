import ScriptLint.Proofs.Include.Line
import ScriptLint.Proofs.Include.Selection
import ScriptLint.Proofs.Library.Analysis
import ScriptLint.Proofs.Module.Tables
import ScriptLint.Proofs.Strict.Outline

/-! What the outline of a text says on a line that asks a module for a part of it. The module is
drawn up once, and the line is told what was found then and whether the part is missing. A macro
that is there is among the macros of the outline, whatever the other lines bring in. -/
namespace ScriptLint

open Text (Cursor Token)

/-- The line asks a module for a part of it and says nothing else. The module can be read, and is
not the file of the text itself. -/
structure ModuleSource.Selects (s : ModuleSource) (file : Option String) (line : Line)
    (path : Token) (r : Resolution) (selection : Selection) : Prop where
  only : line.OnlyIncludes path
  resolved : s.search.resolve? s.disk (s.rootDirectory file).toText path.text = some r
  selection : r.selection = some selection
  readable : (s.moduleLines? r.file).isSome
  other : s.rootPath file ≠ some r.file

/-- The outline of the module at the path, in drawing up a text: it is what the lines of its file
were drawn up as, and it is the one that is known in the end. -/
structure ModuleSource.DrawnUp (s : ModuleSource) (file : Option String) (lines : List Line)
    (path : Path) (o : Outline) : Prop where
  finished : (s.outline true file lines {}).2.finished.lookup path.toText = some o
  built : ∃ text before, s.disk.readSource path.toText s.maxLines = .ok text ∧
    (s.outline false (some path.toText) (Line.ofSource text) before).1 = o

namespace FitLine

variable {found : List Diagnostic} {line : Line} (h : FitLine found line)
include h

theorem filter_eq_self : found.filter (·.line = line.number) = found :=
  List.filter_eq_self.mpr fun d hd => decide_eq_true (h d hd).number

theorem filter_eq_nil {number : Int} (hne : line.number ≠ number) :
    found.filter (·.line = number) = [] :=
  List.filter_eq_nil_iff.mpr fun d hd heq =>
    hne ((h d hd).number.symm.trans (of_decide_eq_true heq))

end FitLine

/-- An include line is not blank. -/
theorem Line.isBlank_of_inclusion {line : Line} {path : Token}
    (h : Statement.ofText line.code = .inclusion path) : line.isBlank = false := by
  obtain ⟨word, _, _, hword, -, -⟩ := Statement.exists_of_ofText_inclusion h
  have hon : (Cursor.start line.code).skipBlanks.On line.code :=
    (Cursor.reaches_skipBlanks _).on (Cursor.on_start _)
  have hletter : 'i' ∈ line.trimmed :=
    Text.mem_trim (Cursor.mem_of_word? hon hword (by decide)) (by decide)
  rw [Line.isBlank, List.isEmpty_eq_false_iff]
  exact List.ne_nil_of_mem hletter

/-- Nothing is said of open braces on a line that has none. -/
theorem filter_unclosedDiagnostics (lines : List Line) {unclosed : List Int} {number : Int}
    (h : number ∉ unclosed) :
    (unclosedDiagnostics lines unclosed).filter (·.line = number) = [] := by
  refine List.filter_eq_nil_iff.mpr fun found hfound hnumber => ?_
  obtain ⟨line, -, n, hn, rfl⟩ := exists_of_mem_unclosedDiagnostics hfound
  have hsame : n = number := of_decide_eq_true hnumber
  exact h (hsame ▸ hn)

section Outlines

variable {State : Type} (search : ModuleSearch) (disk : Disk)
  (load : Path → State → ModuleReply × State) (origin : Origin)

/-- Lines say nothing on lines of other numbers. -/
theorem Draft.filter_readLines {lines : List Line} {number : Int}
    (hne : ∀ line ∈ lines, line.number ≠ number) (d : Draft State) :
    (lines.foldl (readLine search disk load origin) d).diagnostics.filter (·.line = number) =
      d.diagnostics.filter (·.line = number) := by
  induction lines generalizing d with
  | nil => rfl
  | cons line lines ih =>
    rw [List.forall_mem_cons] at hne
    obtain ⟨added, hadded, hfits⟩ := adds_readLine search disk load origin d line
    have hnone : added.filter (·.line = number) = [] := FitLine.filter_eq_nil hfits hne.1
    rw [List.foldl_cons, ih hne.2, hadded, List.filter_append, hnone, List.append_nil]

/-- Lines of other numbers leave no brace open on a line. -/
theorem Draft.notMem_unclosed_readLines {lines : List Line} {number : Int}
    (hne : ∀ line ∈ lines, line.number ≠ number) {d : Draft State} (h : number ∉ d.unclosed) :
    number ∉ (lines.foldl (readLine search disk load origin) d).unclosed := by
  intro hmem
  rcases exists_line_of_mem_unclosed search disk load origin hmem with
    hmem | ⟨line, hline, heq⟩
  · exact h hmem
  · exact hne line hline heq

section Inclusion

variable {line : Line} {path : Token} {r : Resolution}
  (hs : Statement.ofText line.code = .inclusion path)
  (hr : search.resolve? disk origin.directory path.text = some r)
  (hopen : '\x7b' ∉ line.code) (hclose : '\x7d' ∉ line.code)
include hs hr hopen hclose

/-- On an include line without braces there is nothing to say but what is said of the answer. -/
theorem Draft.findings_of_inclusion (d : Draft State) :
    d.findings search disk load origin line = (load r.file d.state).1.findings line path r := by
  have hbraces := matchBraces_of_notMem hopen hclose d.unclosed
  simp [findings, statementFindings, Line.isBlank_of_inclusion hs, hs, hr, hbraces]

omit hr in
theorem Draft.readLine_unclosed_of_inclusion (d : Draft State) :
    (d.readLine search disk load origin line).unclosed = d.unclosed := by
  have hb := Line.isBlank_of_inclusion hs
  rw [readLine_unclosed_of_coded search disk load origin hb, matchBraces_of_notMem hopen hclose]

/-- What the outline of a text says on an include line without braces is what is said of the answer
for the module. -/
theorem Outline.filter_ofLines {before after : List Line}
    (hnumbers : Line.Numbered (before ++ line :: after)) (state : State) :
    (Outline.ofLines search disk load origin (before ++ line :: after)
      state).1.diagnostics.filter (·.line = line.number) =
      (load r.file (before.foldl (Draft.readLine search disk load origin)
        { state := state }).state).1.findings line path r := by
  let d : Draft State := before.foldl (Draft.readLine search disk load origin) { state := state }
  let next := d.readLine search disk load origin line
  obtain ⟨hbefore, hafter⟩ := hnumbers.number_ne
  have hpath : path.In line.code := by
    have htokens := Statement.tokensIn_ofText line.code
    rwa [hs] at htokens
  have hself : ((load r.file d.state).1.findings line path r).filter (·.line = line.number) =
      (load r.file d.state).1.findings line path r :=
    List.filter_eq_self.mpr fun found hfound =>
      decide_eq_true (ModuleReply.line_of_mem_findings hpath hfound)
  have hnext : next.diagnostics.filter (·.line = line.number) =
      (load r.file d.state).1.findings line path r := by
    have hnone := Draft.filter_readLines search disk load origin hbefore { state := state }
    rw [Draft.readLine_diagnostics, List.filter_append, hnone,
      Draft.findings_of_inclusion search disk load origin hs hr hopen hclose d, hself]
    rfl
  -- No brace is open on the line in the end, since it has none.
  have hunclosed : line.number ∉ next.unclosed := by
    change line.number ∉ (d.readLine search disk load origin line).unclosed
    rw [Draft.readLine_unclosed_of_inclusion search disk load origin hs hopen hclose d]
    exact Draft.notMem_unclosed_readLines search disk load origin hbefore List.not_mem_nil
  have hlast := Draft.notMem_unclosed_readLines search disk load origin hafter hunclosed
  rw [Outline.ofLines, Draft.finish_diagnostics, List.foldl_append, List.foldl_cons,
    List.filter_append, filter_unclosedDiagnostics _ hlast, List.append_nil,
    Draft.filter_readLines search disk load origin hafter next, hnext]

end Inclusion

end Outlines

/-- What is said of an outline of which a part is asked for: what was found in it, and whether it
lacks the part. -/
theorem ModuleReply.findings_outline {line : Line} {path : Token} {r : Resolution}
    {selection : Selection} (hselection : r.selection = some selection) (o : Outline) :
    (ModuleReply.outline o).findings line path r =
      o.diagnostics.map (libraryDiagnostic line path r.file.toText) ++
        if (o.table.select? r.file.toText selection).isSome then []
        else [missingSymbol line path r selection] := by
  change (({ state := () } : Draft Unit).takeOver line path r o).diagnostics = _
  unfold Draft.takeOver
  rw [hselection]
  dsimp only
  cases o.table.select? r.file.toText selection with
  | some given => exact (List.append_nil _).symm
  | none => rfl

namespace Imports

variable {i more : Imports} {name : String}

/-- Merging loses no macro, though it may keep another one of the same name. -/
theorem mem_macroNames_merge
    (h : name ∈ i.macros.map (·.name) ∨ name ∈ more.macros.map (·.name)) :
    name ∈ (i.merge more).macros.map (·.name) := by
  obtain ⟨m, hm, rfl⟩ : ∃ m, (m ∈ i.macros ∨ m ∈ more.macros) ∧ m.name = name := by
    rcases h with h | h
    · obtain ⟨m, hm, heq⟩ := List.mem_map.mp h
      exact ⟨m, .inl hm, heq⟩
    · obtain ⟨m, hm, heq⟩ := List.mem_map.mp h
      exact ⟨m, .inr hm, heq⟩
  have hkey : m.key ∈ (i.merge more).macros.map MacroDecl.key := by
    rw [merge_eq]
    exact mem_map_foldl_insertNew.mpr (hm.imp List.mem_map_of_mem List.mem_map_of_mem)
  obtain ⟨kept, hkept, heq⟩ := List.mem_map.mp hkey
  exact List.mem_map.mpr ⟨kept, hkept, (ImportKey.ofMacro.inj heq).1⟩

theorem mem_macroNames_foldl_bring {State : Type} {load : Path → State → ModuleReply × State}
    (rs : List Resolution) {known : Imports × State} (h : name ∈ known.1.macros.map (·.name)) :
    name ∈ (rs.foldl (bring load) known).1.macros.map (·.name) := by
  induction rs generalizing known with
  | nil => exact h
  | cons r rs ih =>
    refine ih ?_
    change name ∈ (known.1.takeReply r (load r.file known.2).1).macros.map (·.name)
    rcases known.1.takeReply_eq_or r (load r.file known.2).1 with heq | ⟨more, heq⟩
    · rwa [heq]
    · rw [heq]
      exact mem_macroNames_merge (.inl h)

end Imports

/-- A macro that is given has the name that was asked for. -/
theorem SymbolTable.mem_macroNames_of_oneMacro? {t : SymbolTable} {file name : String}
    {given : Imports} (h : t.oneMacro? file name = some given) :
    name ∈ given.macros.map (·.name) := by
  obtain ⟨m, hm, rfl⟩ := Option.map_eq_some_iff.mp h
  have hname : m.name = name := by
    rcases Option.or_eq_some_iff.mp hm with hfound | ⟨-, hfound⟩
    · simpa using List.find?_some hfound
    · simpa using List.find?_some hfound
  exact List.mem_singleton.mpr hname.symm

/-- A macro that a line asks for is among the macros of the outline if the module has it. -/
theorem Outline.mem_macroNames_ofLines {State : Type} {search : ModuleSearch} {disk : Disk}
    {load : Path → State → ModuleReply × State} {origin : Origin} {before after : List Line}
    {line : Line} {r : Resolution} {name : String} {state : State} {o : Outline}
    (hr : line.resolution? search disk origin.directory = some r)
    (hselection : r.selection = some (.oneMacro name))
    (hreply : (load r.file (before.foldl (Draft.readLine search disk load origin)
      { state := state }).state).1 = .outline o)
    (hgiven : (o.table.select? r.file.toText (.oneMacro name)).isSome) :
    name ∈ (Outline.ofLines search disk load origin (before ++ line :: after)
      state).1.table.imports.macros.map (·.name) := by
  let front := (resolutions search disk origin.directory before).foldl (Imports.bring load)
    ({}, state)
  have hfront : (before.foldl (Draft.readLine search disk load origin) { state := state }).state =
      front.2 :=
    congrArg Prod.snd
      (Draft.readLines_imports_state search disk load origin { state := state } before)
  obtain ⟨given, hgiven⟩ := Option.isSome_iff_exists.mp hgiven
  have hline : name ∈ (Imports.bring load front r).1.macros.map (·.name) := by
    have htake : front.1.take r o = front.1.merge given := by
      simp [Imports.take, hselection, hgiven]
    rw [hfront] at hreply
    rw [Imports.bring, hreply, Imports.takeReply, htake]
    exact Imports.mem_macroNames_merge (.inr (SymbolTable.mem_macroNames_of_oneMacro? hgiven))
  have hasked : resolutions search disk origin.directory (before ++ line :: after) =
      resolutions search disk origin.directory before ++
        r :: resolutions search disk origin.directory after := by
    rw [resolutions, List.filterMap_append, List.filterMap_cons_some hr]
    rfl
  have hmade := congrArg Prod.fst
    (Outline.ofLines_imports_state search disk load origin (before ++ line :: after) state)
  rw [hasked, List.foldl_append, List.foldl_cons] at hmade
  dsimp only at hmade
  rw [hmade]
  exact Imports.mem_macroNames_foldl_bring _ hline

namespace ModuleSource

variable {s : ModuleSource} {file : Option String}

/-- A module that is given has been finished. -/
theorem mem_finished_of_answer {path : Path} {pass : Pass} {o : Outline}
    (h : (s.answer path pass).1 = .outline o) :
    (path.toText, o) ∈ (s.answer path pass).2.finished := by
  have hcase := s.answer_cases path pass
  generalize s.answer path pass = result at hcase h ⊢
  cases hcase with
  | finished hlookup =>
    cases h
    exact Pass.mem_finished_of_lookup hlookup
  | begun | unreadable => cases h
  | read =>
    cases h
    exact List.mem_append_right _ (List.mem_singleton_self _)

theorem rootState_readLines (file : Option String) (lines : List Line) :
    s.RootState file (lines.foldl
      (Draft.readLine s.search s.disk s.answer (s.rootOrigin true file))
      { state := s.rootPass file }).state :=
  Draft.readLines_keeps (fun r _ _ hknown => hknown.answer r.file) (rootState_rootPass file)

/-- Whatever is known in the end is what the lines of a file were drawn up as. -/
theorem drawnUp_of_lookup {lines : List Line} {path : Path} {o : Outline}
    (h : (s.outline true file lines {}).2.finished.lookup path.toText = some o) :
    s.DrawnUp file lines path o := by
  have hstate : s.RootState file (s.outline true file lines {}).2 := by
    rw [outline_eq_rootPass, Outline.ofLines, Draft.finish_state]
    exact rootState_readLines file lines
  exact ⟨h, hstate.built path o (Pass.mem_finished_of_lookup h)⟩

/-- The module is not in progress when the line is read, so the answer for it is an outline. -/
theorem Selects.exists_answer {line : Line} {path : Token} {r : Resolution} {selection : Selection}
    (h : s.Selects file line path r selection) {pass : Pass} (hpass : s.RootState file pass) :
    ∃ o, (s.answer r.file pass).1 = .outline o := by
  obtain ⟨moduleLines, hlines⟩ := Option.isSome_iff_exists.mp h.readable
  have hother : r.file ∉ s.rootProgress file := by
    simpa [rootProgress] using h.other
  obtain ⟨hanswer, -⟩ :=
    answersAnew (List.Subset.refl _) r.file pass hpass.faithful fun p hp => Or.inl hp
  obtain ⟨o, ho, -⟩ := hanswer.outline hother moduleLines hlines
  exact ⟨o, ho⟩

/-- An outline that is given while a line of the text is read is among the finished ones behind the
text. -/
theorem mem_finished_outline {before after : List Line} {line : Line} {r : Resolution} {o : Outline}
    (hline : line.resolution? s.search s.disk (s.rootDirectory file).toText = some r)
    {d : Draft Pass} (hstate : s.RootState file d.state)
    (hd : before.foldl (Draft.readLine s.search s.disk s.answer (s.rootOrigin true file))
      { state := s.rootPass file } = d)
    (ho : (s.answer r.file d.state).1 = .outline o) :
    (r.file.toText, o) ∈ (s.outline true file (before ++ line :: after) {}).2.finished := by
  let next := d.readLine s.search s.disk s.answer (s.rootOrigin true file) line
  have hnext : next.state = (s.answer r.file d.state).2 := by
    have hline : line.resolution? s.search s.disk (s.rootOrigin true file).directory = some r :=
      hline
    change (d.readLine s.search s.disk s.answer (s.rootOrigin true file) line).state = _
    rw [Draft.readLine_state, hline]
    rfl
  have hlater := (exists_surfaces_readLines true next (hnext ▸ hstate.answer r.file) after).1
  rw [outline_eq_rootPass, Outline.ofLines, Draft.finish_state, List.foldl_append, hd,
    List.foldl_cons]
  refine hlater ?_
  rw [hnext]
  exact mem_finished_of_answer ho

/-- A line that asks for a part of a module is told what was found in the module, and whether the
part is missing. -/
theorem Selects.exists_outline {line : Line} {path : Token} {r : Resolution} {selection : Selection}
    (h : s.Selects file line path r selection) {before after : List Line}
    (hnumbers : Line.Numbered (before ++ line :: after)) :
    let made := s.outline true file (before ++ line :: after) {}
    ∃ o, s.DrawnUp file (before ++ line :: after) r.file o ∧
      made.1.diagnostics.filter (·.line = line.number) =
        o.diagnostics.map (libraryDiagnostic line path r.file.toText) ++
          (if (o.table.select? r.file.toText selection).isSome then []
          else [missingSymbol line path r selection]) ∧
      ∀ name, selection = .oneMacro name → (o.table.select? r.file.toText selection).isSome →
        name ∈ made.1.table.imports.macros.map (·.name) := by
  intro made
  let origin := s.rootOrigin true file
  let d : Draft Pass :=
    before.foldl (Draft.readLine s.search s.disk s.answer origin) { state := s.rootPass file }
  have hmade : made = Outline.ofLines s.search s.disk s.answer origin (before ++ line :: after)
      (s.rootPass file) := outline_eq_rootPass true file _
  have hs := h.only.statement
  have hline : line.resolution? s.search s.disk origin.directory = some r :=
    (Line.resolution?_of_inclusion s.search s.disk (Line.isBlank_of_inclusion hs) hs).trans
      h.resolved
  have hstate : s.RootState file d.state := rootState_readLines file before
  obtain ⟨o, ho⟩ := h.exists_answer hstate
  have hfinished : (r.file.toText, o) ∈ made.2.finished :=
    mem_finished_outline hline hstate rfl ho
  refine ⟨o, drawnUp_of_lookup (lookup_finished_outline hfinished), ?_, ?_⟩
  · rw [hmade, Outline.filter_ofLines s.search s.disk s.answer origin hs h.resolved
      (h.only.notMem_code (by decide) (by decide)) (h.only.notMem_code (by decide) (by decide))
      hnumbers]
    exact (congrArg (fun reply => ModuleReply.findings reply line path r) ho).trans
      (ModuleReply.findings_outline h.selection o)
  · rintro name rfl hgiven
    rw [hmade]
    exact Outline.mem_macroNames_ofLines hline h.selection ho hgiven

end ModuleSource

end ScriptLint
