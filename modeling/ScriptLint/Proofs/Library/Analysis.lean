import ScriptLint.Proofs.Analysis.Parts
import ScriptLint.Proofs.Library.Findings
import ScriptLint.Proofs.Path.Text

/-! How what is wrong in a module reaches the text. Each module is drawn up once, and an include
line of the text is told what was found then, at its path and as errors, whichever include line it
was that had the module read. -/
namespace ScriptLint

/-- The finding is an error at the path of an include line. -/
structure Diagnostic.AtInclude (d : Diagnostic) (line : Line) : Prop where
  severity : d.severity = .error
  wholeLine : d.wholeLine = false
  number : d.line = line.number
  column : ∃ path : Text.Token, Statement.ofText line.code = .inclusion path ∧
    ∃ column : Nat, line.column? path.offset = some column ∧ d.startColumn = column

theorem ModuleReply.atInclude_of_mem_library {line : Line} {path : Text.Token}
    (hs : Statement.ofText line.code = .inclusion path) (reply : ModuleReply) (r : Resolution)
    {d : Diagnostic} (h : d ∈ reply.library line path r) : d.AtInclude line := by
  have hpath : path.In line.code := by
    have htokens := Statement.tokensIn_ofText line.code
    rwa [hs] at htokens
  obtain ⟨column, hcolumn, -⟩ := line.column?_of_add_le hpath.length_pos hpath.add_le
  obtain ⟨code, message, rfl⟩ := reply.exists_of_mem_library line path r h
  refine ⟨Diagnostic.atOffset_severity .., ?_, Diagnostic.atOffset_line .., path, hs, column,
    hcolumn, ?_⟩
  · simp only [Diagnostic.atOffset, hcolumn]
  · simp only [Diagnostic.atOffset, hcolumn]

namespace ModuleSource

variable (s : ModuleSource)

/-- Each outline that is finished is what the lines of its file were drawn up as. -/
def Built (pass : Pass) : Prop :=
  ∀ (path : Path) (o : Outline), (path.toText, o) ∈ pass.finished → ∃ text before,
    s.disk.readSource path.toText s.maxLines = .ok text ∧
      (s.outline false (some path.toText) (Line.ofSource text) before).1 = o

/-- What a line of the text says of a library: nothing, unless it includes another file that is
there; then that this cannot be read, or everything that was found when it was drawn up, in the
same order. -/
inductive Surfaces (file : Option String) (pass : Pass) (line : Line) : List Diagnostic → Prop
  | nothing
      (h : line.resolution? s.search s.disk (s.rootDirectory file).toText = none) :
      Surfaces file pass line []
  | itself {r : Resolution}
      (h : line.resolution? s.search s.disk (s.rootDirectory file).toText = some r)
      (hself : s.rootPath file = some r.file) : Surfaces file pass line []
  | unreadable {path : Text.Token} {r : Resolution} {e : SourceError}
      (h : line.resolution? s.search s.disk (s.rootDirectory file).toText = some r)
      (hs : Statement.ofText line.code = .inclusion path)
      (hother : s.rootPath file ≠ some r.file)
      (hread : s.disk.readSource r.file.toText s.maxLines = .error e) :
      Surfaces file pass line [unreadableModule line path r.file.toText e]
  | built {path : Text.Token} {r : Resolution} {text : List Char} {before : Pass} {o : Outline}
      (h : line.resolution? s.search s.disk (s.rootDirectory file).toText = some r)
      (hs : Statement.ofText line.code = .inclusion path)
      (hother : s.rootPath file ≠ some r.file)
      (hread : s.disk.readSource r.file.toText s.maxLines = .ok text)
      (hbuilt : (s.outline false (some r.file.toText) (Line.ofSource text) before).1 = o)
      (hfinished : (r.file.toText, o) ∈ pass.finished) :
      Surfaces file pass line (o.diagnostics.map (libraryDiagnostic line path r.file.toText))

variable {s} {file : Option String}

/-- Drawing up the text of a file as a module is what reading the module does. -/
theorem outline_toText (isRoot : Bool) (path : Path) (lines : List Line) (pass : Pass) :
    s.outline isRoot (some path.toText) lines pass =
      s.outlineOf s.answer isRoot path lines pass := by
  have hname : (some path.toText).filter (· ≠ "") = some path.toText :=
    Option.filter_eq_some_iff.mpr ⟨rfl, decide_eq_true path.toText_ne_empty⟩
  have hpath : s.disk.absolute path.toText = path := Path.resolve_toText _ _
  unfold outline start
  rw [hname]
  dsimp only
  rw [hpath]
  rfl

theorem Built.finish {pass : Pass} (h : s.Built pass) {path : Path} {text : List Char}
    (hread : s.disk.readSource path.toText s.maxLines = .ok text) (before : Pass) :
    s.Built (pass.finish path.toText
      (s.outlineOf s.answer false path (Line.ofSource text) before).1) := by
  intro other o ho
  rcases List.mem_append.mp ho with ho | ho
  · exact h other o ho
  · obtain ⟨hother, rfl⟩ := Prod.mk.inj (List.mem_singleton.mp ho)
    obtain rfl := Path.toText_injective hother
    exact ⟨text, before, hread, congrArg Prod.fst (outline_toText false _ _ _)⟩

/-- An answer takes nothing back, and what it finishes is built. The induction is on the number of
paths that are unread. -/
theorem Built.answer {pass : Pass} (h : s.Built pass) (path : Path) :
    pass.finished ⊆ (s.answer path pass).2.finished ∧ s.Built (s.answer path pass).2 := by
  induction hn : s.unread pass using Nat.strongRecOn generalizing path pass with
  | ind n ih =>
    subst hn
    have hcase := s.answer_cases path pass
    generalize s.answer path pass = result at hcase ⊢
    cases hcase with
    | finished _ => exact ⟨List.Subset.refl _, h⟩
    | begun _ _ => exact ⟨List.Subset.refl _, h⟩
    | unreadable _ _ _ => exact ⟨List.Subset.refl _, h⟩
    | @read text _ hnew hread =>
      -- While the module is read, one path less is unread.
      let Inside (known : Pass) : Prop :=
        (pass.visit path.toText).visited ⊆ known.visited ∧ pass.finished ⊆ known.finished ∧
          s.Built known
      have hkeep : ∀ path' known, Inside known → Inside (s.answer path' known).2 := by
        rintro path' known ⟨hvisited, hfinished, hknown⟩
        have hlt := s.unread_lt_of_visited_subset hread hnew hvisited
        obtain ⟨hnext, hbuilt⟩ := ih _ hlt hknown path' rfl
        exact ⟨fun t ht => s.visited_subset_load _ _ _ (hvisited ht),
          fun entry he => hnext (hfinished he), hbuilt⟩
      have hstart : Inside (pass.visit path.toText) := by
        refine ⟨List.Subset.refl _, ?_, ?_⟩
        · rw [Pass.visit_finished]
          exact List.Subset.refl _
        · intro other o ho
          rw [Pass.visit_finished] at ho
          exact h other o ho
      have hend : Inside (s.outlineOf s.answer false path (Line.ofSource text) pass).2 :=
        Outline.ofLines_state_induction hkeep hstart
      obtain ⟨-, hfinished, hbuilt⟩ := hend
      exact ⟨fun entry he => List.mem_append_left _ (hfinished he), hbuilt.finish hread pass⟩

theorem Surfaces.mono {pass later : Pass} {line : Line} {part : List Diagnostic}
    (h : s.Surfaces file pass line part) (hsub : pass.finished ⊆ later.finished) :
    s.Surfaces file later line part := by
  cases h with
  | nothing h => exact .nothing h
  | itself h hself => exact .itself h hself
  | unreadable h hs hother hread => exact .unreadable h hs hother hread
  | built h hs hother hread hbuilt hfinished =>
    exact .built h hs hother hread hbuilt (hsub hfinished)

/-- What is known behind some lines of a text. -/
structure RootState (s : ModuleSource) (file : Option String) (pass : Pass) : Prop where
  guarded : pass.Guarded (s.rootProgress file)
  faithful : s.Faithful (s.rootProgress file) (s.rootProgress file) pass
  built : s.Built pass

theorem rootState_rootPass (file : Option String) : s.RootState file (s.rootPass file) := by
  refine ⟨guarded_rootPass file, faithful_rootPass file, fun path o ho => ?_⟩
  rw [rootPass_finished] at ho
  exact (List.not_mem_nil ho).elim

theorem RootState.answer {pass : Pass} (h : s.RootState file pass) (path : Path) :
    s.RootState file (s.answer path pass).2 := by
  obtain ⟨-, hfaithful⟩ :=
    answersAnew (List.Subset.refl _) path pass h.faithful fun p hp => Or.inl hp
  exact ⟨hfaithful.guarded, hfaithful, (h.built.answer path).2⟩

/-- While the text is drawn up, only its own file is begun and not finished. -/
theorem RootState.rootPath_eq_iff {pass : Pass} (h : s.RootState file pass) {path : Path} :
    s.rootPath file = some path ↔
      path.toText ∈ pass.visited ∧ pass.finished.lookup path.toText = none := by
  have hprogress : s.rootPath file = some path ↔ path ∈ s.rootProgress file := by
    simp [rootProgress]
  rw [hprogress, h.guarded.mem_visited_iff]
  constructor
  · intro hin
    refine ⟨Or.inr hin, ?_⟩
    cases hlookup : pass.finished.lookup path.toText with
    | none => rfl
    | some o =>
      have hmem := List.mem_map_of_mem (f := (·.1)) (Pass.mem_finished_of_lookup hlookup)
      exact absurd hmem (h.guarded.not_mem_finishedFiles hin)
  · rintro ⟨hfinished | hin, hlookup⟩
    · exact absurd hfinished (Pass.not_mem_finishedFiles_of_lookup hlookup)
    · exact hin

theorem RootState.surfaces_answer {pass : Pass} (h : s.RootState file pass) {line : Line}
    {path : Text.Token} {r : Resolution}
    (hr : line.resolution? s.search s.disk (s.rootDirectory file).toText = some r)
    (hs : Statement.ofText line.code = .inclusion path) :
    s.Surfaces file (s.answer r.file pass).2 line
      ((s.answer r.file pass).1.library line path r) := by
  have hcase := s.answer_cases r.file pass
  have hlater := (h.answer r.file).built
  have hfinished : ∀ o, pass.finished.lookup r.file.toText = some o →
      s.rootPath file ≠ some r.file := by
    intro o hlookup hroot
    rw [(h.rootPath_eq_iff.mp hroot).2] at hlookup
    cases hlookup
  have hnew : r.file.toText ∉ pass.visited → s.rootPath file ≠ some r.file :=
    fun hnew hroot => hnew (h.rootPath_eq_iff.mp hroot).1
  generalize s.answer r.file pass = result at hcase hlater ⊢
  cases hcase with
  | finished hlookup =>
    have hmem := Pass.mem_finished_of_lookup hlookup
    obtain ⟨text, before, hread, hbuilt⟩ := hlater r.file _ hmem
    exact .built hr hs (hfinished _ hlookup) hread hbuilt hmem
  | begun hlookup hvisited => exact .itself hr (h.rootPath_eq_iff.mpr ⟨hvisited, hlookup⟩)
  | unreadable _ hunread hread => exact .unreadable hr hs (hnew hunread) hread
  | @read text _ hunread _ =>
    -- It is the last one that is finished when the answer is given.
    let o := (s.outlineOf s.answer false r.file (Line.ofSource text) pass).1
    have hmem : (r.file.toText, o) ∈
        (s.readModule s.answer r.file (Line.ofSource text) pass).2.finished :=
      List.mem_append_right _ (List.mem_singleton_self _)
    obtain ⟨text, before, hread, hbuilt⟩ := hlater r.file _ hmem
    exact .built hr hs (hnew hunread) hread hbuilt hmem

section Lines

variable (isRoot : Bool) (d : Draft Pass)

/-- One line of the text: what is known is kept, nothing finished is lost, and what is added from
libraries surfaces on the line. -/
theorem exists_surfaces_readLine (h : s.RootState file d.state) (line : Line) :
    let next := d.readLine s.search s.disk s.answer (s.rootOrigin isRoot file) line
    s.RootState file next.state ∧ d.state.finished ⊆ next.state.finished ∧
      ∃ part, s.Surfaces file next.state line part ∧ (∀ found ∈ part, found.AtInclude line) ∧
        next.diagnostics.filter (·.source = librarySource) =
          d.diagnostics.filter (·.source = librarySource) ++ part := by
  intro next
  have hdirectory : (s.rootOrigin isRoot file).directory = (s.rootDirectory file).toText := rfl
  have hstate : next.state = (line.resolution? s.search s.disk (s.rootDirectory file).toText).elim
      d.state fun r => (s.answer r.file d.state).2 := Draft.readLine_state ..
  have hfilter : next.diagnostics.filter (·.source = librarySource) =
      d.diagnostics.filter (·.source = librarySource) ++
        (d.findings s.search s.disk s.answer (s.rootOrigin isRoot file) line).filter
          (·.source = librarySource) := by
    rw [← List.filter_append, ← Draft.readLine_diagnostics]
  cases hr : line.resolution? s.search s.disk (s.rootDirectory file).toText with
  | none =>
    have hown := d.allOwn_findings s.search s.disk s.answer (s.rootOrigin isRoot file) line hr
    rw [hr] at hstate
    refine ⟨hstate ▸ h, hstate ▸ List.Subset.refl _, [], .nothing hr, ?_, ?_⟩
    · exact fun _ hfound => (List.not_mem_nil hfound).elim
    · rw [hfilter, hown.filter_library]
  | some r =>
    obtain ⟨path, hb, hs, hresolve⟩ := Line.exists_of_resolution?_eq_some hr
    rw [hr] at hstate
    have hpart := d.filter_findings_of_inclusion s.search s.disk s.answer (s.rootOrigin isRoot file)
      line hb hs hresolve
    refine ⟨hstate ▸ h.answer r.file, hstate ▸ (h.built.answer r.file).1, _,
      hstate ▸ h.surfaces_answer hr hs, ?_, hfilter.trans (congrArg _ hpart)⟩
    exact fun found hfound => ModuleReply.atInclude_of_mem_library hs _ r hfound

theorem exists_surfaces_readLines (h : s.RootState file d.state) (lines : List Line) :
    let last := lines.foldl (Draft.readLine s.search s.disk s.answer (s.rootOrigin isRoot file)) d
    d.state.finished ⊆ last.state.finished ∧
      ∃ parts, List.Forall₂ (fun line part => s.Surfaces file last.state line part ∧
          ∀ found ∈ part, found.AtInclude line) lines parts ∧
        last.diagnostics.filter (·.source = librarySource) =
          d.diagnostics.filter (·.source = librarySource) ++ parts.flatten := by
  induction lines generalizing d with
  | nil => exact ⟨List.Subset.refl _, [], .nil, (List.append_nil _).symm⟩
  | cons line lines ih =>
    obtain ⟨hnext, hsub, part, hpart, hplaced, hfilter⟩ := exists_surfaces_readLine isRoot d h line
    obtain ⟨hlast, parts, hparts, hrest⟩ := ih _ hnext
    refine ⟨fun entry he => hlast (hsub he), part :: parts, ?_, ?_⟩
    · exact .cons ⟨hpart.mono hlast, hplaced⟩ hparts
    · rw [List.foldl_cons, hrest, hfilter, List.flatten_cons, List.append_assoc]

end Lines

/-- What the outline of a text says of libraries is, line after line, what surfaces there. -/
theorem exists_surfaces_outline (isRoot : Bool) (file : Option String) (lines : List Line) :
    let made := s.outline isRoot file lines {}
    ∃ parts, List.Forall₂ (fun line part => s.Surfaces file made.2 line part ∧
        ∀ found ∈ part, found.AtInclude line) lines parts ∧
      made.1.diagnostics.filter (·.source = librarySource) = parts.flatten := by
  obtain ⟨-, parts, hparts, hfilter⟩ := exists_surfaces_readLines isRoot
    { state := s.rootPass file } (rootState_rootPass file) lines
  have hbraces : ∀ unclosed : List Int, Diagnostic.AllOwn (unclosedDiagnostics lines unclosed) := by
    intro unclosed found hfound
    obtain ⟨line, -, n, -, rfl⟩ := exists_of_mem_unclosedDiagnostics hfound
    rfl
  rw [outline_eq_rootPass, Outline.ofLines]
  refine ⟨parts, ?_, ?_⟩
  · rw [Draft.finish_state]
    exact hparts
  · rw [Draft.finish_diagnostics, List.filter_append, (hbraces _).filter_library, hfilter]
    simp

theorem severity_of_mem_outline (file : Option String) (lines : List Line) (pass : Pass) :
    ∀ d ∈ (s.outline false file lines pass).1.diagnostics, d.severity = .error := by
  rw [outline_eq]
  exact Outline.severity_of_mem_ofLines rfl _ _

end ModuleSource

/-- Modules have errors as their only findings. What an analysis says of libraries is, in this
order, what surfaces on each line of the text: that the module it includes cannot be read, or all
that was found in that module, with the same codes; each time as an error at the path of the include
line. Everything else it says comes from the lines of the text itself. -/
theorem analyze_library (disk : Disk) (config : Config) (file : Option String)
    (text : List Char) :
    let s := config.modules disk
    let lines := Line.ofSource text
    let pass := (s.outline true file lines {}).2
    let a := analyze disk config file text
    (∀ moduleFile moduleLines before,
      ∀ d ∈ (s.outline false moduleFile moduleLines before).1.diagnostics, d.severity = .error) ∧
    (∃ parts, List.Forall₂ (fun line part => s.Surfaces file pass line part ∧
        ∀ d ∈ part, d.AtInclude line) lines parts ∧
      a.diagnostics.filter (·.source = librarySource) = parts.flatten) ∧
    (∀ line path moduleFile inner,
      (libraryDiagnostic line path moduleFile inner).code = inner.code) ∧
    (∀ d ∈ a.diagnostics, d.source ≠ librarySource → d.source = ownSource ∧
      ((∃ line ∈ lines, line.Gives s.search d) ∨ d ∈ TypeCheck.diagnostics lines a.table ∨
        d ∈ References.diagnostics lines a.table)) := by
  intro s lines pass a
  have hchecks : Diagnostic.AllOwn
      (TypeCheck.diagnostics lines a.table ++ References.diagnostics lines a.table) :=
    List.forall_mem_append.mpr
      ⟨(allOf_typeCheck a.table lines).allOwn, References.allOwn_diagnostics a.table lines⟩
  have hparts : a.diagnostics = (s.outline true file lines {}).1.diagnostics ++
      (TypeCheck.diagnostics lines a.table ++ References.diagnostics lines a.table) := by
    rw [← List.append_assoc]
    exact analyze_diagnostics disk config file text
  refine ⟨ModuleSource.severity_of_mem_outline, ?_, fun _ _ _ _ => Diagnostic.atOffset_code .., ?_⟩
  · rw [hparts, List.filter_append, hchecks.filter_library, List.append_nil]
    exact ModuleSource.exists_surfaces_outline true file lines
  · intro d hd hsource
    rw [hparts] at hd
    rcases List.mem_append.mp hd with hread | hcheck
    · rw [ModuleSource.outline_eq] at hread
      obtain ⟨line, hline, hgives⟩ :=
        Outline.gives_of_mem_diagnostics (Line.numbered_ofSource text) hread
      exact ⟨hgives.source_eq hsource, .inl ⟨line, hline, hgives⟩⟩
    · exact ⟨hchecks d hcheck, .inr (List.mem_append.mp hcheck)⟩

end ScriptLint
