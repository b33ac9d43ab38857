import ScriptLint.Proofs.Module.Order

/-! The symbol tables of a pass: that of the text, and those of the modules that are finished for
it. What its include lines bring into a table depends on the tables of other modules, and these are
finished at different times. So a property of imports is stated with regard to a pass; it holds of
all tables if it survives whatever is finished later and if taking over a part of a finished module
keeps it. -/
namespace ScriptLint.ModuleSource

variable (s : ModuleSource)

/-- The symbol tables that are drawn up for a text: its own, and that of each module. -/
def tables (isRoot : Bool) (file : Option String) (lines : List Line) : List SymbolTable :=
  let run := s.outline isRoot file lines {}
  run.1.table :: run.2.finished.map (·.2.table)

/-- The outline is finished for the file at the path, and declares what the lines of that file
do. -/
structure Finished (pass : Pass) (path : Path) (moduleLines : List Line) (o : Outline) : Prop where
  mem : (path.toText, o) ∈ pass.finished
  readable : s.moduleLines? path = some moduleLines
  body : o.table.body = declaredBody (some path.toText) moduleLines

/-- A property of imports that no step of a pass breaks. -/
structure Stable (G : Pass → Imports → Prop) : Prop where
  empty : ∀ pass, G pass {}
  mono : ∀ {pass later : Pass} {i : Imports}, pass.finished ⊆ later.finished →
    G pass i → G later i
  take : ∀ {pass : Pass} {i : Imports} {r : Resolution} {moduleLines : List Line} {o : Outline},
    s.Finished pass r.file moduleLines o → G pass o.table.imports → G pass i →
      G pass (i.take r o)

/-- The property holds of the imports of every module that is finished. -/
def HoldsIn (G : Pass → Imports → Prop) (pass : Pass) : Prop :=
  ∀ entry ∈ pass.finished, ∃ path moduleLines, entry.1 = path.toText ∧
    s.Finished pass path moduleLines entry.2 ∧ G pass entry.2.table.imports

/-- One pass goes on from another and the property still holds of what is finished. -/
structure Extends (G : Pass → Imports → Prop) (before later : Pass) : Prop where
  visited : before.visited ⊆ later.visited
  finished : before.finished ⊆ later.finished
  holds : s.HoldsIn G later

/-- An answer leaves the property as it is, and a module that it gives is finished and has it. -/
def AnswersWith (G : Pass → Imports → Prop) (path : Path) (before : Pass) : Prop :=
  s.Extends G before (s.answer path before).2 ∧
    ∀ o, (s.answer path before).1 = .outline o → ∃ moduleLines,
      s.Finished (s.answer path before).2 path moduleLines o ∧
        G (s.answer path before).2 o.table.imports

variable {s} {G : Pass → Imports → Prop}

theorem Finished.mono {pass later : Pass} {path : Path} {moduleLines : List Line} {o : Outline}
    (h : s.Finished pass path moduleLines o) (hsub : pass.finished ⊆ later.finished) :
    s.Finished later path moduleLines o :=
  ⟨hsub h.mem, h.readable, h.body⟩

theorem Extends.refl {pass : Pass} (h : s.HoldsIn G pass) : s.Extends G pass pass :=
  ⟨List.Subset.refl _, List.Subset.refl _, h⟩

theorem Extends.trans {a b c : Pass} (hab : s.Extends G a b) (hbc : s.Extends G b c) :
    s.Extends G a c :=
  ⟨fun _ h => hbc.visited (hab.visited h), fun _ h => hbc.finished (hab.finished h), hbc.holds⟩

namespace Stable

variable (hG : s.Stable G)
include hG

theorem holdsIn_visit {pass : Pass} (h : s.HoldsIn G pass) (t : String) :
    s.HoldsIn G (pass.visit t) := by
  have hsub : pass.finished ⊆ (pass.visit t).finished := by
    rw [Pass.visit_finished]
    exact List.Subset.refl _
  intro entry hentry
  rw [Pass.visit_finished] at hentry
  obtain ⟨path, moduleLines, heq, hfinished, himports⟩ := h entry hentry
  exact ⟨path, moduleLines, heq, hfinished.mono hsub, hG.mono hsub himports⟩

/-- One more module is finished. -/
theorem holdsIn_finish {pass : Pass} (h : s.HoldsIn G pass) {path : Path}
    {moduleLines : List Line} {o : Outline} (hreadable : s.moduleLines? path = some moduleLines)
    (hbody : o.table.body = declaredBody (some path.toText) moduleLines)
    (himports : G pass o.table.imports) : s.HoldsIn G (pass.finish path.toText o) := by
  have hsub : pass.finished ⊆ (pass.finish path.toText o).finished := List.subset_append_left _ _
  have hmem : (path.toText, o) ∈ (pass.finish path.toText o).finished :=
    List.mem_append_right _ (List.mem_singleton_self _)
  intro entry hentry
  rcases List.mem_append.mp hentry with hentry | hentry
  · obtain ⟨other, otherLines, heq, hfinished, hother⟩ := h entry hentry
    exact ⟨other, otherLines, heq, hfinished.mono hsub, hG.mono hsub hother⟩
  · rw [List.mem_singleton.mp hentry]
    exact ⟨path, moduleLines, rfl, ⟨hmem, hreadable, hbody⟩, hG.mono hsub himports⟩

/-- A module is asked for and what is asked of it is taken over. -/
theorem bring {known : Imports × Pass} (r : Resolution) (hi : G known.2 known.1)
    (hanswer : s.AnswersWith G r.file known.2) :
    G (Imports.bring s.answer known r).2 (Imports.bring s.answer known r).1 := by
  obtain ⟨hextends, hgiven⟩ := hanswer
  have hi' : G (s.answer r.file known.2).2 known.1 := hG.mono hextends.finished hi
  unfold Imports.bring
  cases hreply : (s.answer r.file known.2).1 with
  | outline o =>
    obtain ⟨moduleLines, hfinished, himports⟩ := hgiven o hreply
    exact hG.take hfinished himports hi'
  | unreadable e => exact hi'
  | inProgress => exact hi'

/-- Modules are asked for one after the other. -/
theorem foldl_bring {start : Pass} (hstart : s.HoldsIn G start)
    (hanswer : ∀ path known, start.visited ⊆ known.visited → s.HoldsIn G known →
      s.AnswersWith G path known) (rs : List Resolution) :
    let known := rs.foldl (Imports.bring s.answer) ({}, start)
    s.Extends G start known.2 ∧ G known.2 known.1 := by
  have hfold : ∀ (rs : List Resolution) (known : Imports × Pass),
      s.Extends G start known.2 → G known.2 known.1 →
      s.Extends G start (rs.foldl (Imports.bring s.answer) known).2 ∧
        G (rs.foldl (Imports.bring s.answer) known).2
          (rs.foldl (Imports.bring s.answer) known).1 := by
    intro rs
    induction rs with
    | nil => exact fun known hextends hi => ⟨hextends, hi⟩
    | cons r rs ih =>
      intro known hextends hi
      have hnext := hanswer r.file known.2 hextends.visited hextends.holds
      exact ih _ (hextends.trans hnext.1) (hG.bring r hi hnext)
  exact hfold rs _ (Extends.refl hstart) (hG.empty start)

/-- Every answer keeps the property. The induction is on the number of paths that are unread. -/
theorem answer (path : Path) (pass : Pass) (h : s.HoldsIn G pass) :
    s.AnswersWith G path pass := by
  induction hn : s.unread pass using Nat.strongRecOn generalizing path pass with
  | ind n ih =>
    subst hn
    have hcase := s.answer_cases path pass
    unfold AnswersWith
    generalize s.answer path pass = result at hcase ⊢
    cases hcase with
    | @finished o hlookup =>
      obtain ⟨other, moduleLines, heq, hfinished, himports⟩ :=
        h _ (Pass.mem_finished_of_lookup hlookup)
      obtain rfl := Path.toText_injective heq
      refine ⟨Extends.refl h, ?_⟩
      rintro o ⟨⟩
      exact ⟨moduleLines, hfinished, himports⟩
    | begun _ _ => exact ⟨Extends.refl h, fun _ ho => ModuleReply.noConfusion ho⟩
    | unreadable _ _ _ => exact ⟨Extends.refl h, fun _ ho => ModuleReply.noConfusion ho⟩
    | @read text _ hnew hread =>
      -- While the module is read, it counts as begun, so one path less is unread.
      have hvisit := hG.holdsIn_visit h path.toText
      have hfold := hG.foldl_bring hvisit
        (fun path' known hsub hknown => ih _ (s.unread_lt_of_visited_subset hread hnew hsub)
          path' known hknown rfl) (s.resolutionsIn path.parent (Line.ofSource text))
      have himports := Outline.ofLines_imports_state s.search s.disk s.answer
        ⟨some path.toText, path.parent.toText, false⟩ (Line.ofSource text)
        (pass.visit path.toText)
      rw [resolutionsIn, ← himports] at hfold
      obtain ⟨hextends, hmade⟩ := hfold
      have hlater := hG.holdsIn_finish hextends.holds (moduleLines?_of_ok hread)
        (Outline.ofLines_body ..) hmade
      refine ⟨⟨?_, ?_, hlater⟩, ?_⟩
      · exact fun t ht => hextends.visited (Pass.mem_visit_visited.mpr (Or.inr ht))
      · intro entry hentry
        refine List.mem_append_left _ (hextends.finished ?_)
        rwa [Pass.visit_finished]
      · rintro o ⟨⟩
        refine ⟨Line.ofSource text, ⟨?_, moduleLines?_of_ok hread, Outline.ofLines_body ..⟩,
          hG.mono (List.subset_append_left _ _) hmade⟩
        exact List.mem_append_right _ (List.mem_singleton_self _)

/-- The property holds of what a text brings in, and of what every module does that is finished for
it. -/
theorem outline (isRoot : Bool) (file : Option String) (lines : List Line) :
    let run := s.outline isRoot file lines {}
    s.HoldsIn G run.2 ∧ G run.2 run.1.table.imports := by
  have hstart : s.HoldsIn G (s.rootPass file) := by
    intro entry hentry
    rw [rootPass_finished] at hentry
    exact (List.not_mem_nil hentry).elim
  have hfold := hG.foldl_bring hstart (fun path known _ hknown => hG.answer path known hknown)
    (s.resolutionsIn (s.rootDirectory file) lines)
  have himports := Outline.ofLines_imports_state s.search s.disk s.answer
    (s.rootOrigin isRoot file) lines (s.rootPass file)
  have hdirectory : (s.rootOrigin isRoot file).directory = (s.rootDirectory file).toText := rfl
  rw [resolutionsIn, ← hdirectory, ← himports] at hfold
  rw [outline_eq_rootPass]
  exact ⟨hfold.1.holds, hfold.2⟩

/-- The property holds of every table. -/
theorem tables {isRoot : Bool} {file : Option String} {lines : List Line} {t : SymbolTable}
    (ht : t ∈ s.tables isRoot file lines) :
    G (s.outline isRoot file lines {}).2 t.imports := by
  obtain ⟨hmodules, hroot⟩ := hG.outline isRoot file lines
  rcases List.mem_cons.mp ht with rfl | ht
  · exact hroot
  · obtain ⟨entry, hentry, rfl⟩ := List.mem_map.mp ht
    obtain ⟨_, _, _, _, himports⟩ := hmodules entry hentry
    exact himports

end Stable

/-- At the end, the outline that is finished for a file is found under that file. -/
theorem lookup_finished_outline {isRoot : Bool} {file : Option String} {lines : List Line}
    {t : String} {o : Outline} (h : (t, o) ∈ (s.outline isRoot file lines {}).2.finished) :
    (s.outline isRoot file lines {}).2.finished.lookup t = some o := by
  have hguarded : (s.outline isRoot file lines {}).2.Guarded (s.rootProgress file) := by
    rw [outline_eq_rootPass, Outline.ofLines, Draft.finish_state]
    exact (faithful_readLines isRoot file lines).guarded
  cases hlookup : (s.outline isRoot file lines {}).2.finished.lookup t with
  | none => exact absurd (List.mem_map_of_mem h) (Pass.not_mem_finishedFiles_of_lookup hlookup)
  | some o' =>
    rw [hguarded.eq_of_mem_finished (Pass.mem_finished_of_lookup hlookup) h]

end ScriptLint.ModuleSource
