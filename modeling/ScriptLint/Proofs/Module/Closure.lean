import ScriptLint.Proofs.Module.Reach
import ScriptLint.Proofs.Outline.Levels

/-! Includes of whole files. The modules that a text reaches may include each other in any way; each
is read once, and one that is in progress gives nothing to the module that asks. Nevertheless the
text gets what every module that it reaches declares: all modules that are finished while an answer
is made are passed on with that answer. -/
namespace ScriptLint

/-- A module gives what it declares and what it brought in. -/
theorem SymbolTable.mem_keys_exports {t : SymbolTable} {path : Path} {moduleLines : List Line}
    (hbody : t.body = declaredBody (some path.toText) moduleLines) {k : ImportKey} :
    k ∈ (t.exports path.toText).keys ↔
      k ∈ ModuleSource.ownKeys path moduleLines ∨ k ∈ t.imports.keys := by
  -- A function at the top level has no class, so its key names none.
  have hfunctions : t.body.functions.map (fun f => { f with file := some path.toText }.key) =
      t.body.functions.map fun f => .ofFunction f.name none (some path.toText) := by
    refine List.map_congr_left fun f hf => ?_
    rw [hbody] at hf
    rw [FunctionDecl.key, owner_of_mem_declaredBody List.mem_cons_self hf]
  have hclasses : t.body.classes.map
      (fun c => ({ name := c.name, file := path.toText } : ImportedClass).key) =
      t.body.classes.map fun c => .ofClass c.name path.toText := rfl
  have hmethods : (t.body.classes.flatMap (·.methods path.toText)).map FunctionDecl.key =
      t.body.classes.flatMap fun c => c.body.functions.map
        fun f => .ofFunction f.name (some c.name) (some path.toText) := by
    rw [List.map_flatMap]
    simp only [ClassDecl.methods, List.map_map]
    rfl
  have hmacros : t.body.macros.map (fun m => { m with file := some path.toText }.key) =
      t.body.macros.map fun m => .ofMacro m.name (some path.toText) := rfl
  simp only [exports, Imports.mem_keys, List.map_append, List.map_map, List.mem_append,
    Function.comp_def, hfunctions, hclasses, hmethods, hmacros, ModuleSource.ownKeys, ← hbody]
  constructor
  · rintro (((h | h) | ((h | h) | h)) | (h | h)) <;> simp only [h, true_or, or_true]
  · rintro ((((h | h) | h) | h) | ((h | h) | h)) <;> simp only [h, true_or, or_true]

theorem Imports.nodup_keys_takeReply {i : Imports} (r : Resolution) (reply : ModuleReply)
    (h : i.keys.Nodup) : (i.takeReply r reply).keys.Nodup := by
  rcases i.takeReply_eq_or r reply with heq | ⟨more, heq⟩
  · rwa [heq]
  · rw [heq]
    exact nodup_keys_merge more h

namespace Pass

/-- The files whose outlines are finished. -/
def finishedFiles (p : Pass) : List String :=
  p.finished.map (·.1)

@[simp] theorem finishedFiles_visit (p : Pass) (file : String) :
    (p.visit file).finishedFiles = p.finishedFiles := by
  rw [finishedFiles, visit_finished, finishedFiles]

@[simp] theorem finishedFiles_finish (p : Pass) (file : String) (o : Outline) :
    (p.finish file o).finishedFiles = p.finishedFiles ++ [file] := by
  simp [finishedFiles, finish]

/-- One pass goes on from another: nothing is taken back, and what was begun is finished. -/
structure Continues (before later : Pass) : Prop where
  visited : before.visited ⊆ later.visited
  finished : before.finishedFiles ⊆ later.finishedFiles
  settled : ∀ t ∈ later.visited, t ∈ before.visited ∨ t ∈ later.finishedFiles

theorem Continues.refl (p : Pass) : p.Continues p :=
  ⟨fun _ h => h, fun _ h => h, fun _ h => Or.inl h⟩

theorem Continues.trans {a b c : Pass} (hab : a.Continues b) (hbc : b.Continues c) :
    a.Continues c where
  visited _ h := hbc.visited (hab.visited h)
  finished _ h := hbc.finished (hab.finished h)
  settled t h := by
    rcases hbc.settled t h with h | h
    · exact (hab.settled t h).imp_right fun h => hbc.finished h
    · exact Or.inr h

theorem mem_finished_of_lookup {p : Pass} {t : String} {o : Outline}
    (h : p.finished.lookup t = some o) : (t, o) ∈ p.finished := by
  obtain ⟨before, behind, hfinished, _⟩ := List.lookup_eq_some_iff.mp h
  simp [hfinished]

theorem mem_finishedFiles_finish {p : Pass} {t file : String} {o : Outline} :
    t ∈ (p.finish file o).finishedFiles ↔ t ∈ p.finishedFiles ∨ t = file := by
  rw [finishedFiles_finish, List.mem_append, List.mem_singleton]

end Pass

namespace ModuleSource

variable (s : ModuleSource) (file : Option String) (lines : List Line)

/-- The key of something that a module declares which the text reaches. -/
def GivesKey (k : ImportKey) : Prop :=
  ∃ path moduleLines, s.Provides file lines path moduleLines ∧ k ∈ ownKeys path moduleLines

/-- What is known of a finished module: it is reached from the text, its outline declares what its
lines do and brings in nothing but what reached modules declare, and each module that it includes
has been begun, unless it cannot be read. -/
structure FinishedModule (pass : Pass) (path : Path) (moduleLines : List Line) (o : Outline) :
    Prop where
  provides : s.Provides file lines path moduleLines
  body : o.table.body = declaredBody (some path.toText) moduleLines
  imports : ∀ k ∈ o.table.imports.keys, s.GivesKey file lines k
  begun : ∀ r ∈ s.resolutionsIn path.parent moduleLines,
    r.file.toText ∈ pass.visited ∨ s.moduleLines? r.file = none

/-- What is known of a pass at any time while the outline of the text is drawn up. -/
structure PassInvariant (pass : Pass) : Prop where
  finished : ∀ entry ∈ pass.finished, ∃ path moduleLines, entry.1 = path.toText ∧
    s.FinishedModule file lines pass path moduleLines entry.2
  visited : pass.finishedFiles ⊆ pass.visited
  root : ∀ path, s.rootPath file = some path → path.toText ∈ pass.visited

/-- Among the given keys are those of all modules that were finished between two passes. -/
def PassesOn (before later : Pass) (keys : List ImportKey) : Prop :=
  ∀ path moduleLines, path.toText ∈ later.finishedFiles → path.toText ∉ before.finishedFiles →
    s.moduleLines? path = some moduleLines → ownKeys path moduleLines ⊆ keys

/-- What an answer for a module does. -/
structure Answered (path : Path) (before : Pass) (reply : ModuleReply) (later : Pass) : Prop where
  invariant : s.PassInvariant file lines later
  continues : before.Continues later
  begun : path.toText ∈ later.visited ∨ s.moduleLines? path = none
  unchanged : (∀ o, reply ≠ .outline o) → later = before
  given : ∀ o, reply = .outline o →
    ∀ k ∈ (o.table.exports path.toText).keys, s.GivesKey file lines k
  passesOn : ∀ o, reply = .outline o → s.PassesOn before later (o.table.exports path.toText).keys

/-- What asking for several modules, one after the other, does. -/
structure Gathered (asked : List Resolution) (before : Pass) (known : Imports × Pass) : Prop where
  invariant : s.PassInvariant file lines known.2
  continues : before.Continues known.2
  begun : ∀ r ∈ asked, r.file.toText ∈ known.2.visited ∨ s.moduleLines? r.file = none
  given : ∀ k ∈ known.1.keys, s.GivesKey file lines k
  passesOn : s.PassesOn before known.2 known.1.keys

variable {s file lines}

theorem FinishedModule.mono {pass later : Pass} {path : Path} {moduleLines : List Line}
    {o : Outline} (h : s.FinishedModule file lines pass path moduleLines o)
    (hsub : pass.visited ⊆ later.visited) :
    s.FinishedModule file lines later path moduleLines o where
  provides := h.provides
  body := h.body
  imports := h.imports
  begun r hr := (h.begun r hr).imp_left fun hv => hsub hv

/-- All that a finished module gives is declared by modules that the text reaches. -/
theorem FinishedModule.givesKey {pass : Pass} {path : Path} {moduleLines : List Line}
    {o : Outline} (h : s.FinishedModule file lines pass path moduleLines o) :
    ∀ k ∈ (o.table.exports path.toText).keys, s.GivesKey file lines k := by
  intro k hk
  rcases (SymbolTable.mem_keys_exports h.body).mp hk with hown | himports
  · exact ⟨path, moduleLines, h.provides, hown⟩
  · exact h.imports k himports

theorem PassInvariant.visit {pass : Pass} (h : s.PassInvariant file lines pass) (t : String) :
    s.PassInvariant file lines (pass.visit t) := by
  have hsub : pass.visited ⊆ (pass.visit t).visited :=
    fun _ hv => Pass.mem_visit_visited.mpr (Or.inr hv)
  refine ⟨?_, ?_, fun path hpath => hsub (h.root path hpath)⟩
  · intro entry hentry
    rw [Pass.visit_finished] at hentry
    obtain ⟨path, moduleLines, heq, hmodule⟩ := h.finished entry hentry
    exact ⟨path, moduleLines, heq, hmodule.mono hsub⟩
  · intro u hu
    rw [Pass.finishedFiles_visit] at hu
    exact hsub (h.visited hu)

/-- One more module is asked for. -/
theorem Gathered.bring {asked : List Resolution} {before : Pass} {known : Imports × Pass}
    {r : Resolution} (h : s.Gathered file lines asked before known)
    (ha : s.Answered file lines r.file known.2 (s.answer r.file known.2).1
      (s.answer r.file known.2).2) (hwhole : r.selection = none) :
    s.Gathered file lines (asked ++ [r]) before (Imports.bring s.answer known r) := by
  have htake : ∀ o, (s.answer r.file known.2).1 = .outline o →
      (Imports.bring s.answer known r).1 =
        known.1.merge (o.table.exports r.file.toText) := by
    intro o ho
    simp only [Imports.bring, ho, Imports.takeReply, Imports.take, hwhole]
  have hkeep : (∀ o, (s.answer r.file known.2).1 ≠ .outline o) →
      (Imports.bring s.answer known r).1 = known.1 := by
    intro ho
    cases hreply : (s.answer r.file known.2).1 with
    | outline o => exact absurd hreply (ho o)
    | _ => simp only [Imports.bring, hreply, Imports.takeReply]
  by_cases hoc : ∃ o, (s.answer r.file known.2).1 = .outline o
  · obtain ⟨o, ho⟩ := hoc
    refine ⟨ha.invariant, h.continues.trans ha.continues, ?_, ?_, ?_⟩
    · intro r' hr'
      rcases List.mem_append.mp hr' with hr' | hr'
      · exact (h.begun r' hr').imp_left fun hv => ha.continues.visited hv
      · rw [List.mem_singleton.mp hr']
        exact ha.begun
    · intro k hk
      rw [htake o ho, Imports.mem_keys_merge] at hk
      exact hk.elim (h.given k) (ha.given o ho k)
    · intro path moduleLines hlater hbefore hlines k hk
      rw [htake o ho, Imports.mem_keys_merge]
      -- A module was finished before this one was asked for, or while it was.
      by_cases hknown : path.toText ∈ known.2.finishedFiles
      · exact Or.inl (h.passesOn path moduleLines hknown hbefore hlines hk)
      · exact Or.inr (ha.passesOn o ho path moduleLines hlater hknown hlines hk)
  · -- An answer without an outline leaves everything as it was.
    have hne : ∀ o, (s.answer r.file known.2).1 ≠ .outline o := fun o ho => hoc ⟨o, ho⟩
    have hlater : (Imports.bring s.answer known r).2 = known.2 := ha.unchanged hne
    have hbegun := ha.begun
    rw [ha.unchanged hne] at hbegun
    rw [show Imports.bring s.answer known r = known from Prod.ext (hkeep hne) hlater]
    refine ⟨h.invariant, h.continues, ?_, h.given, h.passesOn⟩
    intro r' hr'
    rcases List.mem_append.mp hr' with hr' | hr'
    · exact h.begun r' hr'
    · rw [List.mem_singleton.mp hr']
      exact hbegun

/-- All modules of a list are asked for, where each answer that is asked for is as it should. -/
theorem gathered_foldl (before : Pass)
    (hanswer : ∀ path pass, s.Reaches file lines path → s.PassInvariant file lines pass →
      before.visited ⊆ pass.visited →
      s.Answered file lines path pass (s.answer path pass).1 (s.answer path pass).2)
    {rs : List Resolution} (hreach : ∀ r ∈ rs, s.Reaches file lines r.file)
    (hwhole : ∀ r ∈ rs, r.selection = none) (h : s.PassInvariant file lines before) :
    s.Gathered file lines rs before (rs.foldl (Imports.bring s.answer) ({}, before)) := by
  have hfold : ∀ (rs asked : List Resolution) (known : Imports × Pass),
      (∀ r ∈ rs, s.Reaches file lines r.file) → (∀ r ∈ rs, r.selection = none) →
      s.Gathered file lines asked before known →
      s.Gathered file lines (asked ++ rs) before (rs.foldl (Imports.bring s.answer) known) := by
    intro rs
    induction rs with
    | nil => intro asked known _ _ hk; rwa [List.append_nil]
    | cons r rs ih =>
      intro asked known hreach hwhole hk
      obtain ⟨hr, hrs⟩ := List.forall_mem_cons.mp hreach
      obtain ⟨hw, hws⟩ := List.forall_mem_cons.mp hwhole
      rw [List.append_cons, List.foldl_cons]
      exact ih _ _ hrs hws
        (hk.bring (hanswer r.file known.2 hr hk.invariant hk.continues.visited) hw)
  have hempty : s.Gathered file lines [] before ({}, before) :=
    ⟨h, Pass.Continues.refl before, fun _ hr => (List.not_mem_nil hr).elim,
      fun _ hk => (List.not_mem_nil hk).elim,
      fun _ _ hlater hbefore _ => absurd hlater hbefore⟩
  exact hfold rs [] _ hreach hwhole hempty

/-- The module that has just been read is finished. -/
theorem Gathered.finish {path : Path} {moduleLines : List Line} {pass : Pass} {made : Outline}
    {later : Pass} (hp : s.Provides file lines path moduleLines)
    (hbody : made.table.body = declaredBody (some path.toText) moduleLines)
    (h : s.Gathered file lines (s.resolutionsIn path.parent moduleLines)
      (pass.visit path.toText) (made.table.imports, later)) :
    s.Answered file lines path pass (.outline made) (later.finish path.toText made) := by
  have hpath : path.toText ∈ later.visited :=
    h.continues.visited (Pass.mem_visit_visited.mpr (Or.inl rfl))
  have hmodule : s.FinishedModule file lines (later.finish path.toText made) path moduleLines
      made := ⟨hp, hbody, h.given, h.begun⟩
  refine ⟨⟨?_, ?_, h.invariant.root⟩, ⟨?_, ?_, ?_⟩, Or.inl hpath, ?_, ?_, ?_⟩
  · intro entry hentry
    rcases List.mem_append.mp hentry with hentry | hentry
    · obtain ⟨other, otherLines, heq, hother⟩ := h.invariant.finished entry hentry
      exact ⟨other, otherLines, heq, hother.mono fun _ hv => hv⟩
    · rw [List.mem_singleton.mp hentry]
      exact ⟨path, moduleLines, rfl, hmodule⟩
  · intro t ht
    rcases Pass.mem_finishedFiles_finish.mp ht with ht | rfl
    · exact h.invariant.visited ht
    · exact hpath
  · exact fun t ht => h.continues.visited (Pass.mem_visit_visited.mpr (Or.inr ht))
  · intro t ht
    refine Pass.mem_finishedFiles_finish.mpr (Or.inl (h.continues.finished ?_))
    rwa [Pass.finishedFiles_visit]
  · intro t ht
    rcases h.continues.settled t ht with ht | ht
    · rcases Pass.mem_visit_visited.mp ht with rfl | ht
      · exact Or.inr (Pass.mem_finishedFiles_finish.mpr (Or.inr rfl))
      · exact Or.inl ht
    · exact Or.inr (Pass.mem_finishedFiles_finish.mpr (Or.inl ht))
  · exact fun hne => absurd rfl (hne made)
  · rintro o ⟨⟩
    exact hmodule.givesKey
  · -- Of the modules finished meanwhile, this one is the last, and the others are in its imports.
    rintro o ⟨⟩ other otherLines hlater hbefore hlines k hk
    refine (SymbolTable.mem_keys_exports hbody).mpr ?_
    rcases Pass.mem_finishedFiles_finish.mp hlater with hlater | heq
    · refine Or.inr (h.passesOn other otherLines hlater ?_ hlines hk)
      rwa [Pass.finishedFiles_visit]
    · obtain rfl := Path.toText_injective heq
      rw [hp.lines_unique hlines] at hk
      exact Or.inl hk

/-- Every answer for a module that the text reaches keeps what is known of the pass, and passes on
all that was finished meanwhile. The induction is on the number of paths that are unread. -/
theorem answered (hw : s.WholeFilesOnly file lines) (path : Path) (pass : Pass)
    (hreach : s.Reaches file lines path) (h : s.PassInvariant file lines pass) :
    s.Answered file lines path pass (s.answer path pass).1 (s.answer path pass).2 := by
  induction hn : s.unread pass using Nat.strongRecOn generalizing path pass with
  | ind n ih =>
    subst hn
    have hcase := s.answer_cases path pass
    generalize s.answer path pass = result at hcase ⊢
    cases hcase with
    | @finished o hlookup =>
      have hmem := Pass.mem_finished_of_lookup hlookup
      obtain ⟨other, moduleLines, heq, hmodule⟩ := h.finished _ hmem
      obtain rfl := Path.toText_injective heq
      refine ⟨h, Pass.Continues.refl pass, Or.inl (h.visited (List.mem_map_of_mem hmem)),
        fun _ => rfl, ?_, fun _ _ _ _ hlater hbefore _ => absurd hlater hbefore⟩
      rintro o ⟨⟩
      exact hmodule.givesKey
    | begun _ hvisited =>
      -- The module is in progress: it gives nothing now, but it will be finished later.
      exact ⟨h, Pass.Continues.refl pass, Or.inl hvisited, fun _ => rfl,
        fun _ ho => (ModuleReply.noConfusion ho), fun _ ho => (ModuleReply.noConfusion ho)⟩
    | unreadable _ _ hread =>
      exact ⟨h, Pass.Continues.refl pass, Or.inr (moduleLines?_of_error hread), fun _ => rfl,
        fun _ ho => (ModuleReply.noConfusion ho), fun _ ho => (ModuleReply.noConfusion ho)⟩
    | @read text _ hnew hread =>
      -- The text itself is visited from the start, so this is a module.
      have hother : s.rootPath file ≠ some path := fun hroot => hnew (h.root path hroot)
      have hp : s.Provides file lines path (Line.ofSource text) :=
        ⟨hreach, hother, moduleLines?_of_ok hread⟩
      have hfold := gathered_foldl (pass.visit path.toText)
        (fun path' pass' hreach' h' hsub => ih _
          (s.unread_lt_of_visited_subset hread hnew hsub) path' pass' hreach' h' rfl)
        (fun r hr => Reaches.through hreach hother hp.readable hr)
        (hw.modules path _ hp) (h.visit path.toText)
      have himports := Outline.ofLines_imports_state s.search s.disk s.answer
        ⟨some path.toText, path.parent.toText, false⟩ (Line.ofSource text)
        (pass.visit path.toText)
      rw [resolutionsIn, ← himports] at hfold
      exact Gathered.finish hp (Outline.ofLines_body ..) hfold

section End

variable {before : Pass} {known : Imports × Pass}
  (h : s.Gathered file lines (s.resolutionsIn (s.rootDirectory file) lines) before known)
  (hbefore : ∀ t ∈ before.visited, ∃ path, s.rootPath file = some path ∧ t = path.toText)
include h hbefore

/-- Whatever has been begun at the end is finished, except for the text itself. -/
theorem Gathered.finished_of_visited {path : Path} (hother : s.rootPath file ≠ some path)
    (hvisited : path.toText ∈ known.2.visited) : path.toText ∈ known.2.finishedFiles := by
  rcases h.continues.settled _ hvisited with hb | hf
  · obtain ⟨root, hroot, heq⟩ := hbefore _ hb
    exact absurd (Path.toText_injective heq ▸ hroot) hother
  · exact hf

/-- Every module that the text reaches has been begun at the end, unless it cannot be read. -/
theorem Gathered.begun_of_reaches {path : Path} (hreach : s.Reaches file lines path) :
    path.toText ∈ known.2.visited ∨ s.moduleLines? path = none := by
  induction hreach with
  | included hr => exact h.begun _ hr
  | @through path moduleLines r _ other readable hr ih =>
    have hvisited : path.toText ∈ known.2.visited :=
      ih.resolve_right fun hnone => by rw [hnone] at readable; cases readable
    -- The including module has been begun, so it is finished, and then its own includes are begun.
    have hfinished := h.finished_of_visited hbefore other hvisited
    obtain ⟨entry, hentry, hfile⟩ := List.mem_map.mp hfinished
    obtain ⟨path', moduleLines', heq, hmodule⟩ := h.invariant.finished entry hentry
    obtain rfl := Path.toText_injective (hfile.symm.trans heq)
    rw [hmodule.provides.lines_unique readable] at hr
    exact hmodule.begun r hr

/-- Every module that the text reaches, another file than its own, is finished at the end if it can
be read. -/
theorem Gathered.finished_of_provides {path : Path} {moduleLines : List Line}
    (hp : s.Provides file lines path moduleLines) : path.toText ∈ known.2.finishedFiles := by
  have hvisited : path.toText ∈ known.2.visited :=
    (h.begun_of_reaches hbefore hp.reached).resolve_right fun hnone => by
      have hreadable := hp.readable
      rw [hnone] at hreadable
      cases hreadable
  exact h.finished_of_visited hbefore hp.other hvisited

end End

/-- What the include lines of the text gather, starting with nothing known but its own file. -/
theorem gathered_outline (hw : s.WholeFilesOnly file lines) (isRoot : Bool) :
    ∃ before : Pass, before.finished = [] ∧
      (∀ t ∈ before.visited, ∃ path, s.rootPath file = some path ∧ t = path.toText) ∧
      s.Gathered file lines (s.resolutionsIn (s.rootDirectory file) lines) before
        ((s.outline isRoot file lines {}).1.table.imports, (s.outline isRoot file lines {}).2) := by
  let before : Pass := (s.rootPath file).elim {} fun p => ({} : Pass).visit p.toText
  have hfinished : before.finished = [] := by
    cases hroot : s.rootPath file <;> simp [before, hroot]
  have hvisited : ∀ t, t ∈ before.visited ↔ ∃ path, s.rootPath file = some path ∧
      t = path.toText := by
    intro t
    cases hroot : s.rootPath file <;> simp [before, hroot, Pass.mem_visit_visited]
  -- No module is finished yet, so there is nothing to know but where the text itself is.
  have hinvariant : s.PassInvariant file lines before := by
    refine ⟨fun entry hentry => ?_, fun t ht => ?_,
      fun path hpath => (hvisited _).mpr ⟨path, hpath, rfl⟩⟩
    · rw [hfinished] at hentry
      exact (List.not_mem_nil hentry).elim
    · rw [Pass.finishedFiles, hfinished] at ht
      exact (List.not_mem_nil ht).elim
  have hfold := gathered_foldl before
    (fun path pass hreach h _ => answered hw path pass hreach h)
    (fun r hr => Reaches.included hr) hw.root hinvariant
  have himports := Outline.ofLines_imports_state s.search s.disk s.answer
    ⟨(s.rootPath file).elim file fun p => some p.toText, (s.rootDirectory file).toText, isRoot⟩
    lines before
  refine ⟨before, hfinished, fun t ht => (hvisited t).mp ht, ?_⟩
  rw [resolutionsIn, ← himports, ← resolutionsIn] at hfold
  rw [outline_eq]
  exact hfold

variable (s) in
theorem nodup_keys_imports_outline (isRoot : Bool) (pass : Pass) :
    (s.outline isRoot file lines pass).1.table.imports.keys.Nodup := by
  have hfold : ∀ (rs : List Resolution) (known : Imports × Pass), known.1.keys.Nodup →
      (rs.foldl (Imports.bring s.answer) known).1.keys.Nodup := by
    intro rs
    induction rs with
    | nil => exact fun _ hk => hk
    | cons r rs ih => exact fun known hk => ih _ (Imports.nodup_keys_takeReply r _ hk)
  have himports := Outline.ofLines_imports_state s.search s.disk s.answer
    ⟨(s.rootPath file).elim file fun p => some p.toText, (s.rootDirectory file).toText, isRoot⟩
    lines ((s.rootPath file).elim pass fun p => pass.visit p.toText)
  have hnodup := hfold (s.resolutionsIn (s.rootDirectory file) lines)
    ({}, (s.rootPath file).elim pass fun p => pass.visit p.toText) List.nodup_nil
  rw [resolutionsIn, ← himports] at hnodup
  rwa [outline_eq]

/-- If all include lines ask for whole files, a text brings in exactly what the modules declare that
it reaches, each key once. Neither a cycle nor the order of the include lines loses anything. -/
theorem mem_keys_imports_outline_iff (hw : s.WholeFilesOnly file lines) (isRoot : Bool) :
    let imports := (s.outline isRoot file lines {}).1.table.imports
    imports.keys.Nodup ∧ ∀ k, k ∈ imports.keys ↔
      ∃ path moduleLines, s.Provides file lines path moduleLines ∧
        k ∈ ownKeys path moduleLines := by
  refine ⟨nodup_keys_imports_outline s isRoot {}, fun k => ?_⟩
  obtain ⟨before, hfinished, hbefore, hgathered⟩ := gathered_outline hw isRoot
  refine ⟨hgathered.given k, ?_⟩
  rintro ⟨path, moduleLines, hp, hk⟩
  refine hgathered.passesOn path moduleLines (hgathered.finished_of_provides hbefore hp) ?_
    hp.readable hk
  rw [Pass.finishedFiles, hfinished]
  exact List.not_mem_nil

/-- The directory of the example files has a proper name. -/
theorem isEntryName_w : ∀ name ∈ ["w"], IsEntryName name := by
  decide

/-- Two modules in one directory that include each other and declare a class each. -/
def mutualModules : ModuleSource where
  disk :=
    { workingDirectory := { names := ["w"], isEntryName_of_mem := isEntryName_w }
      directories := [["w"]]
      files := [(["w", "a.pgy"], "include b\nclass A {}".toUTF8.toList),
        (["w", "b.pgy"], "include a\nclass B {}".toUTF8.toList)] }
  search := ⟨"/lib", ".pgy"⟩
  maxLines := 100

/-- The normal paths of the two modules. -/
def mutualPaths : List Path :=
  [{ names := ["w", "a.pgy"], isEntryName_of_mem := by decide },
   { doubled := true, names := ["w", "a.pgy"], isEntryName_of_mem := by decide },
   { names := ["w", "b.pgy"], isEntryName_of_mem := by decide },
   { doubled := true, names := ["w", "b.pgy"], isEntryName_of_mem := by decide }]

theorem wholeFilesOnly_mutualModules (file : Option String) (lines : List Line)
    (h : ∀ r ∈ mutualModules.resolutionsIn (mutualModules.rootDirectory file) lines,
      r.selection = none) : mutualModules.WholeFilesOnly file lines := by
  refine ⟨h, fun path moduleLines hp r hr => ?_⟩
  -- Only four normal paths can be read at all, and these are looked through.
  have hall : ∀ p ∈ mutualPaths, (mutualModules.moduleLines? p).all fun moduleLines =>
      (mutualModules.resolutionsIn p.parent moduleLines).all (·.selection = none) := by
    decide +kernel
  have htexts : mutualModules.disk.pathTexts = mutualPaths.map Path.toText := by decide +kernel
  have hmem := mem_pathTexts_of_moduleLines? hp.readable
  rw [htexts] at hmem
  obtain ⟨p, hp', heq⟩ := List.mem_map.mp hmem
  obtain rfl := Path.toText_injective heq
  have hselections := hall p hp'
  rw [hp.readable] at hselections
  simpa using List.all_eq_true.mp hselections r hr

/-- A text that includes one of two modules that include each other gets the class of the other. -/
theorem mem_keys_imports_mutualModules :
    mutualModules.WholeFilesOnly (some "main.pgy") (Line.ofSource "include a".toList) ∧
      .ofClass "B" "/w/b.pgy" ∈ (mutualModules.outline true (some "main.pgy")
        (Line.ofSource "include a".toList) {}).1.table.imports.keys := by
  have hwhole : mutualModules.WholeFilesOnly (some "main.pgy")
      (Line.ofSource "include a".toList) :=
    wholeFilesOnly_mutualModules _ _ (by decide +kernel)
  let a : Path := { names := ["w", "a.pgy"], isEntryName_of_mem := by decide }
  let b : Path := { names := ["w", "b.pgy"], isEntryName_of_mem := by decide }
  have ha : a ∈ (mutualModules.resolutionsIn (mutualModules.rootDirectory (some "main.pgy"))
      (Line.ofSource "include a".toList)).map (·.file) := by decide +kernel
  have hb : b ∈ (mutualModules.resolutionsIn a.parent
      (Line.ofSource "include b\nclass A {}".toList)).map (·.file) := by decide +kernel
  have hreadA : (mutualModules.disk.readSource a.toText mutualModules.maxLines).toOption =
      some "include b\nclass A {}".toList := by decide +kernel
  have hreadB : (mutualModules.disk.readSource b.toText mutualModules.maxLines).toOption =
      some "include a\nclass B {}".toList := by decide +kernel
  have hlinesA : mutualModules.moduleLines? a =
      some (Line.ofSource "include b\nclass A {}".toList) := by
    rw [moduleLines?, hreadA, Option.map_some]
  have hlinesB : mutualModules.moduleLines? b =
      some (Line.ofSource "include a\nclass B {}".toList) := by
    rw [moduleLines?, hreadB, Option.map_some]
  have hotherA : mutualModules.rootPath (some "main.pgy") ≠ some a := by decide +kernel
  have hotherB : mutualModules.rootPath (some "main.pgy") ≠ some b := by decide +kernel
  have hown : ImportKey.ofClass "B" "/w/b.pgy" ∈
      ownKeys b (Line.ofSource "include a\nclass B {}".toList) := by decide +kernel
  obtain ⟨r, hr, hra⟩ := List.mem_map.mp ha
  obtain ⟨r', hr', hrb⟩ := List.mem_map.mp hb
  have hreachA : mutualModules.Reaches (some "main.pgy") (Line.ofSource "include a".toList) a :=
    hra ▸ Reaches.included hr
  have hreachB : mutualModules.Reaches (some "main.pgy") (Line.ofSource "include a".toList) b :=
    hrb ▸ Reaches.through hreachA hotherA hlinesA hr'
  exact ⟨hwhole, ((mem_keys_imports_outline_iff hwhole true).2 _).mpr
    ⟨b, _, ⟨hreachB, hotherB, hlinesB⟩, hown⟩⟩

end ModuleSource

end ScriptLint
