import ScriptLint.Proofs.Module.Tables
import ScriptLint.Proofs.Outline.Members

/-! Where imported symbols come from. A symbol may be handed on by any number of modules before it
gets into a table, and its file is written anew at some of these steps and kept at others. Whatever
the way, the file that it names is one that was read as a module, and that file declares it. -/
namespace ScriptLint

/-- The class is one of the body, or directly inside one of the body if it is an inner class. -/
def ImportedClass.DeclaredIn (c : ImportedClass) (b : Body ClassDecl) : Prop :=
  if c.isInner then
    ∃ outer ∈ b.classes, c.parent = some outer.name ∧
      ∃ inner ∈ outer.body.classes, inner.name = c.name
  else c.parent = none ∧ ∃ d ∈ b.classes, d.name = c.name

/-- Apart from its file and class, the function is one of the body. A method is one of a class of
that name in the body, or directly inside such a class. -/
def FunctionDecl.DeclaredIn (f : FunctionDecl) (b : Body ClassDecl) : Prop :=
  match f.owner with
  | none => ∃ g ∈ b.functions, f = { g with file := f.file, owner := none }
  | some name => ∃ c : ClassDecl, (c ∈ b.classes ∨ ∃ outer ∈ b.classes, c ∈ outer.body.classes) ∧
      c.name = name ∧ ∃ g ∈ c.body.functions, f = { g with file := f.file, owner := some name }

/-- Apart from its file, the macro is one of the body. -/
def MacroDecl.DeclaredIn (m : MacroDecl) (b : Body ClassDecl) : Prop :=
  ∃ n ∈ b.macros, m = { n with file := m.file }

/-- What is asked of a body holds of the declarations of a module that is finished for the file. -/
def ModuleSource.FinishedWith (s : ModuleSource) (pass : Pass) (file : Option String)
    (declares : Body ClassDecl → Prop) : Prop :=
  ∃ path moduleLines o, s.Finished pass path moduleLines o ∧ file = some path.toText ∧
    declares o.table.body

/-- Each imported symbol names a file that is finished in the pass and that declares it. -/
structure Imports.Sourced (s : ModuleSource) (pass : Pass) (i : Imports) : Prop where
  classes : ∀ c ∈ i.classes, s.FinishedWith pass (some c.file) c.DeclaredIn
  functions : ∀ f ∈ i.functions, s.FinishedWith pass f.file f.DeclaredIn
  macros : ∀ m ∈ i.macros, s.FinishedWith pass m.file m.DeclaredIn

variable {s : ModuleSource} {pass later : Pass}

theorem ModuleSource.FinishedWith.mono {file : Option String} {declares : Body ClassDecl → Prop}
    (h : s.FinishedWith pass file declares) (hsub : pass.finished ⊆ later.finished) :
    s.FinishedWith later file declares := by
  obtain ⟨path, moduleLines, o, hfinished, hfile, hdeclares⟩ := h
  exact ⟨path, moduleLines, o, hfinished.mono hsub, hfile, hdeclares⟩

namespace Imports.Sourced

variable {i more : Imports}

theorem empty (pass : Pass) : ({} : Imports).Sourced s pass :=
  ⟨fun _ h => (List.not_mem_nil h).elim, fun _ h => (List.not_mem_nil h).elim,
    fun _ h => (List.not_mem_nil h).elim⟩

theorem mono (h : i.Sourced s pass) (hsub : pass.finished ⊆ later.finished) :
    i.Sourced s later where
  classes c hc := (h.classes c hc).mono hsub
  functions f hf := (h.functions f hf).mono hsub
  macros m hm := (h.macros m hm).mono hsub

theorem merge (hi : i.Sourced s pass) (hmore : more.Sourced s pass) :
    (i.merge more).Sourced s pass where
  classes c hc := (mem_of_mem_merge_classes hc).elim (hi.classes c) (hmore.classes c)
  functions f hf := (mem_of_mem_merge_functions hf).elim (hi.functions f) (hmore.functions f)
  macros m hm := (mem_of_mem_merge_macros hm).elim (hi.macros m) (hmore.macros m)

end Imports.Sourced

/-- A macro that a text declares names the file of the text. -/
theorem file_of_mem_declaredBody_macros {file : Option String} {lines : List Line} {m : MacroDecl}
    (h : m ∈ (declaredBody file lines).macros) : m.file = file := by
  have hplaced : (none, Member.ofMacro m) ∈ (declaredBody file lines).placed none :=
    List.mem_append_left _ (List.mem_map_of_mem (Body.mem_members_of_macros h))
  exact fits_of_mem_placed hplaced

namespace ModuleSource.Finished

variable {path : Path} {moduleLines : List Line} {o : Outline}
  (hfinished : s.Finished pass path moduleLines o)
include hfinished

/-- The methods of a class at the top level of a module, or directly inside one. -/
theorem sourced_methods {c : ClassDecl}
    (hc : c ∈ o.table.body.classes ∨ ∃ outer ∈ o.table.body.classes, c ∈ outer.body.classes) :
    ∀ f ∈ c.methods path.toText, s.FinishedWith pass f.file f.DeclaredIn := by
  intro f hf
  obtain ⟨g, hg, rfl⟩ := List.mem_map.mp hf
  exact ⟨path, moduleLines, o, hfinished, rfl, c, hc, rfl, g, hg, rfl⟩

theorem sourced_class {c : ClassDecl} (hc : c ∈ o.table.body.classes) :
    s.FinishedWith pass (some path.toText)
      ({ name := c.name, file := path.toText } : ImportedClass).DeclaredIn :=
  ⟨path, moduleLines, o, hfinished, rfl, rfl, c, hc, rfl⟩

theorem sourced_macro {m : MacroDecl} (hm : m ∈ o.table.body.macros) :
    s.FinishedWith pass (some path.toText) ({ m with file := some path.toText }).DeclaredIn :=
  ⟨path, moduleLines, o, hfinished, rfl, m, hm, rfl⟩

theorem sourced_innerClass? {parent name : String} {given : Imports}
    (h : o.table.innerClass? path.toText parent name = some given) : given.Sourced s pass := by
  obtain ⟨outer, houter, h⟩ := Option.bind_eq_some_iff.mp h
  obtain ⟨inner, hinner, h⟩ := Option.bind_eq_some_iff.mp h
  cases h
  have ho : outer ∈ o.table.body.classes := List.mem_of_find?_eq_some houter
  have hi : inner ∈ outer.body.classes := List.mem_of_find?_eq_some hinner
  refine ⟨?_, hfinished.sourced_methods (Or.inr ⟨outer, ho, hi⟩),
    fun _ hm => (List.not_mem_nil hm).elim⟩
  intro d hd
  rw [List.mem_singleton.mp hd]
  exact ⟨path, moduleLines, o, hfinished, rfl, outer, ho, rfl, inner, hi, rfl⟩

variable (himports : o.table.imports.Sourced s pass)
include himports

/-- All that a module gives comes from the module itself or from where it brought it in. -/
theorem sourced_exports : (o.table.exports path.toText).Sourced s pass where
  classes c hc := by
    rcases List.mem_append.mp hc with hown | hother
    · obtain ⟨d, hd, rfl⟩ := List.mem_map.mp hown
      exact hfinished.sourced_class hd
    · exact himports.classes c hother
  functions f hf := by
    rcases List.mem_append.mp hf with hown | hother
    · rcases List.mem_append.mp hown with hmethod | htop
      · obtain ⟨c, hc, hf⟩ := List.mem_flatMap.mp hmethod
        exact hfinished.sourced_methods (Or.inl hc) f hf
      · obtain ⟨g, hg, rfl⟩ := List.mem_map.mp htop
        -- A function at the top level has no class, so none is asked for.
        have hnone : g.owner = none := by
          rw [hfinished.body] at hg
          exact owner_of_mem_declaredBody List.mem_cons_self hg
        refine ⟨path, moduleLines, o, hfinished, rfl, ?_⟩
        simp only [FunctionDecl.DeclaredIn, hnone]
        refine ⟨g, hg, ?_⟩
        rw [← hnone]
    · exact himports.functions f hother
  macros m hm := by
    rcases List.mem_append.mp hm with hown | hother
    · obtain ⟨n, hn, rfl⟩ := List.mem_map.mp hown
      exact hfinished.sourced_macro hn
    · exact himports.macros m hother

omit hfinished in
theorem sourced_handedOn {c : ImportedClass} (hc : c ∈ o.table.imports.classes)
    (keep : FunctionDecl → Bool) :
    ({ classes := [c], functions := o.table.imports.functions.filter keep } : Imports).Sourced s
      pass where
  classes d hd := by
    rw [List.mem_singleton.mp hd]
    exact himports.classes c hc
  functions f hf := himports.functions f (List.mem_filter.mp hf).1
  macros _ hm := (List.not_mem_nil hm).elim

theorem sourced_topClass? {name : String} {given : Imports}
    (h : o.table.topClass? path.toText name = some given) : given.Sourced s pass := by
  unfold SymbolTable.topClass? at h
  cases hown : o.table.body.classes.find? (·.name = name) with
  | some c =>
    rw [hown] at h
    cases h
    have hc : c ∈ o.table.body.classes := List.mem_of_find?_eq_some hown
    refine ⟨?_, hfinished.sourced_methods (Or.inl hc), fun _ hm => (List.not_mem_nil hm).elim⟩
    intro d hd
    rw [List.mem_singleton.mp hd]
    exact hfinished.sourced_class hc
  | none =>
    rw [hown] at h
    obtain ⟨c, hc, rfl⟩ := Option.map_eq_some_iff.mp h
    exact sourced_handedOn himports (List.mem_of_find?_eq_some hc) _

theorem sourced_oneMacro? {name : String} {given : Imports}
    (h : o.table.oneMacro? path.toText name = some given) : given.Sourced s pass := by
  obtain ⟨m, hm, rfl⟩ := Option.map_eq_some_iff.mp h
  -- The macro names a file already, which is kept.
  have hsourced : s.FinishedWith pass m.file m.DeclaredIn := by
    rcases Option.or_eq_some_iff.mp hm with hown | ⟨-, hother⟩
    · have hmem := List.mem_of_find?_eq_some hown
      have hfile : m.file = some path.toText := by
        rw [hfinished.body] at hmem
        exact file_of_mem_declaredBody_macros hmem
      rw [hfile]
      exact ⟨path, moduleLines, o, hfinished, rfl, m, hmem, rfl⟩
    · exact himports.macros m (List.mem_of_find?_eq_some hother)
  have hkept : ({ m with file := some ((m.file.filter (· ≠ "")).getD path.toText) } : MacroDecl) =
      m := by
    obtain ⟨origin, _, _, _, hfile, _⟩ := hsourced
    have hsome : m.file.filter (· ≠ "") = some origin.toText := by
      rw [hfile]
      simp [origin.toText_ne_empty]
    rw [hsome, Option.getD_some, ← hfile]
  refine ⟨fun _ hc => (List.not_mem_nil hc).elim, fun _ hf => (List.not_mem_nil hf).elim, ?_⟩
  intro n hn
  rw [List.mem_singleton.mp hn, hkept]
  exact hsourced

theorem sourced_select? {selection : Selection} {given : Imports}
    (h : o.table.select? path.toText selection = some given) : given.Sourced s pass := by
  cases selection with
  | topClass name => exact hfinished.sourced_topClass? himports h
  | innerClass parent name => exact hfinished.sourced_innerClass? h
  | oneMacro name => exact hfinished.sourced_oneMacro? himports h

end ModuleSource.Finished

namespace ModuleSource

variable (s)

/-- No step of a pass brings in a symbol without a source, or a second one with the same key. -/
theorem stable_sourced : s.Stable fun pass i => i.Sourced s pass ∧ i.keys.Nodup where
  empty pass := ⟨Imports.Sourced.empty pass, List.nodup_nil⟩
  mono hsub h := ⟨h.1.mono hsub, h.2⟩
  take := by
    intro pass i r moduleLines o hfinished hmodule hi
    refine ⟨?_, Imports.nodup_keys_takeReply r (.outline o) hi.2⟩
    rcases i.take_eq_or r o with heq | ⟨given, heq, hgiven⟩
    · rw [heq]
      exact hi.1
    · rw [heq]
      refine hi.1.merge ?_
      rcases hgiven with rfl | ⟨selection, hgiven⟩
      · exact hfinished.sourced_exports hmodule.1
      · exact hfinished.sourced_select? hmodule.1 hgiven

/-- Every symbol that is imported into a table names a file that was read as a module and declares
it, and no two of them have the same key. A file that was read as a module has one table in the end,
which is the one that is found under its name. -/
theorem imports_sourced (isRoot : Bool) (file : Option String) (lines : List Line) :
    let pass := (s.outline isRoot file lines {}).2
    (∀ t ∈ s.tables isRoot file lines, t.imports.Sourced s pass ∧ t.imports.keys.Nodup) ∧
      ∀ path moduleLines o, s.Finished pass path moduleLines o →
        pass.finished.lookup path.toText = some o :=
  ⟨fun _ ht => s.stable_sourced.tables ht,
    fun _ _ _ hfinished => s.lookup_finished_outline hfinished.mem⟩

end ModuleSource

end ScriptLint
