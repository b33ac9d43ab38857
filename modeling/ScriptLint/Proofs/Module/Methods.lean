import ScriptLint.Proofs.Module.Tables

/-! Imported methods and their classes. A method is brought in with its class, and both name the
same file. Only a module that hands on a class that it does not declare goes by the name of the
class alone: if it brought in two classes of that name, it hands on one of them with the methods of
both. -/
namespace ScriptLint

/-- A module declares no class of the name and brought in two from different files, one of them the
given file. -/
def ModuleSource.MixesClasses (s : ModuleSource) (pass : Pass) (name : String)
    (file : Option String) : Prop :=
  ∃ path moduleLines o, s.Finished pass path moduleLines o ∧
    (∀ c ∈ o.table.body.classes, c.name ≠ name) ∧
    ∃ c ∈ o.table.imports.classes, ∃ d ∈ o.table.imports.classes,
      c.name = name ∧ d.name = name ∧ file = some d.file ∧ c.file ≠ d.file

/-- A method is imported with a class of its name, which is declared in the file of the method
unless a module mixes classes of that name. -/
def Imports.Pairs (i : Imports) (s : ModuleSource) (pass : Pass) (f : FunctionDecl) : Prop :=
  ∀ name, f.owner = some name → ∃ c ∈ i.classes, c.name = name ∧
    (f.file = some c.file ∨ s.MixesClasses pass name f.file)

variable {s : ModuleSource} {pass later : Pass}

theorem ModuleSource.MixesClasses.mono {name : String} {file : Option String}
    (h : s.MixesClasses pass name file) (hsub : pass.finished ⊆ later.finished) :
    s.MixesClasses later name file := by
  obtain ⟨path, moduleLines, o, hfinished, hmixed⟩ := h
  exact ⟨path, moduleLines, o, hfinished.mono hsub, hmixed⟩

namespace Imports.Pairs

variable {i more : Imports} {f : FunctionDecl}

theorem mono (h : i.Pairs s pass f) (hsub : pass.finished ⊆ later.finished) :
    i.Pairs s later f := by
  intro name howner
  obtain ⟨c, hc, hname, hfile⟩ := h name howner
  exact ⟨c, hc, hname, hfile.imp_right fun hmixed => hmixed.mono hsub⟩

/-- A class counts for a method if another one of its name and file does. -/
theorem of_classes (h : i.Pairs s pass f)
    (hclasses : ∀ c ∈ i.classes, ∃ d ∈ more.classes, d.name = c.name ∧ d.file = c.file) :
    more.Pairs s pass f := by
  intro name howner
  obtain ⟨c, hc, hname, hfile⟩ := h name howner
  obtain ⟨d, hd, hdname, hdfile⟩ := hclasses c hc
  refine ⟨d, hd, hdname.trans hname, ?_⟩
  rwa [hdfile]

theorem of_mem_methods {c : ClassDecl} {file : String} {d : ImportedClass}
    (hf : f ∈ c.methods file) (hd : d ∈ i.classes) (hname : d.name = c.name)
    (hfile : d.file = file) : i.Pairs s pass f := by
  obtain ⟨g, -, rfl⟩ := List.mem_map.mp hf
  rintro name ⟨⟩
  exact ⟨d, hd, hname, Or.inl (congrArg some hfile.symm)⟩

end Imports.Pairs

theorem SymbolTable.pairs_innerClass? {t : SymbolTable} {file parent name : String}
    {given : Imports} (h : t.innerClass? file parent name = some given) :
    ∀ f ∈ given.functions, given.Pairs s pass f := by
  obtain ⟨outer, -, h⟩ := Option.bind_eq_some_iff.mp h
  obtain ⟨inner, -, h⟩ := Option.bind_eq_some_iff.mp h
  cases h
  exact fun f hf => Imports.Pairs.of_mem_methods hf (List.mem_singleton_self _) rfl rfl

namespace ModuleSource.Finished

variable {path : Path} {moduleLines : List Line} {o : Outline}
  (hfinished : s.Finished pass path moduleLines o)
  (himports : ∀ f ∈ o.table.imports.functions, o.table.imports.Pairs s pass f)
include hfinished himports

theorem pairs_exports :
    ∀ f ∈ (o.table.exports path.toText).functions,
      (o.table.exports path.toText).Pairs s pass f := by
  intro f hf
  rcases List.mem_append.mp hf with hown | hother
  · rcases List.mem_append.mp hown with hmethod | htop
    · obtain ⟨c, hc, hf⟩ := List.mem_flatMap.mp hmethod
      have hclass : ({ name := c.name, file := path.toText } : ImportedClass) ∈
          (o.table.exports path.toText).classes :=
        List.mem_append_left _ (List.mem_map_of_mem hc)
      exact Imports.Pairs.of_mem_methods hf hclass rfl rfl
    · -- A function at the top level belongs to no class.
      obtain ⟨g, hg, rfl⟩ := List.mem_map.mp htop
      have hnone : g.owner = none := by
        rw [hfinished.body] at hg
        exact owner_of_mem_declaredBody List.mem_cons_self hg
      intro name howner
      rw [hnone] at howner
      cases howner
  · refine (himports f hother).of_classes fun c hc => ?_
    exact ⟨c, List.mem_append_right _ hc, rfl, rfl⟩

/-- The class that is handed on has methods of other files with it only if there are classes of its
name from these files. -/
theorem pairs_topClass? {name : String} {given : Imports}
    (h : o.table.topClass? path.toText name = some given) :
    ∀ f ∈ given.functions, given.Pairs s pass f := by
  unfold SymbolTable.topClass? at h
  cases hown : o.table.body.classes.find? (·.name = name) with
  | some c =>
    rw [hown] at h
    cases h
    exact fun f hf => Imports.Pairs.of_mem_methods hf (List.mem_singleton_self _) rfl rfl
  | none =>
    rw [hown] at h
    obtain ⟨c, hc, rfl⟩ := Option.map_eq_some_iff.mp h
    have hname : c.name = name := by simpa using List.find?_some hc
    have hnone : ∀ d ∈ o.table.body.classes, d.name ≠ name := by
      simpa using List.find?_eq_none.mp hown
    intro f hf owner howner
    obtain ⟨hf, hfilter⟩ := List.mem_filter.mp hf
    obtain rfl : owner = c.name := by
      have hsome : f.owner = some c.name := by simpa using hfilter
      exact Option.some.inj (howner.symm.trans hsome)
    refine ⟨c, List.mem_singleton_self _, rfl, ?_⟩
    obtain ⟨d, hd, hdname, hpaired | hmixed⟩ := himports f hf c.name howner
    · by_cases hsame : c.file = d.file
      · exact Or.inl (by rw [hsame, hpaired])
      · exact Or.inr ⟨path, moduleLines, o, hfinished, hname ▸ hnone, c,
          List.mem_of_find?_eq_some hc, d, hd, rfl, hdname, hpaired, hsame⟩
    · exact Or.inr hmixed

theorem pairs_select? {selection : Selection} {given : Imports}
    (h : o.table.select? path.toText selection = some given) :
    ∀ f ∈ given.functions, given.Pairs s pass f := by
  cases selection with
  | topClass name => exact hfinished.pairs_topClass? himports h
  | innerClass parent name => exact SymbolTable.pairs_innerClass? h
  | oneMacro name =>
    obtain ⟨m, -, rfl⟩ := Option.map_eq_some_iff.mp h
    exact fun _ hf => (List.not_mem_nil hf).elim

end ModuleSource.Finished

namespace ModuleSource

variable (s)

/-- No step of a pass takes a method from its class. -/
theorem stable_pairs : s.Stable fun pass i => ∀ f ∈ i.functions, i.Pairs s pass f where
  empty _ _ hf := (List.not_mem_nil hf).elim
  mono hsub h f hf := (h f hf).mono hsub
  take := by
    intro pass i r moduleLines o hfinished hmodule hi
    rcases i.take_eq_or r o with heq | ⟨given, heq, hgiven⟩
    · rw [heq]
      exact hi
    · have hpairs : ∀ f ∈ given.functions, given.Pairs s pass f := by
        rcases hgiven with rfl | ⟨selection, hgiven⟩
        · exact hfinished.pairs_exports hmodule
        · exact hfinished.pairs_select? hmodule hgiven
      rw [heq]
      intro f hf
      rcases Imports.mem_of_mem_merge_functions hf with hf | hf
      · exact (hi f hf).of_classes fun c hc => Imports.exists_mem_merge_classes (Or.inl hc)
      · exact (hpairs f hf).of_classes fun c hc => Imports.exists_mem_merge_classes (Or.inr hc)

/-- Every imported method belongs to a class that is imported into the same table from the same
file, unless some module mixes classes of that name; then at least the name is there. -/
theorem imports_pairs (isRoot : Bool) (file : Option String) (lines : List Line) :
    let pass := (s.outline isRoot file lines {}).2
    ∀ t ∈ s.tables isRoot file lines, ∀ f ∈ t.imports.functions, ∀ name, f.owner = some name →
      ∃ c ∈ t.imports.classes, c.name = name ∧
        (f.file = some c.file ∨ s.MixesClasses pass name f.file) :=
  fun _ ht => s.stable_pairs.tables ht

/-- A module that includes two others, each of which declares a class of the same name. -/
def twinModules : ModuleSource where
  disk :=
    { workingDirectory := { names := ["w"], isEntryName_of_mem := isEntryName_w }
      directories := [["w"]]
      files := [(["w", "m.pgy"], "include a\ninclude b".toUTF8.toList),
        (["w", "a.pgy"], "class C \x7b\ndef f() -> int \x7b\n\x7d\n\x7d".toUTF8.toList),
        (["w", "b.pgy"], "class C \x7b\ndef g() -> int \x7b\n\x7d\n\x7d".toUTF8.toList)] }
  search := ⟨"/lib", ".pgy"⟩
  maxLines := 100

/-- The class that the module hands on comes from one file, and a method of the other one comes with
it. -/
theorem imports_twinModules :
    let t := (twinModules.outline true (some "main.pgy")
      (Line.ofSource "include m.C".toList) {}).1.table
    t.imports.classes.map (fun c => (c.name, c.file)) = [("C", "/w/a.pgy")] ∧
      t.imports.functions.map (fun f => (f.name, f.owner, f.file)) =
        [("f", some "C", some "/w/a.pgy"), ("g", some "C", some "/w/b.pgy")] := by
  decide +kernel

end ModuleSource

end ScriptLint
