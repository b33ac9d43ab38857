import ScriptLint.Proofs.Analysis.Parts
import ScriptLint.Proofs.Include.Search
import ScriptLint.Proofs.Module.Calls
import ScriptLint.Proofs.Module.Tables
import ScriptLint.Proofs.Outline.Complete

/-! Where the modules of an analysis lie. Whatever is passed on from each file to those that it
includes holds of all modules that are asked for, and to lie below the directory of the text or
below the library is passed on: a module includes from its own directory, which is not further up
than what it was found under itself. -/
namespace ScriptLint

/-- What an include line adds to the includes is found by the search of that line. -/
theorem Line.resolution?_of_include? {search : ModuleSearch} {disk : Disk} {directory : String}
    {line : Line} {i : Include} (h : line.include? search disk directory = some i) :
    ∃ r, line.resolution? search disk directory = some r ∧ i.file = some r.file.toText := by
  rcases line.isBlank_or_inclusion_or with hb | ⟨hb, ⟨path, hs⟩ | hs⟩
  · simp [include?, hb] at h
  · simp only [include?, hb, Bool.false_eq_true, ↓reduceIte, hs] at h
    obtain ⟨r, hr, rfl⟩ := Option.map_eq_some_iff.mp h
    exact ⟨r, by rw [resolution?_of_inclusion search disk hb hs, hr], rfl⟩
  · rw [include?_of_ne_inclusion search disk hs] at h
    cases h

/-- The property holds of every module that was asked for, and of every file that a module finished
by then includes. -/
structure Covers (P : Path → Prop) (known : Pass × List Call) : Prop where
  calls : ∀ c ∈ known.2, P c.path
  includes : ∀ entry ∈ known.1.finished, ∀ i ∈ entry.2.table.includes,
    ∃ path, i.file = some path.toText ∧ P path

namespace Covers

variable {P : Path → Prop} {known : Pass × List Call}

theorem enter (h : Covers P known) {c : Call} (hc : P c.path) :
    Covers P (known.1, known.2 ++ [c]) := by
  refine ⟨fun c' hc' => ?_, h.includes⟩
  rcases List.mem_append.mp hc' with hc' | hc'
  · exact h.calls c' hc'
  · rwa [List.mem_singleton.mp hc']

theorem finish (h : Covers P known) {o : Outline}
    (ho : ∀ i ∈ o.table.includes, ∃ path, i.file = some path.toText ∧ P path) (file : String) :
    Covers P (known.1.finish file o, known.2) := by
  refine ⟨h.calls, fun entry hentry => ?_⟩
  rcases List.mem_append.mp hentry with hentry | hentry
  · exact h.includes entry hentry
  · rwa [List.mem_singleton.mp hentry]

theorem visit (h : Covers P known) (file : String) :
    Covers P (known.1.visit file, known.2) := by
  refine ⟨h.calls, fun entry hentry => ?_⟩
  rw [Pass.visit_finished] at hentry
  exact h.includes entry hentry

end Covers

namespace ModuleSource

variable (s : ModuleSource)

/-- The property goes from a file on to every module that an include line in it names, whatever its
lines are. -/
def PassedOn (P : Path → Prop) : Prop :=
  ∀ path, P path → ∀ moduleLines, ∀ r ∈ s.resolutionsIn path.parent moduleLines, P r.file

variable {s} {P : Path → Prop}

/-- An outline includes files with the property if all that its lines ask for have it. -/
theorem exists_of_mem_includes {State : Type} {load : Path → State → ModuleReply × State}
    {origin : Origin} {directory : Path} (hdirectory : origin.directory = directory.toText)
    {lines : List Line} {state : State} (hlines : ∀ r ∈ s.resolutionsIn directory lines, P r.file) :
    ∀ i ∈ (Outline.ofLines s.search s.disk load origin lines state).1.table.includes,
      ∃ path, i.file = some path.toText ∧ P path := by
  intro i hi
  rw [Outline.ofLines_includes, hdirectory] at hi
  obtain ⟨line, hline, hinclude⟩ := List.mem_filterMap.mp hi
  obtain ⟨r, hr, hfile⟩ := Line.resolution?_of_include? hinclude
  exact ⟨r.file, hfile, hlines r (List.mem_filterMap.mpr ⟨line, hline, hr⟩)⟩

/-- What is recorded while lines are read is covered, if all that they ask for has the property. -/
theorem covers_ofLines {load : Path → Pass × List Call → ModuleReply × (Pass × List Call)}
    (hload : ∀ path known, P path → Covers P known → Covers P (load path known).2)
    {origin : Origin} {directory : Path} (hdirectory : origin.directory = directory.toText)
    {lines : List Line} (hlines : ∀ r ∈ s.resolutionsIn directory lines, P r.file)
    {known : Pass × List Call} (h : Covers P known) :
    Covers P (Outline.ofLines s.search s.disk load origin lines known).2 := by
  unfold Outline.ofLines
  rw [Draft.finish_state]
  apply Draft.readLines_keeps (d := { state := known })
  · intro r hr state hstate
    rw [hdirectory] at hr
    exact hload r.file state (hlines r hr) hstate
  · exact h

/-- An answer for a module with the property leaves everything covered. The induction is on the
depth; a module that is read hands the property on to what it includes. -/
theorem covers_record (hP : s.PassedOn P) (depth : Nat) (inProgress : List Path) {path : Path}
    (hpath : P path) {known : Pass × List Call} (h : Covers P known) :
    Covers P (s.record depth inProgress path known).2 := by
  induction depth using Nat.strongRecOn generalizing inProgress path known with
  | ind depth ih =>
    rw [record]
    split
    · exact h.enter hpath
    · split
      · exact h.enter hpath
      · split
        · exact h.enter hpath
        · next text _ =>
          split
          · exact h.enter hpath
          · next depth =>
            let load := s.record depth (path :: inProgress)
            let origin : Origin := ⟨some path.toText, path.parent.toText, false⟩
            let made := Outline.ofLines s.search s.disk load origin (Line.ofSource text)
              (known.1.visit path.toText, known.2)
            have hlines : ∀ r ∈ s.resolutionsIn path.parent (Line.ofSource text), P r.file :=
              hP path hpath _
            have hload : ∀ path' known', P path' → Covers P known' →
                Covers P (load path' known').2 := fun path' known' hpath' hknown' =>
              ih depth (Nat.lt_succ_self depth) _ hpath' hknown'
            have hmade : Covers P made.2 := covers_ofLines hload rfl hlines (h.visit path.toText)
            have hincludes : ∀ i ∈ made.1.table.includes,
                ∃ path, i.file = some path.toText ∧ P path := exists_of_mem_includes rfl hlines
            exact (hmade.finish hincludes path.toText).enter hpath

/-- A property that the include lines of the text start and that is passed on holds of every module
that was asked for, and of every file that the text or one of its modules includes. -/
theorem recordedOutline_induction (hP : s.PassedOn P) (isRoot : Bool) {file : Option String}
    {lines : List Line} (hlines : ∀ r ∈ s.resolutionsIn (s.rootDirectory file) lines, P r.file) :
    (∀ c ∈ (s.recordedOutline isRoot file lines).2.2, P c.path) ∧
      ∀ t ∈ s.tables isRoot file lines, ∀ i ∈ t.includes,
        ∃ path, i.file = some path.toText ∧ P path := by
  have hdirectory : (s.rootOrigin isRoot file).directory = (s.rootDirectory file).toText := rfl
  have hstart : Covers P (s.rootPass file, []) := by
    refine ⟨fun c hc => (List.not_mem_nil hc).elim, fun entry hentry => ?_⟩
    rw [rootPass_finished] at hentry
    exact (List.not_mem_nil hentry).elim
  have hrun : Covers P (s.recordedOutline isRoot file lines).2 := by
    refine covers_ofLines (fun path known hpath hknown => ?_) hdirectory hlines hstart
    exact covers_record hP _ _ hpath hknown
  refine ⟨hrun.calls, fun t ht => ?_⟩
  rcases List.mem_cons.mp ht with rfl | ht
  · rw [outline_eq_rootPass]
    exact exists_of_mem_includes hdirectory hlines
  · obtain ⟨entry, hentry, rfl⟩ := List.mem_map.mp ht
    -- What is finished for the text is what is finished in the recorded run.
    rw [← (s.exists_recorded_recordedOutline isRoot file lines).1] at hentry
    exact hrun.includes entry hentry

variable (s) in
/-- The path lies below the directory of the text, or below the library. -/
def Confined (file : Option String) (path : Path) : Prop :=
  path.Below (s.rootDirectory file) ∨ path.Below (s.disk.absolute s.search.libraryDir)

theorem below_of_mem_resolutionsIn (hext : '/' ∉ s.search.extension.toList) {directory : Path}
    {lines : List Line} {r : Resolution} (hr : r ∈ s.resolutionsIn directory lines) :
    s.disk.isFile r.file.toText = true ∧
      (r.file.Below directory ∨ r.file.Below (s.disk.absolute s.search.libraryDir)) := by
  obtain ⟨line, -, hresolution⟩ := List.mem_filterMap.mp hr
  obtain ⟨path, -, hs, hresolve⟩ := Line.exists_of_resolution?_eq_some hresolution
  have hfile := ModuleSearch.file_of_resolve? hext (Statement.isPathChar_of_ofText hs) hresolve
  rwa [show s.disk.absolute directory.toText = directory from Path.resolve_toText _ _] at hfile

/-- A module includes from below its own directory or from below the library, so it does not get
further up than it is itself. -/
theorem passedOn_confined (hext : '/' ∉ s.search.extension.toList) (file : Option String) :
    s.PassedOn fun path => s.Confined file path ∧ s.disk.isFile path.toText = true := by
  rintro path ⟨hpath, -⟩ moduleLines r hr
  obtain ⟨hfile, hbelow⟩ := below_of_mem_resolutionsIn hext hr
  refine ⟨?_, hfile⟩
  rcases hbelow with hbelow | hbelow
  · exact hpath.imp hbelow.of_parent hbelow.of_parent
  · exact .inr hbelow

end ModuleSource

/-- If the extension of modules has no slash, an analysis reads no file that is not below the
directory of the text or below the library: every module that is asked for, over however many
include lines, is a file there, and so is every file that the text or one of its modules is said to
include. No call is missing: what is finished was read for one of them. -/
theorem analyze_confined (disk : Disk) (config : Config) (hext : '/' ∉ config.extension.toList)
    (file : Option String) (text : List Char) :
    let s := config.modules disk
    let lines := Line.ofSource text
    let run := s.recordedOutline true file lines
    run.1.table = (analyze disk config file text).table ∧
      s.LogComplete file lines run.2 ∧
      (∀ c ∈ run.2.2, s.Confined file c.path ∧ disk.isFile c.path.toText = true) ∧
      ∀ t ∈ s.tables true file lines, ∀ i ∈ t.includes, ∃ path, i.file = some path.toText ∧
        s.Confined file path ∧ disk.isFile path.toText = true := by
  intro s lines run
  have hlines : ∀ r ∈ s.resolutionsIn (s.rootDirectory file) lines,
      s.Confined file r.file ∧ disk.isFile r.file.toText = true := by
    intro r hr
    obtain ⟨hfile, hbelow⟩ := ModuleSource.below_of_mem_resolutionsIn hext hr
    exact ⟨hbelow, hfile⟩
  obtain ⟨hcalls, htables⟩ :=
    ModuleSource.recordedOutline_induction (ModuleSource.passedOn_confined hext file) true hlines
  have hmade : (run.1, run.2.1) = s.outline true file lines {} :=
    (s.exists_recorded_recordedOutline true file lines).1
  exact ⟨congrArg (·.1.table) hmade, s.logComplete_recordedOutline true file lines, hcalls,
    htables⟩

/-- A directory with a module further down, which includes a module of the library. -/
def nestedDisk : Disk where
  workingDirectory := { names := ["w"], isEntryName_of_mem := by decide }
  directories := [["w"], ["w", "sub"], ["lib"]]
  files := [(["w", "sub", "a.pgy"], "include b".toUTF8.toList),
    (["lib", "b.pgy"], "class B \x7b\x7d".toUTF8.toList)]

/-- The modules of that directory and of the library. -/
def nestedConfig : Config :=
  { Config.bare with libraryDir := ⟨"/", ["lib"]⟩ }

/-- Two dots in an include path lead nowhere up. -/
theorem analyze_confined_nested :
    let s := nestedConfig.modules nestedDisk
    let lines := Line.ofSource "include sub..a".toList
    let run := s.recordedOutline true (some "/w/x/../main.pgy") lines
    '/' ∉ nestedConfig.extension.toList ∧
      (s.tables true (some "/w/x/../main.pgy") lines).flatMap (·.includes.map (·.file)) =
        [some "/w/sub/a.pgy", some "/lib/b.pgy"] ∧
      run.2.2.map (·.path.toText) = ["/lib/b.pgy", "/w/sub/a.pgy"] ∧
      run.1.table = (analyze nestedDisk nestedConfig (some "/w/x/../main.pgy")
        "include sub..a".toList).table ∧
      s.LogComplete (some "/w/x/../main.pgy") lines run.2 ∧
      (∀ c ∈ run.2.2, s.Confined (some "/w/x/../main.pgy") c.path ∧
        nestedDisk.isFile c.path.toText = true) ∧
      ∀ t ∈ s.tables true (some "/w/x/../main.pgy") lines, ∀ i ∈ t.includes,
        ∃ path, i.file = some path.toText ∧ s.Confined (some "/w/x/../main.pgy") path ∧
          nestedDisk.isFile path.toText = true := by
  have hext : '/' ∉ nestedConfig.extension.toList := by decide
  exact ⟨hext, by decide +kernel, by decide +kernel, analyze_confined nestedDisk nestedConfig hext
    (some "/w/x/../main.pgy") "include sub..a".toList⟩

end ScriptLint
