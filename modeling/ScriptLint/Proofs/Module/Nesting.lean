import Mathlib.Data.List.Dedup
import ScriptLint.Proofs.Include.Search
import ScriptLint.Proofs.Module.Calls

/-! How deep modules are read within each other. Reading a module leads to calls for further
modules, and these to calls in turn; the tree of the calls has no structure of its own to recurse
on, since an include line can name any file. What goes down along it is the number of files that are
not begun. As long as no directory that is searched starts with two slashes, every file has one
normal path, so no more modules are read within each other than there are files. -/
namespace ScriptLint

namespace Path

theorem enter_doubled (p : Path) (component : String) :
    (p.enter component).doubled = p.doubled := by
  unfold enter
  split
  · rfl
  · split <;> rfl

theorem foldl_enter_doubled (parts : List String) (p : Path) :
    (parts.foldl enter p).doubled = p.doubled := by
  induction parts generalizing p with
  | nil => rfl
  | cons part parts ih => rw [List.foldl_cons, ih, enter_doubled]

/-- The slashes at the start of a joined path are those of the directory. -/
theorem resolve_joinPath_doubled (base : Path) (directory : String) {part : String}
    (h : part.toList.head? ≠ some '/') :
    (base.resolve (joinPath directory part)).doubled = (base.resolve directory).doubled := by
  rw [resolve, resolve, foldl_enter_doubled, foldl_enter_doubled,
    leadingSlashes_joinPath directory h]

end Path

namespace Disk

/-- The files, each by the text of its normal path with one slash. -/
def fileTexts (d : Disk) : List String :=
  ((d.files.map fun entry => "/" ++ "/".intercalate entry.1).filter d.isFile).dedup

/-- A normal path with one slash finds a file exactly if it is the path of one. -/
theorem mem_fileTexts_iff {d : Disk} {p : Path} (hp : p.doubled = false) :
    p.toText ∈ d.fileTexts ↔ d.isFile p.toText = true := by
  rw [fileTexts, List.mem_dedup, List.mem_filter]
  constructor
  · intro h
    exact h.2
  · intro h
    refine ⟨?_, h⟩
    obtain ⟨bytes, hentry⟩ := exists_mem_files_of_isFile h
    have htext : p.toText = "/" ++ "/".intercalate p.names := by simp [Path.toText, hp]
    rw [htext]
    exact List.mem_map_of_mem hentry

end Disk

namespace ModuleSearch

variable {s : ModuleSearch} {disk : Disk} {currentDir path : String} {r : Resolution}

/-- A candidate starts with the slashes of its directory, whatever the extension is. -/
theorem candidate_doubled {parts : List String} (hne : parts ≠ [])
    (hparts : ∀ part ∈ parts, IsSegment part) (directory : String) :
    (s.candidate disk parts directory).doubled = (disk.absolute directory).doubled := by
  apply Path.resolve_joinPath_doubled
  have hcomponents : Path.components (joinPaths parts) = parts := by
    obtain ⟨front, last, rfl⟩ := (List.eq_nil_or_concat' parts).resolve_left hne
    rw [List.forall_mem_append, List.forall_mem_singleton] at hparts
    have hnone : '/' ∉ "".toList := by decide
    have hjoined := components_joinPaths hparts.1 hparts.2 hnone
    rwa [String.append_empty, String.append_empty] at hjoined
  have hempty : "" ∉ Path.components (joinPaths parts) := by
    rw [hcomponents]
    intro hmem
    exact (hparts "" hmem).ne_empty rfl
  -- The segments are not empty, so what is joined from them starts as they do.
  have hsegments : (joinPaths parts).toList ≠ [] := by
    intro hnil
    rw [String.toList_eq_nil_iff.mp hnil] at hempty
    exact hempty (by decide)
  rw [String.toList_append, List.head?_append_of_ne_nil _ hsegments]
  exact Path.head?_ne_slash_of_components hempty

/-- A module that is found starts with the slashes of one of the directories that are searched. -/
theorem doubled_of_resolve? (hpath : ∀ x ∈ path.toList, Text.isPathChar x = true)
    (h : s.resolve? disk currentDir path = some r) :
    r.file.doubled = (disk.absolute currentDir).doubled ∨
      r.file.doubled = (disk.absolute s.libraryDir).doubled := by
  obtain ⟨⟨file, leftOver⟩, hfound, rfl⟩ := Option.map_eq_some_iff.mp h
  obtain ⟨-, front, hne, hsub, directory, hdirectory, rfl⟩ := exists_of_findModule? hfound
  have hfront : ∀ part ∈ front, IsSegment part := by
    intro part hpart
    exact isSegment_of_mem_segments hpath part (hsub hpart)
  have hdoubled : (s.candidate disk front directory).doubled = (disk.absolute directory).doubled :=
    candidate_doubled hne hfront directory
  simp only [directories, List.mem_cons, List.not_mem_nil, or_false] at hdirectory
  rcases hdirectory with rfl | rfl
  · exact .inl hdoubled
  · exact .inr hdoubled

end ModuleSearch

section Requests

variable {State : Type} (load : Path → State → ModuleReply × State)

/-- The modules that are asked for one after the other, each with the state at that moment. -/
def requests : List Resolution → State → List (Path × State)
  | [], _ => []
  | r :: rs, state => (r.file, state) :: requests rs (load r.file state).2

variable {load}

/-- What is kept whenever a module is asked for holds at every request. -/
theorem requests_induction {P : State → Prop}
    (hkeep : ∀ path state, P state → P (load path state).2) {rs : List Resolution} {state : State}
    (h : P state) :
    ∀ c ∈ requests load rs state, (∃ r ∈ rs, r.file = c.1) ∧ P c.2 := by
  induction rs generalizing state with
  | nil =>
    intro c hc
    exact (List.not_mem_nil hc).elim
  | cons r rs ih =>
    intro c hc
    rcases List.mem_cons.mp hc with rfl | hc
    · exact ⟨⟨r, List.mem_cons_self, rfl⟩, h⟩
    · obtain ⟨⟨r', hr', heq⟩, hstate⟩ := ih (hkeep r.file state h) c hc
      exact ⟨⟨r', List.mem_cons_of_mem r hr', heq⟩, hstate⟩

variable {search : ModuleSearch} {disk : Disk} {origin : Origin}
  {load' : Path → State → ModuleReply × State}

theorem requests_cons (line : Line) (lines : List Line) (directory : String) (state : State) :
    requests load (resolutions search disk directory (line :: lines)) state =
      (line.resolution? search disk directory).elim
        (requests load (resolutions search disk directory lines) state)
        fun r => (r.file, state) ::
          requests load (resolutions search disk directory lines) (load r.file state).2 := by
  unfold resolutions
  cases h : line.resolution? search disk directory <;> simp [h, requests]

/-- Two loaders that give the same answers to what the lines ask for read the lines alike. -/
theorem Draft.readLines_congr_of_requests {lines : List Line} {d : Draft State}
    (h : ∀ c ∈ requests load (resolutions search disk origin.directory lines) d.state,
      load' c.1 c.2 = load c.1 c.2) :
    lines.foldl (readLine search disk load' origin) d =
      lines.foldl (readLine search disk load origin) d := by
  induction lines generalizing d with
  | nil => rfl
  | cons line lines ih =>
    rw [requests_cons] at h
    have hline : d.readLine search disk load' origin line =
        d.readLine search disk load origin line := by
      apply readLine_congr
      intro r hmem
      rw [Option.mem_def.mp hmem] at h
      exact h (r.file, d.state) List.mem_cons_self
    rw [List.foldl_cons, List.foldl_cons, hline]
    apply ih
    -- The later lines ask in the state that the answer to this one leaves behind.
    rw [readLine_state]
    cases hr : line.resolution? search disk origin.directory with
    | none =>
      rw [hr] at h
      exact h
    | some r =>
      rw [hr] at h
      exact (List.forall_mem_cons.mp h).2

theorem Outline.ofLines_congr_of_requests {lines : List Line} {state : State}
    (h : ∀ c ∈ requests load (resolutions search disk origin.directory lines) state,
      load' c.1 c.2 = load c.1 c.2) :
    Outline.ofLines search disk load' origin lines state =
      Outline.ofLines search disk load origin lines state := by
  unfold ofLines
  rw [Draft.readLines_congr_of_requests h]

end Requests

namespace ModuleSource

variable (s : ModuleSource)

/-- The calls for modules that the lines of a text in the given directory make themselves, each with
what is known at that moment. -/
def callsIn (directory : Path) (lines : List Line) (pass : Pass) : List (Path × Pass) :=
  requests s.answer (s.resolutionsIn directory lines) pass

/-- For an answer the module has to be read: it is neither finished nor begun, and it has the given
lines. -/
structure IsRead (path : Path) (pass : Pass) (moduleLines : List Line) : Prop where
  unfinished : pass.finished.lookup path.toText = none
  notBegun : path.toText ∉ pass.visited
  readable : s.moduleLines? path = some moduleLines

/-- The answer for a module comes to an end, and for it no more than the given number of modules are
read within each other. -/
inductive Ends : Nat → Path → Pass → Prop where
  /-- Nothing has to be read. -/
  | atOnce {nested : Nat} {path : Path} {pass : Pass}
      (h : ∀ moduleLines, ¬s.IsRead path pass moduleLines) : Ends nested path pass
  /-- The module is read, and all calls that its lines make come to an end. -/
  | read {nested : Nat} {path : Path} {pass : Pass} {moduleLines : List Line}
      (hread : s.IsRead path pass moduleLines)
      (h : ∀ c ∈ s.callsIn path.parent moduleLines (pass.visit path.toText),
        Ends nested c.1 c.2) : Ends (nested + 1) path pass

/-- The number of files whose reading has not begun. -/
def unreadFiles (pass : Pass) : Nat :=
  s.disk.fileTexts.countP fun t => !pass.visited.contains t

variable {s}

/-- The modules that a text asks for start with one slash, if its directory and the library do. -/
theorem doubled_of_mem_resolutionsIn
    (hlibrary : (s.disk.absolute s.search.libraryDir).doubled = false) {directory : Path}
    (hdirectory : directory.doubled = false) {lines : List Line} {r : Resolution}
    (hr : r ∈ s.resolutionsIn directory lines) : r.file.doubled = false := by
  obtain ⟨line, -, hresolution⟩ := List.mem_filterMap.mp hr
  obtain ⟨path, -, hs, hresolve⟩ := Line.exists_of_resolution?_eq_some hresolution
  have hfile := ModuleSearch.doubled_of_resolve? (Statement.isPathChar_of_ofText hs) hresolve
  rw [show s.disk.absolute directory.toText = directory from Path.resolve_toText _ _] at hfile
  rcases hfile with hfile | hfile
  · exact hfile.trans hdirectory
  · exact hfile.trans hlibrary

/-- Two ways of reading give the same answer if they agree where the module has to be read. -/
theorem answerBy_congr_of_isRead {read read' : List Line → Pass → ModuleReply × Pass} {path : Path}
    {pass : Pass}
    (h : ∀ moduleLines, s.IsRead path pass moduleLines →
      read moduleLines pass = read' moduleLines pass) :
    s.answerBy read path pass = s.answerBy read' path pass := by
  apply s.answerBy_congr
  intro text hlookup hnew hread
  exact h _ ⟨hlookup, hnew, moduleLines?_of_ok hread⟩

/-- Beginning to read a module leaves one file less. -/
theorem unreadFiles_visit_lt {path : Path} {pass : Pass} {moduleLines : List Line}
    (hpath : path.doubled = false) (h : s.IsRead path pass moduleLines) :
    s.unreadFiles (pass.visit path.toText) < s.unreadFiles pass := by
  apply countP_visited_lt _ h.notBegun (List.Subset.refl _)
  cases hread : s.disk.readSource path.toText s.maxLines with
  | error e =>
    have hnone := moduleLines?_of_error hread
    rw [h.readable] at hnone
    cases hnone
  | ok text => exact (Disk.mem_fileTexts_iff hpath).mpr (Disk.isFile_of_readSource hread)

/-- With a depth that is enough for it, an answer that comes to an end is the one that is given. -/
theorem Ends.load_eq {nested depth : Nat} {path : Path} {pass : Pass} (h : s.Ends nested path pass)
    (hd : nested ≤ depth) : s.load depth path pass = s.answer path pass := by
  induction h generalizing depth with
  | @atOnce nested path pass h =>
    rw [answer_eq]
    cases depth with
    | zero =>
      rw [load_zero]
      exact answerBy_congr_of_isRead fun moduleLines hread => absurd hread (h moduleLines)
    | succ depth =>
      rw [load_add_one]
      exact answerBy_congr_of_isRead fun moduleLines hread => absurd hread (h moduleLines)
  | @read nested path pass moduleLines hread h ih =>
    obtain ⟨depth, rfl⟩ : ∃ more, depth = more + 1 := ⟨depth - 1, by omega⟩
    rw [answer_eq, load_add_one]
    apply answerBy_congr_of_isRead
    intro lines hlines
    obtain rfl : moduleLines = lines :=
      Option.some.inj (hread.readable.symm.trans hlines.readable)
    -- One module further in, one less may be read within each other.
    have hmade : s.outlineOf (s.load depth) false path moduleLines pass =
        s.outlineOf s.answer false path moduleLines pass := by
      apply Outline.ofLines_congr_of_requests
      intro c hc
      exact ih c hc (by omega)
    rw [readModule, readModule, hmade]

/-- As many modules may be read within each other as there are files that are not begun. The
induction is on their number; a call that a module makes comes after the module itself was begun. -/
theorem ends_of_unreadFiles_le (hlibrary : (s.disk.absolute s.search.libraryDir).doubled = false)
    {nested : Nat} {path : Path} {pass : Pass} (hpath : path.doubled = false)
    (hn : s.unreadFiles pass ≤ nested) : s.Ends nested path pass := by
  induction nested generalizing path pass with
  | zero =>
    apply Ends.atOnce
    intro moduleLines hread
    have hlt := unreadFiles_visit_lt hpath hread
    omega
  | succ nested ih =>
    by_cases hcase : ∃ moduleLines, s.IsRead path pass moduleLines
    · obtain ⟨moduleLines, hread⟩ := hcase
      refine .read hread ?_
      intro c hc
      have hparent : path.parent.doubled = false := hpath
      have hlt := unreadFiles_visit_lt hpath hread
      -- What was begun with the module is not taken back by the answers to its calls.
      have hkeep : ∀ path' pass', (pass.visit path.toText).visited ⊆ pass'.visited →
          (pass.visit path.toText).visited ⊆ (s.answer path' pass').2.visited := by
        intro path' pass' hsub t ht
        exact s.visited_subset_load s.depth path' pass' (hsub ht)
      obtain ⟨⟨r, hr, hfile⟩, hsub⟩ := requests_induction
        (P := fun later => (pass.visit path.toText).visited ⊆ later.visited) hkeep
        (List.Subset.refl _) c hc
      have hle : s.unreadFiles c.2 ≤ s.unreadFiles (pass.visit path.toText) :=
        countP_visited_le hsub _
      apply ih
      · rw [← hfile]
        exact doubled_of_mem_resolutionsIn hlibrary hparent hr
      · omega
    · apply Ends.atOnce
      intro moduleLines hread
      exact hcase ⟨moduleLines, hread⟩

variable (s) in
/-- The answers for modules are those of the recursion over the include lines, with no bound on its
depth. If neither the directory of a text nor the library starts with two slashes, all calls for
modules come to an end, whatever includes what, and no more modules are read within each other than
there are files. So a bound on the depth that is as large as their number changes nothing. -/
theorem outline_nesting {file : Option String} (hroot : (s.rootDirectory file).doubled = false)
    (hlibrary : (s.disk.absolute s.search.libraryDir).doubled = false) (isRoot : Bool)
    (lines : List Line) :
    (∀ path pass, s.answer path pass = s.answerBy (s.readModule s.answer path) path pass) ∧
      (∀ c ∈ s.callsIn (s.rootDirectory file) lines (s.rootPass file),
        s.Ends s.disk.fileTexts.length c.1 c.2) ∧
      ∀ depth, s.disk.fileTexts.length ≤ depth →
        Outline.ofLines s.search s.disk (s.load depth) (s.rootOrigin isRoot file) lines
          (s.rootPass file) = s.outline isRoot file lines {} := by
  have hends : ∀ c ∈ s.callsIn (s.rootDirectory file) lines (s.rootPass file),
      s.Ends s.disk.fileTexts.length c.1 c.2 := by
    intro c hc
    obtain ⟨⟨r, hr, hfile⟩, -⟩ :=
      requests_induction (P := fun _ => True) (fun _ _ _ => trivial) trivial c hc
    apply ends_of_unreadFiles_le hlibrary
    · rw [← hfile]
      exact doubled_of_mem_resolutionsIn hlibrary hroot hr
    · exact List.countP_le_length
  refine ⟨s.answer_eq, hends, ?_⟩
  intro depth hd
  rw [outline_eq_rootPass]
  apply Outline.ofLines_congr_of_requests
  intro c hc
  exact (hends c hc).load_eq hd

/-- Two modules that include each other are both read for a text, one within the other. -/
theorem outline_nesting_mutualModules :
    let s := mutualModules
    let lines := Line.ofSource "include a\ninclude x.@b\ninclude b".toList
    ((s.rootDirectory (some "main.pgy")).doubled = false ∧
        (s.disk.absolute s.search.libraryDir).doubled = false ∧
        s.disk.fileTexts = ["/w/a.pgy", "/w/b.pgy"]) ∧
      (∀ path pass, s.answer path pass = s.answerBy (s.readModule s.answer path) path pass) ∧
      (∀ c ∈ s.callsIn (s.rootDirectory (some "main.pgy")) lines (s.rootPass (some "main.pgy")),
        s.Ends s.disk.fileTexts.length c.1 c.2) ∧
      ∀ depth, s.disk.fileTexts.length ≤ depth →
        Outline.ofLines s.search s.disk (s.load depth) (s.rootOrigin true (some "main.pgy")) lines
          (s.rootPass (some "main.pgy")) = s.outline true (some "main.pgy") lines {} := by
  intro s lines
  have hroot : (s.rootDirectory (some "main.pgy")).doubled = false := by decide +kernel
  have hlibrary : (s.disk.absolute s.search.libraryDir).doubled = false := by decide +kernel
  exact ⟨⟨hroot, hlibrary, by decide +kernel⟩, s.outline_nesting hroot hlibrary true lines⟩

end ModuleSource

end ScriptLint
