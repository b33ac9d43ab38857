import ScriptLint.Proofs.Library.Analysis
import ScriptLint.Proofs.Strict.Outline

/-! No text stops an analysis, whatever its bytes and those of its modules are. The modules of a
text are read with look-ups that can fail, and so are the types that it declares; all of these find
what they look for, and the number of files bounds how deep modules are read within each other. A
module that cannot be read is told of on each line that includes it. So an analysis has no result
only if the file of the text itself cannot be read; the error is then its own, or that of the system
where it refuses to let an existing file be read. -/
namespace ScriptLint

namespace Strict

/-- Answers for a module, if at most `depth` modules need be read within each other. -/
def load (s : ModuleSource) (depth : Nat) (path : Path) (pass : Pass) :
    Except Stop (Option Outline × Pass) :=
  match pass.finished.lookup path.toText with
  | some o => .ok (some o, pass)
  | none =>
    if pass.visited.contains path.toText then .ok (none, pass)
    else
      match s.disk.readSource path.toText s.maxLines with
      | .error e => .error (.unreadable e)
      | .ok text =>
        match depth with
        | 0 => .error .tooDeep
        | depth + 1 => do
          let (o, later) ← outline s.search s.disk (load s depth)
            ⟨some path.toText, path.parent.toText, false⟩ (Line.ofSource text)
            (pass.visit path.toText)
          return (some o, later.finish path.toText o)

/-- Analyses a text as the content of a file. -/
def analyze (disk : Disk) (config : Config) (file : Option String) (text : List Char) :
    Except Stop Analysis := do
  let s := config.modules disk
  let lines := Line.ofSource text
  let made ← outline s.search s.disk (load s s.depth) (s.rootOrigin true file) lines
    (s.rootPass file)
  let types ← (TypeCheck.check lines made.1.table).mapError .missingLine
  return {
    file := made.1.table.file
    table := made.1.table
    diagnostics :=
      made.1.diagnostics ++ types ++ References.diagnostics lines made.1.table }

/-- Reads a file and analyses it. -/
def analyzeFile (disk : Disk) (config : Config) (file : String) : Except Stop Analysis := do
  let text ← (disk.readSource file config.maxLines).mapError .unreadable
  analyze disk config (some file) text

section Modules

variable {s : ModuleSource} {path : Path} {pass : Pass}

/-- Both loaders agree where the module is not read. -/
theorem answers_of_read {depth : Nat}
    (h : ∀ text, pass.finished.lookup path.toText = none → path.toText ∉ pass.visited →
      s.disk.readSource path.toText s.maxLines = .ok text →
      Answers (s.load depth) (load s depth) path pass) :
    Answers (s.load depth) (load s depth) path pass := by
  cases hlookup : pass.finished.lookup path.toText with
  | some o =>
    have htotal : s.load depth path pass = (.outline o, pass) := by
      rw [ModuleSource.load.eq_def, hlookup]
    refine ⟨?_, fun _ _ => by rw [htotal]⟩
    rw [htotal, load.eq_def, hlookup]
    rfl
  | none =>
    by_cases hvisited : path.toText ∈ pass.visited
    · have htotal : s.load depth path pass = (.inProgress, pass) := by
        rw [ModuleSource.load.eq_def, hlookup]
        simp [hvisited]
      refine ⟨?_, fun _ _ => by rw [htotal]⟩
      rw [htotal, load.eq_def, hlookup]
      simp [hvisited, ofAnswer]
    · cases hread : s.disk.readSource path.toText s.maxLines with
      | error e =>
        have htotal : s.load depth path pass = (.unreadable e, pass) := by
          rw [ModuleSource.load.eq_def, hlookup]
          simp [hvisited, hread]
        refine ⟨?_, fun _ _ => by rw [htotal]⟩
        rw [htotal, load.eq_def, hlookup]
        simp [hvisited, hread, ofAnswer]
      | ok text => exact h text hlookup hvisited hread

/-- The modules that are read within each other stay within the depth. The induction is on the
depth; with a module that is begun one path less is unread. -/
theorem answers_load {depth : Nat} (h : s.unread pass ≤ depth) :
    Answers (s.load depth) (load s depth) path pass := by
  induction depth generalizing path pass with
  | zero =>
    apply answers_of_read
    intro text _ hnew hread
    -- A module that can be read and is not begun is unread itself.
    have hlt := s.unread_lt_of_visited_subset hread hnew (List.Subset.refl _)
    omega
  | succ depth ih =>
    apply answers_of_read
    intro text hlookup hnew hread
    have hlt := s.unread_lt_of_visited_subset hread hnew (List.Subset.refl _)
    have hkeep : ∀ path' known, s.unread known ≤ depth →
        s.unread (s.load depth path' known).2 ≤ depth := by
      intro path' known hle
      have hsub := s.visited_subset_load depth path' known
      exact Nat.le_trans (s.unread_le_of_visited_subset hsub) hle
    have hmade := outline_eq s.search s.disk ⟨some path.toText, path.parent.toText, false⟩ hkeep
      (fun path' known hle => ih hle) text
      (show s.unread (pass.visit path.toText) ≤ depth by omega)
    have htotal : s.load (depth + 1) path pass =
        s.readModule (s.load depth) path (Line.ofSource text) pass := by
      rw [ModuleSource.load, hlookup]
      simp only [List.contains_eq_mem, hnew, decide_false, Bool.false_eq_true, ↓reduceIte, hread]
      rfl
    refine ⟨?_, ?_⟩
    · rw [htotal, load, hlookup]
      simp only [List.contains_eq_mem, hnew, decide_false, Bool.false_eq_true, ↓reduceIte, hread,
        hmade]
      rfl
    · intro e he
      rw [htotal] at he
      cases he

end Modules

/-- Every type that is declared has its line. -/
theorem check_eq {text : List Char} {t : SymbolTable} (h : t.TypesIn (Line.ofSource text)) :
    TypeCheck.check (Line.ofSource text) t =
      .ok (TypeCheck.diagnostics (Line.ofSource text) t) := by
  have hnone : TypeCheck.missingLine? (Line.ofSource text) t = none := by
    rw [TypeCheck.missingLine?, Option.map_eq_none_iff, List.find?_eq_none]
    -- A type of the table stands on one of the lines, which its number leads to.
    intro u hu hmissing
    obtain ⟨line, hline, hnumber, -⟩ := h u (List.mem_filter.mp hu).1
    rw [hnumber, Line.at?_ofSource hline] at hmissing
    cases hmissing
  rw [TypeCheck.check, hnone]

/-- No text stops its analysis. -/
theorem analyze_eq (disk : Disk) (config : Config) (file : Option String) (text : List Char) :
    analyze disk config file text = .ok (ScriptLint.analyze disk config file text) := by
  let s := config.modules disk
  have hmade : outline s.search s.disk (load s s.depth) (s.rootOrigin true file)
      (Line.ofSource text) (s.rootPass file) =
        .ok (s.outline true file (Line.ofSource text) {}) := by
    rw [s.outline_eq_rootPass]
    exact outline_eq s.search s.disk (s.rootOrigin true file) (P := fun _ => True)
      (fun _ _ _ => trivial) (fun _ pass _ => answers_load (s.unread_le_depth pass)) text trivial
  have htypes := check_eq (analyze_typesIn disk config file text)
  rw [analyze_table] at htypes
  simp only [analyze, s, hmade, bind, Except.bind, htypes]
  rfl

/-- Only the file of the text itself can stop the analysis of a file. -/
theorem analyzeFile_eq (disk : Disk) (config : Config) (file : String) :
    analyzeFile disk config file =
      (ScriptLint.analyzeFile disk config file).mapError .unreadable := by
  unfold analyzeFile ScriptLint.analyzeFile
  cases disk.readSource file config.maxLines with
  | error e => rfl
  | ok text => exact analyze_eq disk config (some file) text

end Strict

namespace ModuleSource

variable (s : ModuleSource)

/-- The findings tell on each include line of the text whose module cannot be read that it cannot.
The text that is analysed is in progress, and no module. -/
def TellsUnreadable (file : Option String) (directory : Path) (lines : List Line)
    (found : List Diagnostic) : Prop :=
  ∀ line ∈ lines, ∀ path r e, Statement.ofText line.code = .inclusion path →
    line.resolution? s.search s.disk directory.toText = some r → s.rootPath file ≠ some r.file →
    s.disk.readSource r.file.toText s.maxLines = .error e →
    unreadableModule line path r.file.toText e ∈ found

/-- What is known comes from files that can be read, or from the text that is analysed, and in each
of these files the include lines are told of what cannot be read. -/
structure Readable (file : Option String) (pass : Pass) : Prop where
  begun : ∀ path : Path, path.toText ∈ pass.visited →
    s.rootPath file = some path ∨ (s.moduleLines? path).isSome
  finished : ∀ entry ∈ pass.finished, ∃ path moduleLines, entry.1 = path.toText ∧
    s.moduleLines? path = some moduleLines ∧
    s.TellsUnreadable file path.parent moduleLines entry.2.diagnostics

variable {s} {file : Option String}

theorem readable_rootPass (file : Option String) : s.Readable file (s.rootPass file) := by
  unfold rootPass
  cases hroot : s.rootPath file with
  | none => exact ⟨fun _ h => (List.not_mem_nil h).elim, fun _ h => (List.not_mem_nil h).elim⟩
  | some path =>
    refine ⟨fun other hother => .inl ?_, fun _ h => (List.not_mem_nil h).elim⟩
    rw [hroot, Path.toText_injective (List.mem_singleton.mp hother)]

/-- A file that cannot be read is neither begun nor finished, so each line gets to know. -/
theorem Readable.answer_of_error {pass : Pass} (h : s.Readable file pass) {path : Path}
    {e : SourceError} (hother : s.rootPath file ≠ some path)
    (hread : s.disk.readSource path.toText s.maxLines = .error e) :
    s.answer path pass = (.unreadable e, pass) := by
  have hunreadable := moduleLines?_of_error hread
  have hlookup : pass.finished.lookup path.toText = none := by
    cases hlookup : pass.finished.lookup path.toText with
    | none => rfl
    | some o =>
      obtain ⟨other, moduleLines, heq, hlines, -⟩ :=
        h.finished _ (Pass.mem_finished_of_lookup hlookup)
      rw [← Path.toText_injective heq, hunreadable] at hlines
      cases hlines
  have hnew : path.toText ∉ pass.visited := by
    intro hvisited
    rcases h.begun path hvisited with hroot | hsome
    · exact hother hroot
    · rw [hunreadable] at hsome
      cases hsome
  rw [answer_eq, answerBy, hlookup]
  simp [hnew, hread]

/-- A text tells of what cannot be read, if that is unreadable all along. -/
theorem tellsUnreadable_ofLines {Inside : Pass → Prop}
    (hkeep : ∀ path known, Inside known → Inside (s.answer path known).2)
    (hreadable : ∀ known, Inside known → s.Readable file known) (origin : Origin)
    {directory : Path} (horigin : origin.directory = directory.toText) (lines : List Line)
    {start : Pass} (hstart : Inside start) :
    s.TellsUnreadable file directory lines
      (Outline.ofLines s.search s.disk s.answer origin lines start).1.diagnostics := by
  intro line hline path r e hs hr hother hread
  obtain ⟨before, after, rfl⟩ := List.append_of_mem hline
  obtain ⟨path', hb, hs', hresolve⟩ := Line.exists_of_resolution?_eq_some hr
  obtain rfl : path' = path := by
    rw [hs] at hs'
    cases hs'
    rfl
  let d := before.foldl (Draft.readLine s.search s.disk s.answer origin) { state := start }
  have hknown : Inside d.state :=
    Draft.readLines_keeps (fun r _ known hknown => hkeep r.file known hknown) hstart
  have hanswer := (hreadable _ hknown).answer_of_error hother hread
  -- What is found at the line, braces apart, stays while the later lines are read.
  have hcode : (unreadableModule line path' r.file.toText e).code ≠ .unbalancedBraces := by
    rw [unreadableModule, Diagnostic.atOffset_code]
    decide
  have hfound : unreadableModule line path' r.file.toText e ∈
      (d.readLine s.search s.disk s.answer origin line).diagnostics := by
    rw [← horigin] at hresolve
    rw [Draft.mem_readLine_iff_of_code s.search s.disk s.answer origin d hb hs hresolve hcode,
      hanswer]
    exact .inr (List.mem_singleton_self _)
  rw [Outline.ofLines, Draft.finish_diagnostics, List.foldl_append, List.foldl_cons]
  exact List.mem_append_left _
    (Draft.mem_readLines_of_mem s.search s.disk s.answer origin after _ hfound)

/-- No answer breaks this. The induction is on the number of paths that are unread. -/
theorem Readable.answer {pass : Pass} (h : s.Readable file pass) (path : Path) :
    s.Readable file (s.answer path pass).2 := by
  induction hn : s.unread pass using Nat.strongRecOn generalizing path pass with
  | ind n ih =>
    subst hn
    have hcase := s.answer_cases path pass
    generalize s.answer path pass = result at hcase ⊢
    cases hcase with
    | finished _ => exact h
    | begun _ _ => exact h
    | unreadable _ _ _ => exact h
    | @read text _ hnew hread =>
      -- While the module is read, one path less is unread.
      let Inside (known : Pass) : Prop :=
        (pass.visit path.toText).visited ⊆ known.visited ∧ s.Readable file known
      have hkeep : ∀ path' known, Inside known → Inside (s.answer path' known).2 := by
        rintro path' known ⟨hvisited, hknown⟩
        have hlt := s.unread_lt_of_visited_subset hread hnew hvisited
        exact ⟨fun t ht => s.visited_subset_load _ _ _ (hvisited ht), ih _ hlt hknown path' rfl⟩
      have hlines := moduleLines?_of_ok hread
      have hstart : Inside (pass.visit path.toText) := by
        refine ⟨List.Subset.refl _, ?_, ?_⟩
        · intro other hother
          rcases Pass.mem_visit_visited.mp hother with heq | hother
          · rw [Path.toText_injective heq, hlines]
            exact .inr rfl
          · exact h.begun other hother
        · rw [Pass.visit_finished]
          exact h.finished
      have htells := tellsUnreadable_ofLines hkeep (fun _ hknown => hknown.2)
        ⟨some path.toText, path.parent.toText, false⟩ rfl (Line.ofSource text) hstart
      have hend : Inside (s.outlineOf s.answer false path (Line.ofSource text) pass).2 :=
        Outline.ofLines_state_induction hkeep hstart
      refine ⟨hend.2.begun, ?_⟩
      intro entry hentry
      rcases List.mem_append.mp hentry with hentry | hentry
      · exact hend.2.finished entry hentry
      · rw [List.mem_singleton.mp hentry]
        exact ⟨path, Line.ofSource text, rfl, hlines, htells⟩

end ModuleSource

namespace Disk

variable {d : Disk} {path : String} {maxLines : Int}

/-- Where the system refuses, nothing is read, and its error is what is left. -/
theorem readSource_of_refusal? {refusal : Refusal} (h : d.refusal? path = some refusal) :
    d.readSource path maxLines = .error (.refused path refusal) := by
  have hbytes : d.bytes? path = none := by
    unfold refusal? at h
    unfold bytes?
    split at h
    · next bytes found hentry =>
      obtain rfl : found = some refusal := h
      rw [hentry]
    · cases h
  rw [readSource, hbytes, h]
  rfl

/-- A file is not read because of what it holds, or because it is not there, if the system does not
refuse to let it be read. -/
theorem isLoadError_of_readSource {e : SourceError} (hrefusal : d.refusal? path = none)
    (h : d.readSource path maxLines = .error e) : e.isLoadError = true := by
  unfold readSource at h
  rw [hrefusal] at h
  split at h
  · cases h
    rfl
  · split at h
    · cases h
      rfl
    · split at h
      · cases h
        rfl
      · cases h

end Disk

theorem analyzeFile_eq_error_iff {disk : Disk} {config : Config} {file : String}
    {e : SourceError} :
    analyzeFile disk config file = .error e ↔
      disk.readSource file config.maxLines = .error e := by
  unfold analyzeFile
  cases disk.readSource file config.maxLines with
  | error e' => simp [Except.map]
  | ok text => simp [Except.map]

/-- Whatever a text and the files are, no look-up stops its analysis; that of a file has no result
only if the file itself cannot be read. The error is one of the reading, unless the system refuses
to let the file be read, whose own error is then passed on. Each file that cannot be read, for
whatever reason, is told of on every line that includes it, in the text and in its modules. -/
theorem analyze_total (disk : Disk) (config : Config) :
    (∀ file text, Strict.analyze disk config file text = .ok (analyze disk config file text)) ∧
    (∀ file, Strict.analyzeFile disk config file =
        (analyzeFile disk config file).mapError .unreadable ∧
      (∀ e, analyzeFile disk config file = .error e ↔
        disk.readSource file config.maxLines = .error e) ∧
      (∀ refusal, disk.refusal? file = some refusal →
        analyzeFile disk config file = .error (.refused file refusal)) ∧
      (disk.refusal? file = none →
        ∀ e, analyzeFile disk config file = .error e → e.isLoadError = true)) ∧
    (∀ file text,
      let s := config.modules disk
      let lines := Line.ofSource text
      s.TellsUnreadable file (s.rootDirectory file) lines
          (analyze disk config file text).diagnostics ∧
        ∀ entry ∈ (s.outline true file lines {}).2.finished, ∃ path moduleLines,
          entry.1 = path.toText ∧ s.moduleLines? path = some moduleLines ∧
          s.TellsUnreadable file path.parent moduleLines entry.2.diagnostics) ∧
    ∀ line path moduleFile e,
      (unreadableModule line path moduleFile e).code = .fileAccessError ∧
        (unreadableModule line path moduleFile e).line = line.number := by
  refine ⟨Strict.analyze_eq disk config, ?_, ?_, ?_⟩
  · intro file
    refine ⟨Strict.analyzeFile_eq disk config file, fun e => analyzeFile_eq_error_iff, ?_, ?_⟩
    · intro refusal hrefusal
      exact analyzeFile_eq_error_iff.mpr (Disk.readSource_of_refusal? hrefusal)
    · intro hrefusal e he
      exact Disk.isLoadError_of_readSource hrefusal (analyzeFile_eq_error_iff.mp he)
  · intro file text s lines
    have hkeep : ∀ path known, s.Readable file known → s.Readable file (s.answer path known).2 :=
      fun path known hknown => hknown.answer path
    have hstart := ModuleSource.readable_rootPass (s := s) file
    refine ⟨?_, ?_⟩
    · have htells := ModuleSource.tellsUnreadable_ofLines hkeep (fun _ hknown => hknown)
        (s.rootOrigin true file) rfl lines hstart
      rw [← s.outline_eq_rootPass] at htells
      intro line hline path r e hs hr hother hread
      rw [analyze_diagnostics, List.append_assoc]
      exact List.mem_append_left _ (htells line hline path r e hs hr hother hread)
    · rw [s.outline_eq_rootPass]
      exact (Outline.ofLines_state_induction hkeep hstart).finished
  · intro line path moduleFile e
    exact ⟨Diagnostic.atOffset_code .., Diagnostic.atOffset_line ..⟩

/-- A directory with a module that includes a file that is no text and one with a null byte, and
with a file that the system does not let be opened. -/
def brokenDisk : Disk where
  workingDirectory := { names := ["w"], isEntryName_of_mem := ModuleSource.isEntryName_w }
  directories := [["w"]]
  files := [(["w", "a.pgy"], "include b\ninclude c".toUTF8.toList), (["w", "b.pgy"], [0xFF]),
    (["w", "c.pgy"], [0]), (["w", "d.pgy"], [])]
  refusals := [(["w", "d.pgy"], .unopened "[Errno 13] Permission denied")]

/-- A line that includes the file that cannot be opened. -/
def brokenLine : Line := ⟨1, "include d".toList, false⟩

/-- The error of the file that cannot be opened. -/
def brokenError : SourceError := .refused "/w/d.pgy" (.unopened "[Errno 13] Permission denied")

/-- The line is told that the file cannot be opened, and the rest of the text is analysed. That file
has no analysis of its own, and neither has the file with a null byte, which can be opened. -/
theorem analyze_total_brokenDisk :
    let s := Config.bare.modules brokenDisk
    let text := "include d\ninclude a\ndef (\n\x7b".toList
    (∃ path r, (brokenLine ∈ Line.ofSource text ∧
        Statement.ofText brokenLine.code = .inclusion path ∧
        brokenLine.resolution? s.search s.disk (s.rootDirectory (some "main.pgy")).toText =
          some r ∧
        s.rootPath (some "main.pgy") ≠ some r.file ∧
        s.disk.readSource r.file.toText s.maxLines = .error brokenError) ∧
      unreadableModule brokenLine path r.file.toText brokenError ∈
        (analyze brokenDisk Config.bare (some "main.pgy") text).diagnostics) ∧
    (brokenDisk.refusal? "/w/d.pgy" = some (.unopened "[Errno 13] Permission denied") ∧
      analyzeFile brokenDisk Config.bare "/w/d.pgy" = .error brokenError) ∧
    brokenDisk.refusal? "/w/c.pgy" = none ∧
      ∃ e, analyzeFile brokenDisk Config.bare "/w/c.pgy" = .error e ∧ e.isLoadError = true := by
  intro s text
  have hask : ((brokenLine.resolution? s.search s.disk
      (s.rootDirectory (some "main.pgy")).toText).any fun r =>
        r.file.toText = "/w/d.pgy" ∧ (s.rootPath (some "main.pgy")).all fun path =>
          path.toText ≠ r.file.toText) = true := by
    decide +kernel
  obtain ⟨r, hr, hboth⟩ := (Option.any_eq_true _ _).mp hask
  obtain ⟨hfile, hroot⟩ := of_decide_eq_true hboth
  have hother : s.rootPath (some "main.pgy") ≠ some r.file := by
    intro heq
    rw [heq] at hroot
    simp at hroot
  have hread : s.disk.readSource r.file.toText s.maxLines = .error brokenError := by
    rw [hfile]
    rfl
  have hline : brokenLine ∈ Line.ofSource text := List.mem_cons_self
  have hs : Statement.ofText brokenLine.code = .inclusion ⟨"d", 8⟩ := by rfl
  have hrefused : brokenDisk.refusal? "/w/d.pgy" =
      some (.unopened "[Errno 13] Permission denied") := by rfl
  have hopened : brokenDisk.refusal? "/w/c.pgy" = none := by rfl
  have hbinary : analyzeFile brokenDisk Config.bare "/w/c.pgy" = .error (.binary "/w/c.pgy") := by
    rfl
  obtain ⟨-, hfiles, htells, -⟩ := analyze_total brokenDisk Config.bare
  exact ⟨⟨⟨"d", 8⟩, r, ⟨hline, hs, hr, hother, hread⟩,
      (htells (some "main.pgy") text).1 brokenLine hline _ r _ hs hr hother hread⟩,
    ⟨hrefused, (hfiles "/w/d.pgy").2.2.1 _ hrefused⟩,
    hopened, _, hbinary, (hfiles "/w/c.pgy").2.2.2 hopened _ hbinary⟩

/-- The analysis of a file is stopped by an error that is not one of the reading: the file exists,
but the system does not let it be opened. -/
theorem analyzeFile_refused :
    brokenDisk.isFile "/w/d.pgy" = true ∧ ∃ e, analyzeFile brokenDisk Config.bare "/w/d.pgy" = .error e ∧
      e.isLoadError = false ∧ e.message = "[Errno 13] Permission denied: '/w/d.pgy'" :=
  ⟨by rfl, brokenError, by rfl, rfl, by decide +kernel⟩

end ScriptLint
