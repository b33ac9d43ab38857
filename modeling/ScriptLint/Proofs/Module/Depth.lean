import ScriptLint.Outline.Load
import ScriptLint.Proofs.Outline.Inclusions
import ScriptLint.Proofs.Path.Text

/-! The depth allowed for modules within modules is never reached. Every module that is being read
is another normal path of a file, and each file has two of them; so an answer can be described
without counting. -/
namespace ScriptLint

namespace Disk

/-- The texts of the normal paths of the files. -/
def pathTexts (d : Disk) : List String :=
  d.files.flatMap fun entry => ["/" ++ "/".intercalate entry.1, "//" ++ "/".intercalate entry.1]

theorem length_pathTexts (d : Disk) : d.pathTexts.length = 2 * d.files.length := by
  simp [pathTexts, List.length_flatMap, List.map_const', Nat.mul_comm]

/-- A file that is found by names, with no dots among them, is listed under these names. -/
theorem lookup_of_follow_eq_file {d : Disk} {here components : List String} {bytes : List UInt8}
    {refusal : Option Refusal} (hdots : ∀ c ∈ components, c ≠ "." ∧ c ≠ "..")
    (h : d.follow here components = .ok (.file bytes refusal)) :
    d.files.lookup (here ++ components.filter (· ≠ "")) = some bytes := by
  induction components generalizing here with
  | nil => simp [follow] at h
  | cons component more ih =>
    obtain ⟨hdot, hmore⟩ := List.forall_mem_cons.mp hdots
    -- An empty component stays where it is, and no other is a dot or two.
    by_cases hempty : component = ""
    · simp only [follow, hempty, true_or, ↓reduceIte] at h
      simpa [hempty] using ih hmore h
    · simp only [follow, hempty, hdot, or_self, ↓reduceIte] at h
      split at h
      · cases h
      · split at h
        · simpa [hempty] using ih hmore h
        · cases hlookup : d.files.lookup (here ++ [component]) with
          | none => simp [hlookup] at h
          | some found =>
            simp only [hlookup] at h
            split at h
            · next hnil => simp_all
            · cases h

theorem lookup_of_entry_eq_file {d : Disk} {p : Path} {bytes : List UInt8}
    {refusal : Option Refusal} (h : d.entry p.toText = .ok (.file bytes refusal)) :
    d.files.lookup p.names = some bytes := by
  have hstart : Path.leadingSlashes p.toText ≠ 0 := by
    rw [Path.leadingSlashes, Path.toList_toText]
    cases p.doubled <;> simp
  have hdots : ∀ c ∈ Path.components p.toText, c ≠ "." ∧ c ≠ ".." := by
    intro c hc
    by_cases hempty : c = ""
    · subst hempty
      exact ⟨by decide, by decide⟩
    · have hname : c ∈ p.names := by
        rw [← Path.filter_components_toText p]
        exact List.mem_filter.mpr ⟨hc, by simpa using hempty⟩
      exact ⟨(p.isEntryName_of_mem c hname).2.1, (p.isEntryName_of_mem c hname).2.2.1⟩
  -- A normal path is neither empty nor relative, so its components are followed from the root.
  have hfollow : d.follow [] (Path.components p.toText) = .ok (.file bytes refusal) := by
    unfold entry at h
    split at h
    · cases h
    · split at h
      · cases h
      · exact h
  simpa only [List.nil_append, Path.filter_components_toText] using
    lookup_of_follow_eq_file hdots hfollow

theorem isFile_iff {d : Disk} {path : String} :
    d.isFile path = true ↔ ∃ bytes refusal, d.entry path = .ok (.file bytes refusal) := by
  unfold isFile
  split
  · next bytes refusal h => simp [h]
  · next h => simpa using h

/-- A file that can be read is there. -/
theorem isFile_of_bytes? {d : Disk} {path : String} {bytes : List UInt8}
    (h : d.bytes? path = some bytes) : d.isFile path = true := by
  unfold bytes? at h
  split at h
  · next found hentry => exact isFile_iff.mpr ⟨found, none, hentry⟩
  · cases h

theorem isFile_of_readSource {d : Disk} {path : String} {maxLines : Int} {text : List Char}
    (h : d.readSource path maxLines = .ok text) : d.isFile path = true := by
  cases hbytes : d.bytes? path with
  | none => simp [readSource, hbytes] at h
  | some bytes => exact isFile_of_bytes? hbytes

/-- A normal path that finds a file leads to one that is listed. -/
theorem exists_mem_files_of_isFile {d : Disk} {p : Path} (h : d.isFile p.toText = true) :
    ∃ bytes, (p.names, bytes) ∈ d.files := by
  obtain ⟨bytes, refusal, hentry⟩ := isFile_iff.mp h
  obtain ⟨before, behind, hfiles, -⟩ :=
    List.lookup_eq_some_iff.mp (lookup_of_entry_eq_file hentry)
  exact ⟨bytes, by simp [hfiles]⟩

/-- The text of a normal path that can be read is listed. -/
theorem mem_pathTexts_of_readSource {d : Disk} {p : Path} {maxLines : Int} {text : List Char}
    (h : d.readSource p.toText maxLines = .ok text) : p.toText ∈ d.pathTexts := by
  obtain ⟨bytes, hmem⟩ := exists_mem_files_of_isFile (isFile_of_readSource h)
  refine List.mem_flatMap.mpr ⟨_, hmem, ?_⟩
  cases hp : p.doubled <;> simp [Path.toText, hp]

end Disk

theorem Pass.mem_visit_visited {p : Pass} {file t : String} :
    t ∈ (p.visit file).visited ↔ t = file ∨ t ∈ p.visited := by
  unfold visit
  split
  · next h =>
    have hfile : file ∈ p.visited := by simpa using h
    exact ⟨Or.inr, fun ht => ht.elim (fun he => he ▸ hfile) id⟩
  · simp [or_comm]

@[simp] theorem Pass.visit_finished (p : Pass) (file : String) :
    (p.visit file).finished = p.finished := by
  unfold visit
  split <;> rfl

namespace ModuleSource

variable (s : ModuleSource)

/-- The number of paths of files whose reading has not begun. -/
def unread (pass : Pass) : Nat :=
  s.disk.pathTexts.countP fun t => !pass.visited.contains t

theorem unread_le_depth (pass : Pass) : s.unread pass ≤ s.depth := by
  rw [depth, ← Disk.length_pathTexts]
  exact List.countP_le_length

theorem countP_visited_le {pass later : Pass} (h : pass.visited ⊆ later.visited)
    (texts : List String) :
    (texts.countP fun t => !later.visited.contains t) ≤
      texts.countP fun t => !pass.visited.contains t := by
  refine List.countP_mono_left fun t _ ht => ?_
  have hlater : t ∉ later.visited := by simpa using ht
  simpa using fun hpass => hlater (h hpass)

theorem unread_le_of_visited_subset {pass later : Pass} (h : pass.visited ⊆ later.visited) :
    s.unread later ≤ s.unread pass :=
  countP_visited_le h s.disk.pathTexts

/-- Beginning to read a file leaves one text less among those that it is one of. -/
theorem countP_visited_lt {pass later : Pass} {t : String} {texts : List String} (hmem : t ∈ texts)
    (hnew : t ∉ pass.visited) (h : (pass.visit t).visited ⊆ later.visited) :
    (texts.countP fun u => !later.visited.contains u) <
      texts.countP fun u => !pass.visited.contains u := by
  have hsub : pass.visited ⊆ later.visited :=
    fun u hu => h (Pass.mem_visit_visited.mpr (Or.inr hu))
  have hlater : t ∈ later.visited := h (Pass.mem_visit_visited.mpr (Or.inl rfl))
  obtain ⟨before, behind, htexts⟩ := List.append_of_mem hmem
  -- The text counts for the first pass and not for the later one; no other begins to count.
  have hbefore := countP_visited_le hsub before
  have hbehind := countP_visited_le hsub behind
  simp only [htexts, List.countP_append, List.countP_cons]
  simp only [List.contains_eq_mem, hlater, hnew, decide_true, decide_false, Bool.not_true,
    Bool.not_false, Bool.false_eq_true, ↓reduceIte] at hbefore hbehind ⊢
  omega

/-- Beginning to read a module leaves one path less. -/
theorem unread_lt_of_visited_subset {pass later : Pass} {path : Path} {text : List Char}
    (hread : s.disk.readSource path.toText s.maxLines = .ok text)
    (hnew : path.toText ∉ pass.visited) (h : (pass.visit path.toText).visited ⊆ later.visited) :
    s.unread later < s.unread pass :=
  countP_visited_lt (Disk.mem_pathTexts_of_readSource hread) hnew h

/-- The answer for a module, where `read` makes the one for a module whose reading begins. -/
def answerBy (read : List Line → Pass → ModuleReply × Pass) (path : Path) (pass : Pass) :
    ModuleReply × Pass :=
  match pass.finished.lookup path.toText with
  | some o => (.outline o, pass)
  | none =>
    if pass.visited.contains path.toText then (.inProgress, pass)
    else
      match s.disk.readSource path.toText s.maxLines with
      | .error e => (.unreadable e, pass)
      | .ok text => read (Line.ofSource text) pass

/-- Begins to read a module and finishes its outline, with further modules from `load`. -/
def readModule (load : Path → Pass → ModuleReply × Pass) (path : Path) (lines : List Line)
    (pass : Pass) : ModuleReply × Pass :=
  let made := s.outlineOf load false path lines pass
  (.outline made.1, made.2.finish path.toText made.1)

/-- Two ways of reading give the same answer if they agree where one of them is asked. -/
theorem answerBy_congr {read read' : List Line → Pass → ModuleReply × Pass} {path : Path}
    {pass : Pass}
    (h : ∀ text, pass.finished.lookup path.toText = none → path.toText ∉ pass.visited →
      s.disk.readSource path.toText s.maxLines = .ok text →
        read (Line.ofSource text) pass = read' (Line.ofSource text) pass) :
    s.answerBy read path pass = s.answerBy read' path pass := by
  unfold answerBy
  cases hlookup : pass.finished.lookup path.toText with
  | some o => rfl
  | none =>
    by_cases hvisited : pass.visited.contains path.toText = true
    · simp only [hvisited, ↓reduceIte]
    · simp only [hvisited, Bool.false_eq_true, ↓reduceIte]
      cases hread : s.disk.readSource path.toText s.maxLines with
      | error e => rfl
      | ok text => exact h text hlookup (by simpa using hvisited) hread

theorem load_zero (path : Path) (pass : Pass) :
    s.load 0 path pass = s.answerBy (fun _ pass => (.inProgress, pass)) path pass := by
  rw [load]
  rfl

theorem load_add_one (depth : Nat) (path : Path) (pass : Pass) :
    s.load (depth + 1) path pass = s.answerBy (s.readModule (s.load depth) path) path pass := by
  rw [load]
  rfl

/-- What is known of the pass without the module is known with any answer, unless it is read. -/
theorem answerBy_snd_of_read {read : List Line → Pass → ModuleReply × Pass} {P : Pass → Prop}
    {path : Path} {pass : Pass} (h : P pass) (hread : ∀ lines, P (read lines pass).2) :
    P (s.answerBy read path pass).2 := by
  unfold answerBy
  split
  · exact h
  · split
    · exact h
    · split
      · exact h
      · exact hread _

/-- Reading modules takes none back. -/
theorem visited_subset_load (depth : Nat) (path : Path) (pass : Pass) :
    pass.visited ⊆ (s.load depth path pass).2.visited := by
  induction depth generalizing path pass with
  | zero =>
    rw [load_zero]
    exact s.answerBy_snd_of_read (P := fun p => pass.visited ⊆ p.visited) (List.Subset.refl _)
      fun _ => List.Subset.refl _
  | succ depth ih =>
    rw [load_add_one]
    refine s.answerBy_snd_of_read (P := fun p => pass.visited ⊆ p.visited) (List.Subset.refl _)
      fun lines => ?_
    exact Outline.ofLines_state_induction (P := fun p => pass.visited ⊆ p.visited)
      (fun path' pass' h t ht => ih path' pass' (h ht))
      (fun t ht => Pass.mem_visit_visited.mpr (Or.inr ht))

/-- A depth that all unread paths fit into is as good as any greater one. -/
theorem load_succ {depth : Nat} {pass : Pass} (path : Path) (h : s.unread pass ≤ depth) :
    s.load (depth + 1) path pass = s.load depth path pass := by
  induction depth generalizing path pass with
  | zero =>
    rw [load_add_one, load_zero]
    refine s.answerBy_congr fun text _ hnew hread => ?_
    -- The path of a module that could be read is unread, but none is left.
    have hlt := s.unread_lt_of_visited_subset hread hnew
      (List.Subset.refl (pass.visit path.toText).visited)
    omega
  | succ depth ih =>
    rw [load_add_one, load_add_one]
    refine s.answerBy_congr fun text _ hnew hread => ?_
    have hlt := s.unread_lt_of_visited_subset hread hnew
      (List.Subset.refl (pass.visit path.toText).visited)
    -- Inside the module one path less is unread, so that both depths are enough there.
    have hkeep : ∀ path' pass', s.unread pass' ≤ depth →
        s.unread (s.load depth path' pass').2 ≤ depth := by
      intro path' pass' hle
      have hsub := s.visited_subset_load depth path' pass'
      exact Nat.le_trans (s.unread_le_of_visited_subset hsub) hle
    have hmade : s.outlineOf (s.load (depth + 1)) false path (Line.ofSource text) pass =
        s.outlineOf (s.load depth) false path (Line.ofSource text) pass :=
      Outline.ofLines_congr (P := fun p => s.unread p ≤ depth) hkeep
        (fun path' pass' hle => ih path' hle) (by omega)
    simp only [readModule, hmade]

/-- The answer for a module, described without a bound on the depth. -/
theorem answer_eq (path : Path) (pass : Pass) :
    s.answer path pass = s.answerBy (s.readModule s.answer path) path pass := by
  rw [answer, ← s.load_succ path (s.unread_le_depth pass), load_add_one]
  rfl

/-- What an answer for a module can be: its outline if that is finished, or that it is in progress
or cannot be read, or else what reading it gives. -/
inductive AnswerCase (path : Path) (pass : Pass) : ModuleReply × Pass → Prop
  | finished {o : Outline} (hlookup : pass.finished.lookup path.toText = some o) :
      AnswerCase path pass (.outline o, pass)
  | begun (hlookup : pass.finished.lookup path.toText = none)
      (hvisited : path.toText ∈ pass.visited) : AnswerCase path pass (.inProgress, pass)
  | unreadable {e : SourceError} (hlookup : pass.finished.lookup path.toText = none)
      (hnew : path.toText ∉ pass.visited)
      (hread : s.disk.readSource path.toText s.maxLines = .error e) :
      AnswerCase path pass (.unreadable e, pass)
  | read {text : List Char} (hlookup : pass.finished.lookup path.toText = none)
      (hnew : path.toText ∉ pass.visited)
      (hread : s.disk.readSource path.toText s.maxLines = .ok text) :
      AnswerCase path pass (s.readModule s.answer path (Line.ofSource text) pass)

theorem answer_cases (path : Path) (pass : Pass) : s.AnswerCase path pass (s.answer path pass) := by
  rw [answer_eq, answerBy]
  cases hlookup : pass.finished.lookup path.toText with
  | some o => exact .finished hlookup
  | none =>
    by_cases hvisited : path.toText ∈ pass.visited
    · simp only [List.contains_eq_mem, hvisited, decide_true, ↓reduceIte]
      exact .begun hlookup hvisited
    · simp only [List.contains_eq_mem, hvisited, decide_false, Bool.false_eq_true, ↓reduceIte]
      cases hread : s.disk.readSource path.toText s.maxLines with
      | error e => exact .unreadable hlookup hvisited hread
      | ok text => exact .read hlookup hvisited hread

end ModuleSource

end ScriptLint
