import Mathlib.Logic.Relation
import ScriptLint.Proofs.Module.Calls

/-! Reading each module anew on every include line. Such a reader keeps no list of what it has begun
or finished, so it goes round a cycle of includes until its depth is used up. Where no cycle is
reached, any depth from some point on gives the same, and what was finished in a pass is what would
be read anew. -/
namespace ScriptLint

open Relation

namespace ModuleSource

variable (s : ModuleSource) (barred : List Path)

/-- The module at `path` is not barred, can be read, and has an include line that names `next`. -/
def Includes (path next : Path) : Prop :=
  path ∉ barred ∧ ∃ moduleLines, s.moduleLines? path = some moduleLines ∧
    ∃ r ∈ s.resolutionsIn path.parent moduleLines, r.file = next

/-- No module that the one at the path leads to, itself included, leads back to itself. -/
def CycleFree (path : Path) : Prop :=
  ∀ q, ReflTransGen (s.Includes barred) path q → ¬TransGen (s.Includes barred) q q

/-- The answer for a module that is read on the spot by `read`, unless it is barred. -/
def answerAnew (read : List Line → ModuleReply) (path : Path) : ModuleReply :=
  if path ∈ barred then .inProgress
  else
    match s.disk.readSource path.toText s.maxLines with
    | .error e => .unreadable e
    | .ok text => read (Line.ofSource text)

/-- Answers for a module by reading it, and all that it includes, on the spot. The barred modules
count as in progress, and so does what is included below the given depth. -/
def loadAnew (s : ModuleSource) (barred : List Path) (depth : Nat) (path : Path) (_ : Unit) :
    ModuleReply × Unit :=
  let read (lines : List Line) : ModuleReply :=
    match depth with
    | 0 => .inProgress
    | depth + 1 =>
      .outline (Outline.ofLines s.search s.disk (s.loadAnew barred depth)
        ⟨some path.toText, path.parent.toText, false⟩ lines ()).1
  (s.answerAnew barred read path, ())

/-- The outline of a module for which each include line has its module read anew. -/
def readAnew (depth : Nat) (path : Path) (lines : List Line) : ModuleReply :=
  .outline (Outline.ofLines s.search s.disk (s.loadAnew barred depth)
    ⟨some path.toText, path.parent.toText, false⟩ lines ()).1

/-- The outline of a text for which each include line has its module read anew. -/
def outlineAnew (depth : Nat) (isRoot : Bool) (file : Option String) (lines : List Line) :
    Outline :=
  (Outline.ofLines s.search s.disk (s.loadAnew [] depth) (s.rootOrigin isRoot file) lines ()).1

/-- No include line leads back to a file that it comes from. The edges are the include lines whose
modules can be read. -/
structure Acyclic (file : Option String) (lines : List Line) : Prop where
  root : ∀ path, s.rootPath file = some path → s.Reaches file lines path →
    s.moduleLines? path = none
  modules : ∀ path, s.Reaches file lines path → ¬TransGen (s.Includes []) path path

/-- What is known of a pass: apart from the files in progress, everything begun is finished. What is
finished has been read, declares what its lines do and, unless it leads to a cycle, is what would be
read anew. -/
structure Faithful (inProgress : List Path) (pass : Pass) : Prop where
  guarded : pass.Guarded inProgress
  declares : ∀ path o, (path.toText, o) ∈ pass.finished →
    ∃ moduleLines, s.moduleLines? path = some moduleLines ∧
      o.table.body = declaredBody (some path.toText) moduleLines
  anew : ∀ path o, (path.toText, o) ∈ pass.finished → s.CycleFree barred path →
    ModuleReply.outline o = (s.loadAnew barred s.depth path ()).1

/-- What is known of an answer: a module in progress is waited for; any other one that can be read
has an outline that declares what its lines do; and unless the module leads to a cycle, the answer
is the one that reading it anew gives. -/
structure AnswersAnew (inProgress : List Path) (path : Path) (reply : ModuleReply) : Prop where
  waits : path ∈ inProgress → reply = .inProgress
  outline : path ∉ inProgress → ∀ moduleLines, s.moduleLines? path = some moduleLines →
    ∃ o, reply = .outline o ∧ o.table.body = declaredBody (some path.toText) moduleLines
  anew : s.CycleFree barred path → reply = (s.loadAnew barred s.depth path ()).1

variable {s barred}

theorem CycleFree.next {path next : Path} (h : s.CycleFree barred path)
    (hnext : s.Includes barred path next) : s.CycleFree barred next :=
  fun q hq => h q (hq.head hnext)

theorem CycleFree.not_back {path : Path} (h : s.CycleFree barred path) :
    ¬TransGen (s.Includes barred) path path :=
  h path .refl

theorem includes_of_mem {path : Path} {moduleLines : List Line} (hnot : path ∉ barred)
    (hlines : s.moduleLines? path = some moduleLines) {r : Resolution}
    (hr : r ∈ s.resolutionsIn path.parent moduleLines) : s.Includes barred path r.file :=
  ⟨hnot, moduleLines, hlines, r, hr, rfl⟩

/-- Beginning to read a module that can be read leaves one path less. -/
theorem unread_visit_lt {pass : Pass} {path : Path} {moduleLines : List Line}
    (hlines : s.moduleLines? path = some moduleLines) (hnew : path.toText ∉ pass.visited) :
    s.unread (pass.visit path.toText) < s.unread pass := by
  cases hread : s.disk.readSource path.toText s.maxLines with
  | error e =>
    rw [moduleLines?_of_error hread] at hlines
    cases hlines
  | ok text => exact s.unread_lt_of_visited_subset hread hnew (List.Subset.refl _)

theorem answerAnew_congr {read read' : List Line → ModuleReply} {path : Path}
    (h : ∀ moduleLines, path ∉ barred → s.moduleLines? path = some moduleLines →
      read moduleLines = read' moduleLines) :
    s.answerAnew barred read path = s.answerAnew barred read' path := by
  unfold answerAnew
  by_cases hmem : path ∈ barred
  · rw [if_pos hmem, if_pos hmem]
  · rw [if_neg hmem, if_neg hmem]
    cases hread : s.disk.readSource path.toText s.maxLines with
    | error e => rfl
    | ok text => exact h _ hmem (moduleLines?_of_ok hread)

theorem loadAnew_zero (path : Path) :
    (s.loadAnew barred 0 path ()).1 = s.answerAnew barred (fun _ => .inProgress) path := by
  rw [loadAnew]

theorem loadAnew_add_one (depth : Nat) (path : Path) :
    (s.loadAnew barred (depth + 1) path ()).1 =
      s.answerAnew barred (s.readAnew barred depth path) path := by
  rw [loadAnew]
  rfl

/-- Only the answers for the modules that its include lines name matter for a module. -/
theorem readAnew_congr {depth depth' : Nat} {path : Path} {moduleLines : List Line}
    (h : ∀ r ∈ s.resolutionsIn path.parent moduleLines,
      (s.loadAnew barred depth' r.file ()).1 = (s.loadAnew barred depth r.file ()).1) :
    s.readAnew barred depth' path moduleLines = s.readAnew barred depth path moduleLines := by
  refine congrArg ModuleReply.outline (Outline.ofLines_lockstep (fun _ _ => True) ?_ trivial).1
  intro r hr _ _ _
  exact ⟨h r hr, trivial⟩

/-- A module that leads to no cycle is read to the end with the depth that all paths fit into. -/
theorem loadAnew_succ {path : Path} {depth : Nat} (h : s.CycleFree barred path)
    (hd : s.depth ≤ depth) :
    (s.loadAnew barred (depth + 1) path ()).1 = (s.loadAnew barred depth path ()).1 := by
  -- The modules that are read around the one at the path all lead to it, so it is none of them.
  have hchain : ∀ (depth : Nat) (path : Path) (around : Pass), s.CycleFree barred path →
      (∀ p : Path, p.toText ∈ around.visited → TransGen (s.Includes barred) p path) →
      s.unread around ≤ depth →
      (s.loadAnew barred (depth + 1) path ()).1 = (s.loadAnew barred depth path ()).1 := by
    intro depth
    induction depth with
    | zero =>
      intro path around hfree haround hle
      rw [loadAnew_add_one, loadAnew_zero]
      refine answerAnew_congr fun moduleLines _ hlines => ?_
      have hnew : path.toText ∉ around.visited := fun hv => hfree.not_back (haround path hv)
      have hlt := unread_visit_lt hlines hnew
      omega
    | succ depth ih =>
      intro path around hfree haround hle
      rw [loadAnew_add_one, loadAnew_add_one]
      refine answerAnew_congr fun moduleLines hmem hlines => ?_
      have hnew : path.toText ∉ around.visited := fun hv => hfree.not_back (haround path hv)
      have hlt := unread_visit_lt hlines hnew
      refine readAnew_congr fun r hr => ?_
      have hnext : s.Includes barred path r.file := includes_of_mem hmem hlines hr
      refine ih r.file (around.visit path.toText) (hfree.next hnext) ?_ (by omega)
      intro p hp
      rcases Pass.mem_visit_visited.mp hp with heq | hp
      · rw [Path.toText_injective heq]
        exact .single hnext
      · exact (haround p hp).tail hnext
  refine hchain depth path {} h (fun p hp => (List.not_mem_nil hp).elim) ?_
  exact Nat.le_trans (s.unread_le_depth {}) hd

theorem loadAnew_eq {path : Path} {depth : Nat} (h : s.CycleFree barred path)
    (hd : s.depth ≤ depth) :
    (s.loadAnew barred depth path ()).1 = (s.loadAnew barred s.depth path ()).1 := by
  obtain ⟨more, rfl⟩ := Nat.exists_eq_add_of_le hd
  induction more with
  | zero => rfl
  | succ more ih =>
    have hle : s.depth ≤ s.depth + more := Nat.le_add_right _ _
    calc (s.loadAnew barred (s.depth + (more + 1)) path ()).1
        = (s.loadAnew barred (s.depth + more) path ()).1 := loadAnew_succ h hle
      _ = (s.loadAnew barred s.depth path ()).1 := ih hle

theorem loadAnew_depth {path : Path} (h : s.CycleFree barred path) :
    (s.loadAnew barred s.depth path ()).1 =
      s.answerAnew barred (s.readAnew barred s.depth path) path := by
  rw [← loadAnew_succ h (Nat.le_refl _), loadAnew_add_one]

theorem answerAnew_of_mem {read : List Line → ModuleReply} {path : Path} (h : path ∈ barred) :
    s.answerAnew barred read path = .inProgress := if_pos h

theorem answerAnew_of_not_mem {read : List Line → ModuleReply} {path : Path} (h : path ∉ barred) :
    s.answerAnew barred read path =
      match s.disk.readSource path.toText s.maxLines with
      | .error e => .unreadable e
      | .ok text => read (Line.ofSource text) := if_neg h

/-- If each module that the lines name is answered for as it would be read anew, then so are the
lines. -/
theorem ofLines_anew {inProgress : List Path} {start : Pass} (origin : Origin) (lines : List Line)
    (hanswer : ∀ r ∈ resolutions s.search s.disk origin.directory lines, ∀ known,
      start.visited ⊆ known.visited → s.Faithful barred inProgress known →
        s.AnswersAnew barred inProgress r.file (s.answer r.file known).1 ∧
          s.Faithful barred inProgress (s.answer r.file known).2)
    (h : s.Faithful barred inProgress start) :
    let made := Outline.ofLines s.search s.disk s.answer origin lines start
    s.Faithful barred inProgress made.2 ∧
      ((∀ r ∈ resolutions s.search s.disk origin.directory lines, s.CycleFree barred r.file) →
        (Outline.ofLines s.search s.disk (s.loadAnew barred s.depth) origin lines ()).1 =
          made.1) := by
  have hkeep : ∀ r ∈ resolutions s.search s.disk origin.directory lines, ∀ known,
      (start.visited ⊆ known.visited ∧ s.Faithful barred inProgress known) →
      start.visited ⊆ (s.answer r.file known).2.visited ∧
        s.Faithful barred inProgress (s.answer r.file known).2 := by
    rintro r hr known ⟨hsub, hknown⟩
    have hmore : known.visited ⊆ (s.answer r.file known).2.visited :=
      s.visited_subset_load s.depth r.file known
    exact ⟨fun t ht => hmore (hsub ht), (hanswer r hr known hsub hknown).2⟩
  have hstart : start.visited ⊆ start.visited ∧ s.Faithful barred inProgress start :=
    ⟨List.Subset.refl _, h⟩
  refine ⟨?_, fun hfree => ?_⟩
  · rw [Outline.ofLines, Draft.finish_state]
    exact (Draft.readLines_keeps hkeep hstart).2
  · refine (Outline.ofLines_lockstep (fun known (_ : Unit) =>
      start.visited ⊆ known.visited ∧ s.Faithful barred inProgress known) ?_ hstart).1
    intro r hr known _ hknown
    refine ⟨?_, hkeep r hr known hknown⟩
    exact ((hanswer r hr known hknown.1 hknown.2).1.anew (hfree r hr)).symm

theorem Faithful.visit {inProgress : List Path} {path : Path} {pass : Pass}
    (h : s.Faithful barred inProgress pass) (hnew : path.toText ∉ pass.visited) :
    s.Faithful barred (path :: inProgress) (pass.visit path.toText) where
  guarded := h.guarded.visit hnew
  declares := by
    rw [Pass.visit_finished]
    exact h.declares
  anew := by
    rw [Pass.visit_finished]
    exact h.anew

/-- The module that has just been read is finished. -/
theorem Faithful.finish {inProgress : List Path} {path : Path} {moduleLines : List Line}
    {made : Outline} {later : Pass} (h : s.Faithful barred (path :: inProgress) later)
    (hlines : s.moduleLines? path = some moduleLines)
    (hbody : made.table.body = declaredBody (some path.toText) moduleLines)
    (hanew : s.CycleFree barred path →
      ModuleReply.outline made = (s.loadAnew barred s.depth path ()).1) :
    s.Faithful barred inProgress (later.finish path.toText made) := by
  have hentry : ∀ other o, (Path.toText other, o) ∈ (later.finish path.toText made).finished →
      (other.toText, o) ∈ later.finished ∨ other = path ∧ o = made := by
    intro other o ho
    rcases List.mem_append.mp ho with ho | ho
    · exact Or.inl ho
    · obtain ⟨htext, ho⟩ := Prod.mk.inj (List.mem_singleton.mp ho)
      exact Or.inr ⟨Path.toText_injective htext, ho⟩
  refine ⟨h.guarded.finish made, ?_, ?_⟩
  · intro other o ho
    rcases hentry other o ho with ho | ⟨rfl, rfl⟩
    · exact h.declares other o ho
    · exact ⟨moduleLines, hlines, hbody⟩
  · intro other o ho
    rcases hentry other o ho with ho | ⟨rfl, rfl⟩
    · exact h.anew other o ho
    · exact hanew

/-- Reading a module gives a faithful answer if each module that its lines name gets one. -/
theorem AnswersAnew.of_read {inProgress : List Path} {path : Path} {pass : Pass}
    {text : List Char} (hnotIn : path ∉ inProgress) (hnot : path ∉ barred)
    (hread : s.disk.readSource path.toText s.maxLines = .ok text)
    (hinner : ∀ r ∈ s.resolutionsIn path.parent (Line.ofSource text), ∀ known,
      (pass.visit path.toText).visited ⊆ known.visited →
      s.Faithful barred (path :: inProgress) known →
      s.AnswersAnew barred (path :: inProgress) r.file (s.answer r.file known).1 ∧
        s.Faithful barred (path :: inProgress) (s.answer r.file known).2)
    (hstart : s.Faithful barred (path :: inProgress) (pass.visit path.toText)) :
    let answered := s.readModule s.answer path (Line.ofSource text) pass
    s.AnswersAnew barred inProgress path answered.1 ∧
      s.Faithful barred inProgress answered.2 := by
  let origin : Origin := ⟨some path.toText, path.parent.toText, false⟩
  have hlines : s.moduleLines? path = some (Line.ofSource text) := moduleLines?_of_ok hread
  obtain ⟨hlater, hmade⟩ := ofLines_anew origin (Line.ofSource text) hinner hstart
  have hbody := Outline.ofLines_body s.search s.disk s.answer origin (Line.ofSource text)
    (pass.visit path.toText)
  have hanew : s.CycleFree barred path →
      (s.readModule s.answer path (Line.ofSource text) pass).1 =
        (s.loadAnew barred s.depth path ()).1 := by
    intro hfree
    have hall : ∀ r ∈ s.resolutionsIn path.parent (Line.ofSource text),
        s.CycleFree barred r.file :=
      fun r hr => hfree.next (includes_of_mem hnot hlines hr)
    rw [loadAnew_depth hfree, answerAnew_of_not_mem hnot, hread]
    exact congrArg ModuleReply.outline (hmade hall).symm
  refine ⟨⟨fun hin => absurd hin hnotIn, fun _ moduleLines hother => ⟨_, rfl, ?_⟩, hanew⟩,
    hlater.finish hlines hbody hanew⟩
  rw [hlines] at hother
  rw [← Option.some.inj hother]
  exact hbody

/-- Every answer is faithful, as long as whatever is in progress and can be reached from the module
is barred or lies on a cycle. The induction is on the number of paths that are unread. -/
theorem answersAnew {inProgress : List Path} (hbarred : barred ⊆ inProgress) (path : Path)
    (pass : Pass) (h : s.Faithful barred inProgress pass)
    (hback : ∀ p ∈ inProgress, p ∈ barred ∨
      (ReflTransGen (s.Includes barred) path p → TransGen (s.Includes barred) p p)) :
    s.AnswersAnew barred inProgress path (s.answer path pass).1 ∧
      s.Faithful barred inProgress (s.answer path pass).2 := by
  induction hn : s.unread pass using Nat.strongRecOn generalizing inProgress path pass with
  | ind n ih =>
    subst hn
    have hnew_notIn : path.toText ∉ pass.visited → path ∉ inProgress := fun hnew hin =>
      hnew (h.guarded.mem_visited_iff.mpr (Or.inr hin))
    have hcase := s.answer_cases path pass
    generalize s.answer path pass = result at hcase ⊢
    cases hcase with
    | @finished o hlookup =>
      have hmem := Pass.mem_finished_of_lookup hlookup
      have hnot : path ∉ inProgress := fun hin =>
        h.guarded.not_mem_finishedFiles hin (List.mem_map_of_mem hmem)
      refine ⟨⟨fun hin => absurd hin hnot, fun _ moduleLines hlines => ⟨o, rfl, ?_⟩,
        h.anew path o hmem⟩, h⟩
      obtain ⟨readLines, hread, hbody⟩ := h.declares path o hmem
      rw [hread] at hlines
      rwa [← Option.some.inj hlines]
    | begun hlookup hvisited =>
      have hin : path ∈ inProgress := (h.guarded.mem_visited_iff.mp hvisited).resolve_left
        (Pass.not_mem_finishedFiles_of_lookup hlookup)
      refine ⟨⟨fun _ => rfl, fun hnot => absurd hin hnot, fun hfree => ?_⟩, h⟩
      -- The module leads to no cycle, so it is not on one itself.
      have hmem : path ∈ barred := (hback path hin).resolve_right fun hcycle =>
        hfree.not_back (hcycle .refl)
      rw [loadAnew_depth hfree, answerAnew_of_mem hmem]
    | unreadable _ hnew hread =>
      have hnot : path ∉ barred := fun hmem => hnew_notIn hnew (hbarred hmem)
      refine ⟨⟨fun hin => absurd hin (hnew_notIn hnew), fun _ moduleLines hlines => ?_,
        fun hfree => ?_⟩, h⟩
      · rw [moduleLines?_of_error hread] at hlines
        cases hlines
      · rw [loadAnew_depth hfree, answerAnew_of_not_mem hnot, hread]
    | @read text _ hnew hread =>
      have hnot : path ∉ barred := fun hmem => hnew_notIn hnew (hbarred hmem)
      refine AnswersAnew.of_read (hnew_notIn hnew) hnot hread ?_ (h.visit hnew)
      intro r hr known hsub hknown
      have hnext : s.Includes barred path r.file :=
        includes_of_mem hnot (moduleLines?_of_ok hread) hr
      have hlt := s.unread_lt_of_visited_subset hread hnew hsub
      refine ih _ hlt (fun p hp => List.mem_cons_of_mem _ (hbarred hp)) r.file known hknown ?_ rfl
      -- Whatever was in progress is still on a cycle if it is reached; now so is the module.
      intro p hp
      rcases List.mem_cons.mp hp with rfl | hp
      · exact Or.inr fun hreach => TransGen.head' hnext hreach
      · exact (hback p hp).imp_right fun hcycle hreach => hcycle (hreach.head hnext)

theorem faithful_rootPass (file : Option String) :
    s.Faithful barred (s.rootProgress file) (s.rootPass file) := by
  refine ⟨guarded_rootPass file, fun _ _ ho => ?_, fun _ _ ho => ?_⟩
  · rw [rootPass_finished] at ho
    exact (List.not_mem_nil ho).elim
  · rw [rootPass_finished] at ho
    exact (List.not_mem_nil ho).elim

section Acyclic

variable {file : Option String} {lines : List Line}

/-- Whatever a reached module leads to is reached as well, where nothing leads back to the text. -/
theorem Reaches.of_reflTransGen
    (hroot : ∀ path, s.rootPath file = some path → ¬s.Reaches file lines path) {path q : Path}
    (h : s.Reaches file lines path) (hq : ReflTransGen (s.Includes []) path q) :
    s.Reaches file lines q := by
  induction hq with
  | refl => exact h
  | tail _ hnext ih =>
    obtain ⟨_, moduleLines, hlines, r, hr, rfl⟩ := hnext
    exact .through ih (fun heq => hroot _ heq ih) hlines hr

/-- If no include line leads back to where it comes from, nor to the file of the text, then drawing
up the text with each module read once gives what reading them anew on each include line does. -/
theorem outline_eq_outlineAnew (h : s.Acyclic file lines)
    (hroot : ∀ path, s.rootPath file = some path → ¬s.Reaches file lines path) (isRoot : Bool)
    {depth : Nat} (hd : s.depth ≤ depth) :
    (s.outline isRoot file lines {}).1 = s.outlineAnew depth isRoot file lines := by
  have hfree : ∀ r ∈ s.resolutionsIn (s.rootDirectory file) lines, s.CycleFree [] r.file :=
    fun r hr q hq => h.modules q ((Reaches.included hr).of_reflTransGen hroot hq)
  have hanswer : ∀ r ∈ s.resolutionsIn (s.rootDirectory file) lines, ∀ known,
      (s.rootPass file).visited ⊆ known.visited → s.Faithful [] (s.rootProgress file) known →
      s.AnswersAnew [] (s.rootProgress file) r.file (s.answer r.file known).1 ∧
        s.Faithful [] (s.rootProgress file) (s.answer r.file known).2 := by
    intro r hr known _ hknown
    refine answersAnew (List.nil_subset _) r.file known hknown fun p hp => Or.inr fun hreach => ?_
    -- Only the text itself is in progress, and it is not reached.
    have hrootPath : s.rootPath file = some p := by simpa [rootProgress] using hp
    exact absurd ((Reaches.included hr).of_reflTransGen hroot hreach) (hroot p hrootPath)
  obtain ⟨_, hmade⟩ := ofLines_anew (s.rootOrigin isRoot file) lines hanswer
    (faithful_rootPass file)
  calc (s.outline isRoot file lines {}).1
      = (Outline.ofLines s.search s.disk s.answer (s.rootOrigin isRoot file) lines
          (s.rootPass file)).1 := by rw [outline_eq_rootPass]
    _ = (Outline.ofLines s.search s.disk (s.loadAnew [] s.depth) (s.rootOrigin isRoot file) lines
          ()).1 := (hmade hfree).symm
    _ = s.outlineAnew depth isRoot file lines := by
        refine (Outline.ofLines_lockstep (fun _ _ => True) ?_ trivial).1
        intro r hr _ _ _
        exact ⟨(loadAnew_eq (hfree r hr) hd).symm, trivial⟩

end Acyclic

/-- What holds of all files that can be read holds of every module that can be. -/
theorem of_moduleLines? {P : Path → List Line → Bool}
    (h : ∀ t ∈ s.disk.pathTexts, (s.disk.absolute t).toText = t ∧
      (s.moduleLines? (s.disk.absolute t)).all (P (s.disk.absolute t)) = true)
    {path : Path} {moduleLines : List Line} (hlines : s.moduleLines? path = some moduleLines) :
    P path moduleLines = true := by
  obtain ⟨htext, hall⟩ := h path.toText (mem_pathTexts_of_moduleLines? hlines)
  rwa [Path.toText_injective htext, hlines, Option.all_some] at hall

/-- Include lines that only lead down in a ranking of the files make no cycle. -/
theorem cycleFree_of_rank (rank : Path → Nat)
    (hdown : ∀ path next, s.Includes barred path next → rank next < rank path) (path : Path) :
    s.CycleFree barred path := by
  have hrank : ∀ p q, TransGen (s.Includes barred) p q → rank q < rank p := by
    intro p q hchain
    induction hchain with
    | single hnext => exact hdown _ _ hnext
    | tail _ hnext ih => exact Nat.lt_trans (hdown _ _ hnext) ih
  exact fun q _ hcycle => Nat.lt_irrefl _ (hrank q q hcycle)

theorem acyclic_of_rank (file : Option String) (lines : List Line) (rank : Path → Nat) (top : Nat)
    (htop : ∀ path, s.rootPath file = some path → top ≤ rank path)
    (hincluded : ∀ r ∈ s.resolutionsIn (s.rootDirectory file) lines, rank r.file < top)
    (hdown : ∀ path next, s.Includes [] path next → rank next < rank path) :
    s.Acyclic file lines ∧
      ∀ path, s.rootPath file = some path → ¬s.Reaches file lines path := by
  have hreached : ∀ path, s.Reaches file lines path → rank path < top := by
    intro path hreach
    induction hreach with
    | included hr => exact hincluded _ hr
    | through _ _ readable hr ih =>
      have hlt := hdown _ _ (includes_of_mem List.not_mem_nil readable hr)
      omega
  have hroot : ∀ path, s.rootPath file = some path → ¬s.Reaches file lines path := by
    intro path hpath hreach
    have hlt := hreached path hreach
    have hle := htop path hpath
    omega
  exact ⟨⟨fun path hpath hreach => absurd hreach (hroot path hpath),
    fun path _ => (cycleFree_of_rank rank hdown path).not_back⟩, hroot⟩

/-- Two modules that include a third one, and a file that is no text. -/
def sharedModule : ModuleSource where
  disk :=
    { workingDirectory := { names := ["w"], isEntryName_of_mem := isEntryName_w }
      directories := [["w"]]
      files := [(["w", "a.pgy"], "include c.C\nclass A {}".toUTF8.toList),
        (["w", "b.pgy"], "include c\ninclude d\nclass B {}".toUTF8.toList),
        (["w", "c.pgy"], "class C {}\nclass".toUTF8.toList),
        (["w", "blob.pgy"], [0])] }
  search := ⟨"/lib", ".pgy"⟩
  maxLines := 100

/-- The text comes first, then the two modules, then what they include. -/
def sharedRank (path : Path) : Nat :=
  if path.names = ["w", "main.pgy"] then 2
  else if path.names = ["w", "a.pgy"] ∨ path.names = ["w", "b.pgy"] then 1
  else 0

theorem sharedRank_lt {path next : Path} (h : sharedModule.Includes barred path next) :
    sharedRank next < sharedRank path := by
  obtain ⟨-, moduleLines, hlines, r, hr, rfl⟩ := h
  have hall := sharedModule.of_moduleLines? (P := fun path moduleLines =>
    (sharedModule.resolutionsIn path.parent moduleLines).all
      fun r => sharedRank r.file < sharedRank path) (by decide +kernel) hlines
  simpa using List.all_eq_true.mp hall r hr

/-- A text that includes the two modules and the file that is none. -/
def sharedLines : List Line :=
  Line.ofSource "include a\ninclude b.B\ninclude blob".toList

theorem outline_sharedModule :
    (sharedModule.Acyclic (some "main.pgy") sharedLines ∧
      (∀ path, sharedModule.rootPath (some "main.pgy") = some path →
        ¬sharedModule.Reaches (some "main.pgy") sharedLines path) ∧
      sharedModule.depth ≤ sharedModule.depth) ∧
    (sharedModule.outline true (some "main.pgy") sharedLines {}).1 =
      sharedModule.outlineAnew sharedModule.depth true (some "main.pgy") sharedLines := by
  obtain ⟨hacyclic, hroot⟩ := sharedModule.acyclic_of_rank (some "main.pgy") sharedLines
    sharedRank 2 (by decide +kernel) (by decide +kernel) (fun _ _ h => sharedRank_lt h)
  exact ⟨⟨hacyclic, hroot, Nat.le_refl _⟩,
    outline_eq_outlineAnew hacyclic hroot true (Nat.le_refl _)⟩

/-- A file that is no text, on whose path a text is drawn up that includes it. -/
def unreadableSelf : ModuleSource where
  disk :=
    { workingDirectory := { names := ["w"], isEntryName_of_mem := isEntryName_w }
      directories := [["w"]]
      files := [(["w", "main.pgy"], [0])] }
  search := ⟨"/lib", ".pgy"⟩
  maxLines := 100

/-- The file of the text counts as in progress even if it cannot be read, and then no edge leads
back to it, so without the second condition the two readings differ. -/
theorem outline_ne_outlineAnew_unreadableSelf :
    unreadableSelf.Acyclic (some "main.pgy") (Line.ofSource "include main".toList) ∧
      (unreadableSelf.outline true (some "main.pgy")
        (Line.ofSource "include main".toList) {}).1.diagnostics.map (·.code) = [] ∧
      (unreadableSelf.outlineAnew unreadableSelf.depth true (some "main.pgy")
        (Line.ofSource "include main".toList)).diagnostics.map (·.code) = [.fileAccessError] := by
  have hnone : ∀ path, unreadableSelf.moduleLines? path = none := by
    intro path
    refine Option.eq_none_iff_forall_ne_some.mpr fun moduleLines hlines => ?_
    have hfalse := unreadableSelf.of_moduleLines? (P := fun _ _ => false) (by decide +kernel) hlines
    exact Bool.false_ne_true hfalse
  refine ⟨⟨fun path _ _ => hnone path, fun path _ hcycle => ?_⟩, by decide +kernel,
    by decide +kernel⟩
  obtain ⟨_, ⟨_, moduleLines, hlines, _⟩, _⟩ := TransGen.head'_iff.mp hcycle
  rw [hnone] at hlines
  cases hlines

end ModuleSource

end ScriptLint
