import Mathlib.Data.List.Nodup
import ScriptLint.Proofs.Module.Closure
import ScriptLint.Proofs.Outline.Lockstep

/-! The calls for modules that are made while a text is drawn up. Each of them is recorded with the
files that are in progress at that moment. What has been begun is always what is finished and what
is in progress, so a module counts as in progress exactly if it is, and no module is read twice. -/
namespace ScriptLint

/-- A call for a module. -/
structure Call where
  /-- The files in progress, each included by the next one, with the file that calls in front. -/
  inProgress : List Path
  /-- The module that is asked for. -/
  path : Path
  /-- What is known when the module is asked for. -/
  before : Pass
  /-- The answer. -/
  reply : ModuleReply
  /-- Whether the file was read for it, and could be read. -/
  wasRead : Bool
  /-- What is known with the answer. -/
  after : Pass

namespace ModuleSource

/-- The answer for a module as `load` makes it, with a record of this call behind those of the calls
that were made meanwhile. -/
def record (s : ModuleSource) (depth : Nat) (inProgress : List Path) (path : Path)
    (known : Pass × List Call) : ModuleReply × (Pass × List Call) :=
  let enter (wasRead : Bool) (reply : ModuleReply) (later : Pass × List Call) :=
    (reply, later.1, later.2 ++ [⟨inProgress, path, known.1, reply, wasRead, later.1⟩])
  match known.1.finished.lookup path.toText with
  | some o => enter false (.outline o) known
  | none =>
    if known.1.visited.contains path.toText then enter false .inProgress known
    else
      match s.disk.readSource path.toText s.maxLines with
      | .error e => enter false (.unreadable e) known
      | .ok text =>
        match depth with
        | 0 => enter true .inProgress known
        | depth + 1 =>
          let made := Outline.ofLines s.search s.disk (s.record depth (path :: inProgress))
            ⟨some path.toText, path.parent.toText, false⟩ (Line.ofSource text)
            (known.1.visit path.toText, known.2)
          enter true (.outline made.1) (made.2.1.finish path.toText made.1, made.2.2)

variable (s : ModuleSource)

/-- The files in progress while the include lines of a text are followed: its own, if it has one. -/
def rootProgress (file : Option String) : List Path :=
  (s.rootPath file).toList

/-- What is known before the first line of a text. -/
def rootPass (file : Option String) : Pass :=
  (s.rootPath file).elim {} fun path => ({} : Pass).visit path.toText

/-- Before the first line of a text nothing is finished. -/
@[simp] theorem rootPass_finished (file : Option String) : (s.rootPass file).finished = [] := by
  unfold rootPass
  cases s.rootPath file <;> rfl

/-- What a text is drawn up as. -/
def rootOrigin (isRoot : Bool) (file : Option String) : Origin :=
  ⟨(s.rootPath file).elim file fun path => some path.toText, (s.rootDirectory file).toText, isRoot⟩

/-- The outline of a text with the calls for modules that it took. -/
def recordedOutline (isRoot : Bool) (file : Option String) (lines : List Line) :
    Outline × (Pass × List Call) :=
  Outline.ofLines s.search s.disk (s.record s.depth (s.rootProgress file))
    (s.rootOrigin isRoot file) lines (s.rootPass file, [])

end ModuleSource

/-- The files begun are those that are finished and those in progress, and none of them twice. -/
structure Pass.Guarded (p : Pass) (inProgress : List Path) : Prop where
  visited_perm : p.visited.Perm (p.finishedFiles ++ inProgress.map Path.toText)
  visited_nodup : p.visited.Nodup

/-- What holds of every call: the files begun are those finished and those in progress; a module
counts as in progress exactly if it is, so never when it is finished; and a module that cannot be
read changes nothing. -/
structure Call.Sound (s : ModuleSource) (c : Call) : Prop where
  answers : (c.reply, c.after) = s.answer c.path c.before
  guarded : c.before.Guarded c.inProgress
  inProgress_iff : c.reply = .inProgress ↔ c.path ∈ c.inProgress
  of_finished : ∀ o, (c.path.toText, o) ∈ c.before.finished →
    c.reply = .outline o ∧ c.after = c.before
  of_unreadable : ∀ e, c.reply = .unreadable e → c.after = c.before
  wasRead_iff : c.wasRead = true ↔
    c.path.toText ∉ c.before.visited ∧ (s.moduleLines? c.path).isSome

namespace Pass.Guarded

variable {p later : Pass} {inProgress : List Path} {path : Path}

theorem nodup_append (h : p.Guarded inProgress) :
    (p.finishedFiles ++ inProgress.map Path.toText).Nodup :=
  h.visited_perm.nodup h.visited_nodup

theorem mem_visited_iff (h : p.Guarded inProgress) :
    path.toText ∈ p.visited ↔ path.toText ∈ p.finishedFiles ∨ path ∈ inProgress := by
  rw [h.visited_perm.mem_iff, List.mem_append, List.mem_map_of_injective Path.toText_injective]

/-- A file in progress is not finished. -/
theorem not_mem_finishedFiles (h : p.Guarded inProgress) (hpath : path ∈ inProgress) :
    path.toText ∉ p.finishedFiles := by
  intro hfinished
  exact List.disjoint_of_nodup_append h.nodup_append hfinished (List.mem_map_of_mem hpath)

theorem visit (h : p.Guarded inProgress) (hpath : path.toText ∉ p.visited) :
    (p.visit path.toText).Guarded (path :: inProgress) := by
  have hvisit : (p.visit path.toText).visited = p.visited ++ [path.toText] := by
    unfold Pass.visit
    rw [if_neg (by simpa using hpath)]
  refine ⟨?_, ?_⟩
  · rw [hvisit, Pass.finishedFiles_visit, List.map_cons]
    exact (List.perm_append_singleton _ _).trans
      ((h.visited_perm.cons _).trans List.perm_middle.symm)
  · rw [hvisit]
    exact h.visited_nodup.append (List.nodup_singleton _) (by simpa using hpath)

/-- The innermost file in progress is finished. -/
theorem finish (h : p.Guarded (path :: inProgress)) (o : Outline) :
    (p.finish path.toText o).Guarded inProgress := by
  refine ⟨?_, h.visited_nodup⟩
  rw [Pass.finishedFiles_finish, List.append_assoc]
  exact h.visited_perm

/-- As long as the same files are in progress, nothing that was begun is forgotten. -/
theorem visited_subset (h : p.Guarded inProgress) (hlater : later.Guarded inProgress)
    (hfinished : p.finishedFiles ⊆ later.finishedFiles) : p.visited ⊆ later.visited := by
  intro t ht
  rw [h.visited_perm.mem_iff, List.mem_append] at ht
  rw [hlater.visited_perm.mem_iff, List.mem_append]
  exact ht.imp_left fun ht => hfinished ht

/-- No file is finished with two outlines. -/
theorem eq_of_mem_finished (h : p.Guarded inProgress) {t : String} {o o' : Outline}
    (ho : (t, o) ∈ p.finished) (ho' : (t, o') ∈ p.finished) : o = o' := by
  have hnodup : (p.finished.map (·.1)).Nodup := h.nodup_append.of_append_left
  exact congrArg Prod.snd (List.inj_on_of_nodup_map hnodup ho ho' rfl)

end Pass.Guarded

theorem Pass.not_mem_finishedFiles_of_lookup {p : Pass} {t : String}
    (h : p.finished.lookup t = none) : t ∉ p.finishedFiles := by
  intro ht
  obtain ⟨entry, hentry, rfl⟩ := List.mem_map.mp ht
  simpa using List.lookup_eq_none_iff.mp h entry hentry

namespace ModuleSource

variable {s : ModuleSource}

/-- The files that were read in the given calls. -/
def readFiles (calls : List Call) : List String :=
  (calls.filter (·.wasRead)).map (·.path.toText)

/-- For each of the modules that are asked for there is a call, made while the given files are in
progress. -/
def Asked (inProgress : List Path) (asked : List Resolution) (log : List Call) : Prop :=
  ∀ r ∈ asked, ∃ c ∈ log, c.inProgress = inProgress ∧ c.path = r.file

theorem Asked.mono {inProgress : List Path} {asked : List Resolution} {log more : List Call}
    (h : Asked inProgress asked log) (hsub : log ⊆ more) : Asked inProgress asked more := by
  intro r hr
  obtain ⟨c, hc, hcall⟩ := h r hr
  exact ⟨c, hsub hc, hcall⟩

/-- If the call was for a file that was read, there is one for each module that an include line of
that file names. -/
def Followed (s : ModuleSource) (c : Call) (log : List Call) : Prop :=
  c.wasRead = true → ∀ moduleLines, s.moduleLines? c.path = some moduleLines →
    Asked (c.path :: c.inProgress) (s.resolutionsIn c.path.parent moduleLines) log

theorem Followed.mono {c : Call} {log more : List Call} (h : s.Followed c log)
    (hsub : log ⊆ more) : s.Followed c more :=
  fun hread moduleLines hlines => (h hread moduleLines hlines).mono hsub

section Logs

variable {load : Path → Pass × List Call → ModuleReply × (Pass × List Call)}
  {inProgress : List Path}

/-- Each answer keeps the calls that were recorded before and records one more. -/
structure Logs (load : Path → Pass × List Call → ModuleReply × (Pass × List Call))
    (inProgress : List Path) : Prop where
  keeps : ∀ path known, known.2 ⊆ (load path known).2.2
  enters : ∀ path known, ∃ c ∈ (load path known).2.2, c.inProgress = inProgress ∧ c.path = path

/-- All that lines ask for is recorded. -/
theorem Logs.ofLines (h : Logs load inProgress) (search : ModuleSearch) (disk : Disk)
    (origin : Origin) (lines : List Line) (known : Pass × List Call) :
    let made := Outline.ofLines search disk load origin lines known
    known.2 ⊆ made.2.2 ∧
      Asked inProgress (resolutions search disk origin.directory lines) made.2.2 := by
  -- The log only grows, so what one line had recorded is still there behind the last one.
  have hfold : ∀ (asked : List Resolution) (start : Imports × (Pass × List Call)),
      start.2.2 ⊆ (asked.foldl (Imports.bring load) start).2.2 ∧
        Asked inProgress asked (asked.foldl (Imports.bring load) start).2.2 := by
    intro asked
    induction asked with
    | nil => exact fun start => ⟨List.Subset.refl _, List.forall_mem_nil _⟩
    | cons r asked ih =>
      intro start
      obtain ⟨hkept, hasked⟩ := ih (Imports.bring load start r)
      obtain ⟨c, hc, hcall⟩ := h.enters r.file start.2
      refine ⟨fun c' hc' => hkept (h.keeps r.file start.2 hc'), ?_⟩
      exact List.forall_mem_cons.mpr ⟨⟨c, hkept hc, hcall⟩, hasked⟩
  have hstate := congrArg Prod.snd
    (Outline.ofLines_imports_state search disk load origin lines known)
  dsimp only at hstate ⊢
  rw [hstate]
  exact hfold _ ({}, known)

/-- Every answer is recorded, whatever it is. The induction is on the depth. -/
theorem logs_record (s : ModuleSource) (depth : Nat) (inProgress : List Path) :
    Logs (s.record depth inProgress) inProgress := by
  have hlast : ∀ (log : List Call) (c : Call), c ∈ log ++ [c] :=
    fun log c => List.mem_append_right _ (List.mem_singleton_self c)
  -- The call itself is recorded behind those that were made meanwhile.
  have hboth : ∀ path known, known.2 ⊆ (s.record depth inProgress path known).2.2 ∧
      ∃ c ∈ (s.record depth inProgress path known).2.2, c.inProgress = inProgress ∧
        c.path = path := by
    induction depth using Nat.strongRecOn generalizing inProgress with
    | ind depth ih =>
      intro path known
      rw [record]
      split
      · exact ⟨List.subset_append_left _ _, _, hlast _ _, rfl, rfl⟩
      · split
        · exact ⟨List.subset_append_left _ _, _, hlast _ _, rfl, rfl⟩
        · split
          · exact ⟨List.subset_append_left _ _, _, hlast _ _, rfl, rfl⟩
          · next text _ =>
            split
            · exact ⟨List.subset_append_left _ _, _, hlast _ _, rfl, rfl⟩
            · next depth =>
              have hinner := ih depth (Nat.lt_succ_self depth) (path :: inProgress)
              have hlogs : Logs (s.record depth (path :: inProgress)) (path :: inProgress) :=
                ⟨fun path' known' => (hinner path' known').1,
                  fun path' known' => (hinner path' known').2⟩
              obtain ⟨hkept, -⟩ := hlogs.ofLines s.search s.disk
                ⟨some path.toText, path.parent.toText, false⟩ (Line.ofSource text)
                (known.1.visit path.toText, known.2)
              exact ⟨List.subset_append_of_subset_left _ hkept, _, hlast _ _, rfl, rfl⟩
  exact ⟨fun path known => (hboth path known).1, fun path known => (hboth path known).2⟩

end Logs

/-- The given calls were recorded between two moments at which the same files are in progress. -/
structure Recorded (s : ModuleSource) (inProgress : List Path) (before later : Pass × List Call)
    (calls : List Call) : Prop where
  log : later.2 = before.2 ++ calls
  guarded : later.1.Guarded inProgress
  sound : ∀ c ∈ calls, c.Sound s
  followed : ∀ c ∈ calls, s.Followed c later.2
  finished : later.1.finishedFiles = before.1.finishedFiles ++ readFiles calls

namespace Recorded

variable {inProgress : List Path} {before known later : Pass × List Call}
  {calls calls' : List Call}

theorem nil (h : before.1.Guarded inProgress) : s.Recorded inProgress before before [] :=
  ⟨(List.append_nil _).symm, h, List.forall_mem_nil _, List.forall_mem_nil _,
    (List.append_nil _).symm⟩

theorem append (h : s.Recorded inProgress before known calls)
    (h' : s.Recorded inProgress known later calls') :
    s.Recorded inProgress before later (calls ++ calls') where
  log := by rw [h'.log, h.log, List.append_assoc]
  guarded := h'.guarded
  sound c hc := (List.mem_append.mp hc).elim (h.sound c) (h'.sound c)
  followed c hc := by
    rcases List.mem_append.mp hc with hc | hc
    · refine (h.followed c hc).mono ?_
      rw [h'.log]
      exact List.subset_append_left _ _
    · exact h'.followed c hc
  finished := by
    rw [h'.finished, h.finished, readFiles, readFiles, readFiles, List.filter_append,
      List.map_append, List.append_assoc]

theorem visited_subset (h : s.Recorded inProgress before later calls)
    (hbefore : before.1.Guarded inProgress) : before.1.visited ⊆ later.1.visited := by
  refine hbefore.visited_subset h.guarded ?_
  rw [h.finished]
  exact List.subset_append_left _ _

/-- One more call, for which nothing was read. -/
theorem enter (h : before.1.Guarded inProgress) {c : Call} (hc : c.Sound s)
    (hread : c.wasRead = false) :
    s.Recorded inProgress before (before.1, before.2 ++ [c]) [c] where
  log := rfl
  guarded := h
  sound c' hc' := by
    rw [List.mem_singleton.mp hc']
    exact hc
  followed c' hc' hread' := by
    rw [List.mem_singleton.mp hc', hread] at hread'
    cases hread'
  finished := by simp [readFiles, hread]

/-- A file was read, and the calls made for it come before its own. -/
theorem finish {path : Path} {o : Outline}
    (h : s.Recorded (path :: inProgress) (before.1.visit path.toText, before.2) later calls)
    {c : Call} (hc : c.Sound s) (hpath : c.path = path) (hread : c.wasRead = true)
    (hfollowed : s.Followed c later.2) :
    s.Recorded inProgress before (later.1.finish path.toText o, later.2 ++ [c])
      (calls ++ [c]) where
  log := by rw [h.log, List.append_assoc]
  guarded := h.guarded.finish o
  sound c' hc' := by
    rcases List.mem_append.mp hc' with hc' | hc'
    · exact h.sound c' hc'
    · rw [List.mem_singleton.mp hc']
      exact hc
  followed c' hc' := by
    rcases List.mem_append.mp hc' with hc' | hc'
    · exact (h.followed c' hc').mono (List.subset_append_left _ _)
    · rw [List.mem_singleton.mp hc']
      exact hfollowed.mono (List.subset_append_left _ _)
  finished := by
    have hlater : later.1.finishedFiles = before.1.finishedFiles ++ readFiles calls := by
      have hinner := h.finished
      rwa [Pass.finishedFiles_visit] at hinner
    rw [Pass.finishedFiles_finish, hlater, readFiles, readFiles, List.filter_append, List.map_append,
      List.append_assoc]
    simp [hread, hpath]

end Recorded

/-- What a recorded answer has to be: the answer, with a sound record of the calls. -/
def Records (s : ModuleSource) (depth : Nat) (inProgress : List Path) (path : Path)
    (known : Pass × List Call) : Prop :=
  ((s.record depth inProgress path known).1, (s.record depth inProgress path known).2.1) =
      s.answer path known.1 ∧
    ∃ calls, s.Recorded inProgress known (s.record depth inProgress path known).2 calls

/-- An outline with recorded answers is the outline, and all its calls are recorded. -/
theorem recorded_ofLines {depth : Nat} {inProgress : List Path} {start : Pass × List Call}
    (hrecords : ∀ path known, known.1.Guarded inProgress → s.unread known.1 ≤ depth →
      s.Records depth inProgress path known)
    (hg : start.1.Guarded inProgress) (hd : s.unread start.1 ≤ depth) (origin : Origin)
    (lines : List Line) :
    let made := Outline.ofLines s.search s.disk (s.record depth inProgress) origin lines start
    (made.1, made.2.1) = Outline.ofLines s.search s.disk s.answer origin lines start.1 ∧
      ∃ calls, s.Recorded inProgress start made.2 calls := by
  have hstart : s.Recorded inProgress start start [] := Recorded.nil hg
  have hload : ∀ r ∈ resolutions s.search s.disk origin.directory lines, ∀ pass known,
      (known.1 = pass ∧ ∃ calls, s.Recorded inProgress start known calls) →
      (s.record depth inProgress r.file known).1 = (s.answer r.file pass).1 ∧
        (s.record depth inProgress r.file known).2.1 = (s.answer r.file pass).2 ∧
          ∃ calls, s.Recorded inProgress start (s.record depth inProgress r.file known).2
            calls := by
    rintro r - pass known ⟨rfl, calls, hcalls⟩
    -- What was begun is not taken back, so the depth is still enough.
    have hle : s.unread known.1 ≤ depth :=
      Nat.le_trans (s.unread_le_of_visited_subset (hcalls.visited_subset hg)) hd
    obtain ⟨heq, calls', hcalls'⟩ := hrecords r.file known hcalls.guarded hle
    exact ⟨congrArg Prod.fst heq, congrArg Prod.snd heq, _, hcalls.append hcalls'⟩
  obtain ⟨hmade, hlater, hcalls⟩ := Outline.ofLines_lockstep
    (fun pass known => known.1 = pass ∧ ∃ calls, s.Recorded inProgress start known calls)
    hload ⟨rfl, [], hstart⟩
  exact ⟨Prod.ext hmade hlater, hcalls⟩

/-- A recorded answer is the answer, and the record is sound. The induction is on the depth, which
all unread paths fit into, so that no file that could be read is left unread. -/
theorem records (depth : Nat) (inProgress : List Path) (path : Path) (known : Pass × List Call)
    (hg : known.1.Guarded inProgress) (hd : s.unread known.1 ≤ depth) :
    s.Records depth inProgress path known := by
  unfold Records
  induction depth using Nat.strongRecOn generalizing inProgress path known with
  | ind depth ih =>
    have hnone : known.1.finished.lookup path.toText = none →
        ∀ o, (path.toText, o) ∉ known.1.finished := fun hlookup o ho =>
      Pass.not_mem_finishedFiles_of_lookup hlookup (List.mem_map_of_mem ho)
    have hnew_notIn : path.toText ∉ known.1.visited → path ∉ inProgress := fun hnew hin =>
      hnew (hg.mem_visited_iff.mpr (Or.inr hin))
    have hcase := s.answer_cases path known.1
    generalize hanswer : s.answer path known.1 = result at hcase ⊢
    rw [record]
    cases hcase with
    | @finished o hlookup =>
      have hmem := Pass.mem_finished_of_lookup hlookup
      rw [hlookup]
      refine ⟨rfl, _, Recorded.enter hg ⟨hanswer.symm, hg, ?_, ?_, fun _ _ => rfl, ?_⟩ rfl⟩
      · exact iff_of_false ModuleReply.noConfusion fun hin =>
          hg.not_mem_finishedFiles hin (List.mem_map_of_mem hmem)
      · intro o' ho'
        exact ⟨congrArg _ (hg.eq_of_mem_finished hmem ho'), rfl⟩
      · refine iff_of_false Bool.false_ne_true fun h => h.1 ?_
        exact hg.mem_visited_iff.mpr (Or.inl (List.mem_map_of_mem hmem))
    | begun hlookup hvisited =>
      have hin : path ∈ inProgress := (hg.mem_visited_iff.mp hvisited).resolve_left
        (Pass.not_mem_finishedFiles_of_lookup hlookup)
      simp only [hlookup, List.contains_eq_mem, hvisited, decide_true, ↓reduceIte]
      refine ⟨trivial, _, Recorded.enter hg ⟨hanswer.symm, hg, iff_of_true rfl hin,
        fun o ho => (hnone hlookup o ho).elim, fun _ _ => rfl, ?_⟩ rfl⟩
      exact iff_of_false Bool.false_ne_true fun h => h.1 hvisited
    | unreadable hlookup hnew hread =>
      simp only [hlookup, List.contains_eq_mem, hnew, decide_false, Bool.false_eq_true,
        ↓reduceIte, hread]
      refine ⟨trivial, _, Recorded.enter hg ⟨hanswer.symm, hg,
        iff_of_false ModuleReply.noConfusion (hnew_notIn hnew),
        fun o ho => (hnone hlookup o ho).elim, fun _ _ => rfl, ?_⟩ rfl⟩
      refine iff_of_false Bool.false_ne_true fun h => ?_
      simp [moduleLines?_of_error hread] at h
    | @read text hlookup hnew hread =>
      simp only [hlookup, List.contains_eq_mem, hnew, decide_false, Bool.false_eq_true,
        ↓reduceIte, hread]
      have hlt := s.unread_lt_of_visited_subset hread hnew
        (List.Subset.refl (known.1.visit path.toText).visited)
      cases depth with
      | zero => omega
      | succ depth =>
        have hguarded : (known.1.visit path.toText, known.2).1.Guarded (path :: inProgress) :=
          hg.visit hnew
        have hunread : s.unread (known.1.visit path.toText, known.2).1 ≤ depth := by
          dsimp only
          omega
        obtain ⟨hmade, calls, hcalls⟩ := recorded_ofLines
          (fun path' known' => ih depth (Nat.lt_succ_self depth) _ path' known') hguarded hunread
          ⟨some path.toText, path.parent.toText, false⟩ (Line.ofSource text)
        -- The outline that was drawn up with recorded answers is the one that reading gives.
        have hreadModule : s.readModule s.answer path (Line.ofSource text) known.1 = _ :=
          congrArg (fun made : Outline × Pass =>
            (ModuleReply.outline made.1, made.2.finish path.toText made.1)) hmade.symm
        rw [hreadModule] at hanswer ⊢
        refine ⟨rfl, _, hcalls.finish ⟨hanswer.symm, hg,
          iff_of_false ModuleReply.noConfusion (hnew_notIn hnew),
          fun o ho => (hnone hlookup o ho).elim, fun _ he => ModuleReply.noConfusion he, ?_⟩
          rfl rfl ?_⟩
        · refine iff_of_true rfl ⟨hnew, ?_⟩
          simp [moduleLines?_of_ok hread]
        · -- The lines that were followed are those of the file, since it was read for this call.
          intro _ moduleLines hlines
          obtain rfl : Line.ofSource text = moduleLines := by
            rw [moduleLines?_of_ok hread] at hlines
            exact Option.some.inj hlines
          have hasked := (logs_record s depth (path :: inProgress)).ofLines s.search s.disk
            ⟨some path.toText, path.parent.toText, false⟩ (Line.ofSource text)
            (known.1.visit path.toText, known.2)
          exact hasked.2

theorem outline_eq_rootPass (isRoot : Bool) (file : Option String) (lines : List Line) :
    s.outline isRoot file lines {} = Outline.ofLines s.search s.disk s.answer
      (s.rootOrigin isRoot file) lines (s.rootPass file) :=
  s.outline_eq isRoot file lines {}

/-- Before the first line of a text only the text itself has been begun. -/
theorem guarded_rootPass (file : Option String) :
    (s.rootPass file).Guarded (s.rootProgress file) := by
  unfold rootPass rootProgress
  cases s.rootPath file with
  | none => exact ⟨List.Perm.refl _, List.nodup_nil⟩
  | some path => exact ⟨List.Perm.refl _, List.nodup_singleton _⟩

variable (s) in
/-- All calls are in the log: one for each module that an include line of the text names, and one
for each that an include line names of a file that was read. What is finished was read for one of
the calls, in their order. -/
structure LogComplete (file : Option String) (lines : List Line) (run : Pass × List Call) :
    Prop where
  asked : Asked (s.rootProgress file) (s.resolutionsIn (s.rootDirectory file) lines) run.2
  followed : ∀ c ∈ run.2, s.Followed c run.2
  finished : run.1.finishedFiles = readFiles run.2

section Run

variable (s) (isRoot : Bool) (file : Option String) (lines : List Line)

theorem exists_recorded_recordedOutline :
    let run := s.recordedOutline isRoot file lines
    (run.1, run.2.1) = s.outline isRoot file lines {} ∧
      s.Recorded (s.rootProgress file) (s.rootPass file, []) run.2 run.2.2 := by
  have hstart : (s.rootPass file, ([] : List Call)).1.Guarded (s.rootProgress file) :=
    guarded_rootPass file
  obtain ⟨hmade, calls, hcalls⟩ := recorded_ofLines
    (fun path known => records s.depth _ path known) hstart (s.unread_le_depth _)
    (s.rootOrigin isRoot file) lines
  have hlog : (s.recordedOutline isRoot file lines).2.2 = calls := hcalls.log
  refine ⟨hmade.trans (outline_eq_rootPass isRoot file lines).symm, ?_⟩
  rw [hlog]
  exact hcalls

theorem logComplete_recordedOutline :
    s.LogComplete file lines (s.recordedOutline isRoot file lines).2 := by
  obtain ⟨-, hrecorded⟩ := s.exists_recorded_recordedOutline isRoot file lines
  refine ⟨?_, hrecorded.followed, ?_⟩
  · have hasked := (logs_record s s.depth (s.rootProgress file)).ofLines s.search s.disk
      (s.rootOrigin isRoot file) lines (s.rootPass file, [])
    exact hasked.2
  · have hfinished := hrecorded.finished
    rwa [Pass.finishedFiles, Pass.finishedFiles, rootPass_finished, List.map_nil,
      List.nil_append] at hfinished

/-- While a text is drawn up, the files begun are at every call those finished and those in
progress. So a module counts as in progress exactly if it is, each file is read once at most, and at
the end everything is finished but the text itself. These are all the calls that there are, and what
is finished are the files that were read for them. -/
theorem calls_sound :
    let run := s.recordedOutline isRoot file lines
    (run.1, run.2.1) = s.outline isRoot file lines {} ∧
      (∀ c ∈ run.2.2, c.Sound s) ∧
      s.LogComplete file lines run.2 ∧
      (readFiles run.2.2).Nodup ∧
      run.2.1.Guarded (s.rootProgress file) := by
  obtain ⟨hmade, hrecorded⟩ := s.exists_recorded_recordedOutline isRoot file lines
  have hcomplete := s.logComplete_recordedOutline isRoot file lines
  refine ⟨hmade, hrecorded.sound, hcomplete, ?_, hrecorded.guarded⟩
  -- The files that were read are those that were finished, in the same order.
  rw [← hcomplete.finished]
  exact hrecorded.guarded.nodup_append.of_append_left

end Run

/-- Two modules that include each other: the inner call for the first one meets it in progress, and
the file of each is read once. -/
theorem calls_sound_mutualModules :
    let run := mutualModules.recordedOutline true (some "main.pgy")
      (Line.ofSource "include a\ninclude b".toList)
    run.2.2.map (fun c => (c.path.toText, c.inProgress.length, c.wasRead)) =
        [("/w/a.pgy", 3, false), ("/w/b.pgy", 2, true), ("/w/a.pgy", 1, true),
          ("/w/b.pgy", 1, false)] ∧
      (∀ c ∈ run.2.2, c.Sound mutualModules) ∧
      run.2.1.finishedFiles = ["/w/b.pgy", "/w/a.pgy"] := by
  intro run
  have hlog : run.2.2.map (fun c => (c.path.toText, c.inProgress.length, c.wasRead)) =
      [("/w/a.pgy", 3, false), ("/w/b.pgy", 2, true), ("/w/a.pgy", 1, true),
        ("/w/b.pgy", 1, false)] := by
    decide +kernel
  have hread : readFiles run.2.2 = ["/w/b.pgy", "/w/a.pgy"] := by
    decide +kernel
  obtain ⟨-, hsound, hcomplete, -, -⟩ := mutualModules.calls_sound true (some "main.pgy")
    (Line.ofSource "include a\ninclude b".toList)
  exact ⟨hlog, hsound, hcomplete.finished.trans hread⟩

end ModuleSource

end ScriptLint
