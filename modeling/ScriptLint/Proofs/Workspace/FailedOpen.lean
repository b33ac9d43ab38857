import ScriptLint.Proofs.Analysis.Parts
import ScriptLint.Proofs.Workspace.Session

/-! What an attempt to open a document leaves behind when the file cannot be read. Two workspaces
with the same configuration, the same analyses and the same remembered texts answer every session
alike. The attempt forgets the text of the document, so it goes unnoticed exactly where there was
none. -/
namespace ScriptLint.Workspace

variable {w v : Workspace} {disk : Disk} {key path : String}

/-- The two workspaces agree on all that an answer can depend on. That a text is to be read from the
disk may be written down in one of them and not in the other. -/
structure Alike (w v : Workspace) : Prop where
  config : w.config = v.config
  documents : w.documents = v.documents
  texts : ∀ key, w.text? key = v.text? key

namespace Alike

theorem withConfig (h : Alike w v) (config : Config) :
    Alike { w with config := config } { v with config := config } :=
  ⟨rfl, h.documents, h.texts⟩

theorem store (h : Alike w v) (key : String) (a : Analysis) :
    Alike (w.store key a) (v.store key a) :=
  ⟨h.config, congrArg (setEntry · key a) h.documents, h.texts⟩

theorem remember (h : Alike w v) (key : String) (text : Option (List Char)) :
    Alike (w.remember key text) (v.remember key text) where
  config := h.config
  documents := h.documents
  texts other := by rw [text?_remember, text?_remember, h.texts]

theorem source (h : Alike w v) (key : String) : w.source disk key = v.source disk key := by
  rw [Workspace.source, Workspace.source, h.texts, h.config]

theorem refresh (h : Alike w v) (disk : Disk) (key path : String) (text : Option (List Char)) :
    (w.refresh disk key path text).1 = (v.refresh disk key path text).1 ∧
      Alike (w.refresh disk key path text).2 (v.refresh disk key path text).2 := by
  have hanalyse : w.analyse disk path text = v.analyse disk path text := by
    cases text <;> rw [analyse, analyse, h.config]
  unfold Workspace.refresh
  rw [hanalyse]
  cases v.analyse disk path text with
  | error e => exact ⟨rfl, h⟩
  | ok a => exact ⟨rfl, h.store key a⟩

theorem refreshEach (h : Alike w v) (disk : Disk) (keys : List String) :
    (w.refreshEach disk keys).1 = (v.refreshEach disk keys).1 ∧
      Alike (w.refreshEach disk keys).2 (v.refreshEach disk keys).2 := by
  induction keys generalizing w v with
  | nil => exact ⟨rfl, h⟩
  | cons key keys ih =>
    rw [Workspace.refreshEach, Workspace.refreshEach, refresh_key_eq, refresh_key_eq, h.source key,
      h.config]
    cases v.source disk key with
    | error e => exact ⟨rfl, h⟩
    | ok text => exact ih (h.store key _)

theorem refreshAll (h : Alike w v) (disk : Disk) :
    (w.refreshAll disk).1 = (v.refreshAll disk).1 ∧
      Alike (w.refreshAll disk).2 (v.refreshAll disk).2 := by
  obtain ⟨houtcome, hlater⟩ := h.refreshEach disk (w.documents.map (·.1))
  have hcount : ∀ result : Except SourceError Unit,
      result.map (fun _ => (w.refreshEach disk (w.documents.map (·.1))).2.documents.length) =
        result.map fun _ => (v.refreshEach disk (w.documents.map (·.1))).2.documents.length :=
    fun result => by rw [hlater.documents]
  rw [refreshAll_eq, refreshAll_eq, ← h.documents]
  exact ⟨(hcount _).trans (congrArg _ houtcome), hlater⟩

theorem close (h : Alike w v) (disk : Disk) (path : String) :
    (w.close disk path).1 = (v.close disk path).1 ∧
      Alike (w.close disk path).2 (v.close disk path).2 := by
  refine ⟨congrArg (List.any · _) h.documents, h.config, ?_, fun other => ?_⟩
  · exact congrArg (removeEntry · _) h.documents
  · rw [text?_close, text?_close, h.texts]

theorem get? (h : Alike w v) (disk : Disk) (path : String) : w.get? disk path = v.get? disk path :=
  congrArg (List.lookup (documentKey disk path)) h.documents

/-- A call has the same answer in both workspaces, and they stay alike. -/
theorem run (h : Alike w v) (disk : Disk) (call : WorkspaceCall) :
    (call.run w disk).1 = (call.run v disk).1 ∧ Alike (call.run w disk).2 (call.run v disk).2 := by
  cases call with
  | openDocument path text =>
    have hopen :=
      (h.remember (documentKey disk path) text).refresh disk (documentKey disk path) path text
    exact ⟨congrArg WorkspaceAnswer.analysis hopen.1, hopen.2⟩
  | change path text =>
    refine ⟨?_, ?_⟩
    · simp only [WorkspaceCall.run, Workspace.change, Prod.map_fst, h.config]
    · simp only [WorkspaceCall.run, Workspace.change, Prod.map_snd, id_eq, h.config]
      exact (h.remember _ _).store _ _
  | close path => exact ⟨congrArg WorkspaceAnswer.flag (h.close disk path).1, (h.close disk path).2⟩
  | reconfigure config =>
    have hrefresh := (h.withConfig config).refreshAll disk
    exact ⟨congrArg WorkspaceAnswer.count hrefresh.1, hrefresh.2⟩
  | refreshAll =>
    exact ⟨congrArg WorkspaceAnswer.count (h.refreshAll disk).1, (h.refreshAll disk).2⟩
  | get path => exact ⟨by simp only [WorkspaceCall.run, h.get?], h⟩
  | symbols path => exact ⟨by simp only [WorkspaceCall.run, h.get?], h⟩
  | diagnostics path => exact ⟨by simp only [WorkspaceCall.run, h.get?], h⟩
  | isOpen path => exact ⟨by simp only [WorkspaceCall.run, isOpen, h.get?], h⟩
  | openDocuments => exact ⟨by simp only [WorkspaceCall.run, openDocuments, h.documents], h⟩

theorem answers (h : Alike w v) (calls : List (Disk × WorkspaceCall)) :
    w.answers calls = v.answers calls := by
  induction calls generalizing w v with
  | nil => rfl
  | cons call calls ih =>
    obtain ⟨hanswer, hnext⟩ := h.run call.1 call.2
    rw [Workspace.answers, Workspace.answers, hanswer, ih hnext]

end Alike

theorem openDocument_failed {e : SourceError} (h : (w.openDocument disk path none).1 = .error e) :
    (w.openDocument disk path none).2 = w.remember (documentKey disk path) none := by
  rw [openDocument_eq] at h ⊢
  cases hread : w.analyse disk path none with
  | error e => rfl
  | ok a =>
    rw [hread] at h
    cases h

theorem refreshEach_ok_iff (w : Workspace) (disk : Disk) (keys : List String) :
    (w.refreshEach disk keys).1 = .ok () ↔
      ∀ key ∈ keys, ∃ text, w.source disk key = .ok text := by
  induction keys generalizing w with
  | nil => simp [refreshEach]
  | cons key keys ih =>
    rw [refreshEach, refresh_key_eq, List.forall_mem_cons]
    cases hsource : w.source disk key with
    | error e => simp
    | ok text => simp [ih]

theorem refreshAll_ok_iff (w : Workspace) (disk : Disk) :
    (∃ count, (w.refreshAll disk).1 = .ok count) ↔
      ∀ key ∈ w.documents.map (·.1), ∃ text, w.source disk key = .ok text := by
  rw [← refreshEach_ok_iff, refreshAll_eq]
  cases (w.refreshEach disk (w.documents.map (·.1))).1 <;> simp [Except.map]

theorem exists_closing (keys : List String) (hkeys : ∀ key ∈ keys, IsDocumentKey key) :
    ∃ calls : List (Disk × WorkspaceCall), ∀ w : Workspace,
      (w.after calls).documents = w.documents.filter (·.1 ∉ keys) ∧
        ∀ key ∉ keys, (w.after calls).text? key = w.text? key := by
  induction keys with
  | nil => exact ⟨[], fun w => ⟨by simp [after], fun key _ => rfl⟩⟩
  | cons key keys ih =>
    obtain ⟨path, hpath⟩ := hkeys key List.mem_cons_self
    obtain ⟨calls, hcalls⟩ := ih fun other hother => hkeys other (List.mem_cons_of_mem key hother)
    refine ⟨(Disk.bare, .close path) :: calls, fun w => ?_⟩
    obtain ⟨hdocuments, htexts⟩ := hcalls (w.close Disk.bare path).2
    constructor
    · calc (w.after ((Disk.bare, .close path) :: calls)).documents
          = (removeEntry w.documents (documentKey Disk.bare path)).filter (·.1 ∉ keys) := hdocuments
        _ = w.documents.filter (·.1 ∉ key :: keys) := by
          rw [hpath, removeEntry, List.filter_filter]
          refine List.filter_congr fun entry _ => ?_
          simp [Bool.and_comm]
    · intro other hother
      rw [List.mem_cons, not_or] at hother
      calc (w.after ((Disk.bare, .close path) :: calls)).text? other
          = (w.close Disk.bare path).2.text? other := htexts other hother.2
        _ = w.text? other := by rw [text?_close, hpath, if_neg hother.1]

theorem follow_ne_file {disk : Disk} (h : disk.files = []) (here components : List String)
    (bytes : List UInt8) (refusal : Option Refusal) :
    disk.follow here components ≠ .ok (.file bytes refusal) := by
  induction components generalizing here with
  | nil => simp [Disk.follow]
  | cons component more ih =>
    unfold Disk.follow
    rw [h, List.lookup_nil]
    split_ifs
    all_goals first | exact ih _ | simp

theorem readSource_bare (path : String) (maxLines : Int) :
    Disk.bare.readSource path maxLines = .error (.notFound path) := by
  have hentry (bytes : List UInt8) (refusal : Option Refusal) :
      Disk.bare.entry path ≠ .ok (.file bytes refusal) := by
    unfold Disk.entry
    split_ifs
    all_goals first | exact follow_ne_file rfl _ _ bytes refusal | simp
  have hbytes : Disk.bare.bytes? path = none := by
    unfold Disk.bytes?
    split
    · next bytes h => exact absurd h (hentry bytes none)
    · rfl
  have hrefusal : Disk.bare.refusal? path = none := by
    unfold Disk.refusal?
    split
    · next bytes refusal h => exact absurd h (hentry bytes refusal)
    · rfl
  rw [Disk.readSource, hbytes, hrefusal]
  rfl

/-- A text that is forgotten is missed in some session: with all other documents closed and all
files gone, only that text is left to be analysed again. -/
theorem exists_answers_remember_ne (hw : w.WellKept) {text : List Char}
    (htext : w.text? key = some text) :
    ∃ calls, (w.remember key none).answers calls ≠ w.answers calls := by
  let others := (w.documents.map (·.1)).filter (· ≠ key)
  have hothers : key ∉ others := by simp [others]
  obtain ⟨calls, hcalls⟩ := exists_closing others fun other hother =>
    hw.isDocumentKey other (List.mem_of_mem_filter hother)
  let kept := w.after calls
  let forgetful := (w.remember key none).after calls
  have hkept : ∃ count, (kept.refreshAll Disk.bare).1 = .ok count := by
    apply (refreshAll_ok_iff kept Disk.bare).mpr
    intro other hother
    -- What is still open is the document itself.
    have hkey : other = key := by
      obtain ⟨entry, hentry, rfl⟩ := List.mem_map.mp hother
      rw [(hcalls w).1] at hentry
      obtain ⟨hentry, hnot⟩ := List.mem_filter.mp hentry
      by_contra hne
      apply of_decide_eq_true hnot
      exact List.mem_filter.mpr ⟨List.mem_map_of_mem hentry, decide_eq_true hne⟩
    refine ⟨text, ?_⟩
    rw [hkey, source, (hcalls w).2 key hothers, htext]
  have hforgetful : ¬∃ count, (forgetful.refreshAll Disk.bare).1 = .ok count := by
    intro hok
    have hopen : key ∈ forgetful.documents.map (·.1) := by
      obtain ⟨entry, hentry, hkey⟩ := List.mem_map.mp (hw.isOpen_of_text key text htext)
      apply List.mem_map.mpr
      refine ⟨entry, ?_, hkey⟩
      rw [(hcalls _).1]
      exact List.mem_filter.mpr ⟨hentry, by simpa [hkey] using hothers⟩
    obtain ⟨found, hfound⟩ := (refreshAll_ok_iff forgetful Disk.bare).mp hok key hopen
    have hnone : forgetful.text? key = none := by
      rw [(hcalls _).2 key hothers, text?_remember, if_pos rfl]
    rw [source, hnone, readSource_bare] at hfound
    cases hfound
  refine ⟨calls ++ [(Disk.bare, .refreshAll)], fun hsame => ?_⟩
  have hanswers : forgetful.answers [(Disk.bare, .refreshAll)] =
      kept.answers [(Disk.bare, .refreshAll)] := by
    rw [answers_append, answers_append] at hsame
    exact (List.append_inj' hsame rfl).2
  have hcount : (forgetful.refreshAll Disk.bare).1 = (kept.refreshAll Disk.bare).1 :=
    WorkspaceAnswer.count.inj (List.cons.inj hanswers).1
  exact hforgetful (hcount ▸ hkept)

/-- An attempt to open a document whose file cannot be read goes unnoticed, whatever is called
afterwards, exactly if no text was remembered for the document. A text that had been given for it is
lost. -/
theorem answers_openDocument_failed_iff (hw : w.Reachable) {e : SourceError}
    (hfailed : (w.openDocument disk path none).1 = .error e) :
    (∀ calls, (w.openDocument disk path none).2.answers calls = w.answers calls) ↔
      w.text? (documentKey disk path) = none := by
  rw [openDocument_failed hfailed]
  constructor
  · intro hsame
    by_contra hgiven
    obtain ⟨text, htext⟩ := Option.ne_none_iff_exists'.mp hgiven
    obtain ⟨calls, hcalls⟩ := exists_answers_remember_ne hw.wellKept htext
    exact hcalls (hsame calls)
  · intro hnone
    apply Alike.answers
    refine ⟨rfl, rfl, fun other => ?_⟩
    rw [text?_remember]
    split
    · next h => rw [h, hnone]
    · rfl

theorem answers_openDocument_failed_first :
    Reachable { config := .bare } ∧
      (openDocument { config := .bare } Disk.bare "/w/a.pgy" none).1 =
        .error (.notFound "/w/a.pgy") ∧
      ((∀ calls, (openDocument { config := .bare } Disk.bare "/w/a.pgy" none).2.answers calls =
        answers { config := .bare } calls) ↔
          text? { config := .bare } (documentKey Disk.bare "/w/a.pgy") = none) :=
  have hreachable := Reachable.start .bare
  have hfailed : (openDocument { config := .bare } Disk.bare "/w/a.pgy" none).1 =
      .error (.notFound "/w/a.pgy") := rfl
  ⟨hreachable, hfailed, answers_openDocument_failed_iff hreachable hfailed⟩

/-- A document with a text of its own, which is not on the disk. -/
def unsaved : Workspace :=
  (change { config := .bare } Disk.bare "/w/a.pgy" "var x int".toList).2

theorem answers_openDocument_unsaved :
    unsaved.Reachable ∧
      (unsaved.openDocument Disk.bare "/w/a.pgy" none).1 = .error (.notFound "/w/a.pgy") ∧
      unsaved.answers [(Disk.bare, .refreshAll)] = [.count (.ok 1)] ∧
      (unsaved.openDocument Disk.bare "/w/a.pgy" none).2.answers [(Disk.bare, .refreshAll)] =
        [.count (.error (.notFound "/w/a.pgy"))] :=
  ⟨.call (.start .bare) Disk.bare (.change "/w/a.pgy" "var x int".toList), by rfl, by rfl, by rfl⟩

end ScriptLint.Workspace
