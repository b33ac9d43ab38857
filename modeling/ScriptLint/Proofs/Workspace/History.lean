import ScriptLint.Proofs.Workspace.Keys

/-! What a session has analysed. Every analysis that comes to its end is an update of its document,
and so is the closing of a document. The workspace holds what the latest update of each document
says, whatever became of the files meanwhile and whichever calls ended with an error. -/
namespace ScriptLint

/-- The error that a call ended with. -/
def WorkspaceAnswer.error? : WorkspaceAnswer → Option SourceError
  | .analysis (.error e) => some e
  | .count (.error e) => some e
  | _ => none

namespace Workspace

/-- The analyses of the documents of the given keys, one after the other, up to the first whose text
is not to be had. -/
def refreshed (w : Workspace) (disk : Disk) : List String → List (String × Option Analysis)
  | [] => []
  | key :: keys =>
    match w.source disk key with
    | .error _ => []
    | .ok text => (key, some (analyze disk w.config (some key) text)) :: w.refreshed disk keys

/-- The updates that a call makes: the analyses that it completes, and the closing of a document. -/
def updates (w : Workspace) (disk : Disk) : WorkspaceCall → List (String × Option Analysis)
  | .openDocument path text =>
    match w.analyse disk path text with
    | .error _ => []
    | .ok a => [(documentKey disk path, some a)]
  | .change path text =>
    [(documentKey disk path, some (analyze disk w.config (some path) text))]
  | .close path => [(documentKey disk path, none)]
  | .reconfigure config =>
    ({ w with config := config } : Workspace).refreshed disk (w.documents.map (·.1))
  | .refreshAll => w.refreshed disk (w.documents.map (·.1))
  | _ => []

/-- The updates that the calls make, in the order of the calls. -/
def history (w : Workspace) : List (Disk × WorkspaceCall) → List (String × Option Analysis)
  | [] => []
  | (disk, call) :: more => w.updates disk call ++ (call.run w disk).2.history more

variable {w : Workspace} {disk : Disk} {key path : String} {call : WorkspaceCall}

theorem refreshed_store (a : Analysis) (keys : List String) :
    (w.store key a).refreshed disk keys = w.refreshed disk keys := by
  induction keys with
  | nil => rfl
  | cons other keys ih =>
    rw [refreshed, refreshed, source_store, ih]
    rfl

/-- Analysing documents again makes the updates and touches nothing else of the workspace. -/
theorem refreshEach_snd (w : Workspace) (disk : Disk) (keys : List String) :
    (w.refreshEach disk keys).2 =
      { w with documents := replay w.documents (w.refreshed disk keys) } := by
  induction keys generalizing w with
  | nil => rfl
  | cons key keys ih =>
    rw [refreshEach, refresh_key_eq, refreshed]
    cases w.source disk key with
    | error e => rfl
    | ok text =>
      let a := analyze disk w.config (some key) text
      -- An analysis that is kept changes no text, so the others are made as without it.
      calc ((w.store key a).refreshEach disk keys).2
          = { w.store key a with
              documents := replay (w.store key a).documents
                ((w.store key a).refreshed disk keys) } := ih _
        _ = { w with
              documents := replay w.documents ((key, some a) :: w.refreshed disk keys) } := by
          rw [refreshed_store]
          rfl

/-- A call makes its updates and no other change of the documents. -/
theorem documents_run (w : Workspace) (disk : Disk) (call : WorkspaceCall) :
    (call.run w disk).2.documents = replay w.documents (w.updates disk call) := by
  cases call with
  | openDocument path text =>
    rw [WorkspaceCall.run, openDocument_eq, updates]
    cases w.analyse disk path text <;> rfl
  | change path text => rfl
  | close path => rfl
  | reconfigure config =>
    exact congrArg Workspace.documents (refreshEach_snd { w with config := config } disk _)
  | refreshAll => exact congrArg Workspace.documents (refreshEach_snd w disk _)
  | _ => rfl

theorem documents_after (w : Workspace) (calls : List (Disk × WorkspaceCall)) :
    (w.after calls).documents = replay w.documents (w.history calls) := by
  induction calls generalizing w with
  | nil => rfl
  | cons made calls ih =>
    rw [after, ih, documents_run, history, replay_append]

/-- A call with an error neither opens nor closes a document. -/
theorem keys_run_of_error {e : SourceError} (h : (call.run w disk).1.error? = some e) :
    (call.run w disk).2.documents.map (·.1) = w.documents.map (·.1) := by
  cases call with
  | openDocument path text =>
    rw [WorkspaceCall.run, openDocument_eq] at h ⊢
    cases hread : w.analyse disk path text with
    | error e => rfl
    | ok a =>
      rw [hread] at h
      cases h
  | reconfigure config => exact keys_refreshAll { w with config := config } disk
  | refreshAll => exact keys_refreshAll w disk
  | _ => cases h

theorem isSome_of_mem_refreshed {keys : List String} {update : String × Option Analysis}
    (h : update ∈ w.refreshed disk keys) : update.2.isSome := by
  induction keys with
  | nil => exact (List.not_mem_nil h).elim
  | cons key keys ih =>
    rw [refreshed] at h
    split at h
    · exact (List.not_mem_nil h).elim
    · rcases List.mem_cons.mp h with rfl | h
      · rfl
      · exact ih h

/-- Nothing but closing takes a document away, and closing has no error. -/
theorem isSome_of_mem_updates {e : SourceError} (herror : (call.run w disk).1.error? = some e)
    {update : String × Option Analysis} (h : update ∈ w.updates disk call) : update.2.isSome := by
  cases call with
  | openDocument path text =>
    rw [updates] at h
    split at h
    · exact (List.not_mem_nil h).elim
    · rw [List.mem_singleton.mp h]
      rfl
  | reconfigure config => exact isSome_of_mem_refreshed h
  | refreshAll => exact isSome_of_mem_refreshed h
  | _ => cases herror

/-- After a call with an error a document holds what it held before, unless the call completed an
analysis of it. -/
theorem lookup_run_of_error {e : SourceError} (h : (call.run w disk).1.error? = some e)
    (key : String) :
    (call.run w disk).2.documents.lookup key = w.documents.lookup key ∨
      ∃ a, (key, some a) ∈ w.updates disk call ∧
        (call.run w disk).2.documents.lookup key = some a := by
  rw [documents_run, lookup_replay]
  cases hlookup : (w.updates disk call).reverse.lookup key with
  | none => exact .inl rfl
  | some change =>
    obtain ⟨front, back, hsplit, -⟩ := List.lookup_eq_some_iff.mp hlookup
    have hmem : (key, change) ∈ w.updates disk call := by
      rw [← List.mem_reverse, hsplit]
      simp
    -- The latest update cannot be that the document is closed.
    obtain ⟨a, rfl⟩ := Option.isSome_iff_exists.mp (isSome_of_mem_updates h hmem)
    exact .inr ⟨a, hmem, rfl⟩

/-- A call about one document leaves the others and their order as they are. -/
theorem removeEntry_run (h : call.opened? = some path ∨ call = .close path) :
    removeEntry (call.run w disk).2.documents (documentKey disk path) =
      removeEntry w.documents (documentKey disk path) := by
  rw [documents_run]
  rcases h with h | rfl
  · cases call with
    | openDocument path text =>
      cases h
      rw [updates]
      split
      · rfl
      · exact removeEntry_setEntry _ _ _
    | change path text =>
      cases h
      exact removeEntry_setEntry _ _ _
    | _ => cases h
  · show removeEntry (removeEntry w.documents (documentKey disk path)) _ = _
    rw [removeEntry, removeEntry, List.filter_filter]
    simp only [Bool.and_self]

theorem keys_prefix_run (h : call.opened? = some path) :
    w.documents.map (·.1) <+: (call.run w disk).2.documents.map (·.1) := by
  rw [documents_run]
  cases call with
  | openDocument path text =>
    rw [updates]
    split
    · exact List.prefix_refl _
    · exact keys_prefix_setEntry _ _ _
  | change path text => exact keys_prefix_setEntry _ _ _
  | _ => cases h

/-- In every session a path finds the analysis of its document that was completed last, unless the
document was closed after it. A call that ends with an error takes no document away, and changes
the analyses only of those documents whose analysis it completed. Opening, changing and closing a
document leave the analyses of the others and their order as they are, and a document that is
opened comes behind them. -/
theorem get?_eq_latest? (config : Config) (calls : List (Disk × WorkspaceCall)) :
    let w := after { config := config } calls
    (∀ disk path, w.get? disk path =
        latest? (history { config := config } calls) (documentKey disk path)) ∧
      (∀ (disk : Disk) (call : WorkspaceCall) e, (call.run w disk).1.error? = some e →
        (call.run w disk).2.documents.map (·.1) = w.documents.map (·.1) ∧
          ∀ key, (call.run w disk).2.documents.lookup key = w.documents.lookup key ∨
            ∃ a, (key, some a) ∈ w.updates disk call ∧
              (call.run w disk).2.documents.lookup key = some a) ∧
      ∀ (disk : Disk) (call : WorkspaceCall) path, call.opened? = some path ∨ call = .close path →
        removeEntry (call.run w disk).2.documents (documentKey disk path) =
            removeEntry w.documents (documentKey disk path) ∧
          (call.opened? = some path →
            w.documents.map (·.1) <+: (call.run w disk).2.documents.map (·.1)) := by
  intro w
  refine ⟨fun disk path => ?_, fun disk call e herror => ?_, fun disk call path h => ?_⟩
  · calc w.get? disk path
        = (replay [] (history { config := config } calls)).lookup (documentKey disk path) := by
          rw [get?, documents_after]
      _ = latest? (history { config := config } calls) (documentKey disk path) :=
          lookup_replay_nil _ _
  · exact ⟨keys_run_of_error herror, lookup_run_of_error herror⟩
  · exact ⟨removeEntry_run h, keys_prefix_run⟩

end Workspace

end ScriptLint
