import ScriptLint.Proofs.Path.Text
import ScriptLint.Proofs.Workspace.Entries

/-! A session: what an editor asks of a workspace, one call after the other, each on the disk as it
is at that moment. What every session keeps is that a key stands for one document, that the text of
a document is only remembered as long as it is open, and that there is a path to each key. -/
namespace ScriptLint

/-- A call of a workspace. -/
inductive WorkspaceCall where
  | openDocument (path : String) (text : Option (List Char))
  | change (path : String) (text : List Char)
  | close (path : String)
  | reconfigure (config : Config)
  | refreshAll
  | get (path : String)
  | symbols (path : String)
  | diagnostics (path : String)
  | isOpen (path : String)
  | openDocuments

/-- What a call gives back. -/
inductive WorkspaceAnswer where
  | analysis (result : Except SourceError Analysis)
  | count (result : Except SourceError Nat)
  | flag (value : Bool)
  | found (analysis : Option Analysis)
  | table (table : Option SymbolTable)
  | findings (diagnostics : List Diagnostic)
  | keys (keys : List String)

/-- Makes a call. The queries leave the workspace as it is. -/
def WorkspaceCall.run (w : Workspace) (disk : Disk) : WorkspaceCall → WorkspaceAnswer × Workspace
  | .openDocument path text => (w.openDocument disk path text).map .analysis id
  | .change path text => (w.change disk path text).map (.analysis ∘ .ok) id
  | .close path => (w.close disk path).map .flag id
  | .reconfigure config => (w.reconfigure disk config).map .count id
  | .refreshAll => (w.refreshAll disk).map .count id
  | .get path => (.found (w.get? disk path), w)
  | .symbols path => (.table ((w.get? disk path).map (·.table)), w)
  | .diagnostics path => (.findings (((w.get? disk path).map (·.diagnostics)).getD []), w)
  | .isOpen path => (.flag (w.isOpen disk path), w)
  | .openDocuments => (.keys w.openDocuments, w)

namespace Workspace

/-- The workspace after calls, each with the disk that it meets. -/
def after (w : Workspace) : List (Disk × WorkspaceCall) → Workspace
  | [] => w
  | (disk, call) :: more => (call.run w disk).2.after more

/-- The answers to calls. -/
def answers (w : Workspace) : List (Disk × WorkspaceCall) → List WorkspaceAnswer
  | [] => []
  | (disk, call) :: more => (call.run w disk).1 :: (call.run w disk).2.answers more

/-- A workspace that calls have made of a new one. -/
inductive Reachable : Workspace → Prop
  | start (config : Config) : Reachable { config := config }
  | call {w : Workspace} (h : w.Reachable) (disk : Disk) (call : WorkspaceCall) :
      Reachable (call.run w disk).2

/-- The text that is remembered for a document. -/
def text? (w : Workspace) (key : String) : Option (List Char) :=
  (w.texts.lookup key).join

/-- Where the text of a document comes from: it is remembered, or else it is on the disk. -/
def source (w : Workspace) (disk : Disk) (key : String) : Except SourceError (List Char) :=
  match w.text? key with
  | some text => .ok text
  | none => disk.readSource key w.config.maxLines

variable {w v : Workspace} {disk : Disk} {key other path : String} {a : Analysis}
  {text : Option (List Char)}

theorem answers_append (w : Workspace) (calls more : List (Disk × WorkspaceCall)) :
    w.answers (calls ++ more) = w.answers calls ++ (w.after calls).answers more := by
  induction calls generalizing w with
  | nil => rfl
  | cons call calls ih => exact congrArg _ (ih (call.2.run w call.1).2)

@[simp] theorem text?_store : (w.store key a).text? other = w.text? other := rfl

theorem text?_remember :
    (w.remember key text).text? other = if other = key then text else w.text? other := by
  simp only [text?, remember, lookup_setEntry]
  split <;> rfl

theorem text?_close :
    (w.close disk path).2.text? other =
      if other = documentKey disk path then none else w.text? other := by
  simp only [text?, close, lookup_removeEntry]
  split <;> rfl

@[simp] theorem source_store : (w.store key a).source disk other = w.source disk other := rfl

theorem refresh_key_eq :
    w.refresh disk key key ((w.texts.lookup key).join) =
      match w.source disk key with
      | .error e => (.error e, w)
      | .ok text =>
        (.ok (analyze disk w.config (some key) text),
          w.store key (analyze disk w.config (some key) text)) := by
  unfold refresh analyse source text?
  cases (w.texts.lookup key).join with
  | some text => rfl
  | none =>
    rw [analyzeFile]
    cases disk.readSource key w.config.maxLines <;> rfl

theorem openDocument_eq :
    w.openDocument disk path text =
      match w.analyse disk path text with
      | .error e => (.error e, w.remember (documentKey disk path) text)
      | .ok a =>
        (.ok a, (w.remember (documentKey disk path) text).store (documentKey disk path) a) := by
  cases text <;> rfl

/-- All open documents are analysed again in their order. -/
theorem refreshAll_eq (w : Workspace) (disk : Disk) :
    w.refreshAll disk =
      ((w.refreshEach disk (w.documents.map (·.1))).1.map fun _ =>
          (w.refreshEach disk (w.documents.map (·.1))).2.documents.length,
        (w.refreshEach disk (w.documents.map (·.1))).2) :=
  rfl

/-- The key of the document at some path, whatever the disk. -/
def IsDocumentKey (key : String) : Prop :=
  ∃ path, ∀ disk, documentKey disk path = key

/-- The text of a normal path means the same from every working directory. -/
theorem isDocumentKey_documentKey (disk : Disk) (path : String) :
    IsDocumentKey (documentKey disk path) := by
  refine ⟨(disk.absolute path).toText, fun later => ?_⟩
  have habsolute : later.absolute (disk.absolute path).toText = disk.absolute path :=
    Path.resolve_toText _ _
  rw [documentKey, habsolute, documentKey]

/-- What every call keeps. -/
structure WellKept (w : Workspace) : Prop where
  nodup : (w.documents.map (·.1)).Nodup
  isDocumentKey : ∀ key ∈ w.documents.map (·.1), IsDocumentKey key
  isOpen_of_text : ∀ key text, w.text? key = some text → key ∈ w.documents.map (·.1)

namespace WellKept

theorem start (config : Config) : WellKept { config := config } where
  nodup := List.nodup_nil
  isDocumentKey := by simp
  isOpen_of_text _ _ h := by cases h

theorem withConfig (h : w.WellKept) (config : Config) : { w with config := config }.WellKept :=
  ⟨h.nodup, h.isDocumentKey, h.isOpen_of_text⟩

theorem store (h : w.WellKept) (hkey : IsDocumentKey key) : (w.store key a).WellKept where
  nodup := nodup_keys_setEntry _ _ _ h.nodup
  isDocumentKey other hother := by
    rcases (mem_keys_setEntry _ _ _ _).mp hother with rfl | hother
    · exact hkey
    · exact h.isDocumentKey other hother
  isOpen_of_text other text htext :=
    (mem_keys_setEntry _ _ _ _).mpr (.inr (h.isOpen_of_text other text htext))

theorem remember_store (h : w.WellKept) (hkey : IsDocumentKey key) :
    ((w.remember key text).store key a).WellKept where
  nodup := (h.store hkey).nodup
  isDocumentKey := (h.store hkey).isDocumentKey
  isOpen_of_text other t ht := by
    apply (mem_keys_setEntry _ _ _ _).mpr
    -- The document whose text is new is opened by the same call.
    by_cases hother : other = key
    · exact .inl hother
    · rw [text?_store, text?_remember, if_neg hother] at ht
      exact .inr (h.isOpen_of_text other t ht)

theorem remember_none (h : w.WellKept) : (w.remember key none).WellKept where
  nodup := h.nodup
  isDocumentKey := h.isDocumentKey
  isOpen_of_text other t ht := by
    rw [text?_remember] at ht
    split at ht
    · cases ht
    · exact h.isOpen_of_text other t ht

theorem openDocument (h : w.WellKept) : (w.openDocument disk path text).2.WellKept := by
  have hkey := isDocumentKey_documentKey disk path
  rw [openDocument_eq]
  cases text with
  | some text => exact h.remember_store hkey
  | none =>
    cases w.analyse disk path none with
    | error e => exact h.remember_none
    | ok a => exact h.remember_store hkey

theorem close (h : w.WellKept) : (w.close disk path).2.WellKept := by
  have hkeys : (w.close disk path).2.documents.map (·.1) =
      (w.documents.map (·.1)).filter (· ≠ documentKey disk path) := keys_removeEntry _ _
  constructor
  · rw [hkeys]
    exact h.nodup.filter _
  · intro other hother
    rw [hkeys] at hother
    exact h.isDocumentKey other (List.mem_of_mem_filter hother)
  · intro other t ht
    rw [text?_close] at ht
    split at ht
    · cases ht
    · next hother =>
      rw [hkeys]
      exact List.mem_filter.mpr ⟨h.isOpen_of_text other t ht, decide_eq_true hother⟩

theorem refreshEach (h : w.WellKept) (keys : List String)
    (hkeys : ∀ key ∈ keys, IsDocumentKey key) : (w.refreshEach disk keys).2.WellKept := by
  induction keys generalizing w with
  | nil => exact h
  | cons key keys ih =>
    rw [Workspace.refreshEach, refresh_key_eq]
    cases w.source disk key with
    | error e => exact h
    | ok text =>
      exact ih (h.store (hkeys key List.mem_cons_self)) fun other hother =>
        hkeys other (List.mem_cons_of_mem key hother)

theorem refreshAll (h : w.WellKept) : (w.refreshAll disk).2.WellKept :=
  h.refreshEach _ h.isDocumentKey

theorem run (h : w.WellKept) (disk : Disk) (call : WorkspaceCall) :
    (call.run w disk).2.WellKept := by
  cases call with
  | openDocument path text => exact h.openDocument
  | change path text => exact h.remember_store (isDocumentKey_documentKey disk path)
  | close path => exact h.close
  | reconfigure config => exact (h.withConfig config).refreshAll
  | refreshAll => exact h.refreshAll
  | _ => exact h

theorem after (h : w.WellKept) (calls : List (Disk × WorkspaceCall)) :
    (w.after calls).WellKept := by
  induction calls generalizing w with
  | nil => exact h
  | cons made calls ih => exact ih (h.run made.1 made.2)

end WellKept

theorem Reachable.wellKept (h : w.Reachable) : w.WellKept := by
  induction h with
  | start config => exact .start config
  | call _ disk call ih => exact ih.run disk call

end Workspace

end ScriptLint
