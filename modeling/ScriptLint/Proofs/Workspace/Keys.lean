import ScriptLint.Proofs.Analysis.Parts
import ScriptLint.Proofs.Workspace.Session

/-! The keys of open documents, taken as paths. A key is the text of a normal path with slashes in
the place of its backslashes. So it is not always the text of a normal path itself: a slash that
was put in can stand next to dots or to another slash. A document can be asked for by its own key
exactly if that did not happen. -/
namespace ScriptLint

variable {disk : Disk} {key path : String}

theorem toList_documentKey (disk : Disk) (path : String) :
    (documentKey disk path).toList =
      (disk.absolute path).toText.toList.map fun c => if c = '\\' then '/' else c :=
  String.toList_ofList

theorem backslash_notMem_documentKey (disk : Disk) (path : String) :
    '\\' ∉ (documentKey disk path).toList := by
  rw [toList_documentKey, List.mem_map]
  rintro ⟨c, -, hc⟩
  split at hc
  · exact absurd hc (by decide)
  · contradiction

theorem documentKey_of_notMem (h : '\\' ∉ (disk.absolute path).toText.toList) :
    documentKey disk path = (disk.absolute path).toText := by
  apply String.toList_inj.mp
  rw [toList_documentKey, List.map_congr_left (g := id), List.map_id]
  intro c hc
  have hne : c ≠ '\\' := fun heq => h (heq ▸ hc)
  exact if_neg hne

theorem leadingSlashes_documentKey (disk : Disk) (path : String) :
    Path.leadingSlashes (documentKey disk path) ≠ 0 := by
  rw [Path.leadingSlashes, toList_documentKey, Path.toList_toText]
  cases (disk.absolute path).doubled <;> simp

/-- A text without a backslash is its own key if it is the text of a normal path, and not
otherwise. The disk does not matter. -/
theorem documentKey_eq_self_iff (hkey : '\\' ∉ key.toList) :
    documentKey disk key = key ↔ ∃ p : Path, p.toText = key := by
  constructor
  · intro h
    have habsolute : Path.leadingSlashes key ≠ 0 := h ▸ leadingSlashes_documentKey disk key
    -- Normalising an absolute text brings no character into it.
    have hnormal : '\\' ∉ (disk.absolute key).toText.toList := by
      intro hmem
      obtain ⟨name, hname, hin⟩ := Path.exists_mem_names_of_mem_toText hmem (by decide)
      have hcomponent := Path.mem_components_of_mem_resolve habsolute hname
      exact hkey (Path.mem_of_mem_components hcomponent hin)
    exact ⟨disk.absolute key, (documentKey_of_notMem hnormal).symm.trans h⟩
  · rintro ⟨p, rfl⟩
    have habsolute : disk.absolute p.toText = p := Path.resolve_toText _ _
    rw [← habsolute] at hkey
    rw [documentKey_of_notMem hkey, habsolute]

/-- The path whose document a call opens, or opens again. -/
def WorkspaceCall.opened? : WorkspaceCall → Option String
  | .openDocument path _ => some path
  | .change path _ => some path
  | _ => none

namespace Workspace

variable {w : Workspace} {keys : List String}

/-- No document comes or goes while open documents are analysed again. -/
theorem keys_refreshEach (h : keys ⊆ w.documents.map (·.1)) :
    (w.refreshEach disk keys).2.documents.map (·.1) = w.documents.map (·.1) := by
  induction keys generalizing w with
  | nil => rfl
  | cons key keys ih =>
    rw [List.cons_subset] at h
    rw [refreshEach, refresh_key_eq]
    cases w.source disk key with
    | error e => rfl
    | ok text =>
      let a := analyze disk w.config (some key) text
      have hstore : (w.store key a).documents.map (·.1) = w.documents.map (·.1) := by
        rw [store, keys_setEntry, if_pos h.1]
      exact (ih (hstore ▸ h.2)).trans hstore

theorem keys_refreshAll (w : Workspace) (disk : Disk) :
    (w.refreshAll disk).2.documents.map (·.1) = w.documents.map (·.1) :=
  keys_refreshEach (List.Subset.refl _)

/-- A document is open because it was open before or because the call opens it. -/
theorem mem_keys_run {call : WorkspaceCall} (h : key ∈ (call.run w disk).2.documents.map (·.1)) :
    key ∈ w.documents.map (·.1) ∨
      ∃ path, call.opened? = some path ∧ documentKey disk path = key := by
  have hstored {path : String} {a : Analysis}
      (hmem : key ∈ (setEntry w.documents (documentKey disk path) a).map (·.1)) :
      key ∈ w.documents.map (·.1) ∨ documentKey disk path = key :=
    ((mem_keys_setEntry _ _ _ _).mp hmem).symm.imp_right Eq.symm
  cases call with
  | openDocument path text =>
    rw [WorkspaceCall.run, openDocument_eq] at h
    cases hread : w.analyse disk path text with
    | error e =>
      rw [hread] at h
      exact .inl h
    | ok a =>
      rw [hread] at h
      exact (hstored h).imp_right fun heq => ⟨path, rfl, heq⟩
  | change path text => exact (hstored h).imp_right fun heq => ⟨path, rfl, heq⟩
  | close path =>
    have hclose : key ∈ (removeEntry w.documents (documentKey disk path)).map (·.1) := h
    rw [keys_removeEntry] at hclose
    exact .inl (List.mem_of_mem_filter hclose)
  | reconfigure config =>
    exact .inl ((keys_refreshAll { w with config := config } disk) ▸ h)
  | refreshAll => exact .inl ((keys_refreshAll w disk) ▸ h)
  | _ => exact .inl h

theorem mem_keys_after {calls : List (Disk × WorkspaceCall)}
    (h : key ∈ (w.after calls).documents.map (·.1)) :
    key ∈ w.documents.map (·.1) ∨ ∃ made ∈ calls, ∃ path, made.2.opened? = some path ∧
      documentKey made.1 path = key := by
  induction calls generalizing w with
  | nil => exact .inl h
  | cons call calls ih =>
    rcases ih h with h | ⟨made, hmade, hpath⟩
    · exact (mem_keys_run h).imp_right fun hpath => ⟨call, List.mem_cons_self, hpath⟩
    · exact .inr ⟨made, List.mem_cons_of_mem call hmade, hpath⟩

theorem mem_openDocuments_iff : key ∈ w.openDocuments ↔ key ∈ w.documents.map (·.1) := by
  rw [openDocuments, Text.sort, List.mem_mergeSort]

/-- The key finds the document that it stands for: it is open, its analysis is the one that is
kept, and closing it takes away what is kept under this key and nothing else. -/
structure Addressable (w : Workspace) (disk : Disk) (key : String) : Prop where
  isOpen : w.isOpen disk key = true
  get? : w.get? disk key = w.documents.lookup key
  close : w.close disk key = (true, { w with
    documents := removeEntry w.documents key
    texts := removeEntry w.texts key })

/-- The key of an open document finds it if and only if it is its own key. -/
theorem addressable_iff_documentKey_eq (h : key ∈ w.documents.map (·.1)) :
    w.Addressable disk key ↔ documentKey disk key = key := by
  constructor
  · intro haddress
    by_contra hne
    -- Otherwise closing leaves the entry there.
    have hclosed : removeEntry w.documents (documentKey disk key) = removeEntry w.documents key :=
      congrArg (·.2.documents) haddress.close
    have hkeys := congrArg (List.map (·.1)) hclosed
    rw [keys_removeEntry, keys_removeEntry] at hkeys
    have hleft : key ∈ (w.documents.map (·.1)).filter (· ≠ documentKey disk key) :=
      List.mem_filter.mpr ⟨h, decide_eq_true (Ne.symm hne)⟩
    rw [hkeys, List.mem_filter] at hleft
    exact of_decide_eq_true hleft.2 rfl
  · intro hkey
    refine ⟨?_, ?_, ?_⟩
    · rw [isOpen, get?, hkey, isSome_lookup_iff]
      exact h
    · rw [get?, hkey]
    · rw [close, hkey, (any_key_iff w.documents key).mpr h]

/-- In every session the key of an open document finds it, on whatever disk, if and only if the key
is the text of a normal path, and then it is its own key. A key comes from a path that was opened,
and is the text of a normal path at least if there is no backslash in what this path means. -/
theorem addressable_iff (config : Config) (calls : List (Disk × WorkspaceCall))
    (h : key ∈ (after { config := config } calls).openDocuments) :
    (∀ disk, (after { config := config } calls).Addressable disk key ↔
        ∃ p : Path, p.toText = key) ∧
      (∀ disk, documentKey disk key = key ↔ ∃ p : Path, p.toText = key) ∧
      ∃ made ∈ calls, ∃ path, made.2.opened? = some path ∧ documentKey made.1 path = key ∧
        ('\\' ∉ (made.1.absolute path).toText.toList → ∃ p : Path, p.toText = key) := by
  have hopen := mem_openDocuments_iff.mp h
  obtain ⟨made, hmade, path, hpath, rfl⟩ := (mem_keys_after hopen).resolve_left List.not_mem_nil
  have hself (disk : Disk) := @documentKey_eq_self_iff disk (documentKey made.1 path)
    (backslash_notMem_documentKey made.1 path)
  refine ⟨fun disk => ?_, hself, made, hmade, path, hpath, rfl, fun hslash => ?_⟩
  · exact (addressable_iff_documentKey_eq hopen).trans (hself disk)
  · exact ⟨made.1.absolute path, (documentKey_of_notMem hslash).symm⟩

/-- A session that opens one document. -/
def openedAt (path : String) : List (Disk × WorkspaceCall) :=
  [(Disk.bare, .openDocument path (some []))]

/-- A backslash between two names does no harm. -/
theorem addressable_iff_openedAt :
    let w := after { config := .bare } (openedAt "a\\b.pgy")
    "/home/a/b.pgy" ∈ w.openDocuments ∧
      (∀ disk, w.Addressable disk "/home/a/b.pgy" ↔ ∃ p : Path, p.toText = "/home/a/b.pgy") ∧
      (∀ disk, documentKey disk "/home/a/b.pgy" = "/home/a/b.pgy" ↔
        ∃ p : Path, p.toText = "/home/a/b.pgy") ∧
      ∃ made ∈ openedAt "a\\b.pgy", ∃ path, made.2.opened? = some path ∧
        documentKey made.1 path = "/home/a/b.pgy" ∧
          ('\\' ∉ (made.1.absolute path).toText.toList → ∃ p : Path, p.toText = "/home/a/b.pgy") :=
  have h : "/home/a/b.pgy" ∈ (after { config := .bare } (openedAt "a\\b.pgy")).openDocuments := by
    decide +kernel
  ⟨h, addressable_iff .bare (openedAt "a\\b.pgy") h⟩

/-- With dots between two backslashes the document is open, and its key finds nothing. -/
theorem not_addressable_openedAt :
    let w := after { config := .bare } (openedAt "/w/a\\..\\b.pgy")
    w.openDocuments = ["/w/a/../b.pgy"] ∧
      documentKey Disk.bare "/w/a/../b.pgy" = "/w/b.pgy" ∧
      w.isOpen Disk.bare "/w/a/../b.pgy" = false ∧
      (w.get? Disk.bare "/w/a/../b.pgy").isNone ∧
      (w.close Disk.bare "/w/a/../b.pgy").1 = false ∧
      (w.close Disk.bare "/w/a/../b.pgy").2.openDocuments = ["/w/a/../b.pgy"] := by
  decide +kernel

end Workspace

end ScriptLint
