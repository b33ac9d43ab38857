import ScriptLint.Proofs.Analysis.Parts
import ScriptLint.Proofs.Workspace.Session

/-! How far a change of the configuration gets. The open documents are analysed again in the order
in which they were opened, up to the first one without a text. Those before it hold what the new
configuration gives; it and those behind it hold what they held before. -/
namespace ScriptLint.Workspace

variable {w : Workspace} {disk : Disk}

/-- The new entry is the old document as it is analysed now. -/
def Renewed (w : Workspace) (disk : Disk) (old new : String × Analysis) : Prop :=
  new.1 = old.1 ∧ ∃ text, w.source disk old.1 = .ok text ∧
    new.2 = analyze disk w.config (some old.1) text

/-- Where the analysis of documents ends: behind the last one, or at the first one that has no
text. -/
def Stopped (w : Workspace) (disk : Disk) (outcome : Except SourceError Unit) :
    List (String × Analysis) → Prop
  | [] => outcome = .ok ()
  | first :: _ => ∃ e, w.source disk first.1 = .error e ∧ outcome = .error e

/-- One after the other, the documents that are still to be analysed are replaced where they stand.
Those that are finished are not touched again, since no key is there twice. -/
theorem refreshEach_parts (finished todo : List (String × Analysis))
    (h : w.documents = finished ++ todo) (hkeys : (w.documents.map (·.1)).Nodup) :
    ∃ before fresh behind, todo = before ++ behind ∧
      (w.refreshEach disk (todo.map (·.1))).2 =
        { w with documents := finished ++ fresh ++ behind } ∧
      List.Forall₂ (w.Renewed disk) before fresh ∧
      w.Stopped disk (w.refreshEach disk (todo.map (·.1))).1 behind := by
  induction todo generalizing w finished with
  | nil =>
    refine ⟨[], [], [], rfl, ?_, .nil, rfl⟩
    rw [List.append_nil, ← h]
    rfl
  | cons first more ih =>
    rw [List.map_cons, refreshEach, refresh_key_eq]
    cases hsource : w.source disk first.1 with
    | error e =>
      refine ⟨[], [], first :: more, rfl, ?_, .nil, e, hsource, rfl⟩
      rw [List.append_nil, ← h]
    | ok text =>
      let a := analyze disk w.config (some first.1) text
      -- The new analysis takes the place of the old one, so the others are still to be done.
      have hstore : (w.store first.1 a).documents = finished ++ [(first.1, a)] ++ more := by
        have hmiddle : w.documents = finished ++ (first.1, first.2) :: more := h
        rw [hmiddle] at hkeys
        rw [store, hmiddle, setEntry_middle _ _ hkeys, List.append_assoc]
        rfl
      have hnodup : ((w.store first.1 a).documents.map (·.1)).Nodup :=
        nodup_keys_setEntry _ _ _ hkeys
      obtain ⟨before, fresh, behind, hmore, hlater, hfresh, hstopped⟩ := ih _ hstore hnodup
      refine ⟨first :: before, (first.1, a) :: fresh, behind, ?_, ?_, ?_, ?_⟩
      · rw [hmore, List.cons_append]
      · rw [hlater]
        simp [store]
      · exact .cons ⟨rfl, text, hsource, rfl⟩ hfresh
      · cases behind <;> exact hstopped

/-- After a change of the configuration, with an error or without one, the configuration is the new
one and the remembered texts are the old ones. The documents in front hold what their texts give
under the new configuration. If there is no error, these are all; otherwise the next document is the
one that could not be read, and from it on the documents hold what they held before. -/
theorem reconfigure_parts (hw : w.Reachable) (disk : Disk) (config : Config) :
    let outcome := (w.reconfigure disk config).1
    let later := (w.reconfigure disk config).2
    later.config = config ∧ later.texts = w.texts ∧
      ∃ before fresh behind, w.documents = before ++ behind ∧
        later.documents = fresh ++ behind ∧
        List.Forall₂ (later.Renewed disk) before fresh ∧
        match behind with
        | [] => outcome = .ok later.documents.length
        | first :: _ => ∃ e, later.source disk first.1 = .error e ∧ outcome = .error e := by
  intro outcome later
  let renamed : Workspace := { w with config := config }
  obtain ⟨before, fresh, behind, hdocuments, hparts, hfresh, hstopped⟩ :=
    @refreshEach_parts renamed disk [] renamed.documents rfl
      (hw.wellKept.withConfig config).nodup
  have hlater : later = { renamed with documents := fresh ++ behind } := hparts
  have houtcome : outcome =
      (renamed.refreshEach disk (renamed.documents.map (·.1))).1.map
        fun _ => later.documents.length := rfl
  rw [houtcome, hlater]
  refine ⟨rfl, rfl, before, fresh, behind, hdocuments, rfl, hfresh, ?_⟩
  cases behind with
  | nil => exact congrArg _ hstopped
  | cons first more =>
    obtain ⟨e, hsource, hfailed⟩ := hstopped
    exact ⟨e, hsource, congrArg _ hfailed⟩

/-- A configuration with a library. -/
def withLibrary : Config :=
  { Config.bare with libraryDir := ⟨"/", ["lib"]⟩ }

/-- A library with one module. -/
def libraryDisk : Disk :=
  { Disk.bare with
    directories := [["lib"]]
    files := [(["lib", "m.pgy"], "class M \x7b\x7d".toUTF8.toList)] }

/-- Two documents, the first one on the disk and the second one with a text of its own, which
includes a module. -/
def twoDocuments : Workspace :=
  let saved : Disk := { Disk.bare with files := [(["a.pgy"], [])] }
  ((openDocument { config := .bare } saved "/a.pgy" none).2.change saved "/b.pgy"
    "include m".toList).2

theorem reachable_twoDocuments : twoDocuments.Reachable :=
  let saved : Disk := { Disk.bare with files := [(["a.pgy"], [])] }
  .call (.call (.start .bare) saved (.openDocument "/a.pgy" none)) saved
    (.change "/b.pgy" "include m".toList)

theorem reconfigure_parts_twoDocuments :
    let outcome := (twoDocuments.reconfigure libraryDisk withLibrary).1
    let later := (twoDocuments.reconfigure libraryDisk withLibrary).2
    twoDocuments.Reachable ∧ later.config = withLibrary ∧ later.texts = twoDocuments.texts ∧
      ∃ before fresh behind, twoDocuments.documents = before ++ behind ∧
        later.documents = fresh ++ behind ∧
        List.Forall₂ (later.Renewed libraryDisk) before fresh ∧
        match behind with
        | [] => outcome = .ok later.documents.length
        | first :: _ => ∃ e, later.source libraryDisk first.1 = .error e ∧ outcome = .error e :=
  ⟨reachable_twoDocuments, reconfigure_parts reachable_twoDocuments libraryDisk withLibrary⟩

/-- The first document is gone, so the second one keeps the finding that its module is missing,
although it is there under the new configuration. -/
theorem reconfigure_twoDocuments :
    let later := (twoDocuments.reconfigure libraryDisk withLibrary).2
    twoDocuments.Reachable ∧
      (twoDocuments.reconfigure libraryDisk withLibrary).1 = .error (.notFound "/a.pgy") ∧
      later.config.libraryDir.toText = "/lib" ∧
      later.text? "/b.pgy" = some "include m".toList ∧
      (later.get? libraryDisk "/b.pgy").map (fun a => a.diagnostics.map (·.code)) =
        some [.unresolvedInclude] ∧
      (analyze libraryDisk withLibrary (some "/b.pgy") "include m".toList).diagnostics = [] :=
  ⟨reachable_twoDocuments, by decide +kernel, by decide +kernel, by decide +kernel,
    by decide +kernel, by decide +kernel⟩

end ScriptLint.Workspace
