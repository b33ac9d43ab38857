import ScriptLint.Outline.Exports

/-! The keys of imported symbols. Adding to imports keeps one entry for each key, and what is merged
into them is there afterwards, by its key. -/
namespace ScriptLint

/-- What tells an imported symbol from the others. -/
inductive ImportKey where
  /-- A class, by its name and file. -/
  | ofClass (name file : String)
  /-- A function, by its name, class and file. -/
  | ofFunction (name : String) (owner file : Option String)
  /-- A macro, by its name and file. -/
  | ofMacro (name : String) (file : Option String)
deriving DecidableEq

def ImportedClass.key (c : ImportedClass) : ImportKey := .ofClass c.name c.file

def FunctionDecl.key (f : FunctionDecl) : ImportKey := .ofFunction f.name f.owner f.file

def MacroDecl.key (m : MacroDecl) : ImportKey := .ofMacro m.name m.file

namespace Imports

/-- The keys of all imported symbols. -/
def keys (i : Imports) : List ImportKey :=
  i.classes.map (·.key) ++ i.functions.map (·.key) ++ i.macros.map (·.key)

section Insertion

variable {α : Type} (key : α → ImportKey)

/-- The list with one more entry, unless its key is there. -/
def insertNew (l : List α) (x : α) : List α :=
  if l.any (fun y => key y = key x) then l else l ++ [x]

variable {key}

theorem mem_map_insertNew {l : List α} {x : α} {k : ImportKey} :
    k ∈ (insertNew key l x).map key ↔ k ∈ l.map key ∨ k = key x := by
  unfold insertNew
  split
  · next h =>
    have hx : key x ∈ l.map key := by
      obtain ⟨y, hy, hkey⟩ := List.any_eq_true.mp h
      exact List.mem_map.mpr ⟨y, hy, by simpa using hkey⟩
    exact ⟨Or.inl, fun hk => hk.elim id fun hk => hk ▸ hx⟩
  · simp

theorem nodup_map_insertNew {l : List α} {x : α} (h : (l.map key).Nodup) :
    ((insertNew key l x).map key).Nodup := by
  unfold insertNew
  split
  · exact h
  · next hx =>
    have hnew : key x ∉ l.map key := by
      intro hmem
      obtain ⟨y, hy, hkey⟩ := List.mem_map.mp hmem
      exact hx (List.any_eq_true.mpr ⟨y, hy, by simpa using hkey⟩)
    rw [List.map_append]
    refine List.nodup_append.mpr ⟨h, by simp, ?_⟩
    intro a ha b hb hab
    rw [List.map_singleton, List.mem_singleton] at hb
    exact hnew (hb ▸ hab ▸ ha)

theorem mem_map_foldl_insertNew {l more : List α} {k : ImportKey} :
    k ∈ (more.foldl (insertNew key) l).map key ↔ k ∈ l.map key ∨ k ∈ more.map key := by
  induction more generalizing l with
  | nil => simp
  | cons x more ih =>
    rw [List.foldl_cons, ih, mem_map_insertNew, List.map_cons, List.mem_cons, or_assoc]

theorem nodup_map_foldl_insertNew {l : List α} (more : List α) (h : (l.map key).Nodup) :
    ((more.foldl (insertNew key) l).map key).Nodup := by
  induction more generalizing l with
  | nil => exact h
  | cons x more ih => exact ih (nodup_map_insertNew h)

theorem mem_of_mem_foldl_insertNew {l more : List α} {x : α}
    (h : x ∈ more.foldl (insertNew key) l) : x ∈ l ∨ x ∈ more := by
  induction more generalizing l with
  | nil => exact Or.inl h
  | cons y more ih =>
    rcases ih h with hl | hmore
    · unfold insertNew at hl
      split at hl
      · exact Or.inl hl
      · refine (List.mem_append.mp hl).imp_right fun hy => ?_
        exact List.mem_singleton.mp hy ▸ List.mem_cons_self
    · exact Or.inr (List.mem_cons_of_mem y hmore)

end Insertion

theorem addClass_eq (i : Imports) (c : ImportedClass) :
    i.addClass c = { i with classes := insertNew ImportedClass.key i.classes c } := by
  have h : i.hasClass c = i.classes.any fun y => y.key = c.key := by
    simp [hasClass, ImportedClass.key]
  unfold addClass insertNew
  rw [h]
  split <;> rfl

theorem addFunction_eq (i : Imports) (f : FunctionDecl) :
    i.addFunction f = { i with functions := insertNew FunctionDecl.key i.functions f } := by
  have h : i.hasFunction f = i.functions.any fun y => y.key = f.key := by
    simp [hasFunction, FunctionDecl.key, Bool.and_assoc]
  unfold addFunction insertNew
  rw [h]
  split <;> rfl

theorem addMacro_eq (i : Imports) (m : MacroDecl) :
    i.addMacro m = { i with macros := insertNew MacroDecl.key i.macros m } := by
  have h : i.hasMacro m = i.macros.any fun y => y.key = m.key := by
    simp [hasMacro, MacroDecl.key]
  unfold addMacro insertNew
  rw [h]
  split <;> rfl

theorem foldl_addClass (cs : List ImportedClass) (i : Imports) :
    cs.foldl addClass i =
      { i with classes := cs.foldl (insertNew ImportedClass.key) i.classes } := by
  induction cs generalizing i with
  | nil => rfl
  | cons c cs ih => rw [List.foldl_cons, ih, addClass_eq, List.foldl_cons]

theorem foldl_addFunction (fs : List FunctionDecl) (i : Imports) :
    fs.foldl addFunction i =
      { i with functions := fs.foldl (insertNew FunctionDecl.key) i.functions } := by
  induction fs generalizing i with
  | nil => rfl
  | cons f fs ih => rw [List.foldl_cons, ih, addFunction_eq, List.foldl_cons]

theorem foldl_addMacro (ms : List MacroDecl) (i : Imports) :
    ms.foldl addMacro i = { i with macros := ms.foldl (insertNew MacroDecl.key) i.macros } := by
  induction ms generalizing i with
  | nil => rfl
  | cons m ms ih => rw [List.foldl_cons, ih, addMacro_eq, List.foldl_cons]

/-- Merging adds to each list what is new there. -/
theorem merge_eq (i more : Imports) :
    i.merge more =
      { classes := more.classes.foldl (insertNew ImportedClass.key) i.classes
        functions := more.functions.foldl (insertNew FunctionDecl.key) i.functions
        macros := more.macros.foldl (insertNew MacroDecl.key) i.macros } := by
  rw [merge, foldl_addClass, foldl_addFunction, foldl_addMacro]

theorem mem_of_mem_merge_classes {i more : Imports} {c : ImportedClass}
    (h : c ∈ (i.merge more).classes) : c ∈ i.classes ∨ c ∈ more.classes := by
  rw [merge_eq] at h
  exact mem_of_mem_foldl_insertNew h

theorem mem_of_mem_merge_functions {i more : Imports} {f : FunctionDecl}
    (h : f ∈ (i.merge more).functions) : f ∈ i.functions ∨ f ∈ more.functions := by
  rw [merge_eq] at h
  exact mem_of_mem_foldl_insertNew h

theorem mem_of_mem_merge_macros {i more : Imports} {m : MacroDecl}
    (h : m ∈ (i.merge more).macros) : m ∈ i.macros ∨ m ∈ more.macros := by
  rw [merge_eq] at h
  exact mem_of_mem_foldl_insertNew h

/-- Merging loses no class, though it may keep another one of the same name and file. -/
theorem exists_mem_merge_classes {i more : Imports} {c : ImportedClass}
    (h : c ∈ i.classes ∨ c ∈ more.classes) :
    ∃ d ∈ (i.merge more).classes, d.name = c.name ∧ d.file = c.file := by
  have hkey : c.key ∈ (i.merge more).classes.map ImportedClass.key := by
    rw [merge_eq]
    exact mem_map_foldl_insertNew.mpr (h.imp List.mem_map_of_mem List.mem_map_of_mem)
  obtain ⟨d, hd, heq⟩ := List.mem_map.mp hkey
  exact ⟨d, hd, ImportKey.ofClass.inj heq⟩

theorem mem_keys {i : Imports} {k : ImportKey} :
    k ∈ i.keys ↔ (k ∈ i.classes.map (·.key) ∨ k ∈ i.functions.map (·.key)) ∨
      k ∈ i.macros.map (·.key) := by
  rw [keys, List.mem_append, List.mem_append]

theorem mem_keys_merge {i more : Imports} {k : ImportKey} :
    k ∈ (i.merge more).keys ↔ k ∈ i.keys ∨ k ∈ more.keys := by
  simp only [merge_eq, mem_keys, mem_map_foldl_insertNew]
  constructor
  · rintro (((h | h) | (h | h)) | (h | h)) <;> simp only [h, true_or, or_true]
  · rintro (((h | h) | h) | ((h | h) | h)) <;> simp only [h, true_or, or_true]

/-- Keys of different kinds differ, so the keys are without repetition if those of each kind are. -/
theorem nodup_keys_iff {i : Imports} :
    i.keys.Nodup ↔ (i.classes.map (·.key)).Nodup ∧ (i.functions.map (·.key)).Nodup ∧
      (i.macros.map (·.key)).Nodup := by
  rw [keys, List.nodup_append, List.nodup_append]
  constructor
  · rintro ⟨⟨hclasses, hfunctions, -⟩, hmacros, -⟩
    exact ⟨hclasses, hfunctions, hmacros⟩
  · rintro ⟨hclasses, hfunctions, hmacros⟩
    -- What is left is that no key of one kind is one of another kind.
    refine ⟨⟨hclasses, hfunctions, ?_⟩, hmacros, ?_⟩
    · simp [ImportedClass.key, FunctionDecl.key]
    · simp only [List.mem_append, List.mem_map]
      rintro a (⟨c, -, rfl⟩ | ⟨f, -, rfl⟩) b ⟨m, -, rfl⟩
      · exact ImportKey.noConfusion
      · exact ImportKey.noConfusion

theorem nodup_keys_merge {i : Imports} (more : Imports) (h : i.keys.Nodup) :
    (i.merge more).keys.Nodup := by
  rw [nodup_keys_iff] at h ⊢
  simp only [merge_eq]
  exact ⟨nodup_map_foldl_insertNew more.classes h.1,
    nodup_map_foldl_insertNew more.functions h.2.1, nodup_map_foldl_insertNew more.macros h.2.2⟩

end Imports

end ScriptLint
