import ScriptLint.Check.Types
import ScriptLint.Proofs.Symbol.Preorder

/-! The walks over a symbol table and its look-ups agree: what is collected over nested classes is
what recursion finds, and the names that may be declared as types are those of the classes that the
look-up finds. -/
namespace ScriptLint

/-- The items of a list in the order of their lines, those of one line in the order they had. -/
structure StablySorted {α : Type} (line : α → Int) (l sorted : List α) : Prop where
  perm : sorted.Perm l
  ordered : sorted.Pairwise fun a b => line a ≤ line b
  stable : ∀ n, sorted.filter (line · = n) = l.filter (line · = n)

section Sorting

variable {α : Type} (line : α → Int)

theorem decide_line_trans (a b c : α) (hab : decide (line a ≤ line b) = true)
    (hbc : decide (line b ≤ line c) = true) : decide (line a ≤ line c) = true :=
  decide_eq_true (Int.le_trans (of_decide_eq_true hab) (of_decide_eq_true hbc))

theorem decide_line_total (a b : α) :
    (decide (line a ≤ line b) || decide (line b ≤ line a)) = true := by
  simpa using Int.le_total (line a) (line b)

theorem pairwise_mergeSort_line (l : List α) :
    (l.mergeSort fun a b => line a ≤ line b).Pairwise fun a b => line a ≤ line b := by
  apply (List.pairwise_mergeSort (decide_line_trans line) (decide_line_total line) l).imp
  intro a b hab
  exact of_decide_eq_true hab

theorem filter_mergeSort_line (l : List α) (n : Int) :
    (l.mergeSort fun a b => line a ≤ line b).filter (line · = n) = l.filter (line · = n) := by
  -- What is on one line is in order already, so sorting leaves it a sublist.
  have hsorted : (l.filter (line · = n)).Pairwise fun a b => decide (line a ≤ line b) = true := by
    apply List.pairwise_of_forall_mem_list
    intro a ha b hb
    have ha : line a = n := of_decide_eq_true (List.mem_filter.mp ha).2
    have hb : line b = n := of_decide_eq_true (List.mem_filter.mp hb).2
    exact decide_eq_true (by omega)
  have hsublist : (l.filter (line · = n)).Sublist
      ((l.mergeSort fun a b => line a ≤ line b).filter (line · = n)) := by
    have h := List.sublist_mergeSort (decide_line_trans line) (decide_line_total line) hsorted
      List.filter_sublist
    simpa using h.filter (line · = n)
  -- Nothing is lost or added, so it is all that is on the line afterwards.
  have hlength := ((List.mergeSort_perm l fun a b => line a ≤ line b).filter (line · = n)).length_eq
  exact (hsublist.eq_of_length hlength.symm).symm

theorem stablySorted_mergeSort (l : List α) :
    StablySorted line l (l.mergeSort fun a b => line a ≤ line b) :=
  { perm := List.mergeSort_perm l _
    ordered := pairwise_mergeSort_line line l
    stable := filter_mergeSort_line line l }

end Sorting

/-- The sum of a size over a body and those of all classes inside it. -/
def Body.tally (size : Body ClassDecl → Nat) (b : Body ClassDecl) : Nat :=
  size b + ClassDecl.tallyAll size b.classes

namespace SymbolTable

variable (t : SymbolTable)

theorem flatMap_bodies {α : Type} (part : Body ClassDecl → List α) :
    t.bodies.flatMap part =
      part t.body ++ (ClassDecl.preorderAll t.body.classes).flatMap fun c => part c.body := by
  rw [bodies, List.flatMap_cons, List.flatMap_map, allClasses, ClassDecl.walk_eq_preorderAll]

theorem length_sorted_bodies {α : Type} (part : Body ClassDecl → List α) (le : α → α → Bool) :
    ((t.bodies.flatMap part).mergeSort le).length = t.body.tally fun b => (part b).length := by
  rw [List.length_mergeSort, bodies, List.flatMap_cons, List.flatMap_map, List.length_append,
    allClasses, ClassDecl.length_flatMap_walk, Body.tally]

theorem totalSymbols_eq : t.totalSymbols =
    ClassDecl.countAll t.body.classes + (t.body.tally fun b => b.functions.length) +
      (t.body.tally fun b => b.macros.length) + t.body.tally fun b => b.vars.length := by
  rw [totalSymbols, allFunctions, allMacros, allVariables, length_sorted_bodies,
    length_sorted_bodies, length_sorted_bodies, allClasses, ClassDecl.length_walk]

variable {t} {name : String}

/-- A name is taken over from the imported classes unless it is there already. -/
theorem mem_classNames :
    name ∈ t.classNames ↔
      (∃ c ∈ t.allClasses, c.name = name) ∨ ∃ c ∈ t.imports.classes, c.name = name := by
  have hfold : ∀ (imported : List ImportedClass) (names : List String),
      name ∈ imported.foldl (fun names c =>
        if names.contains c.name then names else names ++ [c.name]) names ↔
        name ∈ names ∨ ∃ c ∈ imported, c.name = name := by
    intro imported
    induction imported with
    | nil => simp
    | cons c imported ih =>
      intro names
      simp only [List.foldl_cons, ih, List.mem_cons, exists_eq_or_imp]
      by_cases hin : c.name ∈ names
      -- A name that is left out is there already.
      · rw [if_pos (List.contains_iff_mem.mpr hin)]
        constructor
        · exact Or.imp_right Or.inr
        · rintro (h | rfl | h)
          · exact Or.inl h
          · exact Or.inl hin
          · exact Or.inr h
      · rw [if_neg (hin ∘ List.contains_iff_mem.mp), List.mem_append, List.mem_singleton, or_assoc,
          eq_comm]
  rw [classNames, hfold, List.mem_map]

theorem hasClass_iff :
    t.hasClass name = true ↔
      (∃ c ∈ t.allClasses, c.name = name) ∨ ∃ c ∈ t.imports.classes, c.name = name := by
  simp only [hasClass, findClass?, Option.isSome_or, Option.isSome_map, Bool.or_eq_true,
    List.find?_isSome, decide_eq_true_eq]

/-- A declared class is known by its address, which may be that of a class inside other classes. -/
theorem exists_mem_allClasses_iff :
    (∃ c ∈ t.allClasses, c.name = name) ↔
      ∃ address c, ClassDecl.at? address t.body.classes = some c ∧ c.name = name := by
  obtain ⟨addresses, h⟩ := ClassDecl.exists_enumerates_walk t.body.classes
  constructor
  · rintro ⟨c, hc, hname⟩
    obtain ⟨address, heq⟩ := h.mem_iff.mp hc
    exact ⟨address, c, heq, hname⟩
  · rintro ⟨address, c, heq, hname⟩
    exact ⟨c, h.mem_iff.mpr ⟨address, heq⟩, hname⟩

/-- A type that is not built in is known if it is a class that the look-up finds. -/
theorem mem_knownTypes_iff {builtins : List String} (h : name ∉ builtins) :
    name ∈ t.knownTypes builtins ↔ t.hasClass name = true := by
  rw [knownTypes, List.mem_append, mem_classNames, hasClass_iff]
  exact or_iff_right h

/-- What is collected over the nested classes of a table is what recursion over them finds, and all
ways to ask whether there is a class of a name have the same answer. -/
structure Agrees (t : SymbolTable) : Prop where
  preorder : t.allClasses = ClassDecl.preorderAll t.body.classes
  enumerated : ∃ addresses, ClassDecl.Enumerates t.allClasses t.body.classes addresses
  total : t.totalSymbols = ClassDecl.countAll t.body.classes +
    (t.body.tally fun b => b.functions.length) + (t.body.tally fun b => b.macros.length) +
      t.body.tally fun b => b.vars.length
  functions : StablySorted (·.line) (t.body.functions ++
    (ClassDecl.preorderAll t.body.classes).flatMap (·.body.functions)) t.allFunctions
  vars : StablySorted (·.line) (t.body.vars ++
    (ClassDecl.preorderAll t.body.classes).flatMap (·.body.vars)) t.allVariables
  macros : StablySorted (·.line) (t.body.macros ++
    (ClassDecl.preorderAll t.body.classes).flatMap (·.body.macros)) t.allMacros
  listed : ∀ name, name ∈ t.classNames ↔ t.hasClass name = true
  found : ∀ name, t.hasClass name = true ↔
    (∃ address c, ClassDecl.at? address t.body.classes = some c ∧ c.name = name) ∨
      ∃ c ∈ t.imports.classes, c.name = name
  known : ∀ builtins name, name ∉ builtins →
    (name ∈ t.knownTypes builtins ↔ t.hasClass name = true)

theorem agrees (t : SymbolTable) : t.Agrees :=
  { preorder := ClassDecl.walk_eq_preorderAll t.body.classes
    enumerated := ClassDecl.exists_enumerates_walk t.body.classes
    total := totalSymbols_eq t
    functions := by
      rw [← flatMap_bodies t (·.functions)]
      exact stablySorted_mergeSort _ _
    vars := by
      rw [← flatMap_bodies t (·.vars)]
      exact stablySorted_mergeSort _ _
    macros := by
      rw [← flatMap_bodies t (·.macros)]
      exact stablySorted_mergeSort _ _
    listed := fun name => mem_classNames.trans hasClass_iff.symm
    found := fun name => by rw [hasClass_iff, exists_mem_allClasses_iff]
    known := fun builtins name h => mem_knownTypes_iff h }

/-- A table with a class inside a class. The inner one is visited before the class that follows,
and its name is that of a known type. -/
theorem agrees_of_inner_class :
    let edge : ClassDecl := ⟨"Edge", 2, none, { vars := [⟨"length", "int", 3, "Edge", 0⟩] }⟩
    let shape : ClassDecl := ⟨"Shape", 1, none, { classes := [edge] }⟩
    let color : ClassDecl := ⟨"Color", 6, none, {}⟩
    let t : SymbolTable := { body := { classes := [shape, color] } }
    t.allClasses = [shape, edge, color] ∧ t.totalSymbols = 4 ∧
      "Edge" ∉ builtinTypes ∧ "Edge" ∈ t.knownTypes builtinTypes := by
  intro edge shape color t
  have h := agrees t
  have hfound : t.hasClass "Edge" = true := (h.found "Edge").mpr (Or.inl ⟨[0, 0], edge, rfl, rfl⟩)
  have hbuiltin : "Edge" ∉ builtinTypes := by decide
  exact ⟨h.preorder, h.total, hbuiltin, (h.known builtinTypes "Edge" hbuiltin).mpr hfound⟩

end SymbolTable

end ScriptLint
