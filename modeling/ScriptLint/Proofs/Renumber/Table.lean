import ScriptLint.Line.Basic
import ScriptLint.Proofs.Symbol.Walk

/-! Symbol tables of texts whose lines have other numbers. A table knows its lines by their numbers
only, and uses these to sort what the text declares. As long as the order of the lines stays, the
same names are found in it, with the new numbers. -/
namespace ScriptLint

/-- The new numbers are in the order of the old ones. -/
def KeepsOrder (ρ : Int → Int) : Prop :=
  ∀ i j, i < j → ρ i < ρ j

namespace KeepsOrder

variable {ρ : Int → Int} (h : KeepsOrder ρ)
include h

theorem le_iff (i j : Int) : ρ i ≤ ρ j ↔ i ≤ j := by
  rcases Int.lt_trichotomy i j with hlt | rfl | hgt
  · have := h i j hlt
    omega
  · exact iff_of_true (Int.le_refl _) (Int.le_refl _)
  · have := h j i hgt
    omega

theorem injective : Function.Injective ρ := by
  intro i j heq
  have hij := (h.le_iff i j).mp (Int.le_of_eq heq)
  have hji := (h.le_iff j i).mp (Int.le_of_eq heq.symm)
  exact Int.le_antisymm hij hji

end KeepsOrder

/-- The line with a new number. -/
def Line.renumber (ρ : Int → Int) (l : Line) : Line :=
  { l with number := ρ l.number }

/-- The function on the line with the new number. -/
def FunctionDecl.renumber (ρ : Int → Int) (f : FunctionDecl) : FunctionDecl :=
  { f with line := ρ f.line }

/-- The variable on the line with the new number. -/
def VariableDecl.renumber (ρ : Int → Int) (v : VariableDecl) : VariableDecl :=
  { v with line := ρ v.line }

/-- The macro on the line with the new number. -/
def MacroDecl.renumber (ρ : Int → Int) (m : MacroDecl) : MacroDecl :=
  { m with line := ρ m.line }

/-- The include on the line with the new number. -/
def Include.renumber (ρ : Int → Int) (i : Include) : Include :=
  { i with line := ρ i.line }

mutual

/-- The class on lines with new numbers, and so everything inside it. -/
def ClassDecl.renumber (ρ : Int → Int) : ClassDecl → ClassDecl
  | ⟨name, line, file, ⟨classes, functions, vars, macros⟩⟩ =>
    ⟨name, ρ line, file, ⟨ClassDecl.renumberAll ρ classes, functions.map (·.renumber ρ),
      vars.map (·.renumber ρ), macros.map (·.renumber ρ)⟩⟩

/-- The classes on lines with new numbers. -/
def ClassDecl.renumberAll (ρ : Int → Int) : List ClassDecl → List ClassDecl
  | [] => []
  | c :: cs => c.renumber ρ :: ClassDecl.renumberAll ρ cs

end

/-- The body on lines with new numbers. -/
def Body.renumber (ρ : Int → Int) (b : Body ClassDecl) : Body ClassDecl where
  classes := b.classes.map (·.renumber ρ)
  functions := b.functions.map (·.renumber ρ)
  vars := b.vars.map (·.renumber ρ)
  macros := b.macros.map (·.renumber ρ)

/-- The table of a text whose lines have new numbers. What was brought in stays. -/
def SymbolTable.renumber (ρ : Int → Int) (t : SymbolTable) : SymbolTable :=
  { t with
    body := t.body.renumber ρ
    includes := t.includes.map (·.renumber ρ) }

variable (ρ : Int → Int)

theorem ClassDecl.renumberAll_eq_map (classes : List ClassDecl) :
    ClassDecl.renumberAll ρ classes = classes.map (·.renumber ρ) := by
  induction classes with
  | nil => rfl
  | cons c cs ih => rw [ClassDecl.renumberAll, ih, List.map_cons]

theorem ClassDecl.renumber_eq (c : ClassDecl) :
    c.renumber ρ = ⟨c.name, ρ c.line, c.file, c.body.renumber ρ⟩ := by
  obtain ⟨name, line, file, classes, functions, vars, macros⟩ := c
  rw [ClassDecl.renumber, ClassDecl.renumberAll_eq_map]
  rfl

@[simp] theorem ClassDecl.renumber_name (c : ClassDecl) : (c.renumber ρ).name = c.name := by
  rw [ClassDecl.renumber_eq]

@[simp] theorem ClassDecl.renumber_body (c : ClassDecl) :
    (c.renumber ρ).body = c.body.renumber ρ := by
  rw [ClassDecl.renumber_eq]

namespace Body

variable (b : Body ClassDecl)

theorem renumber_addClass (c : ClassDecl) :
    (b.addClass c).renumber ρ = (b.renumber ρ).addClass (c.renumber ρ) := by
  simp [renumber, addClass]

theorem renumber_addFunction (f : FunctionDecl) :
    (b.addFunction f).renumber ρ = (b.renumber ρ).addFunction (f.renumber ρ) := by
  simp [renumber, addFunction]

theorem renumber_addVariable (v : VariableDecl) :
    (b.addVariable v).renumber ρ = (b.renumber ρ).addVariable (v.renumber ρ) := by
  simp [renumber, addVariable]

theorem renumber_addMacro (m : MacroDecl) :
    (b.addMacro m).renumber ρ = (b.renumber ρ).addMacro (m.renumber ρ) := by
  simp [renumber, addMacro]

end Body

/-- The walk visits the same classes. -/
theorem ClassDecl.walk_renumber (classes : List ClassDecl) :
    ClassDecl.walk (classes.map (·.renumber ρ)) =
      (ClassDecl.walk classes).map (·.renumber ρ) := by
  induction classes using ClassDecl.walk.induct with
  | case1 => rw [List.map_nil, ClassDecl.walk_nil, List.map_nil]
  | case2 c waiting ih =>
    have hinner : (c.renumber ρ).body.classes = c.body.classes.map (·.renumber ρ) := by
      rw [ClassDecl.renumber_body]
      rfl
    rw [List.map_cons, ClassDecl.walk, hinner, ← List.map_append, ih, ClassDecl.walk,
      List.map_cons]

namespace SymbolTable

variable (t : SymbolTable)

theorem allClasses_renumber :
    (t.renumber ρ).allClasses = t.allClasses.map (·.renumber ρ) :=
  ClassDecl.walk_renumber ρ t.body.classes

theorem bodies_renumber : (t.renumber ρ).bodies = t.bodies.map (·.renumber ρ) := by
  rw [bodies, allClasses_renumber, bodies, List.map_cons, List.map_map, List.map_map]
  simp only [Function.comp_def, ClassDecl.renumber_body]
  rfl

/-- What is sorted by its lines stays in order. -/
theorem sorted_renumber {ρ : Int → Int} (hρ : KeepsOrder ρ) {α : Type}
    {part : Body ClassDecl → List α} {line : α → Int} {renumber : α → α}
    (hpart : ∀ b : Body ClassDecl, part (b.renumber ρ) = (part b).map renumber)
    (hline : ∀ x, line (renumber x) = ρ (line x)) :
    (((t.renumber ρ).bodies.flatMap part).mergeSort fun a b => line a ≤ line b) =
      ((t.bodies.flatMap part).mergeSort fun a b => line a ≤ line b).map renumber := by
  have hitems : (t.renumber ρ).bodies.flatMap part = (t.bodies.flatMap part).map renumber := by
    rw [bodies_renumber, List.flatMap_map, List.map_flatMap]
    simp only [hpart]
  rw [hitems]
  refine (List.map_mergeSort fun a _ b _ => ?_).symm
  rw [hline, hline]
  exact decide_eq_decide.mpr (hρ.le_iff _ _).symm

section Sorted

variable {ρ} (hρ : KeepsOrder ρ)
include hρ

theorem allFunctions_renumber :
    (t.renumber ρ).allFunctions = t.allFunctions.map (·.renumber ρ) :=
  t.sorted_renumber hρ (fun _ => rfl) (fun _ => rfl)

theorem allVariables_renumber :
    (t.renumber ρ).allVariables = t.allVariables.map (·.renumber ρ) :=
  t.sorted_renumber hρ (fun _ => rfl) (fun _ => rfl)

theorem allMacros_renumber : (t.renumber ρ).allMacros = t.allMacros.map (·.renumber ρ) :=
  t.sorted_renumber hρ (fun _ => rfl) (fun _ => rfl)

end Sorted

theorem hasClass_renumber (name : String) : (t.renumber ρ).hasClass name = t.hasClass name := by
  simp only [hasClass, findClass?, allClasses_renumber, List.find?_map, Function.comp_def,
    ClassDecl.renumber_name, Option.map_map, Option.isSome_or, Option.isSome_map]
  rfl

end SymbolTable

end ScriptLint
