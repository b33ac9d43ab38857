import Mathlib.Data.List.Basic
import ScriptLint.Outline.Exports
import ScriptLint.Proofs.Include.Spelling

/-! What include paths ask of a module, and whether a module has it. A path asks for a macro exactly
if there is a sign in it and the name behind the sign is left over when the module has been found.
-/
namespace ScriptLint

namespace ModuleSearch

/-- A path without a sign has its pieces as segments. -/
theorem sign_notMem_of_mem_segments {path : String} (h : '@' ∉ path.toList) {segment : String}
    (hsegment : segment ∈ segments path) : '@' ∉ segment.toList := by
  obtain ⟨piece, hpiece, rfl⟩ := List.mem_map.mp hsegment
  rw [String.toList_ofList]
  intro hmem
  have hdotted : '@' ∈ dotSigns path.toList :=
    Text.mem_of_mem_pieces (List.mem_filter.mp hpiece).1 hmem
  rw [dotSigns_of_notMem h] at hdotted
  exact h hdotted

/-- The sign starts a segment of its own, the last one. -/
theorem getLast?_segments_of_sign {path name : String} {dotted : List Char}
    (hpath : path.toList = dotted ++ '@' :: name.toList) (hdotted : '@' ∉ dotted)
    (hsign : '@' ∉ name.toList) (hdot : '.' ∉ name.toList) :
    (segments path).getLast? = some (String.ofList ('@' :: name.toList)) := by
  have hpieces : Text.pieces '.' (dotSigns path.toList) =
      Text.pieces '.' dotted ++ ['@' :: name.toList] := by
    have hlast : '.' ∉ '@' :: name.toList := by simp [hdot]
    rw [hpath, dotSigns_append, dotSigns_sign_cons, dotSigns_of_notMem hdotted,
      dotSigns_of_notMem hsign, Text.pieces_append_sep_cons, Text.pieces_of_notMem hlast]
  simp [segments_eq, parts, hpieces, List.filter_append]

variable {s : ModuleSearch} {disk : Disk} {currentDir path : String} {r : Resolution}
  {selection : Selection}

/-- What is asked for is written in the last segment of the path, and maybe in the one before it. -/
theorem exists_of_selection (hr : s.resolve? disk currentDir path = some r)
    (hselection : r.selection = some selection) :
    ∃ last before, (segments path).getLast? = some last ∧
      selectionOf (last :: before) = some selection := by
  obtain ⟨⟨file, leftOver⟩, hfound, rfl⟩ := Option.map_eq_some_iff.mp hr
  obtain ⟨p, -, -, rfl⟩ := findModule?_eq_some_iff.mp hfound
  have hselection : selectionOf ((segments path).drop p.count).reverse = some selection :=
    hselection
  cases hreverse : ((segments path).drop p.count).reverse with
  | nil =>
    rw [hreverse] at hselection
    cases hselection
  | cons last before =>
    rw [hreverse] at hselection
    refine ⟨last, before, ?_, hselection⟩
    have hlast : ((segments path).drop p.count).getLast? = some last := by
      rw [← List.head?_reverse, hreverse, List.head?_cons]
    rw [List.getLast?_drop] at hlast
    split at hlast
    · cases hlast
    · exact hlast

theorem selection_of_sign {name : String} {dotted : List Char}
    (hr : s.resolve? disk currentDir path = some r) (hselection : r.selection = some selection)
    (hpath : path.toList = dotted ++ '@' :: name.toList) (hdotted : '@' ∉ dotted)
    (hsign : '@' ∉ name.toList) (hdot : '.' ∉ name.toList) : selection = .oneMacro name := by
  obtain ⟨last, before, hlast, hasked⟩ := exists_of_selection hr hselection
  rw [getLast?_segments_of_sign hpath hdotted hsign hdot, Option.some.injEq] at hlast
  subst hlast
  simpa [selectionOf] using hasked.symm

theorem selection_of_sign_notMem (hr : s.resolve? disk currentDir path = some r)
    (hselection : r.selection = some selection) (hsign : '@' ∉ path.toList) (name : String) :
    selection ≠ .oneMacro name := by
  obtain ⟨last, before, hlast, hasked⟩ := exists_of_selection hr hselection
  have hnone := sign_notMem_of_mem_segments hsign (List.mem_of_getLast? hlast)
  rintro rfl
  have hhead : last.toList.head? ≠ some '@' := fun hhead => hnone (List.mem_of_head? hhead)
  unfold selectionOf at hasked
  dsimp only at hasked
  rw [if_neg hhead] at hasked
  split at hasked
  · split at hasked
    · split at hasked <;> cases hasked
    · cases hasked
  · cases hasked

end ModuleSearch

/-- The module has what is asked for: it declares the class or macro or brought it in; an inner
class has to be declared inside the first of its classes that has the name of the outer one. -/
def SymbolTable.Provides (t : SymbolTable) : Selection → Prop
  | .topClass name => (∃ c ∈ t.body.classes, c.name = name) ∨ ∃ c ∈ t.imports.classes, c.name = name
  | .innerClass parent name => ∃ outer, t.body.classes.find? (·.name = parent) = some outer ∧
      ∃ c ∈ outer.body.classes, c.name = name
  | .oneMacro name => (∃ m ∈ t.body.macros, m.name = name) ∨ ∃ m ∈ t.imports.macros, m.name = name

namespace SymbolTable

variable (t : SymbolTable) (file : String)

theorem isSome_topClass?_iff (name : String) :
    (t.topClass? file name).isSome ↔ t.Provides (.topClass name) := by
  have hown : (t.body.classes.find? (·.name = name)).isSome ↔
      ∃ c ∈ t.body.classes, c.name = name := by
    simp [List.find?_isSome]
  have hother : (t.imports.classes.find? (·.name = name)).isSome ↔
      ∃ c ∈ t.imports.classes, c.name = name := by
    simp [List.find?_isSome]
  change _ ↔ (∃ c ∈ t.body.classes, c.name = name) ∨ ∃ c ∈ t.imports.classes, c.name = name
  unfold topClass?
  rw [← hown, ← hother]
  cases t.body.classes.find? (·.name = name) with
  | some c => simp
  | none => simp

theorem isSome_innerClass?_iff (parent name : String) :
    (t.innerClass? file parent name).isSome ↔ t.Provides (.innerClass parent name) := by
  change _ ↔ ∃ outer, t.body.classes.find? (·.name = parent) = some outer ∧
    ∃ c ∈ outer.body.classes, c.name = name
  unfold innerClass? ClassDecl.findInner?
  cases hfound : t.body.classes.find? (·.name = parent) with
  | none => simp
  | some outer => simp [Option.isSome_bind, List.find?_isSome]

theorem isSome_oneMacro?_iff (name : String) :
    (t.oneMacro? file name).isSome ↔ t.Provides (.oneMacro name) := by
  change _ ↔ (∃ m ∈ t.body.macros, m.name = name) ∨ ∃ m ∈ t.imports.macros, m.name = name
  unfold oneMacro?
  rw [Option.isSome_map, Option.isSome_or, Bool.or_eq_true, List.find?_isSome, List.find?_isSome]
  simp

/-- What is asked for is given if the module has it. -/
theorem isSome_select?_iff (selection : Selection) :
    (t.select? file selection).isSome ↔ t.Provides selection := by
  cases selection with
  | topClass name => exact t.isSome_topClass?_iff file name
  | innerClass parent name => exact t.isSome_innerClass?_iff file parent name
  | oneMacro name => exact t.isSome_oneMacro?_iff file name

end SymbolTable

end ScriptLint
