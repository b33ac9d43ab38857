import Mathlib.Data.List.Perm.Basic
import ScriptLint.Proofs.Analysis.Silent
import ScriptLint.Proofs.Listing.Reading
import ScriptLint.Proofs.Strict.Outline
import ScriptLint.Proofs.Types.Analysis

/-! What one more line at the end of a text changes in its outline, if the line does nothing but
declare a variable. The variable becomes a member of the class that is still open there, or of the
top level. Nothing else is declared, brought in or found, and no brace is closed by it. -/
namespace ScriptLint

/-- Items that are sorted by line, with no two on one line, are the same in whatever order they were
before. -/
theorem mergeSort_line_eq_of_perm {α : Type} (line : α → Int) {l l' : List α} (h : l'.Perm l)
    (hl : ((l.mergeSort fun a b => line a ≤ line b).map line).Pairwise (· < ·)) :
    (l'.mergeSort fun a b => line a ≤ line b) = l.mergeSort fun a b => line a ≤ line b := by
  have hperm : (l'.map id).Perm (l.mergeSort fun a b => line a ≤ line b) := by
    rw [List.map_id]
    exact h.trans (List.mergeSort_perm l _).symm
  have hsorted := map_mergeSort_eq line line (fun _ => rfl) hperm (List.pairwise_map.mp hl)
  rwa [List.map_id'] at hsorted

namespace SymbolTable

section OneMore

variable {file : Option String} {lines : List Line} {last : Line} {t t' : SymbolTable}
  (hbody : t.body = declaredBody file lines)
  (hbody' : t'.body = declaredBody file (lines ++ [last]))
include hbody hbody'

/-- Of each kind there is one more declaration if the line declares one, and else there are those
that were there. -/
theorem exists_perm_append {α : Type} {part : Body ClassDecl → List α} {make : α → Member}
    {kind : DeclarationKind}
    (hpart : ∀ b : Body ClassDecl, b.members.filter (·.kind = kind) = (part b).map make) :
    ∃ owner, ((t'.bodies.flatMap part).map make).Perm
      ((last.members owner file).filter (·.kind = kind) ++ (t.bodies.flatMap part).map make) := by
  let d : Draft Unit := lines.foldl (Draft.declareLine file) { state := () }
  have hplaced : (t'.body.placed none).Perm
      ((last.members (d.ownerOn file last) file).map (d.ownerOn file last, ·) ++
        t.body.placed none) := by
    rw [hbody, hbody', declaredBody, declaredBody, List.foldl_append]
    exact Draft.perm_placed_declareLine d file last
  have hmembers := (hplaced.filter (·.2.kind = kind)).map (fun placed => id placed.2)
  rw [Body.map_placed_of_kind t'.body hpart, List.filter_append, List.map_append,
    Body.map_placed_of_kind t.body hpart, List.filter_map, List.map_map] at hmembers
  refine ⟨d.ownerOn file last, ?_⟩
  have hnew : ((last.members (d.ownerOn file last) file).filter (·.kind = kind)).map
      ((fun placed => id placed.2) ∘ (d.ownerOn file last, ·)) =
      (last.members (d.ownerOn file last) file).filter (·.kind = kind) := List.map_id _
  rw [← hnew]
  exact hmembers

theorem perm_append_of_other_kind {α : Type} {part : Body ClassDecl → List α} {make : α → Member}
    (hmake : make.Injective) {kind : DeclarationKind}
    (hpart : ∀ b : Body ClassDecl, b.members.filter (·.kind = kind) = (part b).map make)
    (hkind : last.declares? ≠ some kind) :
    (t'.bodies.flatMap part).Perm (t.bodies.flatMap part) := by
  obtain ⟨owner, hperm⟩ := exists_perm_append hbody hbody' hpart
  have hnone : (last.members owner file).filter (·.kind = kind) = [] := by
    rcases last.members_cases owner file with ⟨hmembers, -⟩ | ⟨m, hmembers, -, -, hdeclares⟩
    · rw [hmembers]
      rfl
    · have hne : m.kind ≠ kind := fun heq => hkind (heq ▸ hdeclares)
      simp [hmembers, hne]
  rw [hnone, List.nil_append] at hperm
  exact (List.map_perm_map_iff hmake).mp hperm

theorem allFunctions_append (hnumbers : lines.Pairwise (·.number < ·.number))
    (hkind : last.declares? ≠ some .functionDecl) : t'.allFunctions = t.allFunctions := by
  have hperm := perm_append_of_other_kind hbody hbody'
    (fun _ _ h => Member.ofFunction.inj h) Body.functions_eq hkind
  refine mergeSort_line_eq_of_perm _ hperm ?_
  have hlines : t.allFunctions.map (·.line) = linesDeclaring .functionDecl lines :=
    (declaresAll hbody hnumbers).functions
  rw [allFunctions] at hlines
  rw [hlines]
  exact List.pairwise_map.mpr (hnumbers.filter _)

theorem allMacros_append (hnumbers : lines.Pairwise (·.number < ·.number))
    (hkind : last.declares? ≠ some .macroDecl) : t'.allMacros = t.allMacros := by
  have hperm := perm_append_of_other_kind hbody hbody'
    (fun _ _ h => Member.ofMacro.inj h) Body.macros_eq hkind
  refine mergeSort_line_eq_of_perm _ hperm ?_
  have hlines : t.allMacros.map (·.line) = linesDeclaring .macroDecl lines :=
    (declaresAll hbody hnumbers).macros
  rw [allMacros] at hlines
  rw [hlines]
  exact List.pairwise_map.mpr (hnumbers.filter _)

/-- The line brings in the name of its variable. -/
theorem mem_names_append {access : Option Text.Token} {name type : Text.Token}
    (hblank : last.isBlank = false)
    (hs : Statement.ofText last.code = .variableDecl access name type) (word : String) :
    word ∈ t'.allVariables.map (·.name) ↔
      word = name.text ∨ word ∈ t.allVariables.map (·.name) := by
  obtain ⟨owner, hperm⟩ := exists_perm_append hbody hbody' Body.vars_eq
  let v : VariableDecl :=
    { name := name.text
      type := type.text
      line := last.number
      scope := (owner.map (·.name)).getD globalScope
      typeOffset := type.offset }
  have hnew : (last.members owner file).filter (·.kind = .variableDecl) = [.ofVariable v] := by
    simp only [Line.members, hblank, hs]
    rfl
  rw [hnew, List.singleton_append, ← List.map_cons] at hperm
  have hvars : t'.allVariables.Perm (v :: t.allVariables) :=
    (List.mergeSort_perm _ _).trans
      (((List.map_perm_map_iff fun _ _ h => Member.ofVariable.inj h).mp hperm).trans
        ((List.mergeSort_perm _ _).symm.cons v))
  rw [(hvars.map (·.name)).mem_iff, List.map_cons, List.mem_cons]

/-- A line that declares no class changes nothing about which classes are known. -/
theorem hasClass_append (himports : t'.imports = t.imports) (hkind : last.classHead? = none)
    (name : String) : t'.hasClass name = t.hasClass name := by
  rw [Bool.eq_iff_iff, hasClass_iff, hasClass_iff, exists_class_iff hbody, exists_class_iff hbody',
    himports]
  simp [hkind]

end OneMore

end SymbolTable

namespace Outline

variable {State : Type} (search : ModuleSearch) (disk : Disk)
  (load : Path → State → ModuleReply × State) (origin : Origin) {lines : List Line} {last : Line}

/-- A line that states something, without braces and include paths, adds nothing to the findings of
an outline and to what it brings in. -/
theorem ofLines_append_of_states {statement : Statement} (h : Layout.States last statement)
    (hbraces : ∀ unclosed, matchBraces unclosed last = (unclosed, false))
    (hlines : Line.Numbered (lines ++ [last])) (state : State) :
    let made := Outline.ofLines search disk load origin lines state
    let more := Outline.ofLines search disk load origin (lines ++ [last]) state
    more.1.diagnostics = made.1.diagnostics ∧ more.1.table.imports = made.1.table.imports := by
  intro made more
  let d : Draft State := lines.foldl (Draft.readLine search disk load origin) { state := state }
  have hmore : (lines ++ [last]).foldl (Draft.readLine search disk load origin)
      { state := state } =
      (d.settle origin.file last).declare origin.file d.unclosed.length last.number statement := by
    rw [List.foldl_append]
    exact Layout.readLine_of_states search disk load origin h d
  have hclosed : last.number ∉ d.unclosed := by
    intro hmem
    rcases Draft.exists_line_of_mem_unclosed search disk load origin hmem with
      hnone | ⟨line, hline, heq⟩
    · exact List.not_mem_nil hnone
    · exact hlines.number_ne.1 line hline heq
  have hfront : Line.Numbered lines := by
    intro i line hi
    exact hlines i line (List.getElem?_append_left (List.getElem?_eq_some_iff.mp hi).1 ▸ hi)
  have hunclosed : ((d.settle origin.file last).declare origin.file d.unclosed.length last.number
      statement).unclosed = d.unclosed := by
    simp [hbraces]
  have hopen := hlines.unclosedDiagnostics_readLines search disk load origin state
  rw [hmore] at hopen
  dsimp only at hopen
  rw [hunclosed] at hopen
  refine ⟨?_, ?_⟩
  · change ((((lines ++ [last]).foldl (Draft.readLine search disk load origin)
      { state := state }).finish origin (lines ++ [last])).1).diagnostics =
        ((d.finish origin lines).1).diagnostics
    rw [hmore, Draft.finish_diagnostics, Draft.finish_diagnostics, hunclosed, hopen,
      hfront.unclosedDiagnostics_readLines search disk load origin state]
    simp [hbraces, List.filter_append, hclosed, d]
  · change ((((lines ++ [last]).foldl (Draft.readLine search disk load origin)
      { state := state }).finish origin (lines ++ [last])).1).table.imports =
        ((d.finish origin lines).1).table.imports
    rw [hmore, Draft.finish_imports, Draft.finish_imports]
    simp

end Outline

end ScriptLint
