import ScriptLint.Proofs.Outline.Complete
import ScriptLint.Proofs.Statement.Offsets

/-! The types that the lines of a text declare. A variable has one type, and a function has the type
it returns and those of its parameters. They are read off the line alone, so the symbol table has
the same ones, whatever classes are around them; and no two of them stand at the same place. -/
namespace ScriptLint

open Text (Cursor Token)

/-- A place where a line declares a type. -/
structure TypePlace where
  line : Line
  type : String
  offset : Int

/-- The types that a statement on the line declares. -/
def Statement.typePlaces (line : Line) : Statement → List TypePlace
  | .variableDecl _ _ type => [⟨line, type.text, type.offset⟩]
  | .functionHead head =>
    ⟨line, head.returnType.text, head.returnType.offset⟩ ::
      head.params.map fun p => ⟨line, p.type, p.offset⟩
  | _ => []

/-- The types that a line declares. -/
def Line.typePlaces (line : Line) : List TypePlace :=
  if line.isBlank then [] else (Statement.ofText line.code).typePlaces line

/-- The lines that declare something of a kind. -/
def linesOfKind (kind : DeclarationKind) (lines : List Line) : List Line :=
  lines.filter (·.declares? = some kind)

/-- The types that lines declare, those of variables before those of functions. -/
def declaredTypes (lines : List Line) : List TypePlace :=
  (linesOfKind .variableDecl lines ++ linesOfKind .functionDecl lines).flatMap Line.typePlaces

/-- What is said of the types of a member. -/
def Member.typeUses : Member → List TypeUse
  | ofFunction f => f.typeUses
  | ofVariable v => [v.typeUse]
  | ofClass _ | ofMacro _ => []

/-- What is said of the types that a line declares. Where it declares them does not matter. -/
def Line.typeUses (line : Line) : List TypeUse :=
  (line.members none none).flatMap Member.typeUses

section Uses

variable {line : Line}

theorem Line.typeUses_of_mem_members {owner : Option ClassHead} {file : Option String} {m : Member}
    (h : m ∈ line.members owner file) : m.typeUses = line.typeUses := by
  unfold typeUses
  unfold members at h ⊢
  cases hb : line.isBlank with
  | true => simp [hb] at h
  | false =>
    simp only [hb, Bool.false_eq_true, ↓reduceIte] at h ⊢
    cases hs : Statement.ofText line.code with
    | classHead name | functionHead head | macroHead name params | variableDecl access name type =>
      rw [hs] at h
      rw [List.mem_singleton.mp h]
      exact (List.append_nil _).symm
    | _ =>
      rw [hs] at h
      exact (List.not_mem_nil h).elim

/-- They are the types of the line, each at its place. -/
theorem Line.map_typeUses (line : Line) :
    line.typeUses.map (fun u => ⟨line, u.type, u.offset⟩) = line.typePlaces := by
  unfold typeUses typePlaces members
  cases line.isBlank with
  | true => rfl
  | false =>
    cases Statement.ofText line.code with
    | functionHead head =>
      simp [Statement.members, Statement.typePlaces, Member.typeUses, FunctionDecl.typeUses,
        FunctionHead.toDecl]
    | _ => rfl

theorem Line.line_of_mem_typeUses {u : TypeUse} (h : u ∈ line.typeUses) : u.line = line.number := by
  obtain ⟨m, hm, hu⟩ := List.mem_flatMap.mp h
  rcases line.members_cases none none with ⟨hnone, -⟩ | ⟨made, hmade, hline, -⟩
  · rw [hnone] at hm
    exact (List.not_mem_nil hm).elim
  · rw [hmade] at hm
    rw [← hline, ← List.mem_singleton.mp hm]
    cases m with
    | ofFunction f =>
      rcases List.mem_cons.mp hu with rfl | hu
      · rfl
      · obtain ⟨p, -, rfl⟩ := List.mem_map.mp hu
        rfl
    | ofVariable v => exact congrArg TypeUse.line (List.mem_singleton.mp hu)
    | _ => exact (List.not_mem_nil hu).elim

end Uses

section Table

variable {file : Option String} {lines : List Line} {t : SymbolTable}
  (hbody : t.body = declaredBody file lines)
include hbody

/-- What is said of the types of one kind of declaration, in the order of the lines. -/
theorem SymbolTable.typeUses_of_kind {α : Type} {part : Body ClassDecl → List α}
    {make : α → Member} {kind : DeclarationKind}
    (hpart : ∀ b : Body ClassDecl, b.members.filter (·.kind = kind) = (part b).map make)
    (hnumbers : lines.Pairwise (·.number < ·.number)) :
    ((t.bodies.flatMap part).mergeSort fun a b => (make a).line ≤ (make b).line).flatMap
        (fun x => (make x).typeUses) = (linesOfKind kind lines).flatMap Line.typeUses := by
  have hread : ∀ owner line, ∀ m ∈ Line.members owner file line,
      (m.line, m.typeUses) = (line.number, line.typeUses) := by
    intro owner line m hm
    rcases line.members_cases owner file with ⟨hnone, -⟩ | ⟨made, hmade, hline, -⟩
    · rw [hnone] at hm
      exact (List.not_mem_nil hm).elim
    · have htypes := Line.typeUses_of_mem_members hm
      rw [hmade] at hm
      rw [htypes, List.mem_singleton.mp hm, hline]
  have hsorted := map_mergeSort_eq (fun x => (make x).line) Prod.fst (fun _ => rfl)
    (perm_of_kind hbody hpart hread) (List.pairwise_map.mpr (hnumbers.filter _))
  -- The lines were kept with the types to tell them apart.
  have hflat := congrArg (List.flatMap Prod.snd) hsorted
  rwa [List.flatMap_map, List.flatMap_map] at hflat

/-- The types of a table are those of the lines whose declarations it has. -/
theorem SymbolTable.typeUses_eq (hnumbers : lines.Pairwise (·.number < ·.number)) :
    t.typeUses = (linesOfKind .variableDecl lines ++ linesOfKind .functionDecl lines).flatMap
      Line.typeUses := by
  have hvars : t.allVariables.flatMap (fun v => [v.typeUse]) =
      (linesOfKind .variableDecl lines).flatMap Line.typeUses :=
    typeUses_of_kind hbody Body.vars_eq hnumbers
  have hfunctions : t.allFunctions.flatMap (·.typeUses) =
      (linesOfKind .functionDecl lines).flatMap Line.typeUses :=
    typeUses_of_kind hbody Body.functions_eq hnumbers
  rw [typeUses, hfunctions, List.flatMap_append, ← hvars, List.map_eq_flatMap]

end Table

section Places

/-- No two types of a line stand at the same place. -/
theorem Line.nodup_typePlaces (line : Line) : (line.typePlaces.map (·.offset)).Nodup := by
  unfold typePlaces
  cases line.isBlank with
  | true => exact List.nodup_nil
  | false =>
    cases hs : Statement.ofText line.code with
    | variableDecl access name type => exact List.nodup_singleton _
    | functionHead head =>
      obtain ⟨hpairs, hlast⟩ :=
        Grammar.functionHead?_ordered (Statement.functionHead?_of_ofText hs)
      have hoffsets : (head.params.map fun p => (⟨line, p.type, p.offset⟩ : TypePlace)).map
          (·.offset) = head.params.map (·.offset) := by
        rw [List.map_map]
        rfl
      show ((head.returnType.offset : Int) :: (head.params.map fun p =>
        (⟨line, p.type, p.offset⟩ : TypePlace)).map (·.offset)).Nodup
      rw [hoffsets]
      refine List.nodup_cons.mpr ⟨?_, hpairs.imp Int.ne_of_lt⟩
      intro hmem
      obtain ⟨p, hp, heq⟩ := List.mem_map.mp hmem
      have hlt := hlast p hp
      omega
    | _ => exact List.nodup_nil

theorem Line.line_of_mem_typePlaces {line : Line} {p : TypePlace} (h : p ∈ line.typePlaces) :
    p.line = line := by
  rw [← line.map_typeUses] at h
  obtain ⟨u, -, rfl⟩ := List.mem_map.mp h
  rfl

/-- A line that declares neither a variable nor a function declares no types. -/
theorem Line.typePlaces_eq_nil {line : Line} (hvariable : line.declares? ≠ some .variableDecl)
    (hfunction : line.declares? ≠ some .functionDecl) : line.typePlaces = [] := by
  unfold declares? at hvariable hfunction
  unfold typePlaces
  cases hb : line.isBlank with
  | true => rfl
  | false =>
    rw [hb] at hvariable hfunction
    cases hs : Statement.ofText line.code with
    | variableDecl access name type =>
      rw [hs] at hvariable
      exact absurd rfl hvariable
    | functionHead head =>
      rw [hs] at hfunction
      exact absurd rfl hfunction
    | _ => rfl

/-- All types that lines declare are among those of variables and functions. -/
theorem perm_declaredTypes (lines : List Line) :
    (declaredTypes lines).Perm (lines.flatMap Line.typePlaces) := by
  unfold declaredTypes linesOfKind
  induction lines with
  | nil => exact List.Perm.refl _
  | cons line lines ih =>
    rw [List.filter_cons, List.filter_cons, List.flatMap_cons]
    by_cases hvariable : line.declares? = some .variableDecl
    · simp only [hvariable, decide_true, ↓reduceIte, Option.some.injEq, reduceCtorEq, decide_false,
        Bool.false_eq_true, List.cons_append, List.flatMap_cons]
      exact ih.append_left _
    · by_cases hfunction : line.declares? = some .functionDecl
      · simp only [hfunction, decide_true, ↓reduceIte, Option.some.injEq, reduceCtorEq,
          decide_false, Bool.false_eq_true]
        -- The function moves in front of the variables of later lines.
        have hmove : (lines.filter (·.declares? = some .variableDecl) ++
            line :: lines.filter (·.declares? = some .functionDecl)).Perm
            (line :: (lines.filter (·.declares? = some .variableDecl) ++
              lines.filter (·.declares? = some .functionDecl))) := List.perm_middle
        exact (List.Perm.flatMap_right Line.typePlaces hmove).trans (ih.append_left _)
      · simp only [hvariable, hfunction, decide_false, Bool.false_eq_true, ↓reduceIte,
          Line.typePlaces_eq_nil hvariable hfunction, List.nil_append]
        exact ih

/-- No two types of a text stand at the same place. -/
theorem pairwise_declaredTypes {lines : List Line} (h : lines.Pairwise (·.number < ·.number)) :
    (declaredTypes lines).Pairwise fun p q =>
      p.line.number ≠ q.line.number ∨ p.line = q.line ∧ p.offset ≠ q.offset := by
  have hlines : (lines.flatMap Line.typePlaces).Pairwise fun p q =>
      p.line.number ≠ q.line.number ∨ p.line = q.line ∧ p.offset ≠ q.offset := by
    refine List.pairwise_flatMap.mpr ⟨?_, h.imp ?_⟩
    · intro line _
      refine (List.pairwise_map.mp line.nodup_typePlaces).imp_of_mem fun hp hq hne => ?_
      have hline := (Line.line_of_mem_typePlaces hp).trans (Line.line_of_mem_typePlaces hq).symm
      exact Or.inr ⟨hline, hne⟩
    · intro line later hlt p hp q hq
      rw [Line.line_of_mem_typePlaces hp, Line.line_of_mem_typePlaces hq]
      exact Or.inl (Int.ne_of_lt hlt)
  have hsymm : ∀ {p q : TypePlace},
      (p.line.number ≠ q.line.number ∨ p.line = q.line ∧ p.offset ≠ q.offset) →
      (q.line.number ≠ p.line.number ∨ q.line = p.line ∧ q.offset ≠ p.offset) :=
    Or.imp Ne.symm (And.imp Eq.symm Ne.symm)
  exact ((perm_declaredTypes lines).pairwise_iff hsymm).mpr hlines

end Places

end ScriptLint
