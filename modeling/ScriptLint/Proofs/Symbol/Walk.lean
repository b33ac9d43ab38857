import ScriptLint.Symbol.Table

/-! The walk over classes visits one class after the other, each with everything inside it. -/
namespace ScriptLint

namespace ClassDecl

@[simp] theorem walk_nil : walk [] = [] := by
  rw [walk]

theorem walk_append (a b : List ClassDecl) : walk (a ++ b) = walk a ++ walk b := by
  induction a using walk.induct with
  | case1 => simp
  | case2 c waiting ih =>
    rw [List.cons_append, walk, ← List.append_assoc, ih, walk, List.cons_append]

theorem walk_cons (c : ClassDecl) (cs : List ClassDecl) :
    walk (c :: cs) = c :: walk c.body.classes ++ walk cs := by
  rw [walk, walk_append, List.cons_append]

end ClassDecl

namespace Body

/-- The body and those of all classes inside it. -/
def levels (b : Body ClassDecl) : List (Body ClassDecl) :=
  b :: (ClassDecl.walk b.classes).map (·.body)

theorem levels_addClass (b : Body ClassDecl) (c : ClassDecl) :
    (b.addClass c).levels = b.addClass c :: (b.levels.tail ++ c.body.levels) := by
  simp [levels, addClass, ClassDecl.walk_append, ClassDecl.walk_cons]

/-- What holds of all levels of a body and a class, and of the body with the class in it, holds of
all levels of the latter. -/
theorem forall_levels_addClass {P : Body ClassDecl → Prop} {b : Body ClassDecl} {c : ClassDecl}
    (hb : ∀ level ∈ b.levels, P level) (hc : ∀ level ∈ c.body.levels, P level)
    (h : P (b.addClass c)) : ∀ level ∈ (b.addClass c).levels, P level := by
  intro level hlevel
  rw [levels_addClass, List.mem_cons, List.mem_append] at hlevel
  rcases hlevel with rfl | hlevel | hlevel
  · exact h
  · exact hb level (List.mem_of_mem_tail hlevel)
  · exact hc level hlevel

/-- A change of a body that leaves its classes alone changes its own level only. -/
theorem forall_levels_of_classes_eq {P : Body ClassDecl → Prop} {b b' : Body ClassDecl}
    (hb : ∀ level ∈ b.levels, P level) (hclasses : b'.classes = b.classes) (h : P b') :
    ∀ level ∈ b'.levels, P level := by
  intro level hlevel
  rw [levels, List.mem_cons, hclasses] at hlevel
  rcases hlevel with rfl | hlevel
  · exact h
  · exact hb level (List.mem_cons_of_mem _ hlevel)

end Body

end ScriptLint
