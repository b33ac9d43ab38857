import ScriptLint.Line.Basic

/-! The reading of a text, character by character. What a character belongs to depends on what
stands in front of it and at most on one character behind it, and on that one only at a slash in
code and at a star in a block comment. -/
namespace ScriptLint.Line

namespace Mode

variable {mode : Mode} {c : Char} {ahead : Option Char}

/-- The text without its comments. -/
def uncommented (mode : Mode) (text : List Char) : List Char :=
  ((text.zip (mode.marks text)).filter (·.2 ≠ .comment)).map (·.1)

theorem uncommented_cons (mode : Mode) (c : Char) (cs : List Char) :
    mode.uncommented (c :: cs) =
      (if (mode.read c cs.head?).1 = .comment then [] else [c]) ++
        (mode.read c cs.head?).2.uncommented cs := by
  unfold uncommented
  rw [marks, List.zip_cons_cons, List.filter_cons]
  split <;> simp_all

theorem uncommented_cons_of_comment {cs : List Char}
    (h : (mode.read c cs.head?).1 = .comment) :
    mode.uncommented (c :: cs) = (mode.read c cs.head?).2.uncommented cs := by
  rw [uncommented_cons, if_pos h, List.nil_append]

theorem uncommented_cons_of_kept {cs : List Char} (h : (mode.read c cs.head?).1 ≠ .comment) :
    mode.uncommented (c :: cs) = c :: (mode.read c cs.head?).2.uncommented cs := by
  rw [uncommented_cons, if_neg h, List.singleton_append]

theorem uncommented_subset (mode : Mode) (text : List Char) : mode.uncommented text ⊆ text := by
  intro x hx
  obtain ⟨⟨y, mark⟩, hy, rfl⟩ := List.mem_map.mp hx
  exact (List.of_mem_zip (List.mem_filter.mp hy).1).1

theorem uncommented_lineComment (text : List Char) : Mode.lineComment.uncommented text = [] := by
  induction text with
  | nil => rfl
  | cons c cs ih =>
    rw [uncommented_cons_of_comment rfl]
    exact ih

/-- In code, only at a slash is the next character looked at. -/
theorem read_code_of_ne_slash (hc : c ≠ '/') (ahead ahead' : Option Char) :
    Mode.code.read c ahead = Mode.code.read c ahead' := by
  simp only [read, hc, false_and]

/-- A slash that is kept in code opens no comment. -/
theorem read_slash_of_kept (h : (Mode.code.read '/' ahead).1 ≠ .comment) :
    ahead ≠ some '*' ∧ ahead ≠ some '/' := by
  constructor <;> rintro rfl <;> exact h rfl

end Mode

end ScriptLint.Line
