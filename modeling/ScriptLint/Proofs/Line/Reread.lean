import Mathlib.Tactic.SplitIfs
import ScriptLint.Proofs.Line.Columns
import ScriptLint.Proofs.Line.Reading

/-! The comment-free text, read as a line of its own. Where a comment was taken out, what stood on
its two sides stands next to each other, and no comment opens there: a slash that is kept in code
has neither a star nor a slash behind it, and none is brought next to it either, since the first
character of a block comment would be a slash too. So the second reading goes through the modes of
the first one, those within comments left out. -/
namespace ScriptLint.Line

namespace Mode

variable {mode : Mode} {c : Char} {ahead : Option Char}

/-- The modes in front of the characters of a text, each with what the character belongs to. -/
def readings (mode : Mode) : List Char → List (Mode × Mark)
  | [] => []
  | c :: cs => (mode, (mode.read c cs.head?).1) :: readings (mode.read c cs.head?).2 cs

theorem map_snd_readings (mode : Mode) (text : List Char) :
    (mode.readings text).map (·.2) = mode.marks text := by
  induction text generalizing mode with
  | nil => rfl
  | cons c cs ih => rw [readings, marks, List.map_cons, ih]

/-- Where the reading stands if it saw no comment. -/
def outOfComment : Mode → Mode
  | .blockStart | .block | .blockEnd | .lineComment => .code
  | mode => mode

theorem outOfComment_ne_block (mode : Mode) : mode.outOfComment ≠ .block := by
  cases mode <;> exact Mode.noConfusion

/-- Comments are in code, and lead back to code. -/
theorem outOfComment_read (h : (mode.read c ahead).1 = .comment) :
    (mode.read c ahead).2.outOfComment = mode.outOfComment := by
  cases mode with
  | code =>
    unfold read at h ⊢
    dsimp only at h ⊢
    split_ifs at h ⊢ <;> rfl
  | block =>
    unfold read
    dsimp only
    split_ifs <;> rfl
  | literal quote =>
    unfold read at h
    dsimp only at h
    split_ifs at h
  | codeEscape | literalEscape _ => cases h
  | blockStart | blockEnd | lineComment => rfl

/-- What is kept is read out of comments, and leads into none. -/
theorem outOfComment_read_of_kept (h : (mode.read c ahead).1 ≠ .comment) :
    mode.outOfComment = mode ∧ (mode.read c ahead).2.outOfComment = (mode.read c ahead).2 := by
  cases mode with
  | code =>
    refine ⟨rfl, ?_⟩
    unfold read at h ⊢
    dsimp only at h ⊢
    split_ifs at h ⊢ <;> first | rfl | exact absurd rfl h
  | literal quote =>
    refine ⟨rfl, ?_⟩
    unfold read
    dsimp only
    split_ifs <;> rfl
  | codeEscape | literalEscape _ => exact ⟨rfl, rfl⟩
  | block =>
    unfold read at h
    dsimp only at h
    split_ifs at h <;> exact absurd rfl h
  | blockStart | blockEnd | lineComment => exact absurd rfl h

/-- If code starts with no slash, its comment-free text starts with the same character or is
empty. -/
theorem head?_uncommented {cs : List Char} (h : cs.head? ≠ some '/') :
    (Mode.code.uncommented cs).head? = none ∨ (Mode.code.uncommented cs).head? = cs.head? := by
  cases cs with
  | nil => exact .inl rfl
  | cons c cs =>
    by_cases hmark : (Mode.code.read c cs.head?).1 = .comment
    · -- Without a slash only a comment to the end of the line can open.
      have hc : c ≠ '/' := fun hc => h (congrArg some hc)
      have hnext : (Mode.code.read c cs.head?).2 = .lineComment := by
        unfold read at hmark ⊢
        simp only [hc, false_and, or_false, if_false] at hmark ⊢
        split_ifs at hmark ⊢
        rfl
      rw [uncommented_cons_of_comment hmark, hnext, uncommented_lineComment]
      exact .inl rfl
    · rw [uncommented_cons_of_kept hmark]
      exact .inr rfl

/-- A character that is kept is read in the same way in the comment-free text. -/
theorem read_uncommented {cs : List Char} (h : (mode.read c cs.head?).1 ≠ .comment) :
    mode.read c ((mode.read c cs.head?).2.uncommented cs).head? = mode.read c cs.head? := by
  cases mode with
  | code =>
    by_cases hc : c = '/'
    · subst hc
      obtain ⟨hstar, hslash⟩ := read_slash_of_kept h
      have hread : ∀ ahead, ahead ≠ some '*' → ahead ≠ some '/' →
          Mode.code.read '/' ahead = (.code, .code) := by
        intro ahead hstar hslash
        simp [read, hstar, hslash]
      rw [hread _ hstar hslash]
      -- What is next to the slash now is nothing, or what was next to it before.
      rcases head?_uncommented hslash with hnone | hsame
      · exact hread _ (by simp [hnone]) (by simp [hnone])
      · exact hread _ (hsame ▸ hstar) (hsame ▸ hslash)
    · exact read_code_of_ne_slash hc _ _
  | block =>
    unfold read at h
    dsimp only at h
    split_ifs at h <;> exact absurd rfl h
  | blockStart | blockEnd | lineComment => exact absurd rfl h
  | codeEscape | literal _ | literalEscape _ => rfl

/-- The second reading goes through the modes of the first one, those within comments left out. -/
theorem readings_uncommented (mode : Mode) (text : List Char) :
    mode.outOfComment.readings (mode.uncommented text) =
      (mode.readings text).filter (·.2 ≠ .comment) := by
  -- The second reading waits out of comments while the first one goes through one.
  induction text generalizing mode with
  | nil => rfl
  | cons c cs ih =>
    have hrest := ih (mode.read c cs.head?).2
    by_cases hmark : (mode.read c cs.head?).1 = .comment
    · rw [outOfComment_read hmark] at hrest
      rw [uncommented_cons_of_comment hmark, hrest, readings,
        List.filter_cons_of_neg (by simp [hmark])]
    · obtain ⟨hmode, hnext⟩ := outOfComment_read_of_kept hmark
      rw [hnext] at hrest
      rw [uncommented_cons_of_kept hmark, hmode, readings, readings, read_uncommented hmark, hrest,
        List.filter_cons_of_pos (by simp [hmark])]

theorem after_uncommented (mode : Mode) (text : List Char) :
    mode.outOfComment.after (mode.uncommented text) = (mode.after text).outOfComment := by
  induction text generalizing mode with
  | nil => rfl
  | cons c cs ih =>
    have hrest := ih (mode.read c cs.head?).2
    by_cases hmark : (mode.read c cs.head?).1 = .comment
    · rw [outOfComment_read hmark] at hrest
      rw [uncommented_cons_of_comment hmark, hrest, after]
    · obtain ⟨hmode, hnext⟩ := outOfComment_read_of_kept hmark
      rw [hnext] at hrest
      rw [uncommented_cons_of_kept hmark, hmode, after, read_uncommented hmark, hrest, after]

end Mode

section NoComment

variable {l : Line} (h : .comment ∉ l.marks)
include h

theorem code_of_no_comment : l.code = l.text := by
  have hall : ∀ x ∈ l.text.zip l.marks, decide (x.2 ≠ .comment) = true := by
    intro x hx
    exact decide_eq_true fun hmark => h (hmark ▸ (List.of_mem_zip hx).2)
  rw [code, List.filter_eq_self.mpr hall]
  exact List.map_fst_zip (Nat.le_of_eq l.length_marks.symm)

theorem kept_of_no_comment : l.kept = List.range l.text.length := by
  have hall : ∀ x ∈ l.marks.zipIdx, decide (x.1 ≠ .comment) = true := by
    intro x hx
    exact decide_eq_true fun hmark => h (hmark ▸ (List.mem_zipIdx' hx).2 ▸ List.getElem_mem _)
  rw [kept, List.filter_eq_self.mpr hall, List.zipIdx_map_snd, l.length_marks,
    List.range_eq_range']

end NoComment

/-- The line with its comment-free text only, read from its start as code. -/
def withoutComments (l : Line) : Line :=
  { l with text := l.code, startsInComment := false }

theorem outOfComment_mode (l : Line) : l.mode.outOfComment = .code := by
  unfold mode
  split <;> rfl

theorem readings_withoutComments (l : Line) :
    l.withoutComments.mode.readings l.withoutComments.text =
      (l.mode.readings l.text).filter (·.2 ≠ .comment) := by
  rw [← Mode.readings_uncommented, l.outOfComment_mode]
  rfl

theorem comment_notMem_marks_withoutComments (l : Line) :
    .comment ∉ l.withoutComments.marks := by
  intro hmem
  rw [marks, ← Mode.map_snd_readings, l.readings_withoutComments] at hmem
  obtain ⟨reading, hreading, hmark⟩ := List.mem_map.mp hmem
  simp [hmark] at hreading

/-- Taking out the comments is idempotent. In the comment-free text no comment is found, none is
open at its end, and every character is read in the mode and with the mark that it had before. -/
theorem withoutComments_reread (l : Line) :
    l.withoutComments.code = l.code ∧
      l.withoutComments.kept = List.range l.code.length ∧
      l.withoutComments.endsInComment = false ∧
      l.withoutComments.mode.readings l.code =
        (l.mode.readings l.text).filter (·.2 ≠ .comment) := by
  have hnone := l.comment_notMem_marks_withoutComments
  refine ⟨code_of_no_comment hnone, kept_of_no_comment hnone, ?_, l.readings_withoutComments⟩
  have hafter : l.withoutComments.mode.after l.withoutComments.text =
      (l.mode.after l.text).outOfComment := by
    rw [← Mode.after_uncommented, l.outOfComment_mode]
    rfl
  rw [endsInComment, hafter]
  exact decide_eq_false (Mode.outOfComment_ne_block _)

end ScriptLint.Line
