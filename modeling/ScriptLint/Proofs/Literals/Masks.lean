import ScriptLint.Proofs.Literals.Lines

/-! The masks of a comment-free text and the reading of its line. A mask reads the text a second
time and knows of literals only, where the first reading knows of comments and of backslashes in
code too. They find the same literals until the first reading comes to a quote that is code or to a
backslash that ends its literal; there the masks go astray. -/
namespace ScriptLint.Line

open Literal (IsQuote Part)

/-- A character as it is read: the mode in front of it, and the character in sight behind it. -/
structure Step where
  mode : Mode
  char : Char
  ahead : Option Char

namespace Step

variable (s : Step)

/-- What the character belongs to. -/
def mark : Mark :=
  (s.mode.read s.char s.ahead).1

/-- The mode behind the character. -/
def next : Mode :=
  (s.mode.read s.char s.ahead).2

/-- What the character is to the literals of its line. The quote that opens a literal stands in
code, and the one that closes it leads back to code. -/
def part : Part :=
  if s.mark = .literal then
    if s.mode = .code ∨ s.next = .code then .delimiter else .content
  else .outside

/-- The character is a quote of the code, or a backslash of a literal that has no character of its
line to take. -/
def LeadsAstray : Prop :=
  s.mark = .code ∧ IsQuote s.char ∨
    (∃ quote, s.next = .literalEscape quote) ∧ (s.ahead = none ∨ s.ahead = some '\n')

end Step

/-- The characters of a text as they are read. -/
def Mode.steps (mode : Mode) : List Char → List Step
  | [] => []
  | c :: cs => ⟨mode, c, cs.head?⟩ :: steps (mode.read c cs.head?).2 cs

/-- The characters of a text that belong to no comment, as they are read. -/
def Mode.keptSteps (mode : Mode) (text : List Char) : List Step :=
  (mode.steps text).filter (·.mark ≠ .comment)

/-- The comment-free text with a blank for every character of a literal. -/
def withoutLiterals (l : Line) : List Char :=
  (l.mode.keptSteps l.text).map fun s => if s.part = .outside then s.char else ' '

/-- The comment-free text with a blank for every character of a literal but its quotes. -/
def withoutContents (l : Line) : List Char :=
  (l.mode.keptSteps l.text).map fun s => if s.part = .content then ' ' else s.char

namespace Mode

variable {mode : Mode} {c : Char} {cs : List Char}

theorem keptSteps_cons_of_comment (h : (mode.read c cs.head?).1 = .comment) :
    mode.keptSteps (c :: cs) = (mode.read c cs.head?).2.keptSteps cs :=
  List.filter_cons_of_neg (by simp [Step.mark, h])

theorem keptSteps_cons_of_kept (h : (mode.read c cs.head?).1 ≠ .comment) :
    mode.keptSteps (c :: cs) =
      ⟨mode, c, cs.head?⟩ :: (mode.read c cs.head?).2.keptSteps cs :=
  List.filter_cons_of_pos (by simp [Step.mark, h])

theorem map_char_keptSteps (mode : Mode) (text : List Char) :
    (mode.keptSteps text).map (·.char) = mode.uncommented text := by
  induction text generalizing mode with
  | nil => rfl
  | cons c cs ih =>
    by_cases hmark : (mode.read c cs.head?).1 = .comment
    · rw [keptSteps_cons_of_comment hmark, uncommented_cons_of_comment hmark, ih]
    · rw [keptSteps_cons_of_kept hmark, uncommented_cons_of_kept hmark, List.map_cons, ih]

/-- Behind a backslash in a literal the next character is kept. -/
theorem head?_uncommented_of_escape {next : Mode} (h : ∃ quote, next = .literalEscape quote) :
    (next.uncommented cs).head? = cs.head? := by
  obtain ⟨quote, rfl⟩ := h
  cases cs with
  | nil => rfl
  | cons c cs => rw [uncommented_cons_of_kept (by simp [read])]; rfl

end Mode

namespace Step

variable {s : Step} {ahead : Option Char}

theorem not_leadsAstray_of_comment (h : s.mark = .comment) : ¬s.LeadsAstray := by
  rintro (⟨hcode, -⟩ | ⟨⟨quote, hnext⟩, -⟩)
  · rw [h] at hcode
    cases hcode
  · have houtside : s.next.literalMode = .outside :=
      Mode.literalMode_read_of_ne (by rw [← mark, h]; decide)
    rw [hnext] at houtside
    cases houtside

/-- What leads nobody astray the masks read as the line does. They see another character behind it
if a comment follows, but look there only at a backslash in a literal. -/
theorem read_literalMode (hkept : s.mark ≠ .comment) (h : ¬s.LeadsAstray)
    (hahead : (∃ quote, s.next = .literalEscape quote) → ahead = s.ahead) :
    s.mode.literalMode.read s.char ahead = (s.part, s.next.literalMode) := by
  obtain ⟨mode, c, sight⟩ := s
  unfold LeadsAstray at h
  unfold part
  unfold mark next at *
  dsimp only at *
  cases mode with
  | code =>
    change Literal.Mode.outside.read c ahead = _
    by_cases hc : IsQuote c
    · rw [Mode.read_code_of_isQuote hc, Literal.Mode.read_outside_quote hc]
      rfl
    · have hne : (Mode.code.read c sight).1 ≠ .literal :=
        fun hliteral => hc (Mode.isQuote_of_read_code hliteral)
      rw [if_neg hne, Mode.literalMode_read_of_ne hne, Literal.Mode.read_outside hc]
  | codeEscape =>
    have hc : ¬IsQuote c := fun hquote => h (Or.inl ⟨rfl, hquote⟩)
    exact Literal.Mode.read_outside hc ahead
  | literal q =>
    by_cases hescape : c = '\\'
    · have hread : (Mode.literal q).read c sight = (.literal, .literalEscape q) := if_pos hescape
      rw [hread] at h hahead ⊢
      have hsight : ¬(sight = none ∨ sight = some '\n') :=
        fun hend => h (Or.inr ⟨⟨q, rfl⟩, hend⟩)
      rw [hahead ⟨q, rfl⟩]
      simp [Mode.literalMode, Literal.Mode.read, hescape, hsight]
    · by_cases hclose : c = q
      · subst hclose
        simp [Mode.literalMode, Mode.read, Literal.Mode.read, hescape]
      · simp [Mode.literalMode, Mode.read, Literal.Mode.read, hescape, hclose]
  | literalEscape q => rfl
  | block =>
    unfold Mode.read at hkept
    dsimp only at hkept
    split at hkept <;> exact absurd rfl hkept
  | blockStart | blockEnd | lineComment => exact absurd rfl hkept

theorem mode_of_escape {quote : Char} (h : s.next = .literalEscape quote) :
    s.mode = .literal quote ∧ s.char = '\\' := by
  obtain ⟨mode, c, sight⟩ := s
  unfold next Mode.read at h
  cases mode with
  | literal q =>
    dsimp only at h
    split_ifs at h with hescape
    exact ⟨congrArg _ (Mode.literalEscape.inj h), hescape⟩
  | code | block =>
    dsimp only at h
    split_ifs at h
  | codeEscape | literalEscape _ | blockStart | blockEnd | lineComment => cases h

theorem mode_of_code_quote (h : s.mark = .code) (hc : IsQuote s.char) : s.mode = .codeEscape := by
  obtain ⟨mode, c, sight⟩ := s
  unfold mark at h
  cases mode with
  | codeEscape => rfl
  | code =>
    rw [Mode.read_code_of_isQuote hc] at h
    cases h
  | literal _ | block =>
    unfold Mode.read at h
    dsimp only at h
    split_ifs at h
  | literalEscape _ | blockStart | blockEnd | lineComment => cases h

/-- What leads astray is masked in code, and is left as it is in a literal. -/
theorem masked_ne_of_leadsAstray (h : s.LeadsAstray)
    (hahead : (∃ quote, s.next = .literalEscape quote) → ahead = s.ahead) :
    (if (s.mode.literalMode.read s.char ahead).1 = .outside then s.char else ' ') ≠
      if s.part = .outside then s.char else ' ' := by
  rcases h with ⟨hcode, hquote⟩ | ⟨⟨quote, hnext⟩, hend⟩
  · have hread : s.mode.literalMode.read s.char ahead = (.delimiter, .inside s.char) := by
      rw [mode_of_code_quote hcode hquote]
      exact Literal.Mode.read_outside_quote hquote ahead
    have hpart : s.part = .outside := by simp [part, hcode]
    rw [hread, hpart]
    rcases hquote with hchar | hchar <;> simp [hchar]
  · obtain ⟨hmode, hchar⟩ := mode_of_escape hnext
    have hread : s.mode.literalMode.read s.char ahead = (.outside, .outside) := by
      simp [hahead ⟨quote, hnext⟩, hmode, hchar, hend, Mode.literalMode, Literal.Mode.read]
    have hpart : s.part = .content := by simp [part, mark, hmode, hchar, hnext, Mode.read]
    rw [hread, hpart]
    simp [hchar]

end Step

namespace Mode

theorem parts_uncommented {mode : Mode} {text : List Char}
    (h : ∀ s ∈ mode.steps text, ¬s.LeadsAstray) :
    mode.literalMode.parts (mode.uncommented text) = (mode.keptSteps text).map (·.part) := by
  induction text generalizing mode with
  | nil => rfl
  | cons c cs ih =>
    rw [steps, List.forall_mem_cons] at h
    have hrest := ih h.2
    by_cases hmark : (mode.read c cs.head?).1 = .comment
    -- A comment is left out, and no literal is open around it.
    · have hnext : (mode.read c cs.head?).2.literalMode = .outside :=
        literalMode_read_of_ne (by rw [hmark]; decide)
      rw [uncommented_cons_of_comment hmark, keptSteps_cons_of_comment hmark, ← hrest,
        literalMode_of_comment hmark, hnext]
    · have hread : mode.literalMode.read c ((mode.read c cs.head?).2.uncommented cs).head? =
          (Step.part ⟨mode, c, cs.head?⟩, (mode.read c cs.head?).2.literalMode) :=
        Step.read_literalMode (s := ⟨mode, c, cs.head?⟩) hmark h.1 head?_uncommented_of_escape
      rw [uncommented_cons_of_kept hmark, keptSteps_cons_of_kept hmark, Literal.Mode.parts, hread,
        hrest, List.map_cons]

/-- If what the masks leave of a text is what the reading leaves of it, then nothing has led them
astray: what does so is masked, or left, against the reading. -/
theorem not_leadsAstray_of_eq {mode : Mode} {text : List Char}
    (h : ((mode.uncommented text).zip (mode.literalMode.parts (mode.uncommented text))).map
        (fun x => if x.2 = .outside then x.1 else ' ') =
      (mode.keptSteps text).map fun s => if s.part = .outside then s.char else ' ') :
    ∀ s ∈ mode.steps text, ¬s.LeadsAstray := by
  induction text generalizing mode with
  | nil => exact fun _ hs => (List.not_mem_nil hs).elim
  | cons c cs ih =>
    rw [steps, List.forall_mem_cons]
    by_cases hmark : (mode.read c cs.head?).1 = .comment
    · have hnext : (mode.read c cs.head?).2.literalMode = .outside :=
        literalMode_read_of_ne (by rw [hmark]; decide)
      rw [uncommented_cons_of_comment hmark, keptSteps_cons_of_comment hmark,
        literalMode_of_comment hmark, ← hnext] at h
      exact ⟨Step.not_leadsAstray_of_comment hmark, ih h⟩
    · rw [uncommented_cons_of_kept hmark, keptSteps_cons_of_kept hmark, Literal.Mode.parts,
        List.zip_cons_cons, List.map_cons, List.map_cons, List.cons.injEq] at h
      have hs : ¬Step.LeadsAstray ⟨mode, c, cs.head?⟩ := fun hastray =>
        Step.masked_ne_of_leadsAstray hastray head?_uncommented_of_escape h.1
      have hread : mode.literalMode.read c ((mode.read c cs.head?).2.uncommented cs).head? =
          (Step.part ⟨mode, c, cs.head?⟩, (mode.read c cs.head?).2.literalMode) :=
        Step.read_literalMode (s := ⟨mode, c, cs.head?⟩) hmark hs head?_uncommented_of_escape
      rw [hread] at h
      exact ⟨hs, ih h.2⟩

end Mode

/-- The masks keep the length of the comment-free text. They blank what the line reads as literals,
the one with the quotes and the other without them, if and only if no quote of the line is code and
every backslash in a literal has a character of the line to take. -/
theorem masks_eq_iff (l : Line) :
    (Literal.mask l.code).length = l.code.length ∧
      (Literal.maskContents l.code).length = l.code.length ∧
      (Literal.mask l.code = l.withoutLiterals ∧
          Literal.maskContents l.code = l.withoutContents ↔
        ∀ s ∈ l.mode.steps l.text, ¬s.LeadsAstray) := by
  refine ⟨Literal.length_mask _, Literal.length_maskContents _, fun h => ?_, fun h => ?_⟩
  · apply Mode.not_leadsAstray_of_eq
    rw [l.literalMode_mode]
    exact h.1
  · -- Both masks are read off the parts of the text, and these are the ones that the line gives.
    have hparts := Mode.parts_uncommented h
    rw [l.literalMode_mode] at hparts
    have hzip : l.code.zip (Literal.Mode.outside.parts l.code) =
        (l.mode.keptSteps l.text).map fun s => (s.char, s.part) := by
      have hcode : l.code = (l.mode.keptSteps l.text).map (·.char) :=
        (l.mode.map_char_keptSteps l.text).symm
      rw [show Literal.Mode.outside.parts l.code = _ from hparts, hcode, List.zip_map']
    constructor
    · rw [Literal.mask, hzip, List.map_map]
      rfl
    · rw [Literal.maskContents, hzip, List.map_map]
      rfl

/-- A literal that is not closed, with a backslash at the end of the line. -/
def unpairedLine : Line := ⟨1, "\x22a\\".toList, false⟩

/-- A quote that is escaped in code. -/
def escapedLine : Line := ⟨1, "\\\x22a".toList, false⟩

/-- A literal that is not closed goes on to the end of the line, but the mask leaves a backslash
there; and a quote that is escaped in code opens no literal, but the mask takes it for one. -/
theorem mask_ne_withoutLiterals :
    unpairedLine.withoutLiterals = [' ', ' ', ' '] ∧
      Literal.mask unpairedLine.code = [' ', ' ', '\\'] ∧
      escapedLine.withoutLiterals = ['\\', '\x22', 'a'] ∧
      Literal.mask escapedLine.code = ['\\', ' ', ' '] := by
  decide +kernel

end ScriptLint.Line
