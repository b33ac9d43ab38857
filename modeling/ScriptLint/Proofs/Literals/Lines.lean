import Mathlib.Data.List.Forall2
import ScriptLint.Proofs.Line.Columns
import ScriptLint.Proofs.Line.Reading
import ScriptLint.Proofs.Literals.Alike

/-! Lines that differ in their literals. What is comment and what is a literal is the same in both,
and so are the columns of the comment-free text. The masking of literals, which reads that text
anew, finds the same literals unless a quote stands outside of them. -/
namespace ScriptLint.Line

open Literal (IsQuote IsOrdinary)

/-- The character takes the place of a marked one: it is the same, or both are ordinary characters
of a literal. -/
def Replaces (x : Char × Mark) (y : Char) : Prop :=
  x.1 = y ∨ x.2 = .literal ∧ IsOrdinary x.1 ∧ IsOrdinary y

/-- The lines are equal but for ordinary characters in literals. -/
def SameOutside (a b : Line) : Prop :=
  List.Forall₂ Replaces (a.text.zip a.marks) b.text

instance (x : Char × Mark) (y : Char) : Decidable (Replaces x y) :=
  inferInstanceAs (Decidable (_ ∨ _))

instance (a b : Line) : Decidable (a.SameOutside b) :=
  decidable_of_iff ((a.text.zip a.marks).length = b.text.length ∧
      ∀ pair ∈ (a.text.zip a.marks).zip b.text, Replaces pair.1 pair.2) (by
    rw [SameOutside, List.forall₂_iff_zip]
    exact and_congr_right fun _ => ⟨fun h x y hmem => h (x, y) hmem, fun h pair hmem => h hmem⟩)

namespace Mode

variable {mode : Mode} {c d : Char} {xs ys : List Char}

/-- An open literal ends at a quote. -/
def Proper : Mode → Prop
  | .literal quote | .literalEscape quote => IsQuote quote
  | _ => True

/-- What the mode is to the masking of literals. -/
def literalMode : Mode → Literal.Mode
  | .literal quote => .inside quote
  | .literalEscape quote => .escaped quote
  | _ => .outside

section Read

variable {ahead : Option Char}

theorem read_code_of_isQuote (hc : IsQuote c) (ahead : Option Char) :
    Mode.code.read c ahead = (.literal, .literal c) := by
  rcases hc with rfl | rfl <;> rfl

theorem isQuote_of_read_code (h : (Mode.code.read c ahead).1 = .literal) : IsQuote c := by
  unfold read at h
  dsimp only at h
  split_ifs at h with _ hquote
  exact hquote

theorem Proper.read (h : mode.Proper) (c : Char) (ahead : Option Char) :
    (mode.read c ahead).2.Proper := by
  cases mode with
  | code =>
    unfold Mode.read
    dsimp only
    split_ifs with _ hquote
    · trivial
    · exact hquote
    all_goals trivial
  | literal q =>
    unfold Mode.read
    dsimp only
    split_ifs
    · exact h
    · trivial
    · exact h
  | literalEscape q => exact h
  | block =>
    unfold Mode.read
    dsimp only
    split_ifs <;> trivial
  | codeEscape | blockStart | blockEnd | lineComment => trivial

/-- In a literal, and at its start, nothing looks at what follows. -/
theorem read_of_literal (h : (mode.read c ahead).1 = .literal) (ahead' : Option Char) :
    mode.read c ahead' = mode.read c ahead := by
  cases mode with
  | code =>
    have hc := isQuote_of_read_code h
    rw [read_code_of_isQuote hc, read_code_of_isQuote hc]
  | block =>
    unfold read at h
    dsimp only at h
    split_ifs at h
  | literal _ | literalEscape _ | codeEscape | blockStart | blockEnd | lineComment => rfl

theorem isQuote_of_read (hmode : mode.literalMode = .outside)
    (h : (mode.read c ahead).1 = .literal) : IsQuote c := by
  cases mode with
  | code => exact isQuote_of_read_code h
  | block =>
    unfold read at h
    dsimp only at h
    split_ifs at h
  | literal _ | literalEscape _ => cases hmode
  | codeEscape | blockStart | blockEnd | lineComment => cases h

/-- Behind what does not belong to a literal no literal is open. -/
theorem literalMode_read_of_ne (h : (mode.read c ahead).1 ≠ .literal) :
    (mode.read c ahead).2.literalMode = .outside := by
  cases mode with
  | code =>
    unfold read at h ⊢
    dsimp only at h ⊢
    split_ifs at h ⊢ <;> first | rfl | exact absurd rfl h
  | literal q =>
    unfold read at h
    dsimp only at h
    split_ifs at h <;> exact absurd rfl h
  | literalEscape q => exact absurd rfl h
  | block =>
    unfold read
    dsimp only
    split_ifs <;> rfl
  | codeEscape | blockStart | blockEnd | lineComment => rfl

/-- A comment is in code, so no literal is open in front of it. -/
theorem literalMode_of_comment (h : (mode.read c ahead).1 = .comment) :
    mode.literalMode = .outside := by
  cases mode with
  | literal q =>
    unfold read at h
    dsimp only at h
    split_ifs at h
  | literalEscape q => cases h
  | code | codeEscape | blockStart | block | blockEnd | lineComment => rfl

/-- All ordinary characters of a literal are read in the same way. -/
theorem exists_quote_of_ordinary (hmode : mode.Proper) (h : (mode.read c ahead).1 = .literal)
    (hc : IsOrdinary c) :
    ∃ q, ∀ d, IsOrdinary d → ∀ ahead, mode.read d ahead = (.literal, .literal q) ∧
      mode.literalMode.read d ahead = (.content, .inside q) := by
  cases hopen : mode.literalMode with
  | outside => exact absurd (isQuote_of_read hopen h) hc.1
  | inside q =>
    cases mode with
    | literal q' =>
      obtain rfl : q' = q := Literal.Mode.inside.inj hopen
      refine ⟨q', fun d hd ahead => ?_⟩
      have hne : d ≠ q' := fun heq => hd.1 (heq ▸ hmode)
      exact ⟨by simp [read, hd.2.1, hne], by simp [Literal.Mode.read, hd.2.1, hne]⟩
    | code | codeEscape | literalEscape _ | blockStart | block | blockEnd | lineComment =>
      cases hopen
  | escaped q =>
    cases mode with
    | literalEscape q' =>
      obtain rfl : q' = q := Literal.Mode.escaped.inj hopen
      exact ⟨q', fun d hd ahead => ⟨rfl, rfl⟩⟩
    | code | codeEscape | literal _ | blockStart | block | blockEnd | lineComment => cases hopen

/-- The masking goes along with the marking, as long as no quote is code. -/
theorem literalMode_read (hmark : (mode.read c ahead).1 ≠ .comment)
    (hquote : (mode.read c ahead).1 = .code → ¬IsQuote c) {z : Char} (hz : z ≠ '\n') :
    (mode.literalMode.read c (some z)).2 = (mode.read c ahead).2.literalMode := by
  cases mode with
  | code =>
    change (Literal.Mode.outside.read c (some z)).2 = _
    by_cases hc : IsQuote c
    · rw [read_code_of_isQuote hc, Literal.Mode.read_outside_quote hc]
      rfl
    · have hne : (Mode.code.read c ahead).1 ≠ .literal := fun h => hc (isQuote_of_read_code h)
      rw [literalMode_read_of_ne hne, Literal.Mode.read_outside hc]
  | codeEscape => exact congrArg Prod.snd (Literal.Mode.read_outside (hquote rfl) (some z))
  | literal q =>
    unfold read Literal.Mode.read literalMode
    dsimp only
    split_ifs with _ hend
    · simp [hz] at hend
    all_goals rfl
  | literalEscape q => rfl
  | block =>
    unfold read at hmark
    dsimp only at hmark
    split_ifs at hmark <;> exact absurd rfl hmark
  | blockStart | blockEnd | lineComment => exact absurd rfl hmark

end Read

/-- The texts are marked alike, and the characters of one replace those of the other. -/
inductive InStep : Mode → List Char → List Char → Prop
  | nil (mode : Mode) : InStep mode [] []
  | cons {mode next : Mode} {mark : Mark} {x y : Char} {xs ys : List Char}
      (hx : mode.read x xs.head? = (mark, next)) (hy : mode.read y ys.head? = (mark, next))
      (hreplaces : Replaces (x, mark) y) (h : InStep next xs ys) :
      InStep mode (x :: xs) (y :: ys)

theorem inStep_of_replaces (hmode : mode.Proper)
    (h : List.Forall₂ Replaces (xs.zip (mode.marks xs)) ys) : InStep mode xs ys := by
  induction xs generalizing mode ys with
  | nil =>
    cases h
    exact .nil mode
  | cons x xs ih =>
    rw [marks, List.zip_cons_cons] at h
    cases h with
    | @cons _ y _ ys hxy htail =>
      have hrest := ih (hmode.read x xs.head?) htail
      -- What follows differs in a literal only, where it is not looked at.
      have hahead : xs.head? = ys.head? ∨ (mode.read x xs.head?).1 = .literal := by
        cases hrest with
        | nil => exact .inl rfl
        | @cons _ _ _ x' y' _ _ hx' _ hreplaces _ =>
          rcases hreplaces with rfl | ⟨rfl, hordinary, -⟩
          · exact .inl rfl
          · refine .inr (Classical.byContradiction fun hne => ?_)
            have hquote := isQuote_of_read (literalMode_read_of_ne hne) (congrArg Prod.fst hx')
            exact hordinary.1 hquote
      have hread : mode.read y ys.head? = mode.read x xs.head? := by
        rcases hxy with heq | ⟨hmark, hx, hy⟩
        · obtain rfl : x = y := heq
          rcases hahead with heq | hliteral
          · rw [heq]
          · exact read_of_literal hliteral _
        · obtain ⟨q, hread⟩ := exists_quote_of_ordinary hmode hmark hx
          exact (hread y hy _).1.trans (hread x hx _).1.symm
      exact .cons rfl hread hxy hrest

namespace InStep

variable (h : InStep mode xs ys)
include h

theorem marks_eq : mode.marks xs = mode.marks ys := by
  induction h with
  | nil mode => rfl
  | cons hx hy _ _ ih => rw [marks, marks, hx, hy, ih]

theorem after_eq : mode.after xs = mode.after ys := by
  induction h with
  | nil mode => rfl
  | cons hx hy _ _ ih => rw [after, after, hx, hy, ih]

/-- If no quote is code, the masking sees the two texts differ in their literals only. -/
theorem alike (hmode : mode.Proper)
    (hquote : ∀ x ∈ xs.zip (mode.marks xs), x.2 = .code → ¬IsQuote x.1)
    (hxs : '\n' ∉ xs) (hys : '\n' ∉ ys) :
    Literal.Alike mode.literalMode (mode.uncommented xs) (mode.uncommented ys) := by
  induction h with
  | nil mode => exact .nil _
  | @cons mode next mark x y xs ys hx hy hreplaces _ ih =>
    have hnext : next = (mode.read x xs.head?).2 := (congrArg Prod.snd hx).symm
    have hmark : (mode.read x xs.head?).1 = mark := congrArg Prod.fst hx
    rw [marks, List.zip_cons_cons, List.forall_mem_cons, hx] at hquote
    rw [List.mem_cons, not_or] at hxs hys
    have htail := ih (hnext ▸ hmode.read x xs.head?) hquote.2 hxs.2 hys.2
    rw [uncommented_cons, uncommented_cons, hx, hy]
    by_cases hcomment : mark = .comment
    -- A comment is left out of both texts, and no literal is open around it.
    · have hbefore := literalMode_of_comment (hmark.trans hcomment)
      have hbehind : next.literalMode = .outside := by
        rw [hnext]
        exact literalMode_read_of_ne (by rw [hmark, hcomment]; decide)
      rw [if_pos hcomment, if_pos hcomment, hbefore]
      rwa [hbehind] at htail
    · rw [if_neg hcomment, if_neg hcomment, List.singleton_append, List.singleton_append]
      rcases hreplaces with heq | ⟨hliteral, hox, hoy⟩
      · obtain rfl : x = y := heq
        -- The masking looks at what is left of the text, so the next character may be another one
        -- than for the marking; that it is no line break is all that counts.
        have hgo (z : Char) (hz : z ≠ '\n') :
            (mode.literalMode.read x (some z)).2 = next.literalMode := by
          rw [hnext]
          exact literalMode_read (by rwa [hmark]) (fun hcode => hquote.1 (hmark ▸ hcode)) hz
        exact htail.cons_same hgo (fun hmem => hxs.2 (uncommented_subset _ _ hmem))
          fun hmem => hys.2 (uncommented_subset _ _ hmem)
      · obtain ⟨q, hread⟩ := exists_quote_of_ordinary hmode (hmark.trans hliteral) hox
        have hbehind : next.literalMode = .inside q := by
          rw [hnext, (hread x hox _).1]
          rfl
        rw [hbehind] at htail
        exact .cons (hread x hox _).2 (hread y hoy _).2 (.inr ⟨rfl, hox, hoy⟩) htail

end InStep

end Mode

/-- Whether a block comment is open at the start of a line makes no literal open there. -/
theorem proper_mode (l : Line) : l.mode.Proper := by
  unfold mode
  split <;> trivial

theorem literalMode_mode (l : Line) : l.mode.literalMode = .outside := by
  unfold mode
  split <;> rfl

/-- The lines have one number and are read from the same start, and differ in their literals. -/
structure Twin (a b : Line) : Prop where
  number : a.number = b.number
  start : a.startsInComment = b.startsInComment
  sameOutside : a.SameOutside b

namespace Twin

variable {a b : Line} (h : a.Twin b)
include h

theorem mode_eq : a.mode = b.mode := by
  rw [mode, mode, h.start]

theorem inStep : a.mode.InStep a.text b.text :=
  Mode.inStep_of_replaces a.proper_mode h.sameOutside

theorem marks_eq : a.marks = b.marks := by
  rw [marks, marks, ← h.mode_eq, h.inStep.marks_eq]

theorem endsInComment_eq : a.endsInComment = b.endsInComment := by
  rw [endsInComment, endsInComment, ← h.mode_eq, h.inStep.after_eq]

theorem length_text_eq : a.text.length = b.text.length := by
  rw [← a.length_marks, ← b.length_marks, h.marks_eq]

theorem column?_eq (offset : Int) : a.column? offset = b.column? offset := by
  have hkept : a.kept = b.kept := by rw [kept, kept, h.marks_eq]
  cases offset with
  | ofNat k => rw [column?, column?, hkept]
  | negSucc k => rfl

theorem alike (hquote : ∀ x ∈ a.text.zip a.marks, x.2 = .code → ¬IsQuote x.1)
    (ha : '\n' ∉ a.text) (hb : '\n' ∉ b.text) : Literal.Alike .outside a.code b.code := by
  have halike := h.inStep.alike a.proper_mode hquote ha hb
  rw [a.literalMode_mode] at halike
  have hcode : b.code = a.mode.uncommented b.text := by rw [h.mode_eq]; rfl
  rw [hcode]
  exact halike

end Twin

theorem forall₂_twin_ofSource {text text' : List Char}
    (h : List.Forall₂ SameOutside (ofSource text) (ofSource text')) :
    List.Forall₂ Twin (ofSource text) (ofSource text') := by
  suffices hgo : ∀ (more more' : List (List Char)) (n : Nat) (inComment : Bool),
      List.Forall₂ SameOutside (ofSource.go n inComment more) (ofSource.go n inComment more') →
      List.Forall₂ Twin (ofSource.go n inComment more) (ofSource.go n inComment more') from
    hgo _ _ _ _ h
  intro more
  induction more with
  | nil =>
    intro more' n inComment hsame
    cases more' with
    | nil => exact .nil
    | cons text' more' => cases hsame
  | cons text more ih =>
    intro more' n inComment hsame
    cases more' with
    | nil => cases hsame
    | cons text' more' =>
      obtain ⟨hfirst, hmore⟩ := List.forall₂_cons.mp hsame
      have htwin : Twin ⟨n, text, inComment⟩ ⟨n, text', inComment⟩ := ⟨rfl, rfl, hfirst⟩
      rw [← htwin.endsInComment_eq] at hmore
      refine .cons htwin ?_
      rw [← htwin.endsInComment_eq]
      exact ih more' _ _ hmore

end ScriptLint.Line
