import ScriptLint.Check.Heads
import ScriptLint.Proofs.Literals.Alike
import ScriptLint.Proofs.Text.Trim

/-! Heads of texts that differ in their literals. Whether a text is blank and whether it starts with
the word of a declaration is settled in front of the first quote; the braces of a body are the same
in both texts unless some are in literals. -/
namespace ScriptLint

open Literal

theorem Text.isBlank_of_isQuote {c : Char} (h : IsQuote c) : isBlank c = false := by
  rcases h with rfl | rfl <;> decide

/-- What comes before a character that does not occur in a word decides whether the word starts the
text. -/
theorem Text.isPrefixOf_append_cons {word : List Char} {c : Char} (hc : c ∉ word)
    (xs ys : List Char) : word.isPrefixOf (xs ++ c :: ys) = word.isPrefixOf xs := by
  induction xs generalizing word with
  | nil =>
    cases word with
    | nil => rfl
    | cons w word =>
      have hne : w ≠ c := fun heq => hc (heq ▸ List.mem_cons_self)
      simp [List.isPrefixOf, hne]
  | cons x xs ih =>
    cases word with
    | nil => rfl
    | cons w word =>
      rw [List.cons_append, List.isPrefixOf, List.isPrefixOf,
        ih fun hmem => hc (List.mem_cons_of_mem w hmem)]

theorem isOneLiner_filter {p : Char → Bool} (hopen : p '\x7b' = true) (hclose : p '\x7d' = true)
    (text : List Char) : isOneLiner (text.filter p) = isOneLiner text := by
  unfold isOneLiner
  induction text with
  | nil => rfl
  | cons c cs ih =>
    by_cases hc : c = '\x7b'
    · rw [List.filter_cons_of_pos (hc ▸ hopen), List.dropWhile_cons_of_neg (by simp [hc]),
        List.dropWhile_cons_of_neg (by simp [hc]), Bool.eq_iff_iff]
      simp [hclose]
    · rw [List.dropWhile_cons_of_pos (by simp [hc]), ← ih, List.filter_cons]
      split
      · rw [List.dropWhile_cons_of_pos (by simp [hc])]
      · rfl

namespace Literal.Alike

variable {cs ds : List Char}

theorem trim_eq_or (h : Alike .outside cs ds) :
    Text.trim cs = Text.trim ds ∨ ∃ front q back back', IsQuote q ∧
      Text.trim cs = front ++ q :: back ∧ Text.trim ds = front ++ q :: back' := by
  rcases h.eq_or_exists_quote with rfl | ⟨front, q, back, back', hq, rfl, rfl⟩
  · exact .inl rfl
  · have hblank := Text.isBlank_of_isQuote hq
    exact .inr ⟨Text.trimStart front, q, Text.trimEnd back, Text.trimEnd back', hq,
      Text.trim_append_cons hblank _ _, Text.trim_append_cons hblank _ _⟩

theorem isEmpty_trim_eq (h : Alike .outside cs ds) :
    (Text.trim cs).isEmpty = (Text.trim ds).isEmpty := by
  rcases h.trim_eq_or with heq | ⟨front, q, back, back', -, hcs, hds⟩
  · rw [heq]
  · rw [hcs, hds]
    cases front <;> rfl

theorem isDeclarationLine_eq (h : Alike .outside cs ds) :
    isDeclarationLine cs = isDeclarationLine ds := by
  have hwords : ∀ w ∈ declarationWords, ∀ q, IsQuote q → q ∉ w.toList := by
    rintro w hw q (rfl | rfl)
    · revert w
      decide
    · revert w
      decide
  rcases h.trim_eq_or with heq | ⟨front, q, back, back', hq, hcs, hds⟩
  · rw [isDeclarationLine, isDeclarationLine, heq]
  · rw [isDeclarationLine, isDeclarationLine, hcs, hds, Bool.eq_iff_iff, List.any_eq_true,
      List.any_eq_true]
    refine exists_congr fun w => and_congr_right fun hw => ?_
    rw [Text.isPrefixOf_append_cons (hwords w hw q hq),
      Text.isPrefixOf_append_cons (hwords w hw q hq)]

theorem isOneLiner_eq (h : Alike .outside cs ds)
    (hcs : Mode.outside.Without ['\x7b', '\x7d'] cs)
    (hds : Mode.outside.Without ['\x7b', '\x7d'] ds) : isOneLiner cs = isOneLiner ds := by
  let braces : Char → Bool := fun c => ['\x7b', '\x7d'].contains c
  calc isOneLiner cs = isOneLiner (cs.filter braces) := (isOneLiner_filter rfl rfl cs).symm
    _ = isOneLiner (ds.filter braces) := by
      rw [h.filter_eq (fun x hx => by simpa [braces] using hx) hcs hds]
    _ = isOneLiner ds := isOneLiner_filter rfl rfl ds

/-- A brace that ends one of the texts ends the other, if it is not between quotes. -/
theorem exists_brace_end {mode : Mode} {front back : List Char}
    (h : Alike mode (front ++ '\x7b' :: back) ds)
    (hbrace : '\x7b' ∉ mode.contents (front ++ '\x7b' :: back))
    (hback : ∀ x ∈ back, Text.isBlank x = true) : ∃ front', ds = front' ++ '\x7b' :: back := by
  induction front generalizing mode ds with
  | nil =>
    obtain ⟨ds', rfl, htail⟩ := h.of_cons_of_notMem (by decide) hbrace
    -- What is blank holds no quote, so it is the same in both texts.
    rcases htail.eq_or_exists_quote with rfl | ⟨front, q, behind, _, hq, rfl, -⟩
    · exact ⟨[], rfl⟩
    · have hblank := hback q (List.mem_append_right _ List.mem_cons_self)
      rw [Text.isBlank_of_isQuote hq] at hblank
      cases hblank
  | cons x front ih =>
    rw [List.cons_append] at h hbrace
    rw [Mode.contents_cons] at hbrace
    cases h with
    | @cons _ next part _ d _ ds hread _ _ htail =>
      rw [hread] at hbrace
      obtain ⟨front', rfl⟩ := ih htail fun hmem => hbrace (List.mem_append_right _ hmem)
      exact ⟨d :: front', rfl⟩

theorem getLast?_trim_iff (h : Alike .outside cs ds)
    (hcs : '\x7b' ∉ Mode.outside.contents cs) (hds : '\x7b' ∉ Mode.outside.contents ds) :
    (Text.trim cs).getLast? = some '\x7b' ↔ (Text.trim ds).getLast? = some '\x7b' := by
  have hbrace : Text.isBlank '\x7b' = false := by decide
  rw [Text.getLast?_trim_eq_some_iff hbrace, Text.getLast?_trim_eq_some_iff hbrace]
  constructor
  · rintro ⟨front, back, rfl, hback⟩
    obtain ⟨front', hds⟩ := h.exists_brace_end hcs hback
    exact ⟨front', back, hds, hback⟩
  · rintro ⟨front, back, rfl, hback⟩
    obtain ⟨front', hcs⟩ := h.symm.exists_brace_end hds hback
    exact ⟨front', back, hcs, hback⟩

end Literal.Alike

end ScriptLint
