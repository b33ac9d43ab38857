import ScriptLint.Proofs.Placement.References

/-! What a finding marks: the comment-free text at its columns. A token that a check took from the
line is marked again, also where the check looked at a masked copy of the text. A mask only puts
blanks in, so a token without blanks was in the text before. -/
namespace ScriptLint

open Text (Cursor Token)

/-- The comment-free text between the columns of a finding, if it starts at a character of it. -/
def Diagnostic.marked? (d : Diagnostic) (line : Line) : Option (List Char) :=
  (line.codeOffset? d.startColumn).map fun offset =>
    (line.code.drop offset).take (d.endColumn - d.startColumn).toNat

/-- The finding starts where the token starts, and is as long as the token. -/
def Diagnostic.Spans (d : Diagnostic) (line : Line) (token : Token) : Prop :=
  ∃ column : Nat, line.column? token.offset = some column ∧ d.startColumn = column ∧
    d.endColumn = column + token.text.length

section Marked

variable {line : Line} {token : Token} (h : token.In line.code)
include h

/-- A token of the comment-free text has a column, which leads back to the token. -/
theorem Line.exists_column_of_in :
    ∃ column : Nat, line.column? token.offset = some column ∧
      line.codeOffset? column = some token.offset := by
  have hkept : token.offset < line.kept.length := by
    have hle := h.add_le
    have hpos := h.length_pos
    rw [line.length_kept]
    omega
  exact ⟨line.kept[token.offset], line.column?_of_lt hkept, line.codeOffset?_kept hkept⟩

theorem Line.codeOffset?_of_column? {column : Nat}
    (hcolumn : line.column? token.offset = some column) :
    line.codeOffset? column = some token.offset := by
  obtain ⟨column', hcolumn', hplace⟩ := Line.exists_column_of_in h
  rw [hcolumn] at hcolumn'
  rwa [Option.some.inj hcolumn']

/-- A finding from the column of a token on, and as long as the token, marks it. -/
theorem Diagnostic.marked?_of_in {d : Diagnostic} {column : Nat}
    (hplace : line.codeOffset? column = some token.offset) (hfirst : d.startColumn = column)
    (hlast : d.endColumn = column + token.text.length) :
    d.marked? line = some token.text.toList := by
  have hlength : (d.endColumn - d.startColumn).toNat = token.text.toList.length := by
    rw [hfirst, hlast, String.length_toList]
    omega
  rw [marked?, hfirst, hplace, Option.map_some, ← hfirst, hlength]
  exact congrArg some (List.prefix_iff_eq_take.mp h.found).symm

/-- A finding that spans a token of the comment-free text marks the token. -/
theorem Diagnostic.Spans.marked? {d : Diagnostic} (hspans : d.Spans line token) :
    d.marked? line = some token.text.toList := by
  obtain ⟨column, hcolumn, hfirst, hlast⟩ := hspans
  exact marked?_of_in h (Line.codeOffset?_of_column? h hcolumn) hfirst hlast

/-- A finding at a token of the comment-free text spans the token. -/
theorem Diagnostic.exists_atOffset_spans (code : DiagnosticCode) (message : String)
    (fallback : Option String) :
    ∃ first last : Int,
      atOffset code message fallback line token.offset token.text.length =
        { message := message
          line := line.number
          startColumn := first
          endColumn := last
          code := code } ∧
      ∀ d : Diagnostic, d.startColumn = first → d.endColumn = last → d.Spans line token := by
  obtain ⟨column, hcolumn, -⟩ := Line.exists_column_of_in h
  exact ⟨column, column + token.text.length, atOffset_of_column? hcolumn code message fallback _,
    fun _ hfirst hlast => ⟨column, hcolumn, hfirst, hlast⟩⟩

end Marked

namespace Text

/-- The word is not empty and made of name characters. -/
def IsName (word : String) : Prop :=
  word ≠ "" ∧ ∀ c ∈ word.toList, isNameChar c = true

theorem IsName.blank_notMem {word : String} (h : IsName word) : ' ' ∉ word.toList :=
  fun hblank => absurd (h.2 ' ' hblank) (by decide)

end Text

namespace Text.Cursor

variable {c d : Cursor} {t : Token} {text : List Char}

theorem isName_of_name? (h : c.name? = some (t, d)) : IsName t.text := by
  refine ⟨fun hempty => ?_, ?_⟩
  · have hpos := (reads_of_name? h).length_pos
    rw [hempty] at hpos
    exact Nat.lt_irrefl 0 hpos
  · simp only [name?, Option.ite_none_right_eq_some, Option.some.injEq, Prod.mk.injEq] at h
    obtain ⟨-, rfl, -⟩ := h
    exact fun x hx => of_mem_token_run hx

end Text.Cursor

namespace Literal

/-- The text in which some characters are replaced by blanks has no other tokens without blanks. -/
theorem prefix_of_prefix_map {α : Type} {f g : α → Char} (hf : ∀ x, f x = g x ∨ f x = ' ')
    {word : List Char} (hword : ' ' ∉ word) (items : List α) (h : word <+: items.map f) :
    word <+: items.map g := by
  induction word generalizing items with
  | nil => exact List.nil_prefix
  | cons c word ih =>
    cases items with
    | nil => simp at h
    | cons x items =>
      obtain ⟨hc, hmore⟩ := List.cons_prefix_cons.mp h
      have hblank : f x ≠ ' ' := fun hx => hword (by simp [hc, hx])
      have hnot : ' ' ∉ word := fun hin => hword (List.mem_cons_of_mem _ hin)
      rw [List.map_cons, hc, (hf x).resolve_right hblank]
      exact List.cons_prefix_cons.mpr ⟨rfl, ih hnot items hmore⟩

/-- A masked text is the text with some characters replaced by blanks. -/
theorem prefix_drop_of_masked {text masked : List Char} {f : Char × Part → Char}
    (hmasked : masked = (text.zip (Mode.outside.parts text)).map f)
    (hf : ∀ x, f x = x.1 ∨ f x = ' ') {word : List Char} (hword : ' ' ∉ word) {offset : Nat}
    (h : word <+: masked.drop offset) : word <+: text.drop offset := by
  have htext : text = (text.zip (Mode.outside.parts text)).map (·.1) :=
    (List.map_fst_zip (Nat.le_of_eq (Mode.length_parts _ text).symm)).symm
  rw [hmasked, ← List.map_drop] at h
  rw [htext, ← List.map_drop]
  exact prefix_of_prefix_map hf hword _ h

theorem prefix_drop_of_mask {text word : List Char} (hword : ' ' ∉ word) {offset : Nat}
    (h : word <+: (mask text).drop offset) : word <+: text.drop offset := by
  refine prefix_drop_of_masked rfl (fun x => ?_) hword h
  by_cases hx : x.2 = .outside <;> simp [hx]

theorem prefix_drop_of_maskContents {text word : List Char} (hword : ' ' ∉ word) {offset : Nat}
    (h : word <+: (maskContents text).drop offset) : word <+: text.drop offset := by
  refine prefix_drop_of_masked rfl (fun x => ?_) hword h
  by_cases hx : x.2 = .content <;> simp [hx]

end Literal

/-- A token without blanks that was found in the masked region of a line stands in the line. -/
theorem References.in_of_in_mask_region {line : Line} {word : Token}
    (h : word.In (Literal.mask (region line).text)) (hword : ' ' ∉ word.text.toList) :
    Token.In ⟨word.text, (region line).offset + word.offset⟩ line.code := by
  have hregion : word.In (region line).text :=
    ⟨h.ne_nil, Literal.prefix_drop_of_mask hword h.found⟩
  exact hregion.shift (region_text_in line)

/-- The arguments of a call end at a bracket that closes, in the masked text and in the text. -/
theorem Literal.closesBracket_of_split?_maskContents {text : List Char} {start close : Nat}
    {args : List (List Char)}
    (h : Arguments.split? (maskContents text) start = some (args, close)) :
    text[close]?.any Arguments.closesBracket = true := by
  obtain ⟨⟨found, length⟩, hread, heq⟩ := Option.map_eq_some_iff.mp h
  cases heq
  have hmask := Arguments.closesBracket_of_pieces? hread
  rw [List.getElem?_drop] at hmask
  obtain ⟨x, hx, hcloses⟩ := (Option.any_eq_true _ _).mp hmask
  have hblank : ' ' ∉ [x] := by
    intro hmem
    rw [← List.mem_singleton.mp hmem] at hcloses
    exact absurd hcloses (by decide)
  have hmasked : [x] <+: (maskContents text).drop (start + length) := by
    rw [List.drop_eq_getElem?_toList_append, hx]
    exact List.prefix_append _ _
  -- A blank closes nothing, so the bracket was there before the mask.
  obtain ⟨behind, hbehind⟩ := prefix_drop_of_maskContents hblank hmasked
  have htext : text[start + length]? = some x := by
    rw [← Nat.add_zero (start + length), ← List.getElem?_drop, ← hbehind]
    rfl
  rw [htext]
  exact hcloses

end ScriptLint
