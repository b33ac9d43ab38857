import ScriptLint.Proofs.Placement.Findings

/-! Uses of names have their places. They are looked for in a masked text, which is as long as the
text it was made from, or in the arguments of an external call, which are part of their line. -/
namespace ScriptLint

open Text (Cursor Token)

namespace Literal

theorem Mode.length_parts (mode : Mode) (text : List Char) :
    (mode.parts text).length = text.length := by
  induction text generalizing mode with
  | nil => rfl
  | cons c cs ih => rw [parts, List.length_cons, ih, List.length_cons]

theorem length_mask (text : List Char) : (mask text).length = text.length := by
  rw [mask, List.length_map, List.length_zip, Mode.length_parts, Nat.min_self]

theorem length_maskContents (text : List Char) : (maskContents text).length = text.length := by
  rw [maskContents, List.length_map, List.length_zip, Mode.length_parts, Nat.min_self]

end Literal

/-- An argument list ends at a bracket that closes. -/
theorem Arguments.closesBracket_of_pieces? {text : List Char} {depth length : Nat}
    {found : List (List Char)} (h : pieces? depth text = some (found, length)) :
    text[length]?.any closesBracket = true := by
  have hextend : ∀ {c : Char} {result : Option (List (List Char) × Nat)} {found length},
      pieces?.extend c result = some (found, length) →
        ∃ found' length', result = some (found', length') ∧ length = length' + 1 := by
    intro c result found length h
    cases result with
    | none => cases h
    | some read =>
      cases h
      exact ⟨_, _, rfl, rfl⟩
  induction text generalizing depth length found with
  | nil => cases h
  | cons c cs ih =>
    -- Each character adds one to the length, up to the bracket that has no partner.
    rw [pieces?.eq_def] at h
    dsimp only at h
    split at h
    · next hcloses =>
      cases depth with
      | zero =>
        cases h
        simpa using hcloses
      | succ depth =>
        obtain ⟨found', length', hread, rfl⟩ := hextend h
        simpa using ih hread
    · split at h
      · obtain ⟨found', length', hread, rfl⟩ := hextend h
        simpa using ih hread
      · split at h
        · obtain ⟨⟨found', length'⟩, hread, heq⟩ := Option.map_eq_some_iff.mp h
          cases heq
          simpa using ih hread
        · obtain ⟨found', length', hread, rfl⟩ := hextend h
          simpa using ih hread

theorem Arguments.pieces?_length_lt {text : List Char} {depth length : Nat}
    {found : List (List Char)} (h : pieces? depth text = some (found, length)) :
    length < text.length := by
  have hcloses := closesBracket_of_pieces? h
  refine Nat.lt_of_not_le fun hle => ?_
  rw [List.getElem?_eq_none hle] at hcloses
  cases hcloses

theorem Arguments.split?_lt {text : List Char} {start close : Nat} {args : List (List Char)}
    (h : split? text start = some (args, close)) : start ≤ close ∧ close < text.length := by
  obtain ⟨⟨found, length⟩, hread, heq⟩ := Option.map_eq_some_iff.mp h
  cases heq
  have hlt := pieces?_length_lt hread
  rw [List.length_drop] at hlt
  omega

namespace References

variable {line : Line}

/-- The region of a line is part of its text. -/
theorem region_text_in (line : Line) :
    (region line).text <+: line.code.drop (region line).offset := by
  unfold region
  cases hread : (Text.occurrences externalCall? line.code).head? with
  | none => exact List.prefix_rfl
  | some found =>
    obtain ⟨pos, inner, offset⟩ := found
    -- The arguments stand behind the second bracket that is opened, up to the next that closes.
    obtain ⟨c, next, hc, -, hcall⟩ := Text.exists_of_mem_occurrences (List.mem_of_head? hread)
    simp only [externalCall?, Option.bind_eq_bind, Option.bind_eq_some_iff] at hcall
    obtain ⟨c₁, h₁, c₂, h₂, ⟨_, c₃⟩, h₃, c₄, h₄, c₅, h₅, c₆, h₆, ⟨_, c₇⟩, h₇, c₈, h₈, ⟨_, c₉⟩, h₉,
      c₁₀, h₁₀, heq⟩ := hcall
    cases heq
    have hlibrary : c.Reaches c₄ := (Cursor.reaches_of_word? h₁).trans
      ((Cursor.reaches_of_skipBlanks_word? h₂).trans
        ((Cursor.prefix_of_upTo? h₃).2.trans (Cursor.reaches_of_blanks? h₄)))
    have hname : c₄.Reaches c₇ := (Cursor.reaches_of_word? h₅).trans
      ((Cursor.reaches_of_skipBlanks_word? h₆).trans
        ((Cursor.reaches_skipBlanks c₆).trans (Cursor.reads_of_name? h₇).reaches))
    have hopen : c₈.On line.code :=
      (hlibrary.trans (hname.trans (Cursor.reaches_of_skipBlanks_word? h₈))).on hc
    have hinner := (Cursor.prefix_of_upTo? h₉).1
    rw [show c₈.rest = line.code.drop c₈.offset from hopen] at hinner
    exact hinner

/-- A token of the masked text of a region has its place in the line. -/
theorem add_le_of_in_mask {word : Token} (h : word.In (Literal.mask (region line).text)) :
    (region line).offset + word.offset + word.text.length ≤ line.code.length := by
  have hin := h.add_le
  have hpos := h.length_pos
  have hregion := (region_text_in line).length_le
  rw [Literal.length_mask] at hin
  rw [List.length_drop] at hregion
  omega

/-- A macro call has the sign before its name, and its arguments start behind the name. -/
theorem bounds_of_macroCall? {c next : Cursor} {call : MacroCall} {text : List Char}
    (h : macroCall? c = some (call, next)) (hc : c.On text) :
    c.offset + (call.name.length + 1) ≤ text.length ∧ ∀ n ∈ call.argumentsAt, c.offset < n := by
  simp only [macroCall?, Option.bind_eq_bind, Option.bind_eq_some_iff] at h
  obtain ⟨c₁, hat, ⟨name, c₂⟩, hname, hread⟩ := h
  -- The sign is one character, and the name follows it at once.
  have hin := (Cursor.reads_of_name? hname).token_in ((Cursor.reaches_of_word? hat).on hc)
  have hoffset : name.offset = c.offset + 1 := by
    rw [(Cursor.reads_of_name? hname).offset_eq, Cursor.eq_advance_of_word? hat]
    rfl
  have hle := hin.add_le
  dsimp only at hread
  cases hopen : c₂.skipBlanks.word? "(" with
  | none =>
    rw [hopen] at hread
    cases hread
    exact ⟨by simp only; omega, fun n hn => (Option.not_mem_none n hn).elim⟩
  | some last =>
    rw [hopen] at hread
    cases hread
    refine ⟨by simp only; omega, fun n hn => ?_⟩
    have hbehind : c₁.offset ≤ next.offset :=
      ((Cursor.reads_of_name? hname).reaches.trans
        (Cursor.reaches_of_skipBlanks_word? hopen)).offset_le
    have hfirst : c₁.offset = c.offset + 1 := by
      rw [Cursor.eq_advance_of_word? hat]
      rfl
    have hlast : next.offset = n := Option.some.inj hn
    omega

theorem fitLine_macroDiagnostics (t : SymbolTable) : FitLine (macroDiagnostics t line) line := by
  refine fitLine_flatMap fun (offset, call) hmem => ?_
  obtain ⟨c, next, hc, hoffset, hread⟩ := Text.exists_of_mem_occurrences hmem
  obtain ⟨hname, harguments⟩ := bounds_of_macroCall? hread hc
  rw [hoffset, Literal.length_maskContents] at hname
  rw [hoffset] at harguments
  change FitLine (macroCallDiagnostics t line (Literal.maskContents line.code) offset call) line
  unfold macroCallDiagnostics
  cases t.findMacro? call.name with
  | none =>
    exact fitLine_singleton (Diagnostic.fits_atOffset (by decide) (Nat.succ_pos _) hname _ _)
  | some m =>
    dsimp only
    cases hargs : call.argumentsAt.bind (Arguments.split? (Literal.maskContents line.code)) with
    | none => exact fitLine_nil
    | some found =>
      obtain ⟨args, close⟩ := found
      obtain ⟨start, hstart, hsplit⟩ := Option.bind_eq_some_iff.mp hargs
      have hclose := Arguments.split?_lt hsplit
      have hlt := harguments start hstart
      rw [Literal.length_maskContents] at hclose
      dsimp only
      split
      · exact fitLine_nil
      · -- The call ends at its bracket, which lies behind the start of its arguments.
        have hlength : (close : Int) + 1 - offset = ((close + 1 - offset : Nat) : Int) := by omega
        refine fitLine_singleton (Diagnostic.Fits.withSeverity ?_ .warning)
        rw [hlength]
        exact Diagnostic.fits_atOffset (by decide) (by omega) (by omega) _ _

/-- A word is read up to the first character that breaks it. -/
theorem reads_of_word? {c next : Cursor} {word : Token} (h : word? c = some (word, next)) :
    c.Reads word next ∧ (∀ x ∈ word.text.toList, breaksWord x = false) ∧
      next.rest.head?.any (fun x => !breaksWord x) = false := by
  unfold word? at h
  split at h
  · cases h
  · next hn =>
    cases h
    refine ⟨⟨_, Nat.pos_of_ne_zero hn, Cursor.run_le c _, rfl, rfl⟩, fun x hx => ?_,
      Cursor.head_advance_run c _⟩
    simpa using Cursor.of_mem_token_run hx

theorem fitLine_lineWordDiagnostics (t : SymbolTable) (names : List String) :
    FitLine (lineWordDiagnostics t names line) line := by
  unfold lineWordDiagnostics
  split
  · exact fitLine_nil
  refine fitLine_flatMap fun (offset, word) hmem => ?_
  obtain ⟨c, next, hc, -, hread⟩ := Text.exists_of_mem_occurrences hmem
  have hin : word.In (Literal.mask (region line).text) := (reads_of_word? hread).1.token_in hc
  have hle := add_le_of_in_mask hin
  have hclass : (undefinedClass line ((region line).offset + word.offset) word.text).Fits line :=
    Diagnostic.fits_atOffset (by decide) hin.length_pos hle _ _
  have hvariable :
      (undefinedVariable line ((region line).offset + word.offset) word.text).Fits line :=
    Diagnostic.fits_atOffset (by decide) hin.length_pos hle _ _
  unfold wordDiagnostics
  dsimp only
  split
  · exact fitLine_nil
  · split
    · split
      · exact fitLine_nil
      · exact fitLine_singleton hclass
    · split
      · split
        · exact fitLine_nil
        · exact fitLine_singleton hvariable
      · exact fitLine_nil

theorem fitLine_lineCallDiagnostics (t : SymbolTable) :
    FitLine (lineCallDiagnostics t line) line := by
  refine fitLine_flatMap fun (offset, name) hmem => ?_
  obtain ⟨c, next, hc, -, hread⟩ := Text.exists_of_mem_occurrences hmem
  have hin : name.In (Literal.mask (region line).text) := by
    simp only [call?, Option.bind_eq_bind, Option.bind_eq_some_iff] at hread
    obtain ⟨⟨name', c₁⟩, hname, c₂, hopen, heq⟩ := hread
    cases heq
    exact (Cursor.reads_of_name? hname).token_in hc
  have hle := add_le_of_in_mask hin
  have hinfo : ∀ f, (functionInfo line ((region line).offset + name.offset) name.text f).Fits
      line := by
    intro f
    refine Diagnostic.Fits.withFunction ?_ .hint f
    exact Diagnostic.fits_atOffset (by decide) hin.length_pos hle _ _
  have hundefined :
      (undefinedFunction line ((region line).offset + name.offset) name.text).Fits line :=
    Diagnostic.fits_atOffset (by decide) hin.length_pos hle _ _
  change FitLine (callDiagnostics t line (region line) (Literal.mask (region line).text) name) line
  unfold callDiagnostics
  split
  · exact fitLine_nil
  · split
    · exact fitLine_singleton (hinfo _)
    · split
      · exact fitLine_nil
      · exact fitLine_singleton hundefined

end References

end ScriptLint
