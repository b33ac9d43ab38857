import ScriptLint.Proofs.Listing.Lines
import ScriptLint.Proofs.Placement.References

/-! Lines in which no names are looked up. A call has a bracket behind its name and a macro call a
sign in front of it, so a line without the character has no such call. Masks put in blanks only, and
cannot bring the character in. -/
namespace ScriptLint

open Text (Cursor)

/-- Nothing is found in a text that lacks a character which everything that is found has. -/
theorem Text.occurrences_eq_nil {α : Type} {recognise : Cursor → Option (α × Cursor)}
    {text : List Char} {x : Char} (hx : x ∉ text)
    (h : ∀ c found next, c.On text → recognise c = some (found, next) → x ∈ text) :
    occurrences recognise text = [] := by
  refine List.eq_nil_iff_forall_not_mem.mpr fun found hfound => ?_
  obtain ⟨c, next, hc, -, hread⟩ := exists_of_mem_occurrences hfound
  exact hx (h c found.2 next hc hread)

/-- The characters of a word that is read stand in the text. -/
theorem Text.Cursor.mem_of_word? {c d : Cursor} {text : List Char} {w : String} {x : Char}
    (hc : c.On text) (h : c.word? w = some d) (hx : x ∈ w.toList) : x ∈ text := by
  simp only [word?, Option.ite_none_right_eq_some, Option.some.injEq] at h
  have hrest : x ∈ c.rest := (List.isPrefixOf_iff_prefix.mp h.1).subset hx
  rw [show c.rest = text.drop c.offset from hc] at hrest
  exact List.mem_of_mem_drop hrest

namespace Literal

variable {text : List Char} {x : Char}

/-- A text that is masked has no characters but its own and blanks. -/
theorem mem_of_mem_masked {masked : List Char} {f : Char × Part → Char}
    (hmasked : masked = (text.zip (Mode.outside.parts text)).map f)
    (hf : ∀ y, f y = y.1 ∨ f y = ' ') (h : x ∈ masked) (hx : x ≠ ' ') : x ∈ text := by
  rw [hmasked] at h
  obtain ⟨⟨c, part⟩, hmem, rfl⟩ := List.mem_map.mp h
  rw [(hf (c, part)).resolve_right hx]
  exact (List.of_mem_zip hmem).1

theorem mem_of_mem_mask (h : x ∈ mask text) (hx : x ≠ ' ') : x ∈ text := by
  refine mem_of_mem_masked rfl (fun y => ?_) h hx
  by_cases hy : y.2 = .outside <;> simp [hy]

theorem mem_of_mem_maskContents (h : x ∈ maskContents text) (hx : x ≠ ' ') : x ∈ text := by
  refine mem_of_mem_masked rfl (fun y => ?_) h hx
  by_cases hy : y.2 = .content <;> simp [hy]

end Literal

/-- A line without braces leaves the open braces as they are. -/
theorem matchBraces_of_notMem {line : Line} (hopen : '\x7b' ∉ line.code)
    (hclose : '\x7d' ∉ line.code) (unclosed : List Int) :
    matchBraces unclosed line = (unclosed, false) :=
  foldl_matchBrace_of_notMem (fun h => hopen (Literal.mem_of_mem_mask h (by decide)))
    (fun h => hclose (Literal.mem_of_mem_mask h (by decide))) _ _

namespace References

variable {line : Line}

/-- A line without an opening bracket is looked at as a whole. -/
theorem region_of_notMem (h : '(' ∉ line.code) : region line = ⟨line.code, 0, false⟩ := by
  have hnone : Text.occurrences externalCall? line.code = [] := by
    refine Text.occurrences_eq_nil h fun c found next hc hread => ?_
    obtain ⟨first, hfirst, -⟩ := Option.bind_eq_some_iff.mp hread
    exact Cursor.mem_of_word? hc hfirst (by decide)
  rw [region, hnone]
  rfl

theorem lineCallDiagnostics_of_notMem (h : '(' ∉ line.code) (t : SymbolTable) :
    lineCallDiagnostics t line = [] := by
  have hnone : Text.occurrences call? (Literal.mask line.code) = [] := by
    have hmask : '(' ∉ Literal.mask line.code :=
      fun hmem => h (Literal.mem_of_mem_mask hmem (by decide))
    refine Text.occurrences_eq_nil hmask fun c found next hc hread => ?_
    simp only [call?, Option.bind_eq_bind, Option.bind_eq_some_iff] at hread
    obtain ⟨⟨name, last⟩, hname, bracket, hbracket, -⟩ := hread
    have hon := (Cursor.reads_of_name? hname).reaches.on hc
    exact Cursor.mem_of_word? ((Cursor.reaches_skipBlanks last).on hon) hbracket (by decide)
  rw [lineCallDiagnostics, region_of_notMem h]
  simp only [hnone, List.flatMap_nil]

theorem macroDiagnostics_of_notMem (h : '@' ∉ line.code) (t : SymbolTable) :
    macroDiagnostics t line = [] := by
  have hnone : Text.occurrences macroCall? (Literal.maskContents line.code) = [] := by
    have hmask : '@' ∉ Literal.maskContents line.code :=
      fun hmem => h (Literal.mem_of_mem_maskContents hmem (by decide))
    refine Text.occurrences_eq_nil hmask fun c found next hc hread => ?_
    obtain ⟨sign, hsign, -⟩ := Option.bind_eq_some_iff.mp hread
    exact Cursor.mem_of_word? hc hsign (by decide)
  rw [macroDiagnostics, hnone]
  rfl

end References

end ScriptLint
