import ScriptLint.Text.Pieces

/-! Cutting at a separator undoes joining with it, which also makes joining injective. -/
namespace ScriptLint.Text

theorem pieces_eq_splitOn (sep : Char) (text : List Char) :
    pieces sep text = text.splitOn sep := by
  induction text with
  | nil => rfl
  | cons c cs ih =>
    simp only [pieces, List.splitOn_cons_eq_if_modifyHead, beq_iff_eq, ih]

theorem pieces_ne_nil (sep : Char) (text : List Char) : pieces sep text ≠ [] := by
  rw [pieces_eq_splitOn]
  exact List.splitOn_ne_nil sep text

/-- Pieces that hold no separator are found again in the text that joins them. -/
theorem pieces_intercalate {sep : Char} {parts : List (List Char)}
    (hsep : ∀ part ∈ parts, sep ∉ part) (hne : parts ≠ []) :
    pieces sep ([sep].intercalate parts) = parts := by
  rw [pieces_eq_splitOn]
  exact List.splitOn_intercalate sep hsep hne

theorem sep_notMem_of_mem_pieces {sep : Char} {text part : List Char}
    (h : part ∈ pieces sep text) : sep ∉ part := by
  induction text generalizing part with
  | nil =>
    rw [List.mem_singleton.mp h]
    exact List.not_mem_nil
  | cons c cs ih =>
    rw [pieces] at h
    split at h
    · rcases List.mem_cons.mp h with rfl | h
      · exact List.not_mem_nil
      · exact ih h
    · next hne =>
      cases hcs : pieces sep cs with
      | nil =>
        rw [hcs] at h
        cases h
      | cons first more =>
        rw [hcs, List.modifyHead_cons] at h
        have hfirst : sep ∉ first := ih (hcs ▸ List.mem_cons_self)
        rcases List.mem_cons.mp h with rfl | h
        · simpa [hfirst] using Ne.symm hne
        · exact ih (hcs ▸ List.mem_cons_of_mem first h)

theorem mem_of_mem_pieces {sep c : Char} {text part : List Char} (h : part ∈ pieces sep text)
    (hc : c ∈ part) : c ∈ text := by
  induction text generalizing part with
  | nil =>
    rw [List.mem_singleton.mp h] at hc
    exact hc
  | cons x xs ih =>
    rw [pieces] at h
    split at h
    · rcases List.mem_cons.mp h with rfl | h
      · exact (List.not_mem_nil hc).elim
      · exact List.mem_cons_of_mem x (ih h hc)
    · -- The first piece is the only one that the character goes to.
      cases hxs : pieces sep xs with
      | nil => simp [hxs] at h
      | cons first more =>
        rw [hxs, List.modifyHead_cons] at h
        rcases List.mem_cons.mp h with rfl | h
        · rcases List.mem_cons.mp hc with rfl | hc
          · exact List.mem_cons_self
          · exact List.mem_cons_of_mem x (ih (hxs ▸ List.mem_cons_self) hc)
        · exact List.mem_cons_of_mem x (ih (hxs ▸ List.mem_cons_of_mem first h) hc)

/-- A character that does not separate is in one of the pieces. -/
theorem exists_mem_pieces {sep c : Char} {text : List Char} (hc : c ∈ text) (hne : c ≠ sep) :
    ∃ part ∈ pieces sep text, c ∈ part := by
  induction text with
  | nil => exact (List.not_mem_nil hc).elim
  | cons x xs ih =>
    rw [pieces]
    split
    · next hx =>
      have hxs : c ∈ xs := (List.mem_cons.mp hc).resolve_left fun h => hne (h.trans hx)
      obtain ⟨part, hpart, hin⟩ := ih hxs
      exact ⟨part, List.mem_cons_of_mem [] hpart, hin⟩
    · cases hxs : pieces sep xs with
      | nil => exact absurd hxs (pieces_ne_nil sep xs)
      | cons first more =>
        rw [List.modifyHead_cons]
        rcases List.mem_cons.mp hc with rfl | hc
        · exact ⟨c :: first, List.mem_cons_self, List.mem_cons_self⟩
        · obtain ⟨part, hpart, hin⟩ := ih hc
          rw [hxs] at hpart
          rcases List.mem_cons.mp hpart with rfl | hpart
          · exact ⟨x :: part, List.mem_cons_self, List.mem_cons_of_mem x hin⟩
          · exact ⟨part, List.mem_cons_of_mem _ hpart, hin⟩

theorem pieces_sep_cons (sep : Char) (text : List Char) :
    pieces sep (sep :: text) = [] :: pieces sep text := by
  simp only [pieces, ↓reduceIte]

/-- What stands before a separator and what stands behind it are cut on their own. -/
theorem pieces_append_sep_cons (sep : Char) (front back : List Char) :
    pieces sep (front ++ sep :: back) = pieces sep front ++ pieces sep back := by
  simp only [pieces_eq_splitOn]
  exact List.splitOn_append_cons_self front back

theorem pieces_of_notMem {sep : Char} {text : List Char} (h : sep ∉ text) :
    pieces sep text = [text] := by
  rw [pieces_eq_splitOn]
  exact List.splitOn_eq_singleton h

end ScriptLint.Text
