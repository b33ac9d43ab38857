import ScriptLint.Line.Basic

/-! The columns of the comment-free text. There is one for each of its characters, they grow from
left to right, and they lie in the line; so a range of the text that has a place in the line ends
within the line, however many comments were taken out of it. -/
namespace ScriptLint.Line

variable (l : Line)

theorem length_marks : l.marks.length = l.text.length :=
  Mode.length_marks l.mode l.text

theorem length_kept : l.kept.length = l.code.length := by
  -- Both keep what is not marked as a comment, one with the indices and one with the characters.
  have hkept : l.kept.length = (l.marks.filter (· ≠ .comment)).length := by
    have hmarks : l.marks = l.marks.zipIdx.map (·.1) := (List.zipIdx_map_fst 0 l.marks).symm
    rw [hmarks, List.filter_map, List.length_map, kept, List.length_map]
    rfl
  have hcode : l.code.length = (l.marks.filter (· ≠ .comment)).length := by
    have hmarks : l.marks = (l.text.zip l.marks).map (·.2) :=
      (List.map_snd_zip (Nat.le_of_eq l.length_marks)).symm
    rw [hmarks, List.filter_map, List.length_map, code, List.length_map]
    rfl
  rw [hkept, hcode]

theorem kept_sublist : l.kept.Sublist (List.range' 0 l.text.length) := by
  have hall : l.marks.zipIdx.map (·.2) = List.range' 0 l.text.length := by
    rw [List.zipIdx_map_snd, l.length_marks]
  rw [← hall]
  exact List.filter_sublist.map _

theorem kept_pairwise : l.kept.Pairwise (· < ·) :=
  List.Pairwise.sublist l.kept_sublist List.pairwise_lt_range'

theorem kept_lt {column : Nat} (h : column ∈ l.kept) : column < l.text.length := by
  have hmem := List.mem_range'.mp (l.kept_sublist.subset h)
  obtain ⟨i, hi, rfl⟩ := hmem
  omega

/-- Offsets that are `n` apart have columns that are at least `n` apart. -/
theorem kept_add_le {i n : Nat} (hi : i < l.kept.length) (h : i + n < l.kept.length) :
    l.kept[i] + n ≤ l.kept[i + n] := by
  induction n with
  | zero => exact Nat.le_refl _
  | succ n ih =>
    have hlt : i + n < l.kept.length := by omega
    have hprev := ih hlt
    have hnext : l.kept[i + n] < l.kept[i + (n + 1)] :=
      List.pairwise_iff_getElem.mp l.kept_pairwise _ _ hlt h (by omega)
    omega

theorem column?_of_lt {offset : Nat} (h : offset < l.kept.length) :
    l.column? offset = some l.kept[offset] := by
  have hcolumn : l.column? (Int.ofNat offset) = l.kept[offset]?.or
      (if offset = l.kept.length then l.kept.getLast?.map (· + 1) else none) := rfl
  rw [List.getElem?_eq_getElem h, Option.some_or] at hcolumn
  exact hcolumn

/-- The column of a character leads back to its offset. -/
theorem codeOffset?_kept {offset : Nat} (h : offset < l.kept.length) :
    l.codeOffset? (l.kept[offset] : Nat) = some offset := by
  refine List.findIdx?_eq_some_iff_getElem.mpr ⟨h, by simp, ?_⟩
  intro earlier hearlier
  have hlt : l.kept[earlier] < l.kept[offset] :=
    List.pairwise_iff_getElem.mp l.kept_pairwise _ _ _ h hearlier
  simp only [decide_eq_true_eq]
  omega

/-- A part of the comment-free text has a place in the line, and ends within the line. -/
theorem column?_of_add_le {offset length : Nat} (hpos : 0 < length)
    (h : offset + length ≤ l.code.length) :
    ∃ column, l.column? offset = some column ∧ column + length ≤ l.text.length := by
  rw [← l.length_kept] at h
  -- The last character of the range, and not the end behind it, surely has a column.
  have hlast : offset + (length - 1) < l.kept.length := by omega
  have hfirst : offset < l.kept.length := by omega
  refine ⟨l.kept[offset], l.column?_of_lt hfirst, ?_⟩
  have hle := l.kept_add_le hfirst hlast
  have hlt := l.kept_lt (List.getElem_mem hlast)
  omega

/-- Whether an offset has a place in the line depends on the comment-free text alone. -/
theorem isSome_column?_iff (offset : Int) :
    (l.column? offset).isSome ↔ 0 ≤ offset ∧ offset ≤ l.code.length ∧ 0 < l.code.length := by
  rw [← l.length_kept]
  cases offset with
  | negSucc n =>
    -- No offset is negative, and none of a list is found there.
    have hnone : l.column? (Int.negSucc n) = none := rfl
    have hneg : ¬0 ≤ Int.negSucc n := by omega
    simp [hnone, hneg]
  | ofNat k =>
    rcases Nat.lt_or_ge k l.kept.length with hlt | hge
    · have hsome : l.column? (Int.ofNat k) = some l.kept[k] := l.column?_of_lt hlt
      have hin : (0 : Int) ≤ k ∧ (k : Int) ≤ l.kept.length ∧ 0 < l.kept.length := by omega
      rw [hsome]
      exact iff_of_true rfl hin
    · have hcolumn : l.column? (Int.ofNat k) =
          if k = l.kept.length then l.kept.getLast?.map (· + 1) else none := by
        rw [column?, List.getElem?_eq_none hge, Option.none_or]
      rw [hcolumn]
      -- The end of the text has the column behind the last one, if there is a last one.
      by_cases hend : k = l.kept.length
      · have hlast : l.kept.getLast?.isSome ↔ 0 < l.kept.length := by
          rw [List.length_pos_iff, Option.isSome_iff_ne_none, ne_eq, List.getLast?_eq_none_iff]
        simp [hend, hlast]
      · have hgt : ¬(k : Int) ≤ l.kept.length := by omega
        simp [hend, hgt]

end ScriptLint.Line
