import Mathlib.Data.List.TakeWhile
import ScriptLint.Text.Blank

/-! Trimming. A character that is not blank stays, with all that stands between it and the next such
character; so what is left of a text can be told from any character of it that is not blank. -/
namespace ScriptLint.Text

theorem mem_dropWhile {p : Char → Bool} {c : Char} {text : List Char} (hmem : c ∈ text)
    (hc : p c = false) : c ∈ text.dropWhile p := by
  induction text with
  | nil => cases hmem
  | cons x xs ih =>
    rcases List.mem_cons.mp hmem with rfl | hmem
    · rw [List.dropWhile_cons_of_neg (by simp [hc])]
      exact List.mem_cons_self
    · rw [List.dropWhile_cons]
      split
      · exact ih hmem
      · exact List.mem_cons_of_mem _ hmem

theorem mem_trim {c : Char} {text : List Char} (hmem : c ∈ text) (hc : isBlank c = false) :
    c ∈ trim text := by
  have hstart : c ∈ (trimStart text).reverse := List.mem_reverse.mpr (mem_dropWhile hmem hc)
  exact List.mem_reverse.mpr (mem_dropWhile hstart hc)

theorem dropWhile_append_cons {p : Char → Bool} {c : Char} (hc : p c = false)
    (xs ys : List Char) : (xs ++ c :: ys).dropWhile p = xs.dropWhile p ++ c :: ys := by
  rw [List.dropWhile_append, List.dropWhile_cons_of_neg (by simp [hc])]
  split
  · next h => rw [List.isEmpty_iff.mp h, List.nil_append]
  · rfl

theorem trimEnd_append_cons {c : Char} (hc : isBlank c = false) (xs ys : List Char) :
    trimEnd (xs ++ c :: ys) = xs ++ c :: trimEnd ys := by
  have hreverse : (xs ++ c :: ys).reverse = ys.reverse ++ c :: xs.reverse := by simp
  rw [trimEnd, hreverse, dropWhile_append_cons hc, trimEnd]
  simp

/-- Trimming goes on at each side of a character that is not blank. -/
theorem trim_append_cons {c : Char} (hc : isBlank c = false) (xs ys : List Char) :
    trim (xs ++ c :: ys) = trimStart xs ++ c :: trimEnd ys := by
  rw [trim, trimStart, dropWhile_append_cons hc, trimEnd_append_cons hc, trimStart]

theorem trimEnd_of_blank {text : List Char} (h : ∀ c ∈ text, isBlank c = true) :
    trimEnd text = [] := by
  have hreverse : text.reverse.dropWhile isBlank = [] :=
    List.dropWhile_eq_nil_iff.mpr fun c hc => h c (List.mem_reverse.mp hc)
  rw [trimEnd, hreverse, List.reverse_nil]

theorem getLast?_trim_append {c : Char} (text : List Char) (hc : isBlank c = false) :
    (trim (text ++ [c])).getLast? = some c := by
  rw [trim_append_cons hc]
  simp [trimEnd]

/-- A trimmed text ends with the last character that is not blank. -/
theorem getLast?_trim_eq_some_iff {c : Char} {text : List Char} (hc : isBlank c = false) :
    (trim text).getLast? = some c ↔
      ∃ front back, text = front ++ c :: back ∧ ∀ x ∈ back, isBlank x = true := by
  have hends : ∀ front d back, isBlank d = false → (∀ x ∈ back, isBlank x = true) →
      (trim (front ++ d :: back)).getLast? = some d := by
    intro front d back hd hback
    rw [trim_append_cons hd, trimEnd_of_blank hback]
    simp
  constructor
  · intro hlast
    have hsplit := text.reverse.takeWhile_append_dropWhile (p := isBlank)
    cases hdrop : text.reverse.dropWhile isBlank with
    | nil =>
      have hall : ∀ x ∈ text, isBlank x = true := fun x hx =>
        List.dropWhile_eq_nil_iff.mp hdrop x (List.mem_reverse.mpr hx)
      have hstart : trimStart text = [] := List.dropWhile_eq_nil_iff.mpr hall
      rw [trim, hstart] at hlast
      cases hlast
    | cons d front =>
      have hd : isBlank d = false := by
        simpa [hdrop] using List.head?_dropWhile_not isBlank text.reverse
      have htext : text = front.reverse ++ d :: (text.reverse.takeWhile isBlank).reverse := by
        rw [hdrop] at hsplit
        simpa using congrArg List.reverse hsplit.symm
      have hback : ∀ x ∈ (text.reverse.takeWhile isBlank).reverse, isBlank x = true :=
        fun x hx => List.mem_takeWhile_imp (List.mem_reverse.mp hx)
      rw [htext, hends _ _ _ hd hback] at hlast
      cases hlast
      exact ⟨_, _, htext, hback⟩
  · rintro ⟨front, back, rfl, hback⟩
    exact hends front c back hc hback

end ScriptLint.Text
