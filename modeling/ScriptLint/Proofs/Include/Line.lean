import ScriptLint.Proofs.Analysis.Silent
import ScriptLint.Proofs.Include.Search
import ScriptLint.Proofs.Listing.Heads
import ScriptLint.Proofs.Literals.Alike

/-! Include lines that hold nothing but their path. They have no braces, brackets and literals, so
no pass over the lines has anything to look at but a macro that the path ends in: its sign and its
name are written as in a call, and are taken for one. -/
namespace ScriptLint

open Text (Cursor Token)

/-- The line includes the path, and there is nothing behind the path. -/
structure Line.OnlyIncludes (line : Line) (path : Token) : Prop where
  statement : Statement.ofText line.code = .inclusion path
  ends : ∀ x ∈ line.code.drop (path.offset + path.text.length), Text.isBlank x = true

/-- Whether the statement is an include line with the path. -/
def Statement.includes (path : Token) : Statement → Bool
  | .inclusion found => found.text = path.text ∧ found.offset = path.offset
  | _ => false

theorem Statement.includes_iff {path : Token} {statement : Statement} :
    statement.includes path = true ↔ statement = .inclusion path := by
  cases statement with
  | inclusion found =>
    obtain ⟨text, offset⟩ := found
    obtain ⟨text', offset'⟩ := path
    simp [includes]
  | _ => simp [includes]

instance (line : Line) (path : Token) : Decidable (line.OnlyIncludes path) :=
  decidable_of_iff ((Statement.ofText line.code).includes path = true ∧
      (line.code.drop (path.offset + path.text.length)).all Text.isBlank = true)
    ⟨fun h => ⟨Statement.includes_iff.mp h.1, List.all_eq_true.mp h.2⟩,
      fun h => ⟨Statement.includes_iff.mpr h.statement, List.all_eq_true.mpr h.ends⟩⟩

/-- Characters from which nothing is read are passed over. -/
theorem Text.occurrences_go_of_none {α : Type} {recognise : Cursor → Option (α × Cursor)}
    {front : List Char} (h : ∀ x ∈ front, ∀ pos more, recognise ⟨pos, x :: more⟩ = none)
    (pos : Nat) (rest : List Char) :
    occurrences.go recognise pos 0 (front ++ rest) =
      occurrences.go recognise (pos + front.length) 0 rest := by
  induction front generalizing pos with
  | nil => rfl
  | cons x front ih =>
    rw [List.forall_mem_cons] at h
    have hadd : pos + 1 + front.length = pos + (x :: front).length := by
      rw [List.length_cons]
      omega
    rw [List.cons_append, occurrences.go, h.1, ih h.2, hadd]

/-- In front of an include path there are only blanks and the letters of a word. -/
theorem Statement.exists_front {text : List Char} {path : Token}
    (h : Statement.ofText text = .inclusion path) :
    ∃ front start behind, text = front ++ start.rest ∧ start.offset = front.length ∧
      (∀ x ∈ front, Text.isBlank x = true ∨ Text.isNameChar x = true) ∧
      Grammar.includePath? start = some (path, behind) := by
  obtain ⟨word, start, behind, hword, hblanks, hpath⟩ := exists_of_ofText_inclusion h
  obtain ⟨before, hbefore, htext, hoffset⟩ := Cursor.exists_skipBlanks (Cursor.start text)
  obtain ⟨between, hbetween, hrest, hoffset'⟩ := Cursor.exists_skipBlanks word
  have hread := Cursor.reads_of_word? hword (by decide)
  have hletters := Cursor.toList_token_of_word? hword
  have hstart : start = word.skipBlanks := by
    simp only [Cursor.blanks?, Option.ite_none_left_eq_some, Option.some.injEq] at hblanks
    exact hblanks.2.symm
  refine ⟨before ++ ("include".toList ++ between), start, behind, ?_, ?_, ?_, hpath⟩
  · calc text = before ++ (Cursor.start text).skipBlanks.rest := htext
      _ = before ++ ("include".toList ++ (between ++ start.rest)) := by
        rw [hread.rest_eq, hletters, hrest, hstart]
      _ = before ++ ("include".toList ++ between) ++ start.rest := by
        simp only [List.append_assoc]
  · have hlength := hread.offset_add_length
    rw [← String.length_toList, hletters] at hlength
    rw [hstart, hoffset', ← hlength, hoffset]
    simp only [List.length_append, Cursor.start]
    omega
  · rw [List.forall_mem_append, List.forall_mem_append]
    have hword : ∀ x ∈ "include".toList, Text.isNameChar x = true :=
      List.all_eq_true.mp (by decide)
    exact ⟨fun x hx => .inl (hbefore x hx), fun x hx => .inr (hword x hx),
      fun x hx => .inl (hbetween x hx)⟩

/-- A text has one occurrence if something is read from it once and nothing in front of that or
behind it. -/
theorem Text.occurrences_eq_singleton {α : Type} {recognise : Cursor → Option (α × Cursor)}
    {front read rest : List Char} {found : α}
    (hfront : ∀ x ∈ front, ∀ pos more, recognise ⟨pos, x :: more⟩ = none) (hne : read ≠ [])
    (hread : recognise ⟨front.length, read ++ rest⟩ =
      some (found, ⟨front.length + read.length, rest⟩))
    (hrest : ∀ x ∈ rest, ∀ pos more, recognise ⟨pos, x :: more⟩ = none) :
    occurrences recognise (front ++ (read ++ rest)) = [(front.length, found)] := by
  have hend := occurrences_go_of_none hrest (front.length + read.length) []
  rw [List.append_nil] at hend
  rw [occurrences, occurrences_go_of_none hfront, Nat.zero_add, occurrences_go_of_some hne hread,
    hend]
  rfl

/-- What is read when a sign is followed by a name. -/
theorem Text.Cursor.exists_of_sign {last next behind : Cursor} {name : Token}
    (hsign : last.word? "@" = some next) (hname : next.name? = some (name, behind)) :
    last.rest = ('@' :: name.text.toList) ++ behind.rest ∧
      behind = ⟨last.offset + ('@' :: name.text.toList).length, behind.rest⟩ := by
  have hread := Cursor.reads_of_word? hsign (by decide)
  have hnamed := Cursor.reads_of_name? hname
  have htext : (last.token "@".length).text.toList = ['@'] := Cursor.toList_token_of_word? hsign
  refine ⟨by rw [hread.rest_eq, htext, hnamed.rest_eq]; rfl, ?_⟩
  have hfirst := hread.offset_add_length
  have hoffset := hnamed.offset_add_length
  rw [← String.length_toList, htext, List.length_singleton] at hfirst
  rw [← String.length_toList, ← hfirst, Nat.add_assoc, Nat.add_comm 1] at hoffset
  rw [List.length_cons, hoffset]

namespace References

variable {line : Line}

/-- A name behind a sign is a macro call, and it is the only one of the line if there is no other
sign. With nothing but blanks behind it, it has no arguments. -/
theorem macroDiagnostics_of_sign (hunquoted : ∀ c ∈ line.code, ¬Literal.IsQuote c)
    {front : List Char} {last next behind : Cursor} {name : Token}
    (hcode : line.code = front ++ last.rest) (hoffset : last.offset = front.length)
    (hfront : '@' ∉ front) (hsign : last.word? "@" = some next)
    (hname : next.name? = some (name, behind))
    (hbehind : ∀ x ∈ behind.rest, Text.isBlank x = true) (t : SymbolTable) :
    macroDiagnostics t line =
      if (t.findMacro? name.text).isSome then []
      else [undefinedMacro line last.offset name.text] := by
  have hnone : ∀ x ≠ '@', ∀ pos more, macroCall? ⟨pos, x :: more⟩ = none := by
    intro x hx pos more
    have hword : (⟨pos, x :: more⟩ : Cursor).word? "@" = none := by
      simp [Cursor.word?, Ne.symm hx]
    simp [macroCall?, hword]
  have hbracket : behind.skipBlanks.word? "(" = none := by
    have hrest : behind.skipBlanks.rest = [] := by
      rw [Cursor.skipBlanks, Cursor.rest_advance_run]
      exact List.dropWhile_eq_nil_iff.mpr hbehind
    simp [Cursor.word?, hrest]
  have hcall : macroCall? last = some (⟨name.text, none⟩, behind) := by
    simp [macroCall?, hsign, hname, hbracket]
  obtain ⟨hrest, hlater⟩ := Cursor.exists_of_sign hsign hname
  have hread : macroCall? ⟨front.length, ('@' :: name.text.toList) ++ behind.rest⟩ =
      some (⟨name.text, none⟩, ⟨front.length + ('@' :: name.text.toList).length, behind.rest⟩) := by
    rw [← hrest, ← hoffset, ← hlater]
    exact hcall
  have honly : Text.occurrences macroCall? line.code = [(front.length, ⟨name.text, none⟩)] := by
    rw [hcode, hrest]
    refine Text.occurrences_eq_singleton (fun x hx => hnone x ?_) (List.cons_ne_nil _ _) hread
      fun x hx => hnone x ?_
    · exact fun heq => hfront (heq ▸ hx)
    · exact fun heq => absurd (heq ▸ hbehind x hx) (by decide)
  rw [macroDiagnostics, Literal.maskContents_of_unquoted hunquoted, honly, hoffset]
  simp only [List.flatMap_cons, List.flatMap_nil, List.append_nil, macroCallDiagnostics]
  cases t.findMacro? name.text <;> rfl

end References

namespace Line.OnlyIncludes

variable {line : Line} {path : Token} (h : line.OnlyIncludes path)
include h

theorem exists_parts :
    ∃ front start behind, line.code = front ++ start.rest ∧ start.offset = front.length ∧
      start.offset = path.offset ∧
      (∀ x ∈ front, Text.isBlank x = true ∨ Text.isNameChar x = true) ∧
      Grammar.includePath? start = some (path, behind) ∧
      ∀ x ∈ behind.rest, Text.isBlank x = true := by
  obtain ⟨front, start, behind, hcode, hoffset, hfront, hpath⟩ :=
    Statement.exists_front h.statement
  have hread := Grammar.reads_of_includePath? hpath
  refine ⟨front, start, behind, hcode, hoffset, hread.offset_eq.symm, hfront, hpath, ?_⟩
  have hdrop : line.code.drop (path.offset + path.text.length) = behind.rest := by
    rw [hread.offset_eq, hcode, hread.rest_eq, hoffset, ← String.length_toList,
      ← List.length_append, ← List.append_assoc, List.drop_left]
  exact hdrop ▸ h.ends

/-- A character of the line is a blank or one that a path may have. -/
theorem isBlank_or_isPathChar :
    ∀ x ∈ line.code, Text.isBlank x = true ∨ Text.isPathChar x = true := by
  obtain ⟨front, start, behind, hcode, -, -, hfront, hpath, hbehind⟩ := h.exists_parts
  rw [hcode, (Grammar.reads_of_includePath? hpath).rest_eq, List.forall_mem_append,
    List.forall_mem_append]
  refine ⟨fun x hx => (hfront x hx).imp_right Text.isPathChar_of_isNameChar, fun x hx => .inr ?_,
    fun x hx => .inl (hbehind x hx)⟩
  exact Grammar.isPathChar_of_includePath? hpath x hx

theorem notMem_code {c : Char} (hblank : Text.isBlank c = false)
    (hpath : Text.isPathChar c = false) : c ∉ line.code := by
  intro hmem
  rcases h.isBlank_or_isPathChar c hmem with hc | hc
  · rw [hblank] at hc
    cases hc
  · rw [hpath] at hc
    cases hc

/-- The macro pass finds something only if the path ends in the name of a macro, and then that the
macro is not declared. -/
theorem macroDiagnostics_cases (t : SymbolTable) :
    ('@' ∉ path.text.toList ∧ References.macroDiagnostics t line = []) ∨
      ∃ (dotted : List Char) (name : String), '@' ∉ dotted ∧ Text.IsName name ∧
        path.text.toList = dotted ++ '@' :: name.toList ∧
        References.macroDiagnostics t line =
          if (t.findMacro? name).isSome then []
          else [References.undefinedMacro line (path.offset + dotted.length) name] := by
  obtain ⟨front, start, behind, hcode, hoffset, hstart, hfront, hpath, hbehind⟩ := h.exists_parts
  have hsignFront : '@' ∉ front := by
    intro hmem
    exact absurd (hfront '@' hmem) (by decide)
  obtain ⟨dotted, last, hread, hdotted, hcases⟩ := Grammar.exists_of_includePath? hpath
  have hsignDotted : '@' ∉ dotted.text.toList := by
    intro hmem
    exact absurd (hdotted '@' hmem) (by decide)
  rcases hcases with ⟨rfl, rfl⟩ | ⟨next, name, hsign, hname, htext⟩
  · refine .inl ⟨hsignDotted, References.macroDiagnostics_of_notMem ?_ t⟩
    rw [hcode, hread.rest_eq, List.mem_append, List.mem_append, not_or, not_or]
    exact ⟨hsignFront, hsignDotted, fun hmem => absurd (hbehind '@' hmem) (by decide)⟩
  · have hsplit : line.code = (front ++ dotted.text.toList) ++ last.rest := by
      rw [hcode, hread.rest_eq, List.append_assoc]
    have hlast : last.offset = (front ++ dotted.text.toList).length := by
      rw [← hread.offset_add_length, hoffset, List.length_append, String.length_toList]
    have hsignBefore : '@' ∉ front ++ dotted.text.toList := by
      rw [List.mem_append, not_or]
      exact ⟨hsignFront, hsignDotted⟩
    have hunquoted : ∀ c ∈ line.code, ¬Literal.IsQuote c := by
      rintro c hc (rfl | rfl)
      · exact h.notMem_code (by decide) (by decide) hc
      · exact h.notMem_code (by decide) (by decide) hc
    have hcall := References.macroDiagnostics_of_sign hunquoted hsplit hlast hsignBefore hsign hname
      hbehind t
    refine .inr
      ⟨dotted.text.toList, name.text, hsignDotted, Cursor.isName_of_name? hname, htext, ?_⟩
    rw [hcall, hlast, ← hstart, hoffset, List.length_append]

end Line.OnlyIncludes

end ScriptLint
