import ScriptLint.Proofs.Line.Plain

/-! Texts that are put together at a line feed. What stands in front of the line feed and what
stands behind it are cut into lines on their own; the lines behind are numbered on, and start in a
block comment if those in front leave one open. -/
namespace ScriptLint

namespace Text

/-- Line ends are merged in front of a line feed and behind it on their own. Only a carriage return
right in front of it is lost. -/
theorem exists_mergeReturns (front : List Char) :
    ∃ merged, merged.count '\n' = front.count '\n' ∧
      (front.getLast? ≠ some '\r' → merged = mergeReturns front) ∧
      ∀ back, mergeReturns (front ++ '\n' :: back) = merged ++ '\n' :: mergeReturns back := by
  by_cases hlast : front.getLast? = some '\r'
  · -- The return and the line feed behind it are a pair, and what is in front of it stands apart.
    obtain ⟨before, rfl⟩ := List.getLast?_eq_some_iff.mp hlast
    refine ⟨mergeReturns before, ?_, fun h => absurd hlast h, fun back => ?_⟩
    · rw [count_mergeReturns, List.count_append, List.count_singleton]
      rfl
    · have hapart : ¬(before.getLast? = some '\r' ∧
          ('\r' :: '\n' :: back).head? = some '\n') := by simp
      rw [List.append_assoc, List.singleton_append, mergeReturns_append_of_apart hapart,
        mergeReturns]
  · refine ⟨mergeReturns front, count_mergeReturns front, fun _ => rfl, fun back => ?_⟩
    rw [mergeReturns_append_of_apart fun hmeet => hlast hmeet.1, mergeReturns_feed]

theorem length_pieces (sep : Char) (text : List Char) :
    (pieces sep text).length = text.count sep + 1 := by
  induction text with
  | nil => rfl
  | cons c cs ih =>
    by_cases hc : c = sep <;> simp [pieces, hc, ih]

/-- The lines in front of a line feed are there whatever comes behind it. There is one more than
there are line feeds among them. -/
theorem exists_sourceLines (front : List Char) :
    ∃ ended, ended.length = front.count '\n' + 1 ∧
      (front.getLast? ≠ some '\r' → ended = sourceLines front) ∧
      ∀ back, sourceLines (front ++ '\n' :: back) = ended ++ sourceLines back := by
  obtain ⟨merged, hcount, hsame, hmerge⟩ := exists_mergeReturns front
  refine ⟨pieces '\n' merged, by rw [length_pieces, hcount], fun h => ?_, fun back => ?_⟩
  · rw [hsame h, sourceLines]
  · rw [sourceLines, hmerge, pieces_append_sep_cons, sourceLines]

end Text

namespace Line

/-- Whether a block comment is open behind lines, if `inComment` says so of the place in front of
them. -/
def openBehind (inComment : Bool) (texts : List (List Char)) : Bool :=
  texts.foldl (fun inComment text => (⟨0, text, inComment⟩ : Line).endsInComment) inComment

theorem ofSource_go_append (n : Nat) (inComment : Bool) (front back : List (List Char)) :
    ofSource.go n inComment (front ++ back) =
      ofSource.go n inComment front ++
        ofSource.go (n + front.length) (openBehind inComment front) back := by
  induction front generalizing n inComment with
  | nil => rfl
  | cons text front ih =>
    have hadd : n + 1 + front.length = n + (front.length + 1) := by omega
    rw [List.cons_append, ofSource.go, ofSource.go, ih, List.length_cons, hadd]
    rfl

theorem openBehind_eq (n : Nat) (inComment : Bool) (texts : List (List Char)) :
    openBehind inComment texts =
      (ofSource.go n inComment texts).getLast?.elim inComment (·.endsInComment) := by
  induction texts generalizing n inComment with
  | nil => rfl
  | cons text texts ih =>
    have hfirst : openBehind inComment (text :: texts) =
        openBehind (⟨n, text, inComment⟩ : Line).endsInComment texts := rfl
    rw [hfirst, ih (n + 1), ofSource.go, List.getLast?_cons]
    cases (ofSource.go (n + 1) _ texts).getLast? <;> rfl

theorem length_ofSource_go (n : Nat) (inComment : Bool) (texts : List (List Char)) :
    (ofSource.go n inComment texts).length = texts.length := by
  induction texts generalizing n inComment with
  | nil => rfl
  | cons text texts ih => rw [ofSource.go, List.length_cons, ih, List.length_cons]

end Line

end ScriptLint
