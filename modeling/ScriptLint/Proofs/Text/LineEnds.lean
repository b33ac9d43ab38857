import ScriptLint.Proofs.Text.Pieces
import ScriptLint.SourceFile

/-! Line ends. A source text is cut at its line feeds, and a carriage return in front of one goes
with it; a file that is read has every carriage return made a line feed. The two agree on a text
if it has no carriage return but in front of a line feed. -/
namespace ScriptLint

namespace Text

theorem mergeReturns_cons {c : Char} {cs : List Char} (h : ¬(c = '\r' ∧ cs.head? = some '\n')) :
    mergeReturns (c :: cs) = c :: mergeReturns cs := by
  refine mergeReturns.eq_3 _ _ fun more hc hcs => h ⟨hc, ?_⟩
  rw [hcs, List.head?_cons]

theorem mergeReturns_feed (text : List Char) :
    mergeReturns ('\n' :: text) = '\n' :: mergeReturns text :=
  mergeReturns_cons fun h => absurd h.1 (by decide)

/-- Texts are merged on their own unless a pair stands across the place where they meet. -/
theorem mergeReturns_append_of_apart {xs ys : List Char}
    (h : ¬(xs.getLast? = some '\r' ∧ ys.head? = some '\n')) :
    mergeReturns (xs ++ ys) = mergeReturns xs ++ mergeReturns ys := by
  induction xs using mergeReturns.induct with
  | case1 => rfl
  | case2 cs ih =>
    have hcs : ¬(cs.getLast? = some '\r' ∧ ys.head? = some '\n') := by
      rintro ⟨hlast, hhead⟩
      refine h ⟨?_, hhead⟩
      rw [List.getLast?_cons_cons, List.getLast?_cons, hlast]
      rfl
    rw [List.cons_append, List.cons_append, mergeReturns, mergeReturns, ih hcs, List.cons_append]
  | case3 c cs hpair ih =>
    have hfirst : ¬(c = '\r' ∧ cs.head? = some '\n') := by
      rintro ⟨hc, hhead⟩
      obtain ⟨more, hcs⟩ := List.head?_eq_some_iff.mp hhead
      exact hpair more hc hcs
    cases cs with
    | nil =>
      -- Here the two texts meet; everywhere else the next character is one of `xs`.
      have hmeet : ¬(c = '\r' ∧ ys.head? = some '\n') := fun ⟨hc, hhead⟩ => h ⟨hc ▸ rfl, hhead⟩
      rw [List.singleton_append, mergeReturns_cons hmeet, mergeReturns_cons hfirst,
        List.cons_append]
      rfl
    | cons d ds =>
      rw [List.getLast?_cons_cons] at h
      rw [List.cons_append, mergeReturns_cons hfirst, mergeReturns_cons (by simpa using hfirst),
        ih h, List.cons_append]

/-- A character that comes first after merging comes first before, a line feed excepted. -/
theorem head?_of_head?_mergeReturns {c : Char} {text : List Char}
    (h : (mergeReturns text).head? = some c) (hc : c ≠ '\n') : text.head? = some c := by
  cases text using mergeReturns.fun_cases with
  | case1 => cases h
  | case2 cs =>
    rw [mergeReturns] at h
    exact absurd (Option.some.inj h).symm hc
  | case3 d ds hpair =>
    rw [mergeReturns.eq_3 _ _ hpair] at h
    exact h

/-- The line ends are the line feeds of the merged text. -/
theorem count_mergeReturns (text : List Char) :
    (mergeReturns text).count '\n' = text.count '\n' := by
  induction text using mergeReturns.induct with
  | case1 => rfl
  | case2 cs ih => simp [mergeReturns, ih]
  | case3 c cs hpair ih => rw [mergeReturns.eq_3 _ _ hpair, List.count_cons, List.count_cons, ih]

/-- Only pairs are changed. -/
theorem mergeReturns_of_no_pair {text : List Char} (h : ¬['\r', '\n'] <:+: text) :
    mergeReturns text = text := by
  induction text with
  | nil => rfl
  | cons c cs ih =>
    rw [List.infix_cons_iff, not_or] at h
    have hfirst : ¬(c = '\r' ∧ cs.head? = some '\n') := by
      rintro ⟨rfl, hhead⟩
      obtain ⟨more, rfl⟩ := List.head?_eq_some_iff.mp hhead
      exact h.1 ⟨more, rfl⟩
    rw [mergeReturns_cons hfirst, ih h.2]

theorem mergeReturns_of_no_return {text : List Char} (h : '\r' ∉ text) :
    mergeReturns text = text :=
  mergeReturns_of_no_pair fun hpair => h (hpair.subset (by simp))

theorem mergeReturns_of_notMem {text : List Char} (h : '\n' ∉ text) :
    mergeReturns text = text :=
  mergeReturns_of_no_pair fun hpair => h (hpair.subset (by simp))

theorem pieces_injective (sep : Char) : Function.Injective (pieces sep) := by
  intro a b h
  rw [pieces_eq_splitOn, pieces_eq_splitOn] at h
  exact (List.intercalate_splitOn sep).symm.trans (h ▸ List.intercalate_splitOn sep)

/-- Every carriage return stands in front of a line feed. -/
def ReturnsPaired (text : List Char) : Prop :=
  ∀ i, text[i]? = some '\r' → text[i + 1]? = some '\n'

theorem returnsPaired_cons {c : Char} {cs : List Char} :
    ReturnsPaired (c :: cs) ↔ (c = '\r' → cs.head? = some '\n') ∧ ReturnsPaired cs := by
  constructor
  · refine fun h => ⟨fun hc => ?_, fun i hi => h (i + 1) hi⟩
    rw [List.head?_eq_getElem?]
    exact h 0 (congrArg some hc)
  · rintro ⟨hfirst, hmore⟩ i hi
    cases i with
    | zero =>
      rw [List.head?_eq_getElem?] at hfirst
      exact hfirst (Option.some.inj hi)
    | succ i => exact hmore i hi

/-- The carriage returns that merging leaves are those that have no line feed behind them. -/
theorem return_notMem_mergeReturns_iff (text : List Char) :
    '\r' ∉ mergeReturns text ↔ ReturnsPaired text := by
  induction text using mergeReturns.induct with
  | case1 => exact iff_of_true List.not_mem_nil fun i hi => by cases hi
  | case2 cs ih =>
    rw [mergeReturns, returnsPaired_cons, returnsPaired_cons, ← ih]
    simp
  | case3 c cs hpair ih =>
    rw [mergeReturns.eq_3 _ _ hpair, returnsPaired_cons, ← ih, List.mem_cons, not_or]
    refine and_congr_left fun _ => ⟨fun hc heq => absurd heq.symm hc, ?_⟩
    rintro hfirst rfl
    obtain ⟨more, hcs⟩ := List.head?_eq_some_iff.mp (hfirst rfl)
    exact hpair more rfl hcs

instance (text : List Char) : Decidable (ReturnsPaired text) :=
  decidable_of_iff _ (return_notMem_mergeReturns_iff text)

end Text

namespace SourceFile

open Text (mergeReturns)

/-- Unifying is merging first, and then making line feeds of the carriage returns that are left. -/
theorem unifyLineEnds_eq_map (text : List Char) :
    unifyLineEnds text = (mergeReturns text).map fun c => if c = '\r' then '\n' else c := by
  induction text using unifyLineEnds.induct with
  | case1 => rfl
  | case2 cs ih => rw [unifyLineEnds, mergeReturns, List.map_cons, ih]; rfl
  | case3 c cs hpair ih =>
    rw [unifyLineEnds.eq_3 _ _ hpair, mergeReturns.eq_3 _ _ hpair, List.map_cons, ih]

theorem return_notMem_unifyLineEnds (text : List Char) : '\r' ∉ unifyLineEnds text := by
  rw [unifyLineEnds_eq_map]
  intro hmem
  obtain ⟨c, -, hc⟩ := List.mem_map.mp hmem
  split at hc
  · cases hc
  · next hne => exact hne hc

theorem unifyLineEnds_append {xs ys : List Char}
    (h : ¬(xs.getLast? = some '\r' ∧ ys.head? = some '\n')) :
    unifyLineEnds (xs ++ ys) = unifyLineEnds xs ++ unifyLineEnds ys := by
  simp only [unifyLineEnds_eq_map, Text.mergeReturns_append_of_apart h, List.map_append]

theorem unifyLineEnds_eq_mergeReturns_iff (text : List Char) :
    unifyLineEnds text = mergeReturns text ↔ Text.ReturnsPaired text := by
  rw [← Text.return_notMem_mergeReturns_iff]
  constructor
  · intro h
    rw [← h]
    exact return_notMem_unifyLineEnds text
  · intro h
    rw [unifyLineEnds_eq_map]
    have hsame : ∀ c ∈ mergeReturns text, (if c = '\r' then '\n' else c) = id c := by
      rintro c hc
      exact if_neg fun hreturn : c = '\r' => h (hreturn ▸ hc)
    rw [List.map_congr_left hsame, List.map_id]

/-- A text whose line ends are unified has the same lines as before, if and only if each of its
carriage returns stood in front of a line feed. -/
theorem sourceLines_unifyLineEnds_iff (text : List Char) :
    Text.sourceLines (unifyLineEnds text) = Text.sourceLines text ↔ Text.ReturnsPaired text := by
  rw [← unifyLineEnds_eq_mergeReturns_iff, Text.sourceLines, Text.sourceLines,
    Text.mergeReturns_of_no_return (return_notMem_unifyLineEnds text)]
  exact (Text.pieces_injective '\n').eq_iff

end SourceFile

end ScriptLint
