import Mathlib.Algebra.BigOperators.Group.List.Basic
import Mathlib.Algebra.Order.Ring.Int
import Mathlib.Data.List.Infix
import ScriptLint.Check.Arguments
import ScriptLint.Proofs.Text.Trim

/-! Argument lists. Brackets count up and down, and a comma separates where the count is zero. An
argument never goes below where it starts, comes back to it, and has its commas above it; so a list
of arguments, with commas between them and any blanks around them, is cut into these arguments. -/
namespace ScriptLint.Arguments

/-- What a character adds to the number of open brackets. -/
def weight (c : Char) : Int :=
  if closesBracket c then -1 else if opensBracket c then 1 else 0

/-- The number of brackets that a text opens and does not close. -/
def depth (text : List Char) : Int :=
  (text.map weight).sum

/-- A text that can stand between two commas: it closes the brackets that it opens and no others,
and each comma in it stands between brackets. -/
structure IsPiece (text : List Char) : Prop where
  closed : depth text = 0
  opened : ∀ front, front <+: text → 0 ≤ depth front
  enclosed : ∀ front, front ++ [','] <+: text → 0 < depth front

/-- An argument is such a text that is not blank. -/
structure IsArgument (text : List Char) : Prop extends IsPiece text where
  trim_ne_nil : Text.trim text ≠ []

/-- The text is the given one with blanks around it. -/
def Pads (arg text : List Char) : Prop :=
  ∃ before after, text = before ++ (arg ++ after) ∧
    (∀ c ∈ before, Text.isBlank c = true) ∧ ∀ c ∈ after, Text.isBlank c = true

/-- The text lists the arguments, with commas between them and blanks around each. -/
inductive Lists : List (List Char) → List Char → Prop
  /-- There are no arguments. -/
  | none {text : List Char} (hblanks : ∀ c ∈ text, Text.isBlank c = true) : Lists [] text
  /-- There is one argument. -/
  | one {arg text : List Char} (hpads : Pads arg text) : Lists [arg] text
  /-- There is an argument in front of others. -/
  | more {arg next text rest : List Char} {args : List (List Char)} (hpads : Pads arg text)
      (hrest : Lists (next :: args) rest) : Lists (arg :: next :: args) (text ++ ',' :: rest)

section Depth

theorem depth_append (a b : List Char) : depth (a ++ b) = depth a + depth b := by
  rw [depth, List.map_append, List.sum_append]
  rfl

theorem depth_cons (c : Char) (cs : List Char) : depth (c :: cs) = weight c + depth cs := by
  rw [depth, List.map_cons, List.sum_cons]
  rfl

variable {c : Char}

/-- A blank is neither a bracket nor a comma. -/
theorem weight_of_isBlank (h : Text.isBlank c = true) : weight c = 0 ∧ c ≠ ',' := by
  have hsigns : ['(', '[', '\x7b', ')', ']', '\x7d', ','].all (!Text.isBlank ·) = true := by decide
  have hne : ∀ x ∈ ['(', '[', '\x7b', ')', ']', '\x7d', ','], c ≠ x := by
    rintro x hx rfl
    have hplain := List.all_eq_true.mp hsigns c hx
    rw [h] at hplain
    cases hplain
  simp only [List.mem_cons, List.not_mem_nil, or_false, forall_eq_or_imp, forall_eq] at hne
  simp [weight, opensBracket, closesBracket, hne]

theorem depth_of_blank {blanks : List Char} (h : ∀ c ∈ blanks, Text.isBlank c = true) :
    depth blanks = 0 := by
  refine List.sum_eq_zero fun n hn => ?_
  obtain ⟨c, hc, rfl⟩ := List.mem_map.mp hn
  exact (weight_of_isBlank (h c hc)).1

end Depth

namespace IsPiece

variable {a b : List Char}

theorem of_blank {blanks : List Char} (h : ∀ c ∈ blanks, Text.isBlank c = true) :
    IsPiece blanks := by
  refine ⟨depth_of_blank h, fun front hfront => ?_, fun front hfront => ?_⟩
  · exact (depth_of_blank fun c hc => h c (hfront.subset hc)).ge
  · have hcomma : ',' ∈ blanks := hfront.subset (by simp)
    exact absurd rfl (weight_of_isBlank (h ',' hcomma)).2

/-- A front of two texts is one of the first, or goes on into the second. -/
theorem prefix_append_cases {front : List Char} (h : front <+: a ++ b) :
    front <+: a ∨ ∃ more, front = a ++ more ∧ more <+: b := by
  rcases List.prefix_or_prefix_of_prefix h (List.prefix_append a b) with hfront | ⟨more, rfl⟩
  · exact .inl hfront
  · exact .inr ⟨more, rfl, (List.prefix_append_right_inj a).mp h⟩

/-- Whether a text is a piece can be told from its fronts. -/
theorem iff_forall_inits {text : List Char} :
    IsPiece text ↔ depth text = 0 ∧ ∀ front ∈ text.inits,
      0 ≤ depth front ∧ ((text.drop front.length).head? = some ',' → 0 < depth front) := by
  have hcomma : ∀ front, front ++ [','] <+: text ↔
      front <+: text ∧ (text.drop front.length).head? = some ',' := by
    intro front
    constructor
    · rintro ⟨behind, rfl⟩
      exact ⟨⟨',' :: behind, by simp⟩, by simp⟩
    · rintro ⟨⟨behind, rfl⟩, hhead⟩
      rw [List.drop_left] at hhead
      obtain ⟨rest, rfl⟩ := List.head?_eq_some_iff.mp hhead
      exact ⟨rest, by simp⟩
  simp only [List.mem_inits]
  constructor
  · intro h
    exact ⟨h.closed, fun front hfront =>
      ⟨h.opened front hfront, fun hhead => h.enclosed front ((hcomma front).mpr ⟨hfront, hhead⟩)⟩⟩
  · rintro ⟨hclosed, h⟩
    exact ⟨hclosed, fun front hfront => (h front hfront).1, fun front hfront =>
      (h front ((hcomma front).mp hfront).1).2 ((hcomma front).mp hfront).2⟩

instance (text : List Char) : Decidable (IsPiece text) :=
  decidable_of_iff _ iff_forall_inits.symm

/-- Pieces one behind the other are a piece. -/
theorem append (ha : IsPiece a) (hb : IsPiece b) : IsPiece (a ++ b) := by
  refine ⟨by rw [depth_append, ha.closed, hb.closed, add_zero], fun front hfront => ?_,
    fun front hfront => ?_⟩
  · rcases prefix_append_cases hfront with h | ⟨more, rfl, h⟩
    · exact ha.opened front h
    · rw [depth_append, ha.closed, zero_add]
      exact hb.opened more h
  · rcases prefix_append_cases hfront with h | ⟨more, heq, h⟩
    · exact ha.enclosed front h
    · rcases List.eq_nil_or_concat more with rfl | ⟨inner, last, rfl⟩
      · -- The comma ends the first piece.
        rw [List.append_nil] at heq
        exact ha.enclosed front (heq ▸ List.prefix_rfl)
      · rw [List.concat_eq_append, ← List.append_assoc] at heq
        obtain ⟨rfl, hlast⟩ := List.append_inj' heq rfl
        rw [List.concat_eq_append, ← hlast] at h
        rw [depth_append, ha.closed, zero_add]
        exact hb.enclosed inner h

/-- Blanks around a piece leave it one. -/
theorem of_pads {arg text : List Char} (h : Pads arg text) (harg : IsPiece arg) :
    IsPiece text := by
  obtain ⟨before, after, rfl, hbefore, hafter⟩ := h
  exact (of_blank hbefore).append (harg.append (of_blank hafter))

end IsPiece

section Pieces

/-- What stands in front of the first piece is put in front of it. -/
def inFront (front : List Char) (found : List (List Char) × Nat) : List (List Char) × Nat :=
  (found.1.modifyHead (front ++ ·), front.length + found.2)

theorem extend_eq_map (c : Char) (result : Option (List (List Char) × Nat)) :
    pieces?.extend c result = result.map (inFront [c]) := by
  cases result with
  | none => rfl
  | some found =>
    rw [Option.map_some, inFront, pieces?.extend, Nat.add_comm]
    rfl

theorem inFront_nil (found : List (List Char) × Nat) : inFront [] found = found := by
  obtain ⟨pieces, length⟩ := found
  cases pieces <;> simp [inFront]

theorem inFront_cons (c : Char) (cs : List Char) (found : List (List Char) × Nat) :
    inFront [c] (inFront cs found) = inFront (c :: cs) found := by
  obtain ⟨pieces, length⟩ := found
  cases pieces with
  | nil =>
    simp only [inFront, List.modifyHead_nil, List.length_cons, List.length_nil]
    congr 1
    omega
  | cons first more =>
    simp only [inFront, List.modifyHead_cons, List.length_cons, List.length_nil, List.cons_append]
    congr 1
    omega

variable {c : Char} {cs : List Char} {d e : Nat}

/-- A character that is no comma between pieces goes to the first piece, and changes the number of
open brackets by its weight. -/
theorem pieces?_cons (hopen : 0 ≤ d + weight c) (hcomma : c = ',' → 0 < d)
    (he : (e : Int) = d + weight c) : pieces? d (c :: cs) = (pieces? e cs).map (inFront [c]) := by
  rw [pieces?.eq_def]
  dsimp only
  by_cases hcloses : closesBracket c = true
  · have hweight : weight c = -1 := if_pos hcloses
    obtain ⟨d, rfl⟩ : ∃ d', d = d' + 1 := ⟨d - 1, by omega⟩
    obtain rfl : e = d := by omega
    rw [if_pos hcloses]
    exact extend_eq_map c _
  · by_cases hopens : opensBracket c = true
    · have hweight : weight c = 1 := by rw [weight, if_neg hcloses, if_pos hopens]
      obtain rfl : e = d + 1 := by omega
      rw [if_neg hcloses, if_pos hopens, extend_eq_map]
    · have hweight : weight c = 0 := by rw [weight, if_neg hcloses, if_neg hopens]
      obtain rfl : e = d := by omega
      have hinner : ¬(c = ',' ∧ e = 0) := fun h => absurd (hcomma h.1) (by omega)
      rw [if_neg hcloses, if_neg hopens, if_neg hinner, extend_eq_map]

/-- A text that closes no bracket of those before it, and has its commas between brackets, goes to
the first piece as a whole. -/
theorem pieces?_append {inner rest : List Char} (hopen : ∀ front, front <+: inner →
      0 ≤ d + depth front) (hcomma : ∀ front, front ++ [','] <+: inner → 0 < d + depth front)
    (he : (e : Int) = d + depth inner) :
    pieces? d (inner ++ rest) = (pieces? e rest).map (inFront inner) := by
  induction inner generalizing d with
  | nil =>
    obtain rfl : e = d := by
      have hnil : depth [] = 0 := rfl
      omega
    rw [List.nil_append, funext inFront_nil, Option.map_id']
  | cons c cs ih =>
    have hfirst : 0 ≤ d + weight c := by
      simpa [depth] using hopen [c] (List.prefix_append [c] cs)
    obtain ⟨next, hnext⟩ := Int.eq_ofNat_of_zero_le hfirst
    have hfront : ∀ front, d + depth (c :: front) = next + depth front := by
      intro front
      rw [depth_cons, ← add_assoc, hnext]
    have hrest := ih (d := next)
      (fun front h => hfront front ▸ hopen (c :: front) (List.cons_prefix_cons.mpr ⟨rfl, h⟩))
      (fun front h => hfront front ▸ hcomma (c :: front) (List.cons_prefix_cons.mpr ⟨rfl, h⟩))
      (by rw [he, hfront])
    have hcons : c = ',' → 0 < d := by
      rintro rfl
      simpa [depth] using hcomma [] (List.prefix_append [','] cs)
    rw [List.cons_append, pieces?_cons hfirst hcons hnext.symm, hrest, Option.map_map]
    exact congrArg (Option.map · _) (funext (inFront_cons c cs))

/-- The comma between two arguments ends the first piece. -/
theorem pieces?_comma (cs : List Char) :
    pieces? 0 (',' :: cs) = (pieces? 0 cs).map fun found => ([] :: found.1, found.2 + 1) :=
  rfl

/-- A first character that leaves the count above zero can be counted in advance. -/
theorem forall_depth_cons_iff {c : Char} {cs : List Char} :
    (∀ front, front <+: c :: cs → 0 ≤ d + depth front) ↔
      0 ≤ d + weight c ∧ ∀ front, front <+: cs → 0 ≤ d + weight c + depth front := by
  constructor
  · intro h
    refine ⟨by simpa [depth] using h [c] (List.prefix_append [c] cs), fun front hfront => ?_⟩
    rw [add_assoc, ← depth_cons]
    exact h (c :: front) (List.cons_prefix_cons.mpr ⟨rfl, hfront⟩)
  · rintro ⟨-, h⟩ front hfront
    rcases List.prefix_cons_iff.mp hfront with rfl | ⟨more, rfl, hmore⟩
    · exact Int.natCast_nonneg d
    · rw [depth_cons, ← add_assoc]
      exact h more hmore

/-- The list ends at a bracket that closes none of its own. -/
theorem pieces?_ne_none_of_neg {c : Char} {cs : List Char} (h : ¬(0 ≤ d + weight c)) :
    pieces? d (c :: cs) ≠ none := by
  have hcloses : closesBracket c = true := by
    by_contra hcloses
    rw [weight, if_neg hcloses] at h
    split at h <;> omega
  obtain rfl : d = 0 := by
    rw [weight, if_pos hcloses] at h
    omega
  rw [pieces?.eq_def]
  dsimp only
  rw [if_pos hcloses]
  exact Option.some_ne_none _

theorem pieces?_cons_eq_none_iff {c : Char} {cs : List Char} {next : Nat}
    (hnext : (d : Int) + weight c = next) :
    pieces? d (c :: cs) = none ↔ pieces? next cs = none := by
  by_cases hcomma : c = ',' ∧ d = 0
  · obtain ⟨rfl, rfl⟩ := hcomma
    have hweight : weight ',' = 0 := rfl
    obtain rfl : next = 0 := by omega
    rw [pieces?_comma, Option.map_eq_none_iff]
  · have hfirst : 0 ≤ d + weight c := hnext ▸ Int.natCast_nonneg next
    rw [pieces?_cons hfirst (fun hc => Nat.pos_of_ne_zero fun hd => hcomma ⟨hc, hd⟩) hnext.symm,
      Option.map_eq_none_iff]

/-- A list of arguments does not end while no bracket closes that was not opened in it. -/
theorem pieces?_eq_none_iff {text : List Char} :
    pieces? d text = none ↔ ∀ front, front <+: text → 0 ≤ d + depth front := by
  induction text generalizing d with
  | nil =>
    refine iff_of_true rfl fun front hfront => ?_
    rw [List.prefix_nil.mp hfront]
    exact Int.natCast_nonneg d
  | cons c cs ih =>
    rw [forall_depth_cons_iff]
    by_cases hfirst : 0 ≤ d + weight c
    · obtain ⟨next, hnext⟩ := Int.eq_ofNat_of_zero_le hfirst
      rw [pieces?_cons_eq_none_iff hnext, ih, hnext]
      exact (and_iff_right (Int.natCast_nonneg next)).symm
    · exact iff_of_false (pieces?_ne_none_of_neg hfirst) fun h => hfirst h.1

end Pieces

section Lists

/-- Blanks around a text are trimmed off. -/
theorem trim_of_pads {arg text : List Char} (h : Pads arg text) :
    Text.trim text = Text.trim arg := by
  obtain ⟨before, after, rfl, hbefore, hafter⟩ := h
  have hend : ∀ front : List Char, Text.trimEnd (front ++ after) = Text.trimEnd front := by
    intro front
    have hreverse : ∀ c ∈ after.reverse, Text.isBlank c = true := fun c hc =>
      hafter c (List.mem_reverse.mp hc)
    rw [Text.trimEnd, List.reverse_append, List.dropWhile_append_of_pos hreverse, Text.trimEnd]
  rw [Text.trim, Text.trimStart, List.dropWhile_append_of_pos hbefore, List.dropWhile_append,
    Text.trim, Text.trimStart]
  split
  · next hblank =>
    -- Nothing is left of the text, and of the blanks behind it neither.
    rw [List.isEmpty_iff.mp hblank, List.dropWhile_eq_nil_iff.mpr hafter]
  · exact hend _

/-- The first piece of a list is found as a whole. -/
theorem IsPiece.pieces?_append {text : List Char} (h : IsPiece text) (rest : List Char) :
    pieces? 0 (text ++ rest) = (pieces? 0 rest).map (inFront text) :=
  Arguments.pieces?_append (by simpa using h.opened) (by simpa using h.enclosed)
    (by simp [h.closed])

/-- A piece at the end of a list is followed by the bracket that ends the list. -/
theorem IsPiece.pieces?_close {text : List Char} (h : IsPiece text) (behind : List Char) :
    pieces? 0 (text ++ ')' :: behind) = some ([text], text.length) := by
  have hclose : pieces? 0 (')' :: behind) = some ([[]], 0) := rfl
  rw [h.pieces?_append, hclose, Option.map_some, inFront]
  simp

/-- A list of arguments is cut into the arguments, up to the bracket that ends it. -/
theorem Lists.exists_pieces? {args : List (List Char)} {inner : List Char} (h : Lists args inner)
    (hargs : ∀ arg ∈ args, IsArgument arg) (behind : List Char) :
    ∃ pieces, pieces? 0 (inner ++ ')' :: behind) = some (pieces, inner.length) ∧
      (pieces.map Text.trim).filter (· ≠ []) = args.map Text.trim := by
  induction h with
  | @none text hblanks =>
    have htrim : Text.trim text = [] := by
      rw [Text.trim, Text.trimStart, List.dropWhile_eq_nil_iff.mpr hblanks]
      rfl
    exact ⟨[text], (IsPiece.of_blank hblanks).pieces?_close behind, by simp [htrim]⟩
  | @one arg text hpads =>
    have harg := hargs arg List.mem_cons_self
    refine ⟨[text], (IsPiece.of_pads hpads harg.toIsPiece).pieces?_close behind, ?_⟩
    simp [trim_of_pads hpads, harg.trim_ne_nil]
  | @more arg next text rest args hpads hrest ih =>
    have harg := hargs arg List.mem_cons_self
    obtain ⟨pieces, hread, hpieces⟩ := ih fun arg h => hargs arg (List.mem_cons_of_mem _ h)
    refine ⟨text :: pieces, ?_, ?_⟩
    · rw [List.append_assoc, List.cons_append,
        (IsPiece.of_pads hpads harg.toIsPiece).pieces?_append, pieces?_comma, hread,
        Option.map_some, Option.map_some, inFront]
      simp
    · have hkept : Text.trim text ≠ [] := trim_of_pads hpads ▸ harg.trim_ne_nil
      rw [List.map_cons, List.filter_cons_of_pos (by simpa using hkept), hpieces,
        trim_of_pads hpads]
      rfl

/-- The arguments of a list that starts at an offset, and the place of the bracket that ends it. -/
theorem Lists.split? {text : List Char} {start : Nat} {args : List (List Char)}
    {inner behind : List Char} (h : Lists args inner) (hargs : ∀ arg ∈ args, IsArgument arg)
    (htext : text.drop start = inner ++ ')' :: behind) :
    Arguments.split? text start = some (args.map Text.trim, start + inner.length) := by
  obtain ⟨pieces, hread, hpieces⟩ := h.exists_pieces? hargs behind
  rw [Arguments.split?, htext, hread, Option.map_some]
  exact congrArg (fun found => some (found, start + inner.length)) hpieces

theorem split?_eq_none_iff {text : List Char} {start : Nat} :
    split? text start = none ↔ ∀ front, front <+: text.drop start → 0 ≤ depth front := by
  rw [split?, Option.map_eq_none_iff, pieces?_eq_none_iff]
  simp

end Lists

end ScriptLint.Arguments
