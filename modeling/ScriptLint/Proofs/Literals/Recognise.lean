import Mathlib.Data.List.TakeWhile
import ScriptLint.Proofs.Literals.Alike
import ScriptLint.Proofs.Text.Recognise
import ScriptLint.Statement.Grammar

/-! Recognisers over texts that differ in their literals. As long as a recogniser takes no quote it
reads the same in both texts, and comes to places from which they still differ in their literals
only. The one thing in a statement that goes over quotes is the search for a closing bracket; what
has to be known for it is known at the start, and is still known at every place before it. -/
namespace ScriptLint

open Literal

namespace Literal

/-- The character is no quote and no backslash, and closes no bracket. -/
def Passes (c : Char) : Prop :=
  ¬IsQuote c ∧ c ≠ ')' ∧ c ≠ '\\'

instance (c : Char) : Decidable (Passes c) :=
  inferInstanceAs (Decidable (_ ∧ _))

/-- Every character of the text passes. -/
def AllPass (w : List Char) : Prop :=
  ∀ x ∈ w, Passes x

-- The instance is given by name, since there is one that goes through all characters there are.
instance (w : List Char) : Decidable (AllPass w) :=
  List.decidableBAll Passes w

theorem passes_of {p : Char → Bool} (h : ['\x22', '\x27', ')', '\\'].any p = false) :
    ∀ x, p x = true → Passes x := by
  intro x hx
  have hne : ∀ y ∈ ['\x22', '\x27', ')', '\\'], x ≠ y := by
    rintro y hy rfl
    exact List.any_eq_false.mp h x hy hx
  simp only [List.forall_mem_cons] at hne
  exact ⟨fun hquote => hquote.elim hne.1 hne.2.1, hne.2.2.1, hne.2.2.2.1⟩

theorem passes_of_isBlank : ∀ x, Text.isBlank x = true → Passes x :=
  passes_of (by decide)

theorem passes_of_isNameChar : ∀ x, Text.isNameChar x = true → Passes x :=
  passes_of (by decide)

namespace Alike

variable {cs ds : List Char}

theorem takeWhile_eq {p : Char → Bool} (h : Alike .outside cs ds)
    (hp : ∀ x ∈ cs.takeWhile p, ¬IsQuote x) :
    cs.takeWhile p = ds.takeWhile p ∧ Alike .outside (cs.dropWhile p) (ds.dropWhile p) := by
  induction cs generalizing ds with
  | nil =>
    cases h
    exact ⟨rfl, .nil _⟩
  | cons c cs ih =>
    obtain ⟨ds', rfl, -⟩ := h.of_cons
    by_cases hc : p c = true
    · rw [List.takeWhile_cons_of_pos hc] at hp
      obtain ⟨_, heq, htail⟩ := h.of_cons_of_not (hp c List.mem_cons_self)
      obtain rfl := (List.cons.inj heq).2
      obtain ⟨htake, hdrop⟩ := ih htail fun x hx => hp x (List.mem_cons_of_mem c hx)
      rw [List.takeWhile_cons_of_pos hc, List.takeWhile_cons_of_pos hc,
        List.dropWhile_cons_of_pos hc, List.dropWhile_cons_of_pos hc, htake]
      exact ⟨rfl, hdrop⟩
    · rw [List.takeWhile_cons_of_neg hc, List.takeWhile_cons_of_neg hc,
        List.dropWhile_cons_of_neg hc, List.dropWhile_cons_of_neg hc]
      exact ⟨rfl, h⟩

theorem of_append {w : List Char} (h : Alike .outside (w ++ cs) ds) (hw : ∀ x ∈ w, ¬IsQuote x) :
    ∃ ds', ds = w ++ ds' ∧ Alike .outside cs ds' := by
  induction w generalizing ds with
  | nil => exact ⟨ds, rfl, h⟩
  | cons x w ih =>
    obtain ⟨ds', rfl, htail⟩ := h.of_cons_of_not (hw x List.mem_cons_self)
    obtain ⟨ds'', rfl, hrest⟩ := ih htail fun y hy => hw y (List.mem_cons_of_mem x hy)
    exact ⟨ds'', rfl, hrest⟩

end Alike

end Literal

namespace Text

section Rel

variable {α β γ δ : Type} {R : α → β → Prop} {S : γ → δ → Prop} {a : Option α} {b : Option β}

theorem eq_none_of_rel (h : Option.Rel R a b) (ha : a = none) : b = none := by
  cases h with
  | some _ => cases ha
  | none => rfl

theorem exists_of_rel {x : α} (h : Option.Rel R a b) (ha : a = some x) :
    ∃ y, b = some y ∧ R x y := by
  cases h with
  | some hxy =>
    cases ha
    exact ⟨_, rfl, hxy⟩
  | none => cases ha

/-- Two steps after related results have related results if they have where both go on. -/
theorem rel_bind {f : α → Option γ} {g : β → Option δ} (h : Option.Rel R a b)
    (hf : ∀ x y, a = some x → R x y → Option.Rel S (f x) (g y)) :
    Option.Rel S (a.bind f) (b.bind g) := by
  cases h with
  | some hxy => exact hf _ _ rfl hxy
  | none => exact .none

theorem bind_congr_of_rel {f : α → Option γ} {g : β → Option γ} (h : Option.Rel R a b)
    (hf : ∀ x y, R x y → f x = g y) : a.bind f = b.bind g := by
  cases h with
  | some hxy => exact hf _ _ hxy
  | none => rfl

theorem rel_findSome? {f : γ → Option α} {g : γ → Option β} {tries : List γ}
    (h : ∀ x ∈ tries, Option.Rel R (f x) (g x)) :
    Option.Rel R (tries.findSome? f) (tries.findSome? g) := by
  induction tries with
  | nil => exact .none
  | cons x tries ih =>
    rw [List.forall_mem_cons] at h
    rw [List.findSome?_cons, List.findSome?_cons]
    cases hx : f x with
    | none =>
      rw [eq_none_of_rel h.1 hx]
      exact ih h.2
    | some found =>
      obtain ⟨found', hx', hfound⟩ := exists_of_rel h.1 hx
      rw [hx']
      exact .some hfound

theorem elim_of_rel {p : γ → δ → Prop} {f : α → γ} {g : β → δ} {x : γ} {y : δ}
    (h : Option.Rel R a b) (hnone : p x y) (hsome : ∀ x y, R x y → p (f x) (g y)) :
    p (a.elim x f) (b.elim y g) := by
  cases h with
  | some hxy => exact hsome _ _ hxy
  | none => exact hnone

theorem getD_of_rel {R : α → α → Prop} {a b : Option α} {x y : α} (h : Option.Rel R a b)
    (hnone : R x y) : R (a.getD x) (b.getD y) := by
  cases h with
  | some hxy => exact hxy
  | none => exact hnone

end Rel

/-- What is known of two texts, and still is behind characters that pass. -/
structure Insight where
  rel : List Char → List Char → Prop
  keeps : ∀ w cs ds, AllPass w → rel (w ++ cs) (w ++ ds) → rel cs ds

namespace Insight

/-- Nothing is known. -/
def none : Insight where
  rel _ _ := True
  keeps _ _ _ _ _ := trivial

/-- No quote comes before the next closing bracket. -/
def clear : Insight where
  rel cs _ := ∀ x ∈ cs.takeWhile (· != ')'), ¬IsQuote x
  keeps w cs _ hw h x hx := by
    have hpos : ∀ y ∈ w, (y != ')') = true := fun y hy => by simpa using (hw y hy).2.1
    rw [List.takeWhile_append_of_pos hpos] at h
    exact h x (List.mem_append_right _ hx)

/-- Both texts hold a closing bracket, or none does. -/
def closes : Insight where
  rel cs ds := ')' ∈ cs ↔ ')' ∈ ds
  keeps w cs ds hw h := by
    have hnot : ')' ∉ w := fun hmem => (hw ')' hmem).2.1 rfl
    simpa [hnot] using h

end Insight

namespace Cursor

/-- The places have the same offset, and what follows differs in literals only. -/
structure Parallel (i : Insight) (c d : Cursor) : Prop where
  offset : c.offset = d.offset
  rest : Alike .outside c.rest d.rest
  known : i.rel c.rest d.rest

/-- The same was read, and leads to places that are parallel. -/
def SameRead {α : Type} (i : Insight) (x y : α × Cursor) : Prop :=
  x.1 = y.1 ∧ x.2.Parallel i y.2

/-- The place was moved over characters that pass. -/
def Over (c e : Cursor) : Prop :=
  ∃ w, c.rest = w ++ e.rest ∧ AllPass w ∧ e.offset = c.offset + w.length

variable {i : Insight} {c d e : Cursor}

theorem Over.trans {f : Cursor} (h : c.Over d) (h' : d.Over f) : c.Over f := by
  obtain ⟨w, hw, hpass, hoffset⟩ := h
  obtain ⟨w', hw', hpass', hoffset'⟩ := h'
  refine ⟨w ++ w', by rw [hw, hw', List.append_assoc], ?_, ?_⟩
  · exact fun x hx => (List.mem_append.mp hx).elim (hpass x) (hpass' x)
  · rw [hoffset', hoffset, List.length_append]
    omega

theorem over_advance_run {p : Char → Bool} (hp : ∀ x, p x = true → Passes x) :
    c.Over (c.advance (c.run p)) := by
  refine ⟨c.rest.takeWhile p, ?_, fun x hx => hp x (List.mem_takeWhile_imp hx), rfl⟩
  have hdrop : (c.rest.takeWhile p ++ c.rest.dropWhile p).drop (c.rest.takeWhile p).length =
      c.rest.dropWhile p := List.drop_left
  rw [List.takeWhile_append_dropWhile] at hdrop
  rw [advance, run, hdrop, List.takeWhile_append_dropWhile]

theorem over_skipBlanks (c : Cursor) : c.Over c.skipBlanks :=
  over_advance_run passes_of_isBlank

theorem over_of_blanks? (h : c.blanks? = some e) : c.Over e := by
  simp only [blanks?, Option.ite_none_left_eq_some, Option.some.injEq] at h
  rw [← h.2]
  exact over_skipBlanks c

theorem over_of_word? {w : String} (hw : AllPass w.toList) (h : c.word? w = some e) :
    c.Over e := by
  obtain ⟨rest, hrest⟩ := prefix_of_word? h
  rw [eq_advance_of_word? h]
  refine ⟨w.toList, ?_, hw, by rw [String.length_toList]; rfl⟩
  rw [advance, ← hrest, ← String.length_toList]
  simp

theorem over_of_name? {t : Token} (h : c.name? = some (t, e)) : c.Over e := by
  simp only [name?, Option.ite_none_right_eq_some, Option.some.injEq, Prod.mk.injEq] at h
  rw [← h.2.2]
  exact over_advance_run passes_of_isNameChar

namespace Parallel

theorem advance (h : c.Parallel i d) {w : List Char} {rest : List Char}
    (hc : c.rest = w ++ rest) (hw : AllPass w) :
    d.rest.take w.length = w ∧ (c.advance w.length).Parallel i (d.advance w.length) := by
  obtain ⟨rest', hd, hrest⟩ := (hc ▸ h.rest).of_append fun x hx => (hw x hx).1
  have hknown : i.rel (w ++ rest) (w ++ rest') := hc ▸ hd ▸ h.known
  refine ⟨by simp [hd], congrArg (· + w.length) h.offset, ?_, ?_⟩
  · simpa [Cursor.advance, hc, hd] using hrest
  · simpa [Cursor.advance, hc, hd] using i.keeps w rest rest' hw hknown

theorem run_eq (h : c.Parallel i d) {p : Char → Bool} (hp : ∀ x, p x = true → Passes x) :
    c.run p = d.run p ∧ c.token (c.run p) = d.token (c.run p) ∧
      (c.advance (c.run p)).Parallel i (d.advance (c.run p)) := by
  have hpasses : AllPass (c.rest.takeWhile p) := fun x hx => hp x (List.mem_takeWhile_imp hx)
  obtain ⟨htake, -⟩ := h.rest.takeWhile_eq fun x hx => (hpasses x hx).1
  obtain ⟨hd, hparallel⟩ := h.advance (List.takeWhile_append_dropWhile).symm hpasses
  refine ⟨congrArg List.length htake, ?_, hparallel⟩
  have hc : c.rest.take (c.run p) = c.rest.takeWhile p :=
    (List.prefix_iff_eq_take.mp (List.takeWhile_prefix p)).symm
  rw [token, token, hc, h.offset]
  exact congrArg (fun text => Token.mk (String.ofList text) d.offset) hd.symm

theorem skipBlanks (h : c.Parallel i d) : c.skipBlanks.Parallel i d.skipBlanks := by
  obtain ⟨hrun, -, hparallel⟩ := h.run_eq passes_of_isBlank
  rw [Cursor.skipBlanks, Cursor.skipBlanks, ← hrun]
  exact hparallel

theorem blanks? (h : c.Parallel i d) :
    Option.Rel (Parallel i) c.blanks? d.blanks? := by
  obtain ⟨hrun, -, -⟩ := h.run_eq passes_of_isBlank
  rw [Cursor.blanks?, Cursor.blanks?, ← hrun]
  split
  · exact .none
  · exact .some h.skipBlanks

theorem word? (h : c.Parallel i d) {w : String} (hw : AllPass w.toList) :
    Option.Rel (Parallel i) (c.word? w) (d.word? w) := by
  rw [Cursor.word?, Cursor.word?]
  by_cases hc : w.toList.isPrefixOf c.rest = true
  · obtain ⟨rest, hrest⟩ := List.isPrefixOf_iff_prefix.mp hc
    obtain ⟨hd, hparallel⟩ := h.advance hrest.symm hw
    have hprefix : w.toList.isPrefixOf d.rest = true :=
      List.isPrefixOf_iff_prefix.mpr (List.prefix_iff_eq_take.mpr hd.symm)
    rw [if_pos hc, if_pos hprefix]
    rw [String.length_toList] at hparallel
    exact .some hparallel
  · have hnot : ¬w.toList.isPrefixOf d.rest = true := by
      intro hd
      obtain ⟨rest, hrest⟩ := List.isPrefixOf_iff_prefix.mp hd
      obtain ⟨rest', hrest', -⟩ := (hrest ▸ h.rest.symm).of_append fun x hx => (hw x hx).1
      exact hc (List.isPrefixOf_iff_prefix.mpr ⟨rest', hrest'.symm⟩)
    rw [if_neg hc, if_neg hnot]
    exact .none

theorem head_eq (h : c.Parallel i d) : c.rest.head? = d.rest.head? := by
  cases hc : c.rest with
  | nil =>
    have hlength := h.rest.length_eq
    rw [hc] at hlength
    rw [List.eq_nil_of_length_eq_zero hlength.symm]
  | cons x xs =>
    obtain ⟨ds, hd, -⟩ := (hc ▸ h.rest).of_cons
    rw [hd]
    rfl

theorem name? (h : c.Parallel i d) : Option.Rel (SameRead i) c.name? d.name? := by
  obtain ⟨hrun, htoken, hparallel⟩ := h.run_eq passes_of_isNameChar
  rw [Cursor.name?, Cursor.name?, ← h.head_eq, ← hrun]
  split
  · exact .some ⟨htoken, hparallel⟩
  · exact .none

theorem token_eq (h : c.Parallel i d) (hover : c.Over e) :
    c.token (e.offset - c.offset) = d.token (e.offset - d.offset) := by
  obtain ⟨w, hw, hpass, hoffset⟩ := hover
  obtain ⟨hd, -⟩ := h.advance hw hpass
  have hlength : e.offset - c.offset = w.length := by omega
  rw [← h.offset, hlength, token, token, hd, hw, h.offset]
  simp

theorem typeName? (h : c.Parallel i d) :
    Option.Rel (SameRead i) c.typeName? d.typeName? := by
  refine rel_bind h.name? fun ⟨t, e⟩ ⟨t', e'⟩ hname ⟨ht, he⟩ => ?_
  dsimp only at ht he ⊢
  have hmark : AllPass "[]".toList := by decide
  have hword := he.word? hmark
  cases hc : e.word? "[]" with
  | none =>
    rw [Text.eq_none_of_rel hword hc]
    exact .some ⟨ht, he⟩
  | some last =>
    have hover : c.Over last := (over_of_name? hname).trans (over_of_word? hmark hc)
    obtain ⟨last', hd, hlast⟩ := Text.exists_of_rel hword hc
    rw [hd]
    exact .some ⟨by rw [h.token_eq hover, hlast.offset], hlast⟩

/-- Up to a closing bracket in front of which there is no quote, the same is read. -/
theorem upTo?_of_clear (h : c.Parallel .clear d) :
    Option.Rel (SameRead .none) (c.upTo? ')') (d.upTo? ')') := by
  obtain ⟨offset, cs⟩ := c
  obtain ⟨_, ds⟩ := d
  obtain ⟨rfl, halike, hclear⟩ := h
  change Alike .outside cs ds at halike
  change ∀ x ∈ cs.takeWhile (· != ')'), ¬IsQuote x at hclear
  by_cases hmem : ')' ∈ cs
  · obtain ⟨inner, behind, rfl, hinner⟩ := List.eq_append_cons_of_mem hmem
    have hquote : ∀ x ∈ inner ++ [')'], ¬IsQuote x := by
      intro x hx
      rcases List.mem_append.mp hx with hx | hx
      · refine hclear x ?_
        rw [List.takeWhile_append_of_pos fun y hy => by simpa using ne_of_mem_of_not_mem hy hinner]
        exact List.mem_append_left _ hx
      · rw [List.mem_singleton.mp hx]
        decide
    have hwhole : Alike .outside ((inner ++ [')']) ++ behind) ds := by simpa using halike
    obtain ⟨behind', rfl, hbehind⟩ := hwhole.of_append hquote
    rw [List.append_assoc, List.singleton_append, upTo?_append offset hinner,
      upTo?_append offset hinner]
    exact .some ⟨rfl, rfl, hbehind, trivial⟩
  · have hall : cs.takeWhile (· != ')') = cs :=
      List.takeWhile_eq_self_iff.mpr fun x hx => by simpa using ne_of_mem_of_not_mem hx hmem
    rw [hall] at hclear
    have hwhole : Alike .outside (cs ++ []) ds := by simpa using halike
    obtain ⟨ds', rfl, htail⟩ := hwhole.of_append hclear
    cases htail
    rw [List.append_nil, upTo?_of_notMem offset hmem]
    exact .none

theorem isSome_upTo?_of_closes (h : c.Parallel .closes d) :
    (c.upTo? ')').isSome = (d.upTo? ')').isSome := by
  have hcloses : ')' ∈ c.rest ↔ ')' ∈ d.rest := h.known
  rw [Bool.eq_iff_iff, isSome_upTo?_iff, isSome_upTo?_iff, hcloses]

end Parallel

end Cursor

end Text

end ScriptLint
