import ScriptLint.Proofs.Placement.References

/-! Two comment-free texts that differ between the quotes of their literals and nowhere else. They
are read in step, so blanking their literals makes them equal; what is still to be told apart is
what looks at the text as it is. -/
namespace ScriptLint.Literal

/-- A quote, single or double. -/
def IsQuote (c : Char) : Prop :=
  c = '\x22' ∨ c = '\x27'

/-- A character that means nothing to the reading of a literal. -/
def IsOrdinary (c : Char) : Prop :=
  ¬IsQuote c ∧ c ≠ '\\' ∧ c ≠ '\n'

instance (c : Char) : Decidable (IsQuote c) :=
  inferInstanceAs (Decidable (_ ∨ _))

instance (c : Char) : Decidable (IsOrdinary c) :=
  inferInstanceAs (Decidable (_ ∧ _))

/-- The characters between the quotes of the literals of a text. -/
def Mode.contents (mode : Mode) (text : List Char) : List Char :=
  ((text.zip (mode.parts text)).filter (·.2 = .content)).map (·.1)

/-- None of the characters is between the quotes of a literal of the text. -/
def Mode.Without (mode : Mode) (chars text : List Char) : Prop :=
  ∀ x ∈ chars, x ∉ mode.contents text

instance (mode : Mode) (chars text : List Char) : Decidable (mode.Without chars text) :=
  inferInstanceAs (Decidable (∀ x ∈ chars, x ∉ _))

/-- The two texts are read alike, character by character, and are equal but for ordinary characters
between quotes. -/
inductive Alike : Mode → List Char → List Char → Prop
  | nil (mode : Mode) : Alike mode [] []
  | cons {mode next : Mode} {part : Part} {c d : Char} {cs ds : List Char}
      (hc : mode.read c cs.head? = (part, next)) (hd : mode.read d ds.head? = (part, next))
      (hsame : c = d ∨ part = .content ∧ IsOrdinary c ∧ IsOrdinary d) (h : Alike next cs ds) :
      Alike mode (c :: cs) (d :: ds)

variable {mode : Mode} {cs ds : List Char} {c d : Char}

theorem Mode.read_outside (hc : ¬IsQuote c) (ahead : Option Char) :
    Mode.outside.read c ahead = (.outside, .outside) :=
  if_neg hc

theorem Mode.read_outside_quote (hc : IsQuote c) (ahead : Option Char) :
    Mode.outside.read c ahead = (.delimiter, .inside c) :=
  if_pos hc

/-- Behind a character that is neither a quote nor between quotes there is no open literal. -/
theorem Mode.read_eq_outside {ahead : Option Char} (hc : ¬IsQuote c)
    (h : (mode.read c ahead).1 ≠ .content) : (mode.read c ahead).2 = .outside := by
  cases mode with
  | outside => rw [read_outside hc]
  | inside q =>
    unfold read at h ⊢
    dsimp only at h ⊢
    split
    · split
      · rfl
      · simp_all
    · split
      · rfl
      · simp_all
  | escaped q => exact absurd rfl h

/-- Only a backslash looks at what follows. -/
theorem Mode.read_congr (mode : Mode) (hc : c ≠ '\\') (ahead ahead' : Option Char) :
    mode.read c ahead = mode.read c ahead' := by
  cases mode with
  | outside => rfl
  | inside q => rw [read, read, if_neg hc, if_neg hc]
  | escaped q => rfl

theorem Mode.read_some_congr (mode : Mode) (c : Char) {x y : Char} (hx : x ≠ '\n') (hy : y ≠ '\n') :
    mode.read c (some x) = mode.read c (some y) := by
  cases mode with
  | outside => rfl
  | inside q => simp [read, hx, hy]
  | escaped q => rfl

theorem Mode.contents_cons (mode : Mode) (c : Char) (cs : List Char) :
    mode.contents (c :: cs) =
      (if (mode.read c cs.head?).1 = .content then [c] else []) ++
        (mode.read c cs.head?).2.contents cs := by
  unfold contents
  rw [parts, List.zip_cons_cons, List.filter_cons]
  split <;> simp_all

theorem Mode.contents_append {w : List Char} (hw : ∀ x ∈ w, ¬IsQuote x) (cs : List Char) :
    Mode.outside.contents (w ++ cs) = Mode.outside.contents cs := by
  induction w with
  | nil => rfl
  | cons x w ih =>
    rw [List.forall_mem_cons] at hw
    rw [List.cons_append, contents_cons, read_outside hw.1, ih hw.2]
    rfl

/-- The text with its contents blanked, when a literal may be open at its start. -/
def Mode.maskContents (mode : Mode) (text : List Char) : List Char :=
  (text.zip (mode.parts text)).map fun (c, part) => if part = .content then ' ' else c

theorem Mode.maskContents_cons (mode : Mode) (c : Char) (cs : List Char) :
    mode.maskContents (c :: cs) = (if (mode.read c cs.head?).1 = .content then ' ' else c) ::
      (mode.read c cs.head?).2.maskContents cs := rfl

/-- A text without quotes is left as it is. -/
theorem maskContents_append {front : List Char} (h : ∀ c ∈ front, ¬IsQuote c)
    (behind : List Char) : maskContents (front ++ behind) = front ++ maskContents behind := by
  induction front with
  | nil => rfl
  | cons c cs ih =>
    rw [List.forall_mem_cons] at h
    have hcons := Mode.maskContents_cons .outside c (cs ++ behind)
    rw [Mode.read_outside h.1, if_neg (by decide)] at hcons
    rw [List.cons_append, List.cons_append, ← ih h.2]
    exact hcons

theorem maskContents_of_unquoted {text : List Char} (h : ∀ c ∈ text, ¬IsQuote c) :
    maskContents text = text := by
  simpa [maskContents] using maskContents_append h []

namespace Alike

theorem symm (h : Alike mode cs ds) : Alike mode ds cs := by
  induction h with
  | nil mode => exact .nil mode
  | cons hc hd hsame _ ih =>
    exact .cons hd hc (hsame.imp Eq.symm fun ⟨hpart, hc, hd⟩ => ⟨hpart, hd, hc⟩) ih

theorem length_eq (h : Alike mode cs ds) : cs.length = ds.length := by
  induction h with
  | nil _ => rfl
  | cons _ _ _ _ ih => rw [List.length_cons, List.length_cons, ih]

/-- Whatever replaces the contents by something fixed takes away all difference. -/
theorem map_eq {f : Char × Part → Char} (h : Alike mode cs ds)
    (hf : ∀ c d, f (c, .content) = f (d, .content)) :
    (cs.zip (mode.parts cs)).map f = (ds.zip (mode.parts ds)).map f := by
  induction h with
  | nil _ => rfl
  | @cons mode next part c d cs ds hc hd hsame _ ih =>
    have hhead : f (c, part) = f (d, part) := by
      rcases hsame with rfl | ⟨rfl, -, -⟩
      · rfl
      · exact hf c d
    rw [Mode.parts, Mode.parts, hc, hd, List.zip_cons_cons, List.zip_cons_cons, List.map_cons,
      List.map_cons, ih, hhead]

theorem mask_eq (h : Alike .outside cs ds) : mask cs = mask ds :=
  h.map_eq fun _ _ => rfl

theorem maskContents_eq (h : Alike .outside cs ds) : maskContents cs = maskContents ds :=
  h.map_eq fun _ _ => rfl

theorem filter_eq {p : Char → Bool} {chars : List Char} (h : Alike mode cs ds)
    (hp : ∀ x, p x = true → x ∈ chars) (hcs : mode.Without chars cs)
    (hds : mode.Without chars ds) : cs.filter p = ds.filter p := by
  induction h with
  | nil _ => rfl
  | @cons mode next part c d cs ds hc hd hsame _ ih =>
    simp only [Mode.Without, Mode.contents_cons, hc, hd, List.mem_append, not_or] at hcs hds
    have htail := ih (fun x hx => (hcs x hx).2) fun x hx => (hds x hx).2
    rw [List.filter_cons, List.filter_cons, htail]
    rcases hsame with rfl | ⟨rfl, -, -⟩
    · rfl
    · have hdropped (y : Char) (hy : ∀ x ∈ chars, x ≠ y) : p y = false :=
        Bool.eq_false_iff.mpr fun hpy => hy y (hp y hpy) rfl
      rw [hdropped c fun x hx heq => (hcs x hx).1 (by simp [heq]),
        hdropped d fun x hx heq => (hds x hx).1 (by simp [heq])]
      rfl

theorem exists_eq_cons (h : Alike mode (c :: cs) ds) : ∃ d ds', ds = d :: ds' := by
  cases h with
  | cons _ _ _ _ => exact ⟨_, _, rfl⟩

/-- A character in front of both texts keeps them alike: of what follows it, its reading looks for
a line break only. -/
theorem cons_same {next : Mode} (h : Alike next cs ds)
    (hnext : ∀ z, z ≠ '\n' → (mode.read c (some z)).2 = next) (hcs : '\n' ∉ cs)
    (hds : '\n' ∉ ds) : Alike mode (c :: cs) (c :: ds) := by
  cases h with
  | nil => exact .cons rfl rfl (.inl rfl) (.nil _)
  | @cons _ _ _ x y cs ds hx hy hsame htail =>
    have hxne : x ≠ '\n' := fun heq => hcs (heq ▸ List.mem_cons_self)
    have hyne : y ≠ '\n' := fun heq => hds (heq ▸ List.mem_cons_self)
    have hread : mode.read c (some x) = ((mode.read c (some x)).1, next) :=
      Prod.ext rfl (hnext x hxne)
    exact .cons hread ((mode.read_some_congr c hyne hxne).trans hread) (.inl rfl)
      (.cons hx hy hsame htail)

/-- Outside of literals the texts go on with the same character. -/
theorem of_cons (h : Alike .outside (c :: cs) ds) :
    ∃ ds', ds = c :: ds' ∧
      Alike (if IsQuote c then .inside c else .outside) cs ds' := by
  cases h with
  | @cons _ next part _ d _ ds hc hd hsame h =>
    by_cases hquote : IsQuote c
    · rw [Mode.read_outside_quote hquote] at hc
      obtain ⟨rfl, rfl⟩ := Prod.mk.inj hc
      obtain rfl : c = d := hsame.resolve_right fun hcontent => Part.noConfusion hcontent.1
      exact ⟨ds, rfl, by rwa [if_pos hquote]⟩
    · rw [Mode.read_outside hquote] at hc
      obtain ⟨rfl, rfl⟩ := Prod.mk.inj hc
      obtain rfl : c = d := hsame.resolve_right fun hcontent => Part.noConfusion hcontent.1
      exact ⟨ds, rfl, by rwa [if_neg hquote]⟩

theorem of_cons_of_not (h : Alike .outside (c :: cs) ds) (hc : ¬IsQuote c) :
    ∃ ds', ds = c :: ds' ∧ Alike .outside cs ds' := by
  obtain ⟨ds', hds, htail⟩ := h.of_cons
  exact ⟨ds', hds, by rwa [if_neg hc] at htail⟩

theorem of_cons_of_notMem (h : Alike mode (c :: cs) ds) (hc : ¬IsQuote c)
    (hmem : c ∉ mode.contents (c :: cs)) : ∃ ds', ds = c :: ds' ∧ Alike .outside cs ds' := by
  have hpart : (mode.read c cs.head?).1 ≠ .content := by
    intro hpart
    exact hmem (by simp [Mode.contents_cons, hpart])
  cases h with
  | @cons _ next part _ d _ ds hread _ hsame h =>
    have hnext := Mode.read_eq_outside hc hpart
    rw [hread] at hpart hnext
    obtain rfl : next = .outside := hnext
    obtain rfl : c = d := hsame.resolve_right fun hcontent => hpart hcontent.1
    exact ⟨ds, rfl, h⟩

/-- The texts are the same up to their first quote. -/
theorem eq_or_exists_quote (h : Alike .outside cs ds) :
    cs = ds ∨ ∃ front q back back', IsQuote q ∧ cs = front ++ q :: back ∧
      ds = front ++ q :: back' := by
  induction cs generalizing ds with
  | nil =>
    cases h
    exact .inl rfl
  | cons c cs ih =>
    by_cases hc : IsQuote c
    · obtain ⟨ds', rfl, -⟩ := h.of_cons
      exact .inr ⟨[], c, cs, ds', hc, rfl, rfl⟩
    · obtain ⟨ds', rfl, htail⟩ := h.of_cons_of_not hc
      rcases ih htail with rfl | ⟨front, q, back, back', hq, rfl, rfl⟩
      · exact .inl rfl
      · exact .inr ⟨c :: front, q, back, back', hq, rfl, rfl⟩

theorem take (h : Alike mode cs ds) (n : Nat) : Alike mode (cs.take n) (ds.take n) := by
  induction h generalizing n with
  | nil mode => simpa using .nil mode
  | @cons mode next part c d cs ds hc hd hsame h ih =>
    match n with
    | 0 => exact .nil mode
    | 1 =>
      -- Nothing is in sight behind the last character that is left.
      have hread : mode.read c none = mode.read d none := by
        rcases hsame with rfl | ⟨-, hcs, hds⟩
        · rfl
        · calc mode.read c none = mode.read c cs.head? := mode.read_congr hcs.2.1 _ _
            _ = mode.read d ds.head? := hc.trans hd.symm
            _ = mode.read d none := mode.read_congr hds.2.1 _ _
      have hlast : c = d ∨ (mode.read c none).1 = .content ∧ IsOrdinary c ∧ IsOrdinary d := by
        refine hsame.imp_right fun ⟨hpart, hcs, hds⟩ => ⟨?_, hcs, hds⟩
        rw [mode.read_congr hcs.2.1 none cs.head?, hc, hpart]
      exact .cons rfl hread.symm hlast (.nil _)
    | n + 2 =>
      have hhead (text : List Char) : (text.take (n + 1)).head? = text.head? := by
        cases text <;> rfl
      refine .cons ?_ ?_ hsame (ih (n + 1))
      · rwa [hhead]
      · rwa [hhead]

end Alike

end ScriptLint.Literal
