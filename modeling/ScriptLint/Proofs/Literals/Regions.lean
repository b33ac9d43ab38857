import ScriptLint.Check.Region
import ScriptLint.Proofs.Literals.Recognise

/-! Calls in the external form, in texts that differ in their literals. Such a call is looked for in
a text whose literals are not blanked, since it has a literal of its own. It is found in both texts
or in none as long as no round bracket is between quotes. -/
namespace ScriptLint

open Literal
open Text (Cursor rel_bind)

namespace Literal

variable {mode : Mode} {c d : Char} {cs ds : List Char}

/-- An open literal ends at a quote. -/
def Mode.Proper : Mode → Prop
  | .outside => True
  | .inside quote | .escaped quote => IsQuote quote

theorem Mode.Proper.read (h : mode.Proper) (c : Char) (ahead : Option Char) :
    (mode.read c ahead).2.Proper := by
  cases mode with
  | outside =>
    unfold Mode.read
    dsimp only
    split_ifs with hc
    · exact hc
    · trivial
  | inside q =>
    unfold Mode.read
    dsimp only
    split_ifs
    · trivial
    · exact h
    · trivial
    · exact h
  | escaped q => exact h

/-- In an open literal whatever passes is between the quotes, and leaves the literal open. -/
theorem Mode.mem_contents_of_open (hmode : mode.Proper) (hopen : mode ≠ .outside) {w : List Char}
    (hw : AllPass w) : ∀ x ∈ w, x ∈ mode.contents (w ++ cs) := by
  induction w generalizing mode with
  | nil => exact fun x hx => absurd hx List.not_mem_nil
  | cons y w ih =>
    obtain ⟨⟨hquote, -, hslash⟩, hw⟩ := List.forall_mem_cons.mp hw
    -- Only a backslash or the quote itself would be read in another way.
    have hread : ∃ q, IsQuote q ∧ ∀ ahead, mode.read y ahead = (.content, .inside q) := by
      cases mode with
      | outside => exact absurd rfl hopen
      | inside q =>
        have hne : y ≠ q := fun heq => hquote (heq ▸ hmode)
        exact ⟨q, hmode, fun ahead => by simp [Mode.read, hslash, hne]⟩
      | escaped q => exact ⟨q, hmode, fun ahead => rfl⟩
    obtain ⟨q, hq, hread⟩ := hread
    have htail : ∀ x ∈ w, x ∈ (Mode.inside q).contents (w ++ cs) := ih hq Mode.noConfusion hw
    intro x hx
    rw [List.cons_append, Mode.contents_cons, hread, if_pos rfl]
    rcases List.mem_cons.mp hx with rfl | hx
    · exact List.mem_append_left _ (List.mem_singleton_self x)
    · exact List.mem_append_right _ (htail x hx)

/-- The texts are alike, and no round bracket is between the quotes of their literals. -/
structure Unbracketed (mode : Mode) (cs ds : List Char) : Prop where
  proper : mode.Proper
  alike : Alike mode cs ds
  left : mode.Without ['(', ')'] cs
  right : mode.Without ['(', ')'] ds

theorem Mode.Without.tail {chars : List Char} (h : mode.Without chars (c :: cs)) :
    (mode.read c cs.head?).2.Without chars cs := by
  intro x hx hmem
  apply h x hx
  rw [Mode.contents_cons]
  exact List.mem_append_right _ hmem

namespace Unbracketed

theorem symm (h : Unbracketed mode cs ds) : Unbracketed mode ds cs :=
  ⟨h.proper, h.alike.symm, h.right, h.left⟩

theorem tail (h : Unbracketed mode (c :: cs) (d :: ds)) :
    Unbracketed (mode.read c cs.head?).2 cs ds := by
  obtain ⟨hproper, halike, hleft, hright⟩ := h
  cases halike with
  | cons hc hd _ halike =>
    have hleft := hleft.tail
    have hright := hright.tail
    rw [hc] at hleft ⊢
    rw [hd] at hright
    exact ⟨hc ▸ hproper.read c cs.head?, halike, hleft, hright⟩

/-- A round bracket is in both texts, and no literal is open behind it. -/
theorem of_bracket (h : Unbracketed mode (c :: cs) ds) (hc : c ∈ ['(', ')']) :
    ∃ ds', ds = c :: ds' ∧ Unbracketed .outside cs ds' := by
  have hquote : ∀ x ∈ ['(', ')'], ¬IsQuote x := by simp [IsQuote]
  obtain ⟨ds', rfl, halike⟩ := h.alike.of_cons_of_notMem (hquote c hc) (h.left c hc)
  refine ⟨ds', rfl, ?_⟩
  have hpart : (mode.read c cs.head?).1 ≠ .content := by
    intro hpart
    exact h.left c hc (by simp [Mode.contents_cons, hpart])
  rw [← Mode.read_eq_outside (hquote c hc) hpart]
  exact h.tail

theorem head_eq (h : Unbracketed mode (c :: cs) (d :: ds)) (hc : c ∈ ['\x22', '(', ')']) :
    c = d := by
  obtain ⟨-, halike, hleft, -⟩ := h
  cases halike with
  | cons hread _ hsame _ =>
    refine hsame.resolve_right fun ⟨hpart, hordinary, _⟩ => ?_
    rcases List.mem_cons.mp hc with rfl | hbracket
    · exact hordinary.1 (.inl rfl)
    · exact hleft c hbracket (by simp [Mode.contents_cons, hread, hpart])

/-- The two texts come to the same place at the first quote or bracket of a kind. -/
theorem exists_split {stop : Char} (h : Unbracketed mode cs ds)
    (hstop : stop ∈ ['\x22', '(', ')']) (hmem : stop ∈ cs) :
    ∃ w w' rest rest' next, cs = w ++ stop :: rest ∧ ds = w' ++ stop :: rest' ∧ stop ∉ w ∧
      stop ∉ w' ∧ w.length = w'.length ∧ Unbracketed next (stop :: rest) (stop :: rest') := by
  induction cs generalizing mode ds with
  | nil => cases hmem
  | cons c cs ih =>
    obtain ⟨d, ds, rfl⟩ := h.alike.exists_eq_cons
    by_cases hc : c = stop
    · subst hc
      obtain rfl := h.head_eq hstop
      exact ⟨[], [], cs, ds, mode, rfl, rfl, List.not_mem_nil, List.not_mem_nil, rfl, h⟩
    · have hd : d ≠ stop := fun heq => hc ((h.symm.head_eq (heq ▸ hstop)).symm.trans heq)
      have hrest : stop ∈ cs := (List.mem_cons.mp hmem).resolve_left (Ne.symm hc)
      obtain ⟨w, w', rest, rest', next, rfl, rfl, hw, hw', hlength, hnext⟩ := ih h.tail hrest
      refine ⟨c :: w, d :: w', rest, rest', next, rfl, rfl, ?_, ?_, by simp [hlength], hnext⟩
      · simp [hw, Ne.symm hc]
      · simp [hw', Ne.symm hd]

end Unbracketed

end Literal

namespace Text

/-- In neither text is a round bracket between quotes. -/
def Insight.unbracketed : Insight where
  rel cs ds := Mode.outside.Without ['(', ')'] cs ∧ Mode.outside.Without ['(', ')'] ds
  keeps w cs ds hw h := by
    have hquote : ∀ x ∈ w, ¬IsQuote x := fun x hx => (hw x hx).1
    unfold Mode.Without at h ⊢
    rwa [Mode.contents_append hquote, Mode.contents_append hquote] at h

namespace Cursor

/-- A word of one character is read where that character follows. -/
theorem word?_eq_ite {w : String} {x : Char} (hw : w.toList = [x]) (c : Cursor) :
    c.word? w = if c.rest.head? = some x then some (c.advance 1) else none := by
  have hlength : w.length = 1 := by rw [← String.length_toList, hw, List.length_singleton]
  rw [word?, hw, hlength]
  cases hrest : c.rest with
  | nil => rfl
  | cons y ys =>
    simp only [List.isPrefixOf, Bool.and_true, beq_iff_eq, List.head?_cons, Option.some.injEq,
      @eq_comm _ x y]

/-- The places have the same offset, and no round bracket is between quotes in what follows. -/
structure Abreast (mode : Mode) (c d : Cursor) : Prop where
  offset : c.offset = d.offset
  rest : Unbracketed mode c.rest d.rest

/-- The places are next to a character at which no round bracket is between quotes. -/
structure Past (stop : Char) (c d : Cursor) : Prop where
  offset : c.offset = d.offset
  exists_mode : ∃ mode, Unbracketed mode (stop :: c.rest) (stop :: d.rest)

variable {mode : Mode} {c d : Cursor} {stop : Char}

theorem Past.exists_abreast (h : c.Past stop d) : ∃ mode, c.Abreast mode d := by
  obtain ⟨mode, hmode⟩ := h.exists_mode
  exact ⟨_, h.offset, hmode.tail⟩

theorem Past.abreast (h : c.Past stop d) (hstop : stop ∈ ['(', ')']) : c.Abreast .outside d := by
  obtain ⟨mode, hmode⟩ := h.exists_mode
  obtain ⟨ds, heq, hrest⟩ := hmode.of_bracket hstop
  obtain rfl := (List.cons.inj heq).2
  exact ⟨h.offset, hrest⟩

theorem abreast_outside_iff : c.Abreast .outside d ↔ c.Parallel .unbracketed d := by
  constructor
  · intro h
    exact ⟨h.offset, h.rest.alike, h.rest.left, h.rest.right⟩
  · intro h
    exact ⟨h.offset, trivial, h.rest, h.known.1, h.known.2⟩

namespace Abreast

theorem skipBlanks (h : c.Abreast .outside d) : c.skipBlanks.Abreast .outside d.skipBlanks :=
  abreast_outside_iff.mpr (abreast_outside_iff.mp h).skipBlanks

theorem word? (h : c.Abreast mode d) (hstop : stop ∈ ['\x22', '(', ')']) {w : String}
    (hw : w.toList = [stop]) : Option.Rel (Past stop) (c.word? w) (d.word? w) := by
  rw [word?_eq_ite hw, word?_eq_ite hw]
  obtain ⟨offset, cs⟩ := c
  obtain ⟨_, ds⟩ := d
  obtain ⟨rfl, hrest⟩ := h
  change Unbracketed mode cs ds at hrest
  dsimp only
  cases cs with
  | nil =>
    cases hrest.alike
    exact .none
  | cons x cs =>
    obtain ⟨y, ds, rfl⟩ := hrest.alike.exists_eq_cons
    rw [List.head?_cons, List.head?_cons]
    by_cases hx : x = stop
    · subst hx
      obtain rfl := hrest.head_eq hstop
      rw [if_pos rfl, if_pos rfl]
      exact .some ⟨rfl, mode, hrest⟩
    · have hy : y ≠ stop := fun heq => hx ((hrest.symm.head_eq (heq ▸ hstop)).symm.trans heq)
      rw [if_neg (by simpa using hx), if_neg (by simpa using hy)]
      exact .none

theorem upTo? (h : c.Abreast mode d) (hstop : stop ∈ ['\x22', '(', ')']) :
    Option.Rel (fun x y => Alike mode x.1 y.1 ∧ x.2.Past stop y.2) (c.upTo? stop)
      (d.upTo? stop) := by
  obtain ⟨offset, cs⟩ := c
  obtain ⟨_, ds⟩ := d
  obtain ⟨rfl, hrest⟩ := h
  change Unbracketed mode cs ds at hrest
  by_cases hmem : stop ∈ cs
  · obtain ⟨w, w', rest, rest', next, rfl, rfl, hw, hw', hlength, hnext⟩ :=
      hrest.exists_split hstop hmem
    rw [upTo?_append offset hw, upTo?_append offset hw']
    have hinner := hrest.alike.take w.length
    rw [List.take_left] at hinner
    rw [hlength, List.take_left] at hinner
    exact .some ⟨hinner, by rw [hlength], next, hnext⟩
  · have hnot : stop ∉ ds := by
      intro hds
      obtain ⟨_, w, _, rest, _, _, rfl, -⟩ := hrest.symm.exists_split hstop hds
      exact hmem (List.mem_append_right w List.mem_cons_self)
    rw [upTo?_of_notMem offset hmem, upTo?_of_notMem offset hnot]
    exact .none

end Abreast

end Cursor

end Text

namespace References

variable {mode : Mode} {c d : Cursor}

/-- Reads a call in the external form from behind the name of its library on. -/
def externalArguments? (c : Cursor) : Option ((List Char × Nat) × Cursor) := do
  let c ← c.blanks?
  let c ← c.word? "use"
  let c ← c.skipBlanks.word? "."
  let (_, c) ← c.skipBlanks.name?
  let c ← c.skipBlanks.word? "("
  let (inner, last) ← c.upTo? ')'
  let last ← last.skipBlanks.word? ")"
  return ((inner, c.offset), last)

/-- In a literal there is no such call, since its bracket would be between quotes. -/
theorem externalArguments?_of_open (hmode : mode.Proper) (hopen : mode ≠ .outside)
    (hwithout : mode.Without ['(', ')'] c.rest) : externalArguments? c = none := by
  rw [Option.eq_none_iff_forall_ne_some]
  intro found hfound
  simp only [externalArguments?, Option.bind_eq_bind, Option.bind_eq_some_iff] at hfound
  obtain ⟨c₁, hblanks, c₂, huse, c₃, hdot, ⟨name, c₄⟩, hname, c₅, hbracket, -⟩ := hfound
  have hover : c.Over c₄.skipBlanks :=
    (Cursor.over_of_blanks? hblanks).trans ((Cursor.over_of_word? (by decide) huse).trans
      ((Cursor.over_skipBlanks c₂).trans ((Cursor.over_of_word? (by decide) hdot).trans
        ((Cursor.over_skipBlanks c₃).trans ((Cursor.over_of_name? hname).trans
          (Cursor.over_skipBlanks c₄))))))
  obtain ⟨w, hw, hpass, -⟩ := hover
  obtain ⟨rest, hrest⟩ := Cursor.prefix_of_word? hbracket
  have hall : AllPass (w ++ ['(']) := by
    intro x hx
    rcases List.mem_append.mp hx with hx | hx
    · exact hpass x hx
    · rw [List.mem_singleton.mp hx]
      decide
  have hmem : '(' ∈ mode.contents ((w ++ ['(']) ++ rest) :=
    Mode.mem_contents_of_open hmode hopen hall '(' (List.mem_append_right w List.mem_cons_self)
  apply hwithout '(' List.mem_cons_self
  rw [hw, ← hrest]
  simpa using hmem

theorem externalArguments?_rel (h : c.Abreast mode d) :
    Option.Rel (fun x y => mask x.1.1 = mask y.1.1 ∧ x.1.2 = y.1.2) (externalArguments? c)
      (externalArguments? d) := by
  by_cases hopen : mode = .outside
  · subst hopen
    have h₀ := Cursor.abreast_outside_iff.mp h
    refine rel_bind h₀.blanks? fun c₁ d₁ _ h₁ => ?_
    refine rel_bind (h₁.word? (by decide)) fun c₂ d₂ _ h₂ => ?_
    refine rel_bind (h₂.skipBlanks.word? (by decide)) fun c₃ d₃ _ h₃ => ?_
    refine rel_bind h₃.skipBlanks.name? fun ⟨_, c₄⟩ ⟨_, d₄⟩ _ ⟨_, h₄⟩ => ?_
    refine rel_bind (h₄.skipBlanks.word? (by decide)) fun c₅ d₅ _ h₅ => ?_
    have hbracket : ')' ∈ ['\x22', '(', ')'] := by decide
    refine rel_bind ((Cursor.abreast_outside_iff.mpr h₅).upTo? hbracket)
      fun ⟨inner, c₆⟩ ⟨inner', d₆⟩ _ ⟨halike, h₆⟩ => ?_
    refine rel_bind ((h₆.abreast (by decide)).skipBlanks.word? hbracket rfl) fun c₇ d₇ _ _ => ?_
    exact .some ⟨halike.mask_eq, h₅.offset⟩
  · rw [externalArguments?_of_open h.rest.proper hopen h.rest.left,
      externalArguments?_of_open h.rest.proper hopen h.rest.right]
    exact .none

theorem externalCall?_rel (h : c.Abreast mode d) :
    Option.Rel (fun x y => mask x.1.1 = mask y.1.1 ∧ x.1.2 = y.1.2) (externalCall? c)
      (externalCall? d) := by
  have hbracket : '(' ∈ ['\x22', '(', ')'] := by decide
  have hquote : '\x22' ∈ ['\x22', '(', ')'] := by decide
  refine rel_bind (h.word? hbracket rfl) fun c₁ d₁ _ h₁ => ?_
  refine rel_bind ((h₁.abreast (by decide)).skipBlanks.word? hquote rfl) fun c₂ d₂ _ h₂ => ?_
  obtain ⟨_, h₂⟩ := h₂.exists_abreast
  refine rel_bind (h₂.upTo? hquote) fun ⟨_, c₃⟩ ⟨_, d₃⟩ _ ⟨_, h₃⟩ => ?_
  obtain ⟨_, h₃⟩ := h₃.exists_abreast
  exact externalArguments?_rel h₃

theorem head?_occurrences_rel {cs ds : List Char} (h : Unbracketed mode cs ds) (pos : Nat) :
    Option.Rel (fun x y => mask x.2.1 = mask y.2.1 ∧ x.2.2 = y.2.2)
      (Text.occurrences.go externalCall? pos 0 cs).head?
      (Text.occurrences.go externalCall? pos 0 ds).head? := by
  induction cs generalizing mode ds pos with
  | nil =>
    cases h.alike
    exact .none
  | cons c cs ih =>
    obtain ⟨d, ds, rfl⟩ := h.alike.exists_eq_cons
    have hcall : Cursor.Abreast mode ⟨pos, c :: cs⟩ ⟨pos, d :: ds⟩ := ⟨rfl, h⟩
    rw [Text.occurrences.go, Text.occurrences.go]
    cases hc : externalCall? ⟨pos, c :: cs⟩ with
    | none =>
      rw [Text.eq_none_of_rel (externalCall?_rel hcall) hc]
      exact ih h.tail (pos + 1)
    | some read =>
      obtain ⟨read', hd, hread⟩ := Text.exists_of_rel (externalCall?_rel hcall) hc
      rw [hd]
      exact .some hread

theorem region_congr {a b : Line} (h : Alike .outside a.code b.code)
    (hbrackets : (region a).isExternal = true ∨ (region b).isExternal = true →
      Mode.outside.Without ['(', ')'] a.code ∧ Mode.outside.Without ['(', ')'] b.code) :
    mask (region a).text = mask (region b).text ∧ (region a).offset = (region b).offset ∧
      (region a).isExternal = (region b).isExternal := by
  by_cases hany : (region a).isExternal = true ∨ (region b).isExternal = true
  · obtain ⟨ha, hb⟩ := hbrackets hany
    have hcode : Unbracketed .outside a.code b.code := ⟨trivial, h, ha, hb⟩
    have hrel := head?_occurrences_rel hcode 0
    unfold region Text.occurrences
    generalize (Text.occurrences.go externalCall? 0 0 a.code).head? = found at hrel ⊢
    generalize (Text.occurrences.go externalCall? 0 0 b.code).head? = found' at hrel ⊢
    cases hrel with
    | some hfound => exact ⟨hfound.1, hfound.2, rfl⟩
    | none => exact ⟨h.mask_eq, rfl, rfl⟩
  · have hwhole (l : Line) (hl : ¬(region l).isExternal = true) :
        region l = ⟨l.code, 0, false⟩ := by
      unfold region at hl ⊢
      split
      · next heq => simp [heq] at hl
      · rfl
    rw [not_or] at hany
    rw [hwhole a hany.1, hwhole b hany.2]
    exact ⟨h.mask_eq, rfl, rfl⟩

end References

end ScriptLint
