import ScriptLint.Proofs.Text.Places
import ScriptLint.Statement.Grammar

/-! The tokens of a statement stand in the text that it was read from. -/
namespace ScriptLint

open Text (Cursor Token)

/-- The word stands in the text at the offset, and is not empty. -/
def Text.HasAt (text : List Char) (word : String) (offset : Int) : Prop :=
  ∃ t : Token, t.In text ∧ word = t.text ∧ offset = t.offset

/-- The tokens of the head of a function stand in the text. -/
structure FunctionHead.TokensIn (head : FunctionHead) (text : List Char) : Prop where
  access : ∀ m ∈ head.access, m.In text
  name : head.name.In text
  params : ∀ p ∈ head.params, Text.HasAt text p.type p.offset
  returnType : head.returnType.In text

/-- The tokens of the statement stand in the text. -/
def Statement.TokensIn (text : List Char) : Statement → Prop
  | .inclusion path => path.In text
  | .classHead name => name.In text
  | .functionHead head => head.TokensIn text
  | .macroHead name _ => name.In text
  | .variableDecl access name type => (∀ m ∈ access, m.In text) ∧ name.In text ∧ type.In text
  | _ => True

namespace Grammar

variable {c d : Cursor} {text : List Char} {t : Token} {statement : Statement}

theorem reads_of_modifier? (h : modifier? c = some (t, d)) :
    ∃ next, c.Reads t next ∧ next.Reaches d := by
  obtain ⟨w, hw, hread⟩ := List.exists_of_findSome?_eq_some h
  obtain ⟨next, hnext, hlast⟩ := Option.bind_eq_some_iff.mp hread
  obtain ⟨last, hblanks, heq⟩ := Option.map_eq_some_iff.mp hlast
  cases heq
  have hne : ∀ w ∈ modifierWords, w ≠ "" := by decide
  exact ⟨next, Cursor.reads_of_word? hnext (hne w hw), Cursor.reaches_of_blanks? hblanks⟩

theorem modifiers_of_none (h : modifier? c = none) : modifiers c = ([], c) := by
  unfold modifiers
  split
  · rfl
  · next heq => rw [h] at heq; cases heq

theorem modifiers_of_some (h : modifier? c = some (t, d)) :
    modifiers c = (t :: (modifiers d).1, (modifiers d).2) := by
  rw [modifiers]
  split
  · next heq => rw [h] at heq; cases heq
  · next heq =>
    rw [h] at heq
    cases heq
    rfl

theorem modifiers_in (hc : c.On text) :
    (∀ m ∈ (modifiers c).1, m.In text) ∧ c.Reaches (modifiers c).2 := by
  induction c using modifiers.induct with
  | case1 c hnone =>
    rw [modifiers_of_none hnone]
    exact ⟨by simp, Cursor.Reaches.refl c⟩
  | case2 c first next hsome more last hmore ih =>
    obtain ⟨behind, hread, hreach⟩ := reads_of_modifier? hsome
    have hnext : c.Reaches next := hread.reaches.trans hreach
    obtain ⟨hin, hlast⟩ := ih (hnext.on hc)
    rw [modifiers_of_some hsome]
    exact ⟨List.forall_mem_cons.mpr ⟨hread.token_in hc, hin⟩, hnext.trans hlast⟩

/-- A declaration starts with modifiers, one of which may be its access, and a keyword. -/
theorem modifiers_keyword_in {w : String} {e : Cursor} (hc : c.On text)
    (hword : (modifiers c.skipBlanks).2.word? w = some d) (hblanks : d.blanks? = some e) :
    (∀ m ∈ access? (modifiers c.skipBlanks).1, m.In text) ∧ e.On text := by
  have hstart : c.skipBlanks.On text := (Cursor.reaches_skipBlanks c).on hc
  obtain ⟨hin, hmods⟩ := modifiers_in hstart
  refine ⟨fun m hm => hin m (List.mem_of_find?_eq_some hm), ?_⟩
  exact (hmods.trans
    ((Cursor.reaches_of_word? hword).trans (Cursor.reaches_of_blanks? hblanks))).on hstart

/-- The types of parameters stand in the text whose part they were read from. -/
theorem parameters_hasAt {part : List Char} {base : Nat} (hpart : part <+: text.drop base) :
    ∀ p ∈ parameters part base, Text.HasAt text p.type p.offset := by
  intro p hp
  obtain ⟨⟨pos, name, type⟩, hmem, rfl⟩ := List.mem_map.mp hp
  obtain ⟨c, next, hc, -, hread⟩ := Text.exists_of_mem_occurrences hmem
  simp only [parameter?, Option.bind_eq_bind, Option.bind_eq_some_iff] at hread
  obtain ⟨⟨name', c₁⟩, hname, c₂, hblanks, ⟨type', c₃⟩, htype, heq⟩ := hread
  cases heq
  have hc₂ : c₂.On part :=
    ((Cursor.reads_of_name? hname).reaches.trans (Cursor.reaches_of_blanks? hblanks)).on hc
  have hin := (Cursor.reads_of_typeName? htype).token_in hc₂
  exact ⟨_, hin.shift hpart, rfl, by simp⟩

/-- Where a name is, a dotted part is read. -/
theorem reads_dotted {name : Token} {next : Cursor} (h : c.name? = some (name, next)) :
    c.Reads (c.token (c.run fun x => Text.isNameChar x || x == '.'))
      (c.advance (c.run fun x => Text.isNameChar x || x == '.')) := by
  have hhead : c.rest.head?.any (fun x => Text.isNameChar x || x == '.') = true := by
    have hstart : c.rest.head?.any Text.isNameStart = true := by
      by_cases hstart : c.rest.head?.any Text.isNameStart = true
      · exact hstart
      · rw [Cursor.name?, if_neg hstart] at h
        cases h
    cases hrest : c.rest.head? with
    | none => simp [hrest] at hstart
    | some x =>
      have hx := Text.isNameChar_of_isNameStart (by simpa [hrest] using hstart)
      simp [hx]
  exact ⟨_, Cursor.run_pos hhead, Cursor.run_le c _, rfl, rfl⟩

theorem reads_of_includePath? (h : includePath? c = some (t, d)) : c.Reads t d := by
  obtain ⟨⟨name, next⟩, hname, hread⟩ := Option.bind_eq_some_iff.mp h
  cases hread
  -- The dotted part is one token, and what follows the sign is taken into it.
  have hdotted := reads_dotted hname
  cases hmacro : ((c.advance (c.run fun x => Text.isNameChar x || x == '.')).word? "@").bind
      Cursor.name? with
  | none =>
    have hoffset : (c.advance (c.run fun x => Text.isNameChar x || x == '.')).offset - c.offset =
        c.run fun x => Text.isNameChar x || x == '.' := by
      simp [Cursor.advance]
    simp only [Option.elim_none, hoffset]
    exact hdotted
  | some read =>
    obtain ⟨next, hat, hlast⟩ := Option.bind_eq_some_iff.mp hmacro
    simp only [Option.elim_some]
    exact (hdotted.append (Cursor.reads_of_word? hat (by decide))).append
      (Cursor.reads_of_name? hlast)

theorem inclusion?_tokensIn (hc : c.On text) (h : inclusion? c = some statement) :
    statement.TokensIn text := by
  simp only [inclusion?, Option.bind_eq_bind, Option.bind_eq_some_iff] at h
  obtain ⟨c₁, hword, c₂, hblanks, ⟨path, c₃⟩, hpath, heq⟩ := h
  cases heq
  have hc₂ : c₂.On text := (Cursor.reaches_of_keyword hword hblanks).on hc
  exact (reads_of_includePath? hpath).token_in hc₂

theorem classHead?_tokensIn (hc : c.On text) (h : classHead? c = some statement) :
    statement.TokensIn text := by
  simp only [classHead?, Option.bind_eq_bind, Option.bind_eq_some_iff] at h
  obtain ⟨c₁, hword, c₂, hblanks, ⟨name, c₃⟩, hname, heq⟩ := h
  cases heq
  have hc₂ : c₂.On text := (Cursor.reaches_of_keyword hword hblanks).on hc
  exact (Cursor.reads_of_name? hname).token_in hc₂

theorem functionHead?_tokensIn (hc : c.On text) (h : functionHead? c = some statement) :
    statement.TokensIn text := by
  simp only [functionHead?, Option.bind_eq_bind, Option.bind_eq_some_iff] at h
  obtain ⟨c₁, hword, c₂, hblanks, ⟨name, c₃⟩, hname, c₄, hopen, ⟨params, c₅⟩, hparams, c₆, harrow,
    ⟨returnType, c₇⟩, htype, heq⟩ := h
  cases heq
  obtain ⟨haccess, hc₂⟩ := modifiers_keyword_in hc hword hblanks
  have hreadName := Cursor.reads_of_name? hname
  have hc₄ : c₄.On text := (hreadName.reaches.trans
    (Cursor.reaches_of_skipBlanks_word? hopen)).on hc₂
  obtain ⟨hpart, hc₅⟩ := Cursor.prefix_of_upTo? hparams
  have hc₆ : (c₆.skipBlanks).On text := (hc₅.trans
    ((Cursor.reaches_of_skipBlanks_word? harrow).trans (Cursor.reaches_skipBlanks c₆))).on hc₄
  -- Only the parameters are read from a part of the text, up to the bracket that closes them.
  rw [show c₄.rest = text.drop c₄.offset from hc₄] at hpart
  exact ⟨haccess, hreadName.token_in hc₂, parameters_hasAt hpart,
    (Cursor.reads_of_typeName? htype).token_in hc₆⟩

theorem macroHead?_tokensIn (hc : c.On text) (h : macroHead? c = some statement) :
    statement.TokensIn text := by
  simp only [macroHead?, Option.bind_eq_bind, Option.bind_eq_some_iff] at h
  obtain ⟨c₁, hword, c₂, hblanks, ⟨name, c₃⟩, hname, c₄, hopen, ⟨params, c₅⟩, hparams, heq⟩ := h
  cases heq
  have hc₂ : c₂.On text := (Cursor.reaches_of_keyword hword hblanks).on hc
  exact (Cursor.reads_of_name? hname).token_in hc₂

theorem variableDecl?_tokensIn (hc : c.On text) (h : variableDecl? c = some statement) :
    statement.TokensIn text := by
  simp only [variableDecl?, Option.bind_eq_bind, Option.bind_eq_some_iff] at h
  obtain ⟨c₁, hword, c₂, hblanks, ⟨name, c₃⟩, hname, c₄, hblanks', ⟨type, c₅⟩, htype, heq⟩ := h
  cases heq
  obtain ⟨haccess, hc₂⟩ := modifiers_keyword_in hc hword hblanks
  have hreadName := Cursor.reads_of_name? hname
  have hc₄ : c₄.On text :=
    (hreadName.reaches.trans (Cursor.reaches_of_blanks? hblanks')).on hc₂
  exact ⟨haccess, hreadName.token_in hc₂,
    (Cursor.reads_of_typeName? htype).token_in hc₄⟩

end Grammar

namespace Statement

/-- The recognisers of all forms, in the order in which they are tried. -/
def recognisers : List (Cursor → Option Statement) :=
  [Grammar.inclusion?, Grammar.classHead?, Grammar.functionHead?, Grammar.macroHead?,
    Grammar.variableDecl?, Grammar.malformed?, Grammar.conditional?]

theorem ofText_eq_findSome? (text : List Char) :
    ofText text = (recognisers.findSome? (· (Cursor.start text))).getD .other :=
  rfl

/-- What a text says was read by one of the recognisers, unless it says nothing. -/
theorem exists_recogniser {text : List Char} {statement : Statement} (h : ofText text = statement)
    (hother : statement ≠ .other) :
    ∃ recognise ∈ recognisers, recognise (Cursor.start text) = some statement := by
  rw [ofText_eq_findSome?] at h
  cases hread : recognisers.findSome? (· (Cursor.start text)) with
  | none =>
    rw [hread] at h
    exact absurd h.symm hother
  | some found =>
    rw [hread, Option.getD_some] at h
    obtain ⟨recognise, hmem, hsome⟩ := List.exists_of_findSome?_eq_some hread
    exact ⟨recognise, hmem, hsome.trans (congrArg some h)⟩

/-- The tokens of what a text says stand in the text. -/
theorem tokensIn_ofText (text : List Char) : (ofText text).TokensIn text := by
  have hc := Cursor.on_start text
  by_cases hother : ofText text = .other
  · rw [hother]
    trivial
  obtain ⟨recognise, hmem, hsome⟩ := exists_recogniser rfl hother
  generalize ofText text = statement at hsome
  simp only [recognisers, List.mem_cons, List.not_mem_nil, or_false] at hmem
  rcases hmem with rfl | rfl | rfl | rfl | rfl | rfl | rfl
  · exact Grammar.inclusion?_tokensIn hc hsome
  · exact Grammar.classHead?_tokensIn hc hsome
  · exact Grammar.functionHead?_tokensIn hc hsome
  · exact Grammar.macroHead?_tokensIn hc hsome
  · exact Grammar.variableDecl?_tokensIn hc hsome
  -- The last two kinds of statement have no tokens.
  · obtain ⟨kind, -, heq⟩ := Option.bind_eq_some_iff.mp hsome
    cases heq
    trivial
  · simp only [Grammar.conditional?, Option.bind_eq_bind, Option.bind_eq_some_iff] at hsome
    obtain ⟨_, _, _, _, _, _, heq⟩ := hsome
    cases heq
    trivial

/-- Only the recogniser of functions gives the head of one. -/
theorem functionHead?_of_ofText {text : List Char} {head : FunctionHead}
    (h : ofText text = .functionHead head) :
    Grammar.functionHead? (Cursor.start text) = some (.functionHead head) := by
  obtain ⟨recognise, hmem, hsome⟩ := exists_recogniser h (by simp)
  simp only [recognisers, List.mem_cons, List.not_mem_nil, or_false] at hmem
  rcases hmem with rfl | rfl | rfl | rfl | rfl | rfl | rfl
  case inr.inr.inl => exact hsome
  all_goals
    simp [Grammar.inclusion?, Grammar.classHead?, Grammar.macroHead?, Grammar.variableDecl?,
      Grammar.malformed?, Grammar.conditional?, Option.bind_eq_some_iff] at hsome

end Statement

end ScriptLint
