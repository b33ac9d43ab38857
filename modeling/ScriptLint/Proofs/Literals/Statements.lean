import ScriptLint.Proofs.Literals.Recognise
import ScriptLint.Proofs.Statement.Tokens

/-! Statements of texts that differ in their literals. A form is recognised in both texts or in
none, and with the same tokens, since its parts are outside of literals; only the brackets of
parameters and of conditions are looked for in literals too. -/
namespace ScriptLint

open Literal
open Text (Cursor Token rel_bind rel_findSome? bind_congr_of_rel elim_of_rel getD_of_rel
  eq_none_of_rel exists_of_rel)
open Text.Cursor (SameRead over_of_word? over_of_name?)

namespace Grammar

variable {i : Text.Insight} {c d : Cursor}

theorem modifier?_rel (h : c.Parallel i d) :
    Option.Rel (SameRead i) (modifier? c) (modifier? d) := by
  have hwords : ∀ w ∈ modifierWords, AllPass w.toList := by decide
  refine rel_findSome? fun w hmem => rel_bind (h.word? (hwords w hmem)) ?_
  intro next next' hnext hparallel
  have htoken : c.token w.length = d.token w.length := by
    have hover := h.token_eq (over_of_word? (hwords w hmem) hnext)
    rw [← h.offset, Cursor.eq_advance_of_word? hnext] at hover
    simpa [Cursor.advance] using hover
  cases hlast : next.blanks? with
  | none =>
    rw [eq_none_of_rel hparallel.blanks? hlast]
    exact .none
  | some last =>
    obtain ⟨last', hlast', hbehind⟩ := exists_of_rel hparallel.blanks? hlast
    rw [hlast']
    exact .some ⟨htoken, hbehind⟩

theorem modifiers_rel (h : c.Parallel i d) : SameRead i (modifiers c) (modifiers d) := by
  induction c using modifiers.induct generalizing d with
  | case1 c hnone =>
    rw [modifiers_of_none hnone, modifiers_of_none (eq_none_of_rel (modifier?_rel h) hnone)]
    exact ⟨rfl, h⟩
  | case2 c first next hsome more last hmore ih =>
    obtain ⟨⟨first', next'⟩, hd, hfirst, hnext⟩ := exists_of_rel (modifier?_rel h) hsome
    obtain ⟨hmods, hlast⟩ := ih hnext
    rw [modifiers_of_some hsome, modifiers_of_some hd]
    exact ⟨congrArg₂ List.cons hfirst hmods, hlast⟩

theorem includePath?_rel (h : c.Parallel i d) :
    Option.Rel (SameRead i) (includePath? c) (includePath? d) := by
  refine rel_bind h.name? fun _ _ _ _ => ?_
  have hpass : ∀ x, (Text.isNameChar x || x == '.') = true → Passes x :=
    passes_of (by decide)
  obtain ⟨hrun, -, hdotted⟩ := h.run_eq hpass
  have hover : c.Over (c.advance (c.run fun x => Text.isNameChar x || x == '.')) :=
    Text.Cursor.over_advance_run hpass
  dsimp only
  rw [← hrun]
  generalize c.advance _ = e at hdotted hover ⊢
  generalize d.advance _ = e' at hdotted ⊢
  have hat : AllPass "@".toList := by decide
  have hmacro : Option.Rel (SameRead i) ((e.word? "@").bind Cursor.name?)
      ((e'.word? "@").bind Cursor.name?) :=
    rel_bind (hdotted.word? hat) fun _ _ _ hnext => hnext.name?
  cases hread : (e.word? "@").bind Cursor.name? with
  | none =>
    rw [eq_none_of_rel hmacro hread]
    exact .some ⟨by simpa [hdotted.offset] using h.token_eq hover, hdotted⟩
  | some read =>
    obtain ⟨read', hread', -, hlast⟩ := exists_of_rel hmacro hread
    obtain ⟨next, hnext, hname⟩ := Option.bind_eq_some_iff.mp hread
    have hall : c.Over read.2 := hover.trans ((over_of_word? hat hnext).trans (over_of_name? hname))
    rw [hread']
    exact .some ⟨by simpa [hlast.offset] using h.token_eq hall, hlast⟩

theorem inclusion?_congr (h : c.Parallel i d) : inclusion? c = inclusion? d := by
  refine bind_congr_of_rel (h.skipBlanks.word? (by decide)) fun c₁ d₁ h₁ => ?_
  refine bind_congr_of_rel h₁.blanks? fun c₂ d₂ h₂ => ?_
  refine bind_congr_of_rel (includePath?_rel h₂) fun ⟨path, c₃⟩ ⟨path', d₃⟩ ⟨hpath, _⟩ => ?_
  dsimp only at hpath ⊢
  rw [hpath]

theorem classHead?_congr (h : c.Parallel i d) : classHead? c = classHead? d := by
  refine bind_congr_of_rel (h.skipBlanks.word? (by decide)) fun c₁ d₁ h₁ => ?_
  refine bind_congr_of_rel h₁.blanks? fun c₂ d₂ h₂ => ?_
  refine bind_congr_of_rel h₂.name? fun ⟨name, c₃⟩ ⟨name', d₃⟩ ⟨hname, _⟩ => ?_
  dsimp only at hname ⊢
  rw [hname]

theorem functionHead?_congr (h : c.Parallel .clear d) : functionHead? c = functionHead? d := by
  have hmods := modifiers_rel h.skipBlanks
  unfold functionHead?
  generalize modifiers c.skipBlanks = x at hmods ⊢
  generalize modifiers d.skipBlanks = y at hmods ⊢
  obtain ⟨mods, c₀⟩ := x
  obtain ⟨mods', d₀⟩ := y
  obtain ⟨rfl, h₀⟩ : mods = mods' ∧ _ := hmods
  refine bind_congr_of_rel (h₀.word? (by decide)) fun c₁ d₁ h₁ => ?_
  refine bind_congr_of_rel h₁.blanks? fun c₂ d₂ h₂ => ?_
  refine bind_congr_of_rel h₂.name? fun ⟨name, c₃⟩ ⟨name', d₃⟩ ⟨hname, h₃⟩ => ?_
  refine bind_congr_of_rel (h₃.skipBlanks.word? (by decide)) fun c₄ d₄ h₄ => ?_
  refine bind_congr_of_rel h₄.upTo?_of_clear fun ⟨params, c₅⟩ ⟨params', d₅⟩ ⟨hparams, h₅⟩ => ?_
  refine bind_congr_of_rel (h₅.skipBlanks.word? (by decide)) fun c₆ d₆ h₆ => ?_
  refine bind_congr_of_rel h₆.skipBlanks.typeName? fun ⟨type, c₇⟩ ⟨type', d₇⟩ ⟨htype, _⟩ => ?_
  dsimp only at hname hparams htype ⊢
  rw [hname, hparams, htype, h₄.offset]

theorem macroHead?_congr (h : c.Parallel .clear d) : macroHead? c = macroHead? d := by
  refine bind_congr_of_rel (h.skipBlanks.word? (by decide)) fun c₁ d₁ h₁ => ?_
  refine bind_congr_of_rel h₁.blanks? fun c₂ d₂ h₂ => ?_
  refine bind_congr_of_rel h₂.name? fun ⟨name, c₃⟩ ⟨name', d₃⟩ ⟨hname, h₃⟩ => ?_
  refine bind_congr_of_rel (h₃.skipBlanks.word? (by decide)) fun c₄ d₄ h₄ => ?_
  refine bind_congr_of_rel h₄.upTo?_of_clear fun ⟨params, c₅⟩ ⟨params', d₅⟩ ⟨hparams, _⟩ => ?_
  dsimp only at hname hparams ⊢
  rw [hname, hparams]

theorem variableDecl?_congr (h : c.Parallel i d) : variableDecl? c = variableDecl? d := by
  have hmods := modifiers_rel h.skipBlanks
  unfold variableDecl?
  generalize modifiers c.skipBlanks = x at hmods ⊢
  generalize modifiers d.skipBlanks = y at hmods ⊢
  obtain ⟨mods, c₀⟩ := x
  obtain ⟨mods', d₀⟩ := y
  obtain ⟨rfl, h₀⟩ : mods = mods' ∧ _ := hmods
  refine bind_congr_of_rel (h₀.word? (by decide)) fun c₁ d₁ h₁ => ?_
  refine bind_congr_of_rel h₁.blanks? fun c₂ d₂ h₂ => ?_
  refine bind_congr_of_rel h₂.name? fun ⟨name, c₃⟩ ⟨name', d₃⟩ ⟨hname, h₃⟩ => ?_
  refine bind_congr_of_rel h₃.blanks? fun c₄ d₄ h₄ => ?_
  refine bind_congr_of_rel h₄.typeName? fun ⟨type, c₅⟩ ⟨type', d₅⟩ ⟨htype, _⟩ => ?_
  dsimp only at hname htype ⊢
  rw [hname, htype]

theorem malformed?_congr (h : c.Parallel i d) : malformed? c = malformed? d := by
  obtain ⟨-, h₀⟩ := modifiers_rel h.skipBlanks
  have hpass : ∀ kind : DeclarationKind, AllPass kind.word.toList := by
    intro kind
    cases kind <;> decide
  have hkind : ∀ kind : DeclarationKind,
      ((modifiers c.skipBlanks).2.word? kind.word).any
          (fun last => !last.rest.head?.any Text.isWordChar) =
        ((modifiers d.skipBlanks).2.word? kind.word).any
          (fun last => !last.rest.head?.any Text.isWordChar) := by
    intro kind
    have hword := h₀.word? (hpass kind)
    cases hc : (modifiers c.skipBlanks).2.word? kind.word with
    | none => rw [eq_none_of_rel hword hc]
    | some last =>
      obtain ⟨last', hd, hlast⟩ := exists_of_rel hword hc
      rw [hd, Option.any_some, Option.any_some, hlast.head_eq]
  unfold malformed?
  simp only [hkind]

theorem conditional?_congr (h : c.Parallel .closes d) : conditional? c = conditional? d := by
  -- The end of a body and an alternative may come first, in both texts or in none.
  have hbody :
      Cursor.Parallel .closes ((c.skipBlanks.word? "\x7d").elim c.skipBlanks Cursor.skipBlanks)
        ((d.skipBlanks.word? "\x7d").elim d.skipBlanks Cursor.skipBlanks) :=
    elim_of_rel (h.skipBlanks.word? (by decide)) h.skipBlanks fun _ _ hnext => hnext.skipBlanks
  unfold conditional?
  dsimp only
  generalize (c.skipBlanks.word? "\x7d").elim c.skipBlanks Cursor.skipBlanks = e at hbody ⊢
  generalize (d.skipBlanks.word? "\x7d").elim d.skipBlanks Cursor.skipBlanks = e' at hbody ⊢
  have helse := rel_bind (hbody.word? (by decide : AllPass "else".toList))
    fun _ _ _ hnext => hnext.blanks?
  have hstart := getD_of_rel helse hbody
  refine bind_congr_of_rel (hstart.word? (by decide)) fun c₁ d₁ h₁ => ?_
  refine bind_congr_of_rel (h₁.skipBlanks.word? (by decide)) fun c₂ d₂ h₂ => ?_
  have hcloses := h₂.isSome_upTo?_of_closes
  cases hc : c₂.upTo? ')' <;> cases hd : d₂.upTo? ')' <;> simp [hc, hd] at hcloses ⊢

end Grammar

namespace Statement

/-- Whether the statement is a head with parameters. -/
def hasParameters : Statement → Bool
  | .functionHead _ | .macroHead _ _ => true
  | _ => false

/-- Whether the statement is the head of a class. -/
def isClassHead : Statement → Bool
  | .classHead _ => true
  | _ => false

/-- Whether the statement opens a condition. -/
def isConditional : Statement → Bool
  | .conditional => true
  | _ => false

/-- A recogniser that is not the one to decide need not agree. -/
theorem findSome?_congr {α γ : Type} {tries : List (α → Option γ)} {x y : α}
    (h : ∀ f ∈ tries, f x = f y ∨
      (∀ found, f x = some found → tries.findSome? (· x) ≠ some found) ∧
        ∀ found, f y = some found → tries.findSome? (· y) ≠ some found) :
    tries.findSome? (· x) = tries.findSome? (· y) := by
  induction tries with
  | nil => rfl
  | cons f tries ih =>
    rw [List.forall_mem_cons] at h
    obtain ⟨hf, htries⟩ := h
    -- One that is passed over in both texts leaves the decision to those behind it.
    have heq : f x = f y := by
      refine hf.elim id fun ⟨hx, hy⟩ => ?_
      have hnone (z : α) (hz : ∀ found, f z = some found →
          (f :: tries).findSome? (· z) ≠ some found) : f z = none := by
        rw [Option.eq_none_iff_forall_ne_some]
        intro found hfound
        exact hz found hfound (by rw [List.findSome?_cons, hfound])
      rw [hnone x hx, hnone y hy]
    rw [List.findSome?_cons, List.findSome?_cons, ← heq]
    cases hread : f x with
    | some found => rfl
    | none =>
      refine ih fun g hg => (htries g hg).imp_right ?_
      rw [List.findSome?_cons, List.findSome?_cons, ← heq, hread]
      exact id

/-- If the recogniser reads a statement in the text, this is not what the text says. -/
def PassedOver (f : Cursor → Option Statement) (text : List Char) : Prop :=
  ∀ statement, f (Cursor.start text) = some statement → ofText text ≠ statement

theorem ofText_congr_of_recognisers {a b : List Char}
    (h : ∀ f ∈ recognisers, f (Cursor.start a) = f (Cursor.start b) ∨
      PassedOver f a ∧ PassedOver f b) : ofText a = ofText b := by
  have hdecided (text : List Char) {statement : Statement}
      (hread : recognisers.findSome? (· (Cursor.start text)) = some statement) :
      ofText text = statement := by
    rw [ofText_eq_findSome?, hread, Option.getD_some]
  rw [ofText_eq_findSome?, ofText_eq_findSome?, findSome?_congr fun f hf => ?_]
  refine (h f hf).imp_right fun ⟨ha, hb⟩ => ⟨?_, ?_⟩
  · exact fun statement hfound hread => ha statement hfound (hdecided a hread)
  · exact fun statement hfound hread => hb statement hfound (hdecided b hread)

/-- A recogniser of one form has to read the same only where one of the texts has that form. -/
theorem eq_or_passedOver {f : Cursor → Option Statement} {form : Statement → Bool} {a b : List Char}
    (hform : ∀ c statement, f c = some statement → form statement)
    (h : form (ofText a) ∨ form (ofText b) → f (Cursor.start a) = f (Cursor.start b)) :
    f (Cursor.start a) = f (Cursor.start b) ∨ PassedOver f a ∧ PassedOver f b := by
  by_cases hsome : form (ofText a) ∨ form (ofText b)
  · exact .inl (h hsome)
  · rw [not_or] at hsome
    refine .inr ⟨fun statement hfound heq => hsome.1 ?_, fun statement hfound heq => hsome.2 ?_⟩
    · exact heq ▸ hform _ _ hfound
    · exact heq ▸ hform _ _ hfound

theorem hasParameters_of_functionHead? (c : Cursor) (statement : Statement)
    (h : Grammar.functionHead? c = some statement) : statement.hasParameters := by
  simp only [Grammar.functionHead?, Option.bind_eq_bind, Option.bind_eq_some_iff] at h
  obtain ⟨_, _, _, _, _, _, _, _, _, _, _, _, _, _, heq⟩ := h
  cases heq
  rfl

theorem hasParameters_of_macroHead? (c : Cursor) (statement : Statement)
    (h : Grammar.macroHead? c = some statement) : statement.hasParameters := by
  simp only [Grammar.macroHead?, Option.bind_eq_bind, Option.bind_eq_some_iff] at h
  obtain ⟨_, _, _, _, _, _, _, _, _, _, heq⟩ := h
  cases heq
  rfl

theorem isConditional_of_conditional? (c : Cursor) (statement : Statement)
    (h : Grammar.conditional? c = some statement) : statement.isConditional := by
  simp only [Grammar.conditional?, Option.bind_eq_bind, Option.bind_eq_some_iff] at h
  obtain ⟨_, _, _, _, _, _, heq⟩ := h
  cases heq
  rfl

/-- Texts that differ in their literals say the same, unless a literal stands among parameters, or
only one of the texts has a bracket to close a condition. -/
theorem ofText_congr {a b : List Char} (h : Alike .outside a b)
    (hparams : (ofText a).hasParameters ∨ (ofText b).hasParameters →
      ∀ x ∈ a.takeWhile (· != ')'), ¬IsQuote x)
    (hcloses : (ofText a).isConditional ∨ (ofText b).isConditional → (')' ∈ a ↔ ')' ∈ b)) :
    ofText a = ofText b := by
  have hknown (i : Text.Insight) (hi : i.rel a b) :
      (Cursor.start a).Parallel i (Cursor.start b) :=
    ⟨rfl, h, hi⟩
  have hplain := hknown .none trivial
  apply ofText_congr_of_recognisers
  intro f hf
  simp only [recognisers, List.mem_cons, List.not_mem_nil, or_false] at hf
  rcases hf with rfl | rfl | rfl | rfl | rfl | rfl | rfl
  · exact .inl (Grammar.inclusion?_congr hplain)
  · exact .inl (Grammar.classHead?_congr hplain)
  · apply eq_or_passedOver hasParameters_of_functionHead?
    exact fun hform => Grammar.functionHead?_congr (hknown .clear (hparams hform))
  · apply eq_or_passedOver hasParameters_of_macroHead?
    exact fun hform => Grammar.macroHead?_congr (hknown .clear (hparams hform))
  · exact .inl (Grammar.variableDecl?_congr hplain)
  · exact .inl (Grammar.malformed?_congr hplain)
  · apply eq_or_passedOver isConditional_of_conditional?
    exact fun hform => Grammar.conditional?_congr (hknown .closes (hcloses hform))

end Statement

end ScriptLint
