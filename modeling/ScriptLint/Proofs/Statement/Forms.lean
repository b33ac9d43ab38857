import ScriptLint.Proofs.Statement.Prefixes

/-! The forms of a statement exclude each other, so the order in which they are tried does not
matter, but for the declarations that fit no form, which must come behind those that do. -/
namespace ScriptLint

open Text (Cursor)

namespace Grammar

/-- The forms that a line is tried for. -/
inductive Form where
  /-- Includes a module. -/
  | inclusion
  /-- Opens a class. -/
  | classHead
  /-- Opens a function. -/
  | functionHead
  /-- Opens a macro. -/
  | macroHead
  /-- Declares a variable. -/
  | variableDecl
  /-- Starts like a declaration. -/
  | malformed
  /-- Opens a condition. -/
  | conditional
deriving DecidableEq

namespace Form

/-- All forms, in the order in which they are tried. -/
def all : List Form :=
  [inclusion, classHead, functionHead, macroHead, variableDecl, malformed, conditional]

/-- The recogniser of the form. -/
def recognise : Form → Cursor → Option Statement
  | inclusion => inclusion?
  | classHead => classHead?
  | functionHead => functionHead?
  | macroHead => macroHead?
  | variableDecl => variableDecl?
  | malformed => malformed?
  | conditional => conditional?

/-- The text has the form. -/
def Accepts (form : Form) (text : List Char) : Prop :=
  (form.recognise (Cursor.start text)).isSome

instance (form : Form) (text : List Char) : Decidable (form.Accepts text) :=
  inferInstanceAs (Decidable ((form.recognise (Cursor.start text)).isSome = true))

/-- The kind of declaration that has the form, if it is one of a declaration. -/
def declares? : Form → Option DeclarationKind
  | classHead => some .classDecl
  | functionHead => some .functionDecl
  | macroHead => some .macroDecl
  | variableDecl => some .variableDecl
  | _ => none

/-- The words of which one stands, behind blanks and modifiers, in a text that has the form. -/
def words : Form → List String
  | inclusion => ["include"]
  | classHead => ["class"]
  | functionHead => ["def"]
  | macroHead => ["macro"]
  | variableDecl => ["var"]
  | malformed => ["def", "class", "macro", "var"]
  | conditional => ["\x7d", "else", "if"]

theorem mem_all (form : Form) : form ∈ all := by
  cases form <;> decide

theorem mem_headWords {form : Form} {w : String} (h : w ∈ form.words) : w ∈ headWords := by
  have hall : ∀ form ∈ all, ∀ w ∈ form.words, w ∈ headWords := by decide
  exact hall form form.mem_all w h

/-- Two forms with a word in common are the same, or one is that of all declarations. -/
theorem eq_of_mem_words {f g : Form} {w : String} (hf : w ∈ f.words) (hg : w ∈ g.words) :
    f = g ∨ (f = malformed ∧ g.declares?.isSome) ∨ (g = malformed ∧ f.declares?.isSome) := by
  have hall : ∀ f ∈ all, ∀ g ∈ all, ∀ w ∈ f.words, w ∈ g.words →
      f = g ∨ (f = malformed ∧ g.declares?.isSome) ∨ (g = malformed ∧ f.declares?.isSome) := by
    decide
  exact hall f f.mem_all g g.mem_all w hf hg

end Form

variable {c d : Cursor} {w : String} {text : List Char}

/-- There are no modifiers where another of the words stands. -/
theorem modifiers_of_word? (hword : c.word? w = some d) (hmem : w ∈ headWords)
    (hmodifier : w ∉ modifierWords) : (modifiers c).2 = c := by
  rw [modifiers_of_none (modifier?_eq_none_of_mem hmem hmodifier (Cursor.prefix_of_word? hword))]

/-- A declaration that has its form has the word of its kind and a blank behind it. -/
theorem keyword_of_declares? {form : Form} {kind : DeclarationKind}
    (hdeclares : form.declares? = some kind) (h : (form.recognise c).isSome) :
    ∃ d e, (modifiers c.skipBlanks).2.word? kind.word = some d ∧ d.blanks? = some e := by
  obtain ⟨statement, hread⟩ := Option.isSome_iff_exists.mp h
  cases form with
  | inclusion => cases hdeclares
  | malformed => cases hdeclares
  | conditional => cases hdeclares
  | classHead =>
    cases hdeclares
    simp only [Form.recognise, classHead?, Option.bind_eq_bind, Option.bind_eq_some_iff] at hread
    obtain ⟨d, hword, e, hblanks, -⟩ := hread
    exact ⟨d, e, by rwa [modifiers_of_word? hword (by decide) (by decide)], hblanks⟩
  | macroHead =>
    cases hdeclares
    simp only [Form.recognise, macroHead?, Option.bind_eq_bind, Option.bind_eq_some_iff] at hread
    obtain ⟨d, hword, e, hblanks, -⟩ := hread
    exact ⟨d, e, by rwa [modifiers_of_word? hword (by decide) (by decide)], hblanks⟩
  | functionHead =>
    cases hdeclares
    simp only [Form.recognise, functionHead?, Option.bind_eq_bind, Option.bind_eq_some_iff] at hread
    obtain ⟨d, hword, e, hblanks, -⟩ := hread
    exact ⟨d, e, hword, hblanks⟩
  | variableDecl =>
    cases hdeclares
    simp only [Form.recognise, variableDecl?, Option.bind_eq_bind, Option.bind_eq_some_iff] at hread
    obtain ⟨d, hword, e, hblanks, -⟩ := hread
    exact ⟨d, e, hword, hblanks⟩

/-- A condition starts with one of its words. -/
theorem word?_of_conditional? (h : (conditional? c).isSome) :
    ∃ w ∈ Form.conditional.words, ∃ d, c.skipBlanks.word? w = some d := by
  cases hclose : c.skipBlanks.word? "\x7d" with
  | some d => exact ⟨"\x7d", by decide, d, hclose⟩
  | none =>
    cases helse : (c.skipBlanks.word? "else").bind Cursor.blanks? with
    | some d =>
      obtain ⟨e, hword, -⟩ := Option.bind_eq_some_iff.mp helse
      exact ⟨"else", by decide, e, hword⟩
    | none =>
      obtain ⟨statement, hread⟩ := Option.isSome_iff_exists.mp h
      simp only [conditional?, hclose, helse, Option.elim_none, Option.getD_none,
        Option.bind_eq_bind, Option.bind_eq_some_iff] at hread
      obtain ⟨d, hword, -⟩ := hread
      exact ⟨"if", by decide, d, hword⟩

/-- A text that has a form has one of its words, behind blanks and modifiers. -/
theorem prefix_of_recognise {form : Form} (h : (form.recognise c).isSome) :
    ∃ w ∈ form.words, w.toList <+: (modifiers c.skipBlanks).2.rest := by
  cases hdeclares : form.declares? with
  | some kind =>
    obtain ⟨d, e, hword, -⟩ := keyword_of_declares? hdeclares h
    refine ⟨kind.word, ?_, Cursor.prefix_of_word? hword⟩
    cases form <;> cases hdeclares <;> decide
  | none =>
    cases form with
    | inclusion =>
      obtain ⟨statement, hread⟩ := Option.isSome_iff_exists.mp h
      obtain ⟨d, hword, -⟩ := Option.bind_eq_some_iff.mp hread
      exact ⟨"include", by decide, by
        rw [modifiers_of_word? hword (by decide) (by decide)]
        exact Cursor.prefix_of_word? hword⟩
    | malformed =>
      obtain ⟨statement, hread⟩ := Option.isSome_iff_exists.mp h
      obtain ⟨kind, hfind, -⟩ := Option.bind_eq_some_iff.mp hread
      obtain ⟨behind, hrest, -⟩ := find?_word_iff.mp hfind
      refine ⟨kind.word, by cases kind <;> decide, ?_⟩
      exact ⟨behind, hrest.symm⟩
    | conditional =>
      obtain ⟨w, hw, d, hword⟩ := word?_of_conditional? h
      have hmodifier : ∀ w ∈ Form.conditional.words, w ∉ modifierWords := by decide
      refine ⟨w, hw, ?_⟩
      rw [modifiers_of_word? hword (Form.mem_headWords hw) (hmodifier w hw)]
      exact Cursor.prefix_of_word? hword
    | _ => cases hdeclares

namespace Form

/-- Two forms that a text has are the same, or one is that of all declarations. -/
theorem eq_of_accepts {f g : Form} (hf : f.Accepts text) (hg : g.Accepts text) :
    f = g ∨ (f = malformed ∧ g.declares?.isSome) ∨ (g = malformed ∧ f.declares?.isSome) := by
  obtain ⟨v, hv, hvt⟩ := prefix_of_recognise hf
  obtain ⟨w, hw, hwt⟩ := prefix_of_recognise hg
  obtain rfl : v = w := eq_of_prefix (mem_headWords hv) (mem_headWords hw) hvt hwt
  exact eq_of_mem_words hv hw

/-- A declaration that has its form starts like a declaration of its kind. -/
theorem starts_of_declares? {f : Form} {kind : DeclarationKind} (hkind : f.declares? = some kind)
    (hf : f.Accepts text) : kind.Starts text := by
  obtain ⟨d, e, hword, hblanks⟩ := keyword_of_declares? hkind hf
  -- The blank that must stand behind the word ends it.
  have hend : d.rest.head?.any Text.isWordChar = false := by
    simp only [Cursor.blanks?, Option.ite_none_left_eq_some] at hblanks
    cases hrest : d.rest with
    | nil => rfl
    | cons x xs =>
      cases hx : Text.isBlank x with
      | true => exact Text.isWordChar_of_isBlank hx
      | false => exact absurd (by simp [Cursor.run, hrest, hx]) hblanks.1
  exact malformed?_start_iff.mp (malformed?_iff.mpr ⟨d.rest, Cursor.rest_of_word? hword, hend⟩)

/-- What the recogniser of all declarations gives is never what another gives. -/
theorem eq_malformed_of_recognise {f : Form} {c : Cursor} {kind : DeclarationKind}
    (h : f.recognise c = some (.malformed kind)) : f = malformed := by
  cases f with
  | malformed => rfl
  | _ =>
    simp [recognise, inclusion?, classHead?, functionHead?, macroHead?, variableDecl?,
      conditional?, Option.bind_eq_some_iff] at h

theorem accepts_malformed_iff : malformed.Accepts text ↔ ∃ kind : DeclarationKind,
    kind.Starts text := by
  constructor
  · intro h
    obtain ⟨statement, hread⟩ := Option.isSome_iff_exists.mp h
    obtain ⟨kind, -, heq⟩ := Option.bind_eq_some_iff.mp hread
    cases heq
    exact ⟨kind, malformed?_start_iff.mp hread⟩
  · rintro ⟨kind, h⟩
    rw [Accepts, recognise, malformed?_start_iff.mpr h]
    rfl

/-- The form decides what the text says: the text has it, and has no other form, except that what
is declared in its form also has the form of all declarations. -/
structure Decides (f : Form) (text : List Char) : Prop where
  accepts : f.Accepts text
  only : ∀ g : Form, g.Accepts text → g = f ∨ (g = malformed ∧ f.declares?.isSome)

/-- The form of a declaration decides. -/
theorem decides_of_declares? {f : Form} (hkind : f.declares?.isSome) (hf : f.Accepts text) :
    f.Decides text := by
  refine ⟨hf, fun g hg => ?_⟩
  rcases eq_of_accepts hg hf with heq | hmalformed | ⟨rfl, -⟩
  · exact .inl heq
  · exact .inr hmalformed
  · cases hkind

/-- A form decides where there is no declaration in its form. -/
theorem decides_of_forall {f : Form} (hf : f.Accepts text)
    (hnone : ∀ g : Form, g.declares?.isSome → ¬ g.Accepts text) : f.Decides text := by
  refine ⟨hf, fun g hg => ?_⟩
  rcases eq_of_accepts hg hf with heq | ⟨-, hkind⟩ | ⟨-, hkind⟩
  · exact .inl heq
  · exact absurd hf (hnone f hkind)
  · exact absurd hg (hnone g hkind)

/-- Each text that has a form has one that decides. -/
theorem exists_decides {f : Form} (hf : f.Accepts text) : ∃ g : Form, g.Decides text := by
  by_cases hdeclared : ∃ g : Form, g.declares?.isSome ∧ g.Accepts text
  · obtain ⟨g, hkind, hg⟩ := hdeclared
    exact ⟨g, decides_of_declares? hkind hg⟩
  · exact ⟨f, decides_of_forall hf fun g hkind hg => hdeclared ⟨g, hkind, hg⟩⟩

/-- An order of the forms in which that of all declarations comes behind the declarations in their
forms. -/
structure IsOrder (order : List Form) : Prop where
  perm : order.Perm all
  pairwise : order.Pairwise fun f g => f = malformed → g.declares? = none

theorem isOrder_all : IsOrder all :=
  ⟨.refl _, by decide⟩

/-- The form that decides is found first in each such order. -/
theorem Decides.findSome?_eq {f : Form} (h : f.Decides text) {order : List Form}
    (horder : IsOrder order) :
    order.findSome? (fun g => g.recognise (Cursor.start text)) =
      f.recognise (Cursor.start text) := by
  obtain ⟨before, behind, rfl, hnotMem⟩ :=
    List.eq_append_cons_of_mem (horder.perm.mem_iff.mpr f.mem_all)
  have hbefore : before.findSome? (fun g => g.recognise (Cursor.start text)) = none := by
    refine List.findSome?_eq_none_iff.mpr fun g hg =>
      Option.not_isSome_iff_eq_none.mp fun haccepts => ?_
    rcases h.only g haccepts with rfl | ⟨hmalformed, hkind⟩
    · exact hnotMem hg
    · have hnone := (List.pairwise_append.mp horder.pairwise).2.2 g hg f List.mem_cons_self
      simp [hnone hmalformed] at hkind
  obtain ⟨statement, hread⟩ := Option.isSome_iff_exists.mp h.accepts
  rw [List.findSome?_append, hbefore, Option.none_or, List.findSome?_cons, hread]

theorem ofText_eq_findSome?_all (text : List Char) :
    Statement.ofText text =
      (all.findSome? fun f => f.recognise (Cursor.start text)).getD .other :=
  rfl

/-- The form that decides gives what the text says. -/
theorem Decides.recognise_eq {f : Form} (h : f.Decides text) :
    f.recognise (Cursor.start text) = some (Statement.ofText text) := by
  obtain ⟨statement, hread⟩ := Option.isSome_iff_exists.mp h.accepts
  rw [ofText_eq_findSome?_all, h.findSome?_eq isOrder_all, hread, Option.getD_some]

/-- A text that has none of the forms says nothing. -/
theorem findSome?_eq_none (h : ∀ f : Form, ¬ f.Accepts text) (forms : List Form) :
    forms.findSome? (fun f => f.recognise (Cursor.start text)) = none :=
  List.findSome?_eq_none_iff.mpr fun f _ => Option.not_isSome_iff_eq_none.mp (h f)

/-- A text of blanks has none of the forms, since each has a word. -/
theorem ofText_of_blank (h : ∀ c ∈ text, Text.isBlank c = true) :
    Statement.ofText text = .other := by
  have hnone : ∀ f : Form, ¬ f.Accepts text := by
    intro f hf
    obtain ⟨w, hw, hprefix⟩ := prefix_of_recognise hf
    have hmem := mem_headWords hw
    obtain ⟨blanks, -, hstart, -⟩ := Cursor.exists_skipBlanks (Cursor.start text)
    obtain ⟨mods, -, hrest⟩ := modifierRun_modifiers (Cursor.start text).skipBlanks
    obtain ⟨behind, hbehind⟩ := hprefix
    have htext : text = blanks ++ (mods ++ (w.toList ++ behind)) := by
      rw [hbehind, ← hrest]
      exact hstart
    have hwords : ∀ v ∈ headWords, v.toList.head?.any (fun c => !Text.isBlank c) = true := by
      decide +kernel
    obtain ⟨c, hc, hblank⟩ := (Option.any_eq_true _ _).mp (hwords w hmem)
    have hin : c ∈ text := by
      rw [htext]
      simp [List.mem_of_mem_head? hc]
    simp [h c hin] at hblank
  rw [ofText_eq_findSome?_all, findSome?_eq_none hnone]
  rfl

/-- What a text says does not depend on the order in which its form is looked for. -/
theorem IsOrder.getD_findSome? {order : List Form} (h : IsOrder order) (text : List Char) :
    (order.findSome? fun f => f.recognise (Cursor.start text)).getD .other =
      Statement.ofText text := by
  rw [ofText_eq_findSome?_all]
  by_cases haccepts : ∃ f : Form, f.Accepts text
  · obtain ⟨f, hf⟩ := haccepts
    obtain ⟨g, hg⟩ := exists_decides hf
    rw [hg.findSome?_eq h, hg.findSome?_eq isOrder_all]
  · have hnone := findSome?_eq_none fun f hf => haccepts ⟨f, hf⟩
    rw [hnone, hnone]

/-- A text says a malformed declaration when it starts like one and has none of their forms. -/
theorem ofText_eq_malformed_iff {kind : DeclarationKind} :
    Statement.ofText text = .malformed kind ↔
      kind.Starts text ∧ ∀ f : Form, f.declares?.isSome → ¬ f.Accepts text := by
  constructor
  · intro h
    by_cases haccepts : ∃ f : Form, f.Accepts text
    · obtain ⟨f, hf⟩ := haccepts
      obtain ⟨g, hg⟩ := exists_decides hf
      have hread := hg.recognise_eq
      rw [h] at hread
      obtain rfl := eq_malformed_of_recognise hread
      refine ⟨malformed?_start_iff.mp hread, fun other hkind hother => ?_⟩
      have hread' := (decides_of_declares? hkind hother).recognise_eq
      rw [h] at hread'
      rw [eq_malformed_of_recognise hread'] at hkind
      cases hkind
    · have hother : Statement.ofText text = .other := by
        rw [ofText_eq_findSome?_all, findSome?_eq_none fun f hf => haccepts ⟨f, hf⟩]
        rfl
      rw [hother] at h
      cases h
  · rintro ⟨hstarts, hnone⟩
    have hdecides := decides_of_forall (accepts_malformed_iff.mpr ⟨kind, hstarts⟩) hnone
    have hread := hdecides.recognise_eq
    rw [recognise, malformed?_start_iff.mpr hstarts] at hread
    exact (Option.some.inj hread).symm

end Form

end Grammar

/-- A text has one form at most, apart from that of all declarations, which each text in the form of
a declaration has, and no inclusion or condition. So every order in which that form comes behind
those of declarations gives what the text says. A malformed declaration is said exactly when the
text starts like one and has none of the four forms. -/
theorem Statement.forms_exclusive (text : List Char) :
    (∀ f g : Grammar.Form, f ≠ .malformed → g ≠ .malformed → f.Accepts text → g.Accepts text →
      f = g) ∧
    (∀ f : Grammar.Form, f.declares?.isSome → f.Accepts text →
      Grammar.Form.malformed.Accepts text) ∧
    (∀ f ∈ [Grammar.Form.inclusion, .conditional], f.Accepts text →
      ¬ Grammar.Form.malformed.Accepts text) ∧
    (∀ order : List Grammar.Form, order.Perm Grammar.Form.all →
      order.Pairwise (fun f g => f = .malformed → g.declares? = none) →
        (order.findSome? fun f => f.recognise (Cursor.start text)).getD .other = ofText text) ∧
    ∀ kind : DeclarationKind, ofText text = .malformed kind ↔
      kind.Starts text ∧ ∀ f : Grammar.Form, f.declares?.isSome → ¬ f.Accepts text := by
  refine ⟨fun f g hf hg hft hgt => ?_, fun f hkind hf => ?_, fun f hmem hf hmalformed => ?_,
    fun order hperm hpairwise => Grammar.Form.IsOrder.getD_findSome? ⟨hperm, hpairwise⟩ text,
    fun kind => Grammar.Form.ofText_eq_malformed_iff⟩
  · rcases Grammar.Form.eq_of_accepts hft hgt with heq | ⟨heq, -⟩ | ⟨heq, -⟩
    · exact heq
    · exact absurd heq hf
    · exact absurd heq hg
  · obtain ⟨kind, hkind⟩ := Option.isSome_iff_exists.mp hkind
    exact Grammar.Form.accepts_malformed_iff.mpr
      ⟨kind, Grammar.Form.starts_of_declares? hkind hf⟩
  · have hforms : ∀ f ∈ [Grammar.Form.inclusion, .conditional],
        f ≠ .malformed ∧ f.declares? = none := by decide
    obtain ⟨hne, hnone⟩ := hforms f hmem
    rcases Grammar.Form.eq_of_accepts hf hmalformed with heq | ⟨heq, -⟩ | ⟨-, hkind⟩
    · exact hne heq
    · exact hne heq
    · simp [hnone] at hkind

/-- A variable with its type, tried backwards, an include line, and a variable without a type. -/
theorem Statement.forms_exclusive_of_variable :
    Grammar.Form.malformed.Accepts "private var total int".toList ∧
      ([Grammar.Form.conditional, .variableDecl, .macroHead, .functionHead, .classHead, .malformed,
          .inclusion].findSome? fun f =>
            f.recognise (Cursor.start "private var total int".toList)).getD .other =
        ofText "private var total int".toList ∧
      ¬ Grammar.Form.malformed.Accepts "include util.text".toList ∧
      Grammar.Form.variableDecl.Accepts "private var total int".toList ∧
      ofText "private var total".toList = .malformed .variableDecl := by
  have hvariable : Grammar.Form.variableDecl.Accepts "private var total int".toList := by
    decide +kernel
  obtain ⟨-, hmalformed, -, horder, -⟩ := forms_exclusive "private var total int".toList
  obtain ⟨-, -, hinclusion, -, -⟩ := forms_exclusive "include util.text".toList
  obtain ⟨-, -, -, -, hiff⟩ := forms_exclusive "private var total".toList
  refine ⟨hmalformed .variableDecl rfl hvariable, horder _ (by decide) (by decide),
    hinclusion .inclusion (by decide) (by decide +kernel), hvariable, ?_⟩
  have hmods : Grammar.ModifierRun ("private".toList ++ ([' '] ++ [])) :=
    .cons (by decide) (by decide) (List.all_eq_true.mp rfl) .nil
  have hnone : ∀ f ∈ Grammar.Form.all, f.declares?.isSome →
      ¬ f.Accepts "private var total".toList := by
    decide +kernel
  exact (hiff .variableDecl).mpr ⟨⟨[], _, " total".toList, rfl, by simp, hmods, by decide +kernel⟩,
    fun f => hnone f f.mem_all⟩

end ScriptLint
