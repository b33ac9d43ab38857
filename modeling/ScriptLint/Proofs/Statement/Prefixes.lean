import ScriptLint.Proofs.Statement.Tokens
import ScriptLint.Proofs.Text.Recognise

/-! The start of a declaration: blanks, modifiers, and a word that introduces it. A text starts in
one such way at most, since none of the words is the start of another, and no word goes on with a
blank. -/
namespace ScriptLint

open Text (Cursor)

/-- The code points of the blank characters. -/
def Text.blankCodes : List Nat :=
  [0x09, 0x0A, 0x0B, 0x0C, 0x0D, 0x1C, 0x1D, 0x1E, 0x1F, 0x20, 0x85, 0xA0, 0x1680, 0x2000, 0x2001,
    0x2002, 0x2003, 0x2004, 0x2005, 0x2006, 0x2007, 0x2008, 0x2009, 0x200A, 0x2028, 0x2029, 0x202F,
    0x205F, 0x3000]

/-- No word goes on with a blank. -/
theorem Text.isWordChar_of_isBlank {c : Char} (h : isBlank c = true) : isWordChar c = false := by
  have hcode : c.toNat ∈ blankCodes := by
    simp only [isBlank, Bool.or_eq_true, Bool.and_eq_true, decide_eq_true_eq, beq_iff_eq] at h
    simp only [blankCodes, List.mem_cons, List.not_mem_nil, or_false]
    omega
  have hcodes : ∀ n ∈ blankCodes, isWordChar (Char.ofNat n) = false := by decide +kernel
  simpa [Char.ofNat_toNat] using hcodes c.toNat hcode

namespace Grammar

/-- The words of which one stands behind the blanks and modifiers of a statement, and the modifiers
themselves. A condition starts with the end of the body before it, an alternative, or its own
word. -/
def headWords : List String :=
  modifierWords ++ ["include", "class", "def", "macro", "var", "\x7d", "else", "if"]

/-- None of the words is the start of another. -/
theorem eq_of_prefix {v w : String} {text : List Char} (hv : v ∈ headWords) (hw : w ∈ headWords)
    (hvt : v.toList <+: text) (hwt : w.toList <+: text) : v = w := by
  have hcode : ∀ v ∈ headWords, ∀ w ∈ headWords, v.toList <+: w.toList → v = w := by
    decide +kernel
  rcases List.prefix_or_prefix_of_prefix hvt hwt with h | h
  · exact hcode v hv w hw h
  · exact (hcode w hw v hv h).symm

/-- A text that starts with modifiers and blanks behind each of them. -/
inductive ModifierRun : List Char → Prop where
  /-- There need not be any. -/
  | nil : ModifierRun []
  /-- A modifier, at least one blank, and the others. -/
  | cons {word : String} {blanks mods : List Char} (hword : word ∈ modifierWords)
      (hne : blanks ≠ []) (hblanks : ∀ c ∈ blanks, Text.isBlank c = true)
      (hmods : ModifierRun mods) : ModifierRun (word.toList ++ (blanks ++ mods))

variable {c d : Cursor} {w : String} {text : List Char}

/-- Where another of the words stands there is no modifier. -/
theorem modifier?_eq_none_of_mem (hmem : w ∈ headWords) (hmodifier : w ∉ modifierWords)
    (h : w.toList <+: c.rest) : modifier? c = none := by
  refine List.findSome?_eq_none_iff.mpr fun m hm => Option.bind_eq_none_iff.mpr fun next hnext => ?_
  have heq : m = w :=
    eq_of_prefix (List.mem_append_left _ hm) hmem (Cursor.prefix_of_word? hnext) h
  exact absurd (heq ▸ hm) hmodifier

/-- What is read as modifiers is a run of them. -/
theorem modifierRun_modifiers (c : Cursor) :
    ∃ mods, ModifierRun mods ∧ c.rest = mods ++ (modifiers c).2.rest := by
  induction c using modifiers.induct with
  | case1 c hnone => exact ⟨[], .nil, by rw [modifiers_of_none hnone]; rfl⟩
  | case2 c first next hsome more last hmore ih =>
    obtain ⟨mods, hmods, hrest⟩ := ih
    obtain ⟨word, hword, hread⟩ := List.exists_of_findSome?_eq_some hsome
    obtain ⟨behind, hbehind, hlast⟩ := Option.bind_eq_some_iff.mp hread
    obtain ⟨last', hlast', heq⟩ := Option.map_eq_some_iff.mp hlast
    cases heq
    simp only [Cursor.blanks?, Option.ite_none_left_eq_some, Option.some.injEq] at hlast'
    obtain ⟨hne, rfl⟩ := hlast'
    refine ⟨word.toList ++ (behind.rest.takeWhile Text.isBlank ++ mods), ?_, ?_⟩
    · refine .cons hword (fun hnil => hne ?_) (List.all_eq_true.mp List.all_takeWhile) hmods
      rw [Cursor.run, hnil, List.length_nil]
    · rw [modifiers_of_some hsome, List.append_assoc, List.append_assoc, ← hrest,
        Cursor.skipBlanks, Cursor.rest_advance_run, List.takeWhile_append_dropWhile]
      exact Cursor.rest_of_word? hbehind

/-- No word starts with a blank, so blanks end where one of them starts. -/
theorem head_of_prefix (hmem : w ∈ headWords) (h : w.toList <+: text) :
    text.head?.any Text.isBlank = false := by
  have hwords : ∀ v ∈ headWords, v ≠ "" ∧ v.toList.head?.any Text.isBlank = false := by
    decide +kernel
  obtain ⟨hne, hblank⟩ := hwords w hmem
  obtain ⟨behind, rfl⟩ := h
  cases hw : w.toList with
  | nil => exact absurd (String.toList_eq_nil_iff.mp hw) hne
  | cons x xs => simpa [hw] using hblank

/-- A modifier with blanks behind it is read, up to where the blanks end. -/
theorem modifier?_append (offset : Nat) {blanks : List Char} (hword : w ∈ modifierWords)
    (hne : blanks ≠ []) (hblanks : ∀ x ∈ blanks, Text.isBlank x = true)
    (hend : text.head?.any Text.isBlank = false) :
    ∃ t, modifier? ⟨offset, w.toList ++ (blanks ++ text)⟩ =
      some (t, ⟨offset + w.toList.length + blanks.length, text⟩) := by
  have hread := Cursor.word?_append offset w (blanks ++ text)
  have hbehind := Cursor.blanks?_append (offset + w.toList.length) blanks hblanks hne hend
  cases hmod : modifier? ⟨offset, w.toList ++ (blanks ++ text)⟩ with
  | none =>
    have hnone := List.findSome?_eq_none_iff.mp hmod w hword
    rw [hread, Option.bind_some, hbehind] at hnone
    cases hnone
  | some found =>
    obtain ⟨m, hm, hfound⟩ := List.exists_of_findSome?_eq_some hmod
    obtain ⟨next, hnext, hlast⟩ := Option.bind_eq_some_iff.mp hfound
    obtain rfl : m = w := eq_of_prefix (List.mem_append_left _ hm) (List.mem_append_left _ hword)
      (Cursor.prefix_of_word? hnext) (List.prefix_append _ _)
    rw [hread] at hnext
    cases hnext
    rw [hbehind] at hlast
    cases hlast
    exact ⟨_, rfl⟩

/-- Neither does a run of modifiers in front of one. -/
theorem head_modifierRun_append {mods : List Char} (h : ModifierRun mods) (hmem : w ∈ headWords)
    (hw : w.toList <+: text) : (mods ++ text).head?.any Text.isBlank = false := by
  cases h with
  | nil => exact head_of_prefix hmem hw
  | cons hword _ _ _ =>
    rw [List.append_assoc]
    exact head_of_prefix (List.mem_append_left _ hword) (List.prefix_append _ _)

/-- A run of modifiers is read whole when another of the words stands behind it. -/
theorem rest_modifiers_append {mods : List Char} (h : ModifierRun mods) (offset : Nat)
    (hmem : w ∈ headWords) (hmodifier : w ∉ modifierWords) (hw : w.toList <+: text) :
    (modifiers ⟨offset, mods ++ text⟩).2.rest = text := by
  induction h generalizing offset with
  | nil => rw [List.nil_append, modifiers_of_none (modifier?_eq_none_of_mem hmem hmodifier hw)]
  | @cons word blanks mods hword hne hblanks hmods ih =>
    obtain ⟨t, hread⟩ := modifier?_append offset hword hne hblanks
      (head_modifierRun_append hmods hmem hw)
    rw [List.append_assoc, List.append_assoc, modifiers_of_some hread]
    exact ih _

end Grammar

/-- The text starts like a declaration of the kind: blanks, modifiers, and its word, which ends
there. -/
def DeclarationKind.Starts (kind : DeclarationKind) (text : List Char) : Prop :=
  ∃ blanks mods behind, text = blanks ++ (mods ++ (kind.word.toList ++ behind)) ∧
    (∀ c ∈ blanks, Text.isBlank c = true) ∧ Grammar.ModifierRun mods ∧
    behind.head?.any Text.isWordChar = false

theorem DeclarationKind.mem_all (kind : DeclarationKind) : kind ∈ all := by
  cases kind <;> decide

theorem DeclarationKind.word_injective {a b : DeclarationKind} (h : a.word = b.word) : a = b := by
  have hall : ∀ a ∈ all, ∀ b ∈ all, a.word = b.word → a = b := by decide
  exact hall a a.mem_all b b.mem_all h

namespace Grammar

/-- The word of a declaration is one of the words, and no modifier. -/
theorem word_mem_headWords (kind : DeclarationKind) :
    kind.word ∈ headWords ∧ kind.word ∉ modifierWords := by
  cases kind <;> decide

variable {c : Cursor} {text : List Char}

/-- The kind of declaration that is introduced where the cursor is. -/
theorem find?_word_iff {kind : DeclarationKind} :
    (DeclarationKind.all.find? fun kind =>
        (c.word? kind.word).any fun last => !last.rest.head?.any Text.isWordChar) = some kind ↔
      ∃ behind, c.rest = kind.word.toList ++ behind ∧
        behind.head?.any Text.isWordChar = false := by
  constructor
  · intro hfind
    have hfound := List.find?_some hfind
    obtain ⟨last, hword, hend⟩ := (Option.any_eq_true _ _).mp hfound
    exact ⟨last.rest, Cursor.rest_of_word? hword, by simpa using hend⟩
  · rintro ⟨behind, hrest, hend⟩
    obtain ⟨offset, rest⟩ := c
    obtain rfl : rest = kind.word.toList ++ behind := hrest
    have hread := Cursor.word?_append offset kind.word behind
    cases hfind : DeclarationKind.all.find? fun kind' =>
        ((⟨offset, kind.word.toList ++ behind⟩ : Cursor).word? kind'.word).any
          fun last => !last.rest.head?.any Text.isWordChar with
    | none =>
      have hnone := List.find?_eq_none.mp hfind kind kind.mem_all
      simp [hread, hend] at hnone
    | some found =>
      have hfound := List.find?_some hfind
      obtain ⟨last, hword, -⟩ := (Option.any_eq_true _ _).mp hfound
      have heq : found.word = kind.word :=
        eq_of_prefix (word_mem_headWords found).1 (word_mem_headWords kind).1
          (Cursor.prefix_of_word? hword) (List.prefix_append _ _)
      rw [DeclarationKind.word_injective heq]

/-- A line counts as a declaration when the word of one stands behind its modifiers. -/
theorem malformed?_iff {kind : DeclarationKind} : malformed? c = some (.malformed kind) ↔
    ∃ behind, (modifiers c.skipBlanks).2.rest = kind.word.toList ++ behind ∧
      behind.head?.any Text.isWordChar = false := by
  simp only [malformed?, Option.bind_eq_bind, Option.bind_eq_some_iff, ← find?_word_iff,
    Option.pure_def, Option.some.injEq, Statement.malformed.injEq, exists_eq_right]

/-- A text that starts like a declaration is recognised as one, and no other text is. -/
theorem malformed?_start_iff {kind : DeclarationKind} :
    malformed? (Cursor.start text) = some (.malformed kind) ↔ kind.Starts text := by
  rw [malformed?_iff]
  constructor
  · rintro ⟨behind, hbehind, hend⟩
    obtain ⟨blanks, hblanks, hstart, -⟩ := Cursor.exists_skipBlanks (Cursor.start text)
    obtain ⟨mods, hmods, hrest⟩ := modifierRun_modifiers (Cursor.start text).skipBlanks
    rw [hrest, hbehind] at hstart
    exact ⟨blanks, mods, behind, hstart, hblanks, hmods, hend⟩
  · rintro ⟨blanks, mods, behind, rfl, hblanks, hmods, hend⟩
    obtain ⟨hmem, hmodifier⟩ := word_mem_headWords kind
    have hw : kind.word.toList <+: kind.word.toList ++ behind := List.prefix_append _ _
    have hskip : (Cursor.start (blanks ++ (mods ++ (kind.word.toList ++ behind)))).skipBlanks =
        ⟨0 + blanks.length, mods ++ (kind.word.toList ++ behind)⟩ :=
      Cursor.skipBlanks_append 0 blanks hblanks (head_modifierRun_append hmods hmem hw)
    rw [hskip]
    exact ⟨behind, rest_modifiers_append hmods _ hmem hmodifier hw, hend⟩

end Grammar

end ScriptLint
