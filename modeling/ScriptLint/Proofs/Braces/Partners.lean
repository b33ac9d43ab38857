import ScriptLint.Proofs.Outline.Enclosing

/-! Which braces have partners. A text is balanced if it is made of other characters and of pairs of
braces with balanced texts in them; two braces are partners if the text between them is balanced.
How many braces of a text are left without a partner in it can be counted character by character,
and these numbers are all that is needed to tell whether a text around it leaves some of them so. -/
namespace ScriptLint.Braces

/-- The braces of the text pair up. -/
inductive Balanced : List Char → Prop
  | nil : Balanced []
  | other {c : Char} {text : List Char} (hopen : c ≠ '\x7b') (hclose : c ≠ '\x7d')
      (h : Balanced text) : Balanced (c :: text)
  | pair {inner rest : List Char} (hinner : Balanced inner) (hrest : Balanced rest) :
      Balanced ('\x7b' :: inner ++ '\x7d' :: rest)

/-- A closing brace behind the text has its partner in the text. -/
def HasOpener (text : List Char) : Prop :=
  ∃ front inner, text = front ++ '\x7b' :: inner ∧ Balanced inner

/-- An opening brace in front of the text has its partner in the text. -/
def HasCloser (text : List Char) : Prop :=
  ∃ inner back, text = inner ++ '\x7d' :: back ∧ Balanced inner

/-- A closing brace of the text has no partner, neither in the text nor in what is before it. -/
def LoneCloser (before text : List Char) : Prop :=
  ∃ front back, text = front ++ '\x7d' :: back ∧ ¬HasOpener (before ++ front)

/-- An opening brace of the text has no partner, neither in the text nor in what is behind it. -/
def LoneOpener (text behind : List Char) : Prop :=
  ∃ front back, text = front ++ '\x7b' :: back ∧ ¬HasCloser (back ++ behind)

section Counting

variable {n : Nat} {text : List Char}

/-- Among more than `n` closing braces without a partner there is the one that has `n` of them, and
no opening one without a partner, in front of it. -/
theorem exists_closer (h : n < closers text) :
    ∃ front back, text = front ++ '\x7d' :: back ∧ closers front = n ∧ openers front = 0 := by
  induction text generalizing n with
  | nil => cases h
  | cons c cs ih =>
    by_cases hopen : c = '\x7b'
    · subst hopen
      rw [closers_open] at h
      -- The opening brace takes the first of the closing ones.
      obtain ⟨front, back, rfl, hclosers, hopeners⟩ := ih (n := n + 1) (by omega)
      refine ⟨'\x7b' :: front, back, rfl, ?_, ?_⟩
      · rw [closers_open]
        omega
      · rw [openers_open]
        omega
    by_cases hclose : c = '\x7d'
    · subst hclose
      cases n with
      | zero => exact ⟨[], cs, rfl, rfl, rfl⟩
      | succ n =>
        rw [closers_close] at h
        obtain ⟨front, back, rfl, hclosers, hopeners⟩ := ih (n := n) (by omega)
        refine ⟨'\x7d' :: front, back, rfl, ?_, ?_⟩
        · rw [closers_close, hclosers]
        · rw [openers_close, hopeners]
    · rw [closers_other hopen hclose] at h
      obtain ⟨front, back, rfl, hclosers, hopeners⟩ := ih h
      refine ⟨c :: front, back, rfl, ?_, ?_⟩
      · rw [closers_other hopen hclose, hclosers]
      · rw [openers_other hopen, hopeners]

/-- Among more than `n` opening braces without a partner there is the one that has `n` of them, and
no closing one without a partner, behind it. -/
theorem exists_opener (h : n < openers text) :
    ∃ front back, text = front ++ '\x7b' :: back ∧ closers back = 0 ∧ openers back = n := by
  induction text with
  | nil => cases h
  | cons c cs ih =>
    by_cases hrest : n < openers cs
    · obtain ⟨front, back, rfl, hclosers, hopeners⟩ := ih hrest
      exact ⟨c :: front, back, rfl, hclosers, hopeners⟩
    · by_cases hopen : c = '\x7b'
      · subst hopen
        rw [openers_open] at h
        exact ⟨[], cs, rfl, by omega, by omega⟩
      · rw [openers_other hopen] at h
        exact absurd h hrest

theorem Balanced.closers_eq (h : Balanced text) : closers text = 0 ∧ openers text = 0 := by
  induction h with
  | nil => exact ⟨rfl, rfl⟩
  | other hopen hclose _ ih => rwa [closers_other hopen hclose, openers_other hopen]
  | pair _ _ hinner hrest =>
    rw [List.cons_append, closers_open, openers_open, closers_append, openers_append,
      closers_close, openers_close]
    omega

theorem balanced_iff : Balanced text ↔ closers text = 0 ∧ openers text = 0 := by
  refine ⟨Balanced.closers_eq, ?_⟩
  induction hlength : text.length using Nat.strong_induction_on generalizing text with
  | _ length ih =>
    rintro ⟨hclosers, hopeners⟩
    cases text with
    | nil => exact .nil
    | cons c cs =>
      rw [List.length_cons] at hlength
      by_cases hopen : c = '\x7b'
      · subst hopen
        rw [closers_open] at hclosers
        rw [openers_open] at hopeners
        -- The partner of the brace is the first closing one behind it that has none there.
        have hpartner : 0 < closers cs := by omega
        obtain ⟨inner, rest, rfl, hinner, hinner'⟩ := exists_closer hpartner
        rw [closers_append, closers_close] at hclosers hopeners
        rw [openers_append, openers_close, closers_close] at hopeners
        rw [List.length_append, List.length_cons] at hlength
        have hrest : closers rest = 0 ∧ openers rest = 0 := by omega
        apply Balanced.pair
        · exact ih inner.length (by omega) rfl ⟨hinner, hinner'⟩
        · exact ih rest.length (by omega) rfl hrest
      by_cases hclose : c = '\x7d'
      · subst hclose
        rw [closers_close] at hclosers
        cases hclosers
      · rw [closers_other hopen hclose] at hclosers
        rw [openers_other hopen] at hopeners
        exact .other hopen hclose (ih cs.length (by omega) rfl ⟨hclosers, hopeners⟩)

theorem hasOpener_iff : HasOpener text ↔ 0 < openers text := by
  constructor
  · rintro ⟨front, inner, rfl, hinner⟩
    obtain ⟨hclosers, hopeners⟩ := hinner.closers_eq
    rw [openers_append, openers_open]
    omega
  · intro h
    obtain ⟨front, inner, htext, hinner⟩ := exists_opener h
    exact ⟨front, inner, htext, balanced_iff.mpr hinner⟩

theorem hasCloser_iff : HasCloser text ↔ 0 < closers text := by
  constructor
  · rintro ⟨inner, back, rfl, hinner⟩
    obtain ⟨hclosers, hopeners⟩ := hinner.closers_eq
    rw [closers_append, closers_close]
    omega
  · intro h
    obtain ⟨inner, back, htext, hinner⟩ := exists_closer h
    exact ⟨inner, back, htext, balanced_iff.mpr hinner⟩

end Counting

section Around

variable {before text behind : List Char}

/-- A text has a lone closing brace if its closing braces outnumber the opening ones before it. -/
theorem loneCloser_iff : LoneCloser before text ↔ openers before < closers text := by
  have hopener : ∀ front, ¬HasOpener (before ++ front) ↔
      openers before ≤ closers front ∧ openers front = 0 := by
    intro front
    rw [hasOpener_iff, openers_append]
    omega
  simp only [LoneCloser, hopener]
  constructor
  · rintro ⟨front, back, rfl, hle, hnone⟩
    rw [closers_append, closers_close]
    omega
  · intro h
    obtain ⟨front, back, htext, hclosers, hopeners⟩ := exists_closer h
    exact ⟨front, back, htext, Nat.le_of_eq hclosers.symm, hopeners⟩

/-- A text has a lone opening brace if its opening braces outnumber the closing ones behind it. -/
theorem loneOpener_iff : LoneOpener text behind ↔ closers behind < openers text := by
  have hcloser : ∀ back, ¬HasCloser (back ++ behind) ↔
      closers back = 0 ∧ closers behind ≤ openers back := by
    intro back
    rw [hasCloser_iff, closers_append]
    omega
  simp only [LoneOpener, hcloser]
  constructor
  · rintro ⟨front, back, rfl, hnone, hle⟩
    rw [openers_append, openers_open]
    omega
  · intro h
    obtain ⟨front, back, htext, hclosers, hopeners⟩ := exists_opener h
    exact ⟨front, back, htext, hclosers, Nat.le_of_eq hopeners.symm⟩

instance : Decidable (Balanced text) := decidable_of_iff _ balanced_iff.symm

instance : Decidable (LoneCloser before text) := decidable_of_iff _ loneCloser_iff.symm

instance : Decidable (LoneOpener text behind) := decidable_of_iff _ loneOpener_iff.symm

example : Balanced "a \x7b b \x7b\x7d \x7d c".toList ∧ ¬Balanced "\x7d \x7b".toList := by
  decide +kernel

end Around

end ScriptLint.Braces
