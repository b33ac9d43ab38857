import ScriptLint.Text.Cursor

/-! What the small recognisers read when the text starts with what they look for. Each statement
names the rest of the text, which must not go on with more of the same. -/
namespace ScriptLint.Text.Cursor

variable (offset : Nat)

theorem advance_append (read rest : List Char) :
    (⟨offset, read ++ rest⟩ : Cursor).advance read.length = ⟨offset + read.length, rest⟩ := by
  simp [advance]

theorem token_append (read rest : List Char) :
    (⟨offset, read ++ rest⟩ : Cursor).token read.length = ⟨String.ofList read, offset⟩ := by
  simp [token]

theorem run_append {p : Char → Bool} {read rest : List Char} (h : ∀ c ∈ read, p c = true)
    (hrest : rest.head?.any p = false) :
    (⟨offset, read ++ rest⟩ : Cursor).run p = read.length := by
  have hnil : rest.takeWhile p = [] := by
    cases rest with
    | nil => rfl
    | cons c cs =>
      have hc : p c = false := by simpa using hrest
      exact List.takeWhile_cons_of_neg (by simp [hc])
  rw [run, List.takeWhile_append_of_pos h, hnil, List.append_nil]

theorem skipBlanks_append (blanks : List Char) {rest : List Char}
    (h : ∀ c ∈ blanks, isBlank c = true)
    (hrest : rest.head?.any isBlank = false) :
    (⟨offset, blanks ++ rest⟩ : Cursor).skipBlanks = ⟨offset + blanks.length, rest⟩ := by
  rw [skipBlanks, run_append offset h hrest, advance_append]

theorem skipBlanks_of_head {rest : List Char} (hrest : rest.head?.any isBlank = false) :
    (⟨offset, rest⟩ : Cursor).skipBlanks = ⟨offset, rest⟩ := by
  simpa using skipBlanks_append offset [] (by simp) hrest

theorem blanks?_append (blanks : List Char) {rest : List Char}
    (h : ∀ c ∈ blanks, isBlank c = true)
    (hne : blanks ≠ []) (hrest : rest.head?.any isBlank = false) :
    (⟨offset, blanks ++ rest⟩ : Cursor).blanks? = some ⟨offset + blanks.length, rest⟩ := by
  rw [blanks?, run_append offset h hrest, if_neg (by simpa using hne),
    skipBlanks_append offset blanks h hrest]

theorem blanks?_space {rest : List Char} (hrest : rest.head?.any isBlank = false) :
    (⟨offset, ' ' :: rest⟩ : Cursor).blanks? = some ⟨offset + 1, rest⟩ :=
  blanks?_append offset [' '] (List.all_eq_true.mp rfl) (by decide) hrest

theorem word?_append (word : String) (rest : List Char) :
    (⟨offset, word.toList ++ rest⟩ : Cursor).word? word =
      some ⟨offset + word.toList.length, rest⟩ := by
  rw [word?, if_pos (List.isPrefixOf_iff_prefix.mpr (List.prefix_append _ _)),
    ← String.length_toList, advance_append]

/-- A name is read up to the first character that is no part of it. -/
theorem name?_append {name rest : List Char} (hstart : name.head?.any isNameStart = true)
    (hname : ∀ c ∈ name, isNameChar c = true) (hrest : rest.head?.any isNameChar = false) :
    (⟨offset, name ++ rest⟩ : Cursor).name? =
      some (⟨String.ofList name, offset⟩, ⟨offset + name.length, rest⟩) := by
  have hhead : (name ++ rest).head?.any isNameStart = true := by
    cases name with
    | nil => simp at hstart
    | cons c cs => simpa using hstart
  rw [name?, if_pos hhead, run_append offset hname hrest]
  dsimp only
  rw [token_append, advance_append]

theorem upTo?_append {inner : List Char} {stop : Char} (hstop : stop ∉ inner) (rest : List Char) :
    (⟨offset, inner ++ stop :: rest⟩ : Cursor).upTo? stop =
      some (inner, ⟨offset + (inner.length + 1), rest⟩) := by
  have hinner : (inner ++ stop :: rest).takeWhile (· != stop) = inner := by
    have hall : ∀ c ∈ inner, (c != stop) = true := by
      intro c hc
      simpa using fun heq : c = stop => hstop (heq ▸ hc)
    simp [List.takeWhile_append_of_pos hall]
  have hadvance : (⟨offset, inner ++ stop :: rest⟩ : Cursor).advance (inner.length + 1) =
      ⟨offset + (inner.length + 1), rest⟩ := by
    simpa using advance_append offset (inner ++ [stop]) rest
  rw [upTo?, hinner, if_pos (by simp), hadvance]

theorem upTo?_of_notMem {text : List Char} {stop : Char} (h : stop ∉ text) :
    (⟨offset, text⟩ : Cursor).upTo? stop = none := by
  have hall : ∀ c ∈ text, (c != stop) = true := by
    intro c hc
    simpa using fun heq : c = stop => h (heq ▸ hc)
  have hwhole : text.takeWhile (· != stop) = text := by
    rw [← text.append_nil, List.takeWhile_append_of_pos hall, List.takeWhile_nil]
  rw [upTo?, hwhole, if_neg (Nat.lt_irrefl _)]

theorem isSome_upTo?_iff (c : Cursor) (stop : Char) : (c.upTo? stop).isSome ↔ stop ∈ c.rest := by
  obtain ⟨offset, text⟩ := c
  by_cases h : stop ∈ text
  · obtain ⟨inner, rest, rfl, hinner⟩ := List.eq_append_cons_of_mem h
    rw [upTo?_append offset hinner]
    exact iff_of_true rfl h
  · rw [upTo?_of_notMem offset h]
    exact iff_of_false Bool.false_ne_true h

end ScriptLint.Text.Cursor
