import ScriptLint.Proofs.Line.Plain

/-! Places in a text. A recogniser moves its cursor forward and takes its tokens from the text, so
each token is found again at its offset, and ends within the text. -/
namespace ScriptLint.Text

/-- The cursor stands in the text: what follows it is what follows its offset there. -/
def Cursor.On (c : Cursor) (text : List Char) : Prop :=
  c.rest = text.drop c.offset

/-- The token stands in the text at its offset, and is not empty. -/
structure Token.In (t : Token) (text : List Char) : Prop where
  ne_nil : t.text.toList ≠ []
  found : t.text.toList <+: text.drop t.offset

theorem Token.In.add_le {t : Token} {text : List Char} (h : t.In text) :
    t.offset + t.text.length ≤ text.length := by
  have hle := h.found.length_le
  have hpos := List.length_pos_iff.mpr h.ne_nil
  rw [List.length_drop, String.length_toList] at hle
  rw [String.length_toList] at hpos
  omega

theorem Token.In.length_pos {t : Token} {text : List Char} (h : t.In text) : 0 < t.text.length := by
  rw [← String.length_toList]
  exact List.length_pos_iff.mpr h.ne_nil

/-- A token of a part of the text is one of the text. -/
theorem Token.In.shift {t : Token} {part text : List Char} {offset : Nat} (h : t.In part)
    (hpart : part <+: text.drop offset) : Token.In ⟨t.text, offset + t.offset⟩ text := by
  refine ⟨h.ne_nil, h.found.trans ?_⟩
  rw [← List.drop_drop]
  obtain ⟨behind, hbehind⟩ := hpart
  rw [← hbehind]
  -- A token cannot start behind the part, but that case need not be excluded.
  rcases Nat.le_total t.offset part.length with hle | hge
  · rw [List.drop_append_of_le_length hle]
    exact List.prefix_append _ _
  · rw [List.drop_eq_nil_of_le hge]
    exact List.nil_prefix

namespace Cursor

variable {c d : Cursor} {text : List Char} {t : Token}

/-- The cursor was moved forward. -/
def Reaches (c d : Cursor) : Prop :=
  ∃ n, d = c.advance n

/-- The token was read between the two places. -/
def Reads (c : Cursor) (t : Token) (d : Cursor) : Prop :=
  ∃ n, 0 < n ∧ n ≤ c.rest.length ∧ t = c.token n ∧ d = c.advance n

theorem Reaches.refl (c : Cursor) : c.Reaches c :=
  ⟨0, by simp [advance]⟩

theorem Reaches.trans {e : Cursor} (h : c.Reaches d) (h' : d.Reaches e) : c.Reaches e := by
  obtain ⟨m, rfl⟩ := h
  obtain ⟨n, rfl⟩ := h'
  exact ⟨m + n, by simp [advance, Nat.add_assoc]⟩

theorem Reaches.on (h : c.Reaches d) (hc : c.On text) : d.On text := by
  obtain ⟨n, rfl⟩ := h
  rw [On, advance, show c.rest = text.drop c.offset from hc, List.drop_drop]

theorem Reaches.offset_le (h : c.Reaches d) : c.offset ≤ d.offset := by
  obtain ⟨n, rfl⟩ := h
  exact Nat.le_add_right _ _

theorem Reads.reaches (h : c.Reads t d) : c.Reaches d := by
  obtain ⟨n, -, -, -, rfl⟩ := h
  exact ⟨n, rfl⟩

theorem Reads.offset_eq (h : c.Reads t d) : t.offset = c.offset := by
  obtain ⟨n, -, -, rfl, -⟩ := h
  rfl

theorem Reads.token_in (h : c.Reads t d) (hc : c.On text) : t.In text := by
  obtain ⟨n, hpos, hle, rfl, -⟩ := h
  have htext : (c.token n).text.toList = c.rest.take n := String.toList_ofList
  have hrest : c.rest = text.drop c.offset := hc
  refine ⟨?_, ?_⟩
  · rw [htext, ← List.length_pos_iff, List.length_take]
    omega
  · rw [htext, hrest]
    exact List.take_prefix n _

/-- What is read goes from one place to the other. -/
theorem Reads.offset_add_length (h : c.Reads t d) : c.offset + t.text.length = d.offset := by
  obtain ⟨n, -, hle, rfl, rfl⟩ := h
  have hlength : (c.token n).text.length = n := by
    rw [token, ← String.length_toList, String.toList_ofList, List.length_take]
    omega
  rw [hlength]
  rfl

theorem Reads.length_pos (h : c.Reads t d) : 0 < t.text.length := by
  have hlength := h.offset_add_length
  obtain ⟨n, hpos, -, -, rfl⟩ := h
  have hoffset : (c.advance n).offset = c.offset + n := rfl
  omega

theorem Reads.rest_eq (h : c.Reads t d) : c.rest = t.text.toList ++ d.rest := by
  obtain ⟨n, -, -, rfl, rfl⟩ := h
  rw [token, String.toList_ofList]
  exact (List.take_append_drop n c.rest).symm

/-- What is read in two steps is one token. -/
theorem Reads.append {t' : Token} {e : Cursor} (h : c.Reads t d) (h' : d.Reads t' e) :
    c.Reads (c.token (e.offset - c.offset)) e := by
  obtain ⟨m, hm, -, -, rfl⟩ := h
  obtain ⟨n, hn, hle, -, rfl⟩ := h'
  rw [length_rest_advance] at hle
  have hoffset : ((c.advance m).advance n).offset - c.offset = m + n := by
    simp only [advance]
    omega
  exact ⟨m + n, by omega, by omega, by rw [hoffset], by simp [advance, Nat.add_assoc]⟩

theorem on_start (text : List Char) : (start text).On text := rfl

section Runs

variable {p : Char → Bool}

/-- What a run reads satisfies the condition of the run. -/
theorem of_mem_token_run {x : Char} (h : x ∈ (c.token (c.run p)).text.toList) : p x = true := by
  have htake : c.rest.take (c.run p) = c.rest.takeWhile p :=
    (List.prefix_iff_eq_take.mp (List.takeWhile_prefix p)).symm
  rw [token, String.toList_ofList, htake] at h
  exact List.all_eq_true.mp List.all_takeWhile x h

theorem rest_advance_run (c : Cursor) (p : Char → Bool) :
    (c.advance (c.run p)).rest = c.rest.dropWhile p := by
  have hsplit : c.rest.drop (c.run p) =
      (c.rest.takeWhile p ++ c.rest.dropWhile p).drop (c.rest.takeWhile p).length := by
    rw [List.takeWhile_append_dropWhile]
    rfl
  rwa [List.drop_left] at hsplit

/-- A run goes as far as it can. -/
theorem head_advance_run (c : Cursor) (p : Char → Bool) :
    (c.advance (c.run p)).rest.head?.any p = false := by
  rw [rest_advance_run]
  have hhead := List.head?_dropWhile_not p c.rest
  cases hx : (c.rest.dropWhile p).head? with
  | none => rfl
  | some x => simpa [hx] using hhead

end Runs

section Recognisers

variable {w : String}

theorem reaches_skipBlanks (c : Cursor) : c.Reaches c.skipBlanks :=
  ⟨_, rfl⟩

theorem exists_skipBlanks (c : Cursor) :
    ∃ blanks, (∀ x ∈ blanks, isBlank x = true) ∧ c.rest = blanks ++ c.skipBlanks.rest ∧
      c.skipBlanks.offset = c.offset + blanks.length := by
  refine ⟨c.rest.takeWhile isBlank, ?_, ?_, rfl⟩
  · exact fun x hx => List.all_eq_true.mp List.all_takeWhile x hx
  · rw [skipBlanks, rest_advance_run, List.takeWhile_append_dropWhile]

theorem prefix_of_word? (h : c.word? w = some d) : w.toList <+: c.rest := by
  simp only [word?, Option.ite_none_right_eq_some] at h
  exact List.isPrefixOf_iff_prefix.mp h.1

theorem eq_advance_of_word? (h : c.word? w = some d) : d = c.advance w.length := by
  simp only [word?, Option.ite_none_right_eq_some, Option.some.injEq] at h
  exact h.2.symm

theorem reaches_of_word? (h : c.word? w = some d) : c.Reaches d :=
  ⟨_, eq_advance_of_word? h⟩

theorem rest_of_word? (h : c.word? w = some d) : c.rest = w.toList ++ d.rest := by
  rw [eq_advance_of_word? h, advance, ← String.length_toList]
  exact List.prefix_iff_eq_append.mp (prefix_of_word? h) |>.symm

theorem reaches_of_skipBlanks_word? (h : c.skipBlanks.word? w = some d) : c.Reaches d :=
  (reaches_skipBlanks c).trans (reaches_of_word? h)

theorem reaches_of_blanks? (h : c.blanks? = some d) : c.Reaches d := by
  simp only [blanks?, Option.ite_none_left_eq_some, Option.some.injEq] at h
  rw [← h.2]
  exact reaches_skipBlanks c

/-- A word with blanks around it was read, as at the start of a declaration. -/
theorem reaches_of_keyword {e : Cursor} (hword : c.skipBlanks.word? w = some d)
    (hblanks : d.blanks? = some e) : c.Reaches e :=
  (reaches_of_skipBlanks_word? hword).trans (reaches_of_blanks? hblanks)

/-- A word that was looked for can be taken as a token. -/
theorem reads_of_word? (h : c.word? w = some d) (hw : w ≠ "") :
    c.Reads (c.token w.length) d := by
  have hle := (prefix_of_word? h).length_le
  have hpos : 0 < w.length := Nat.pos_of_ne_zero fun h0 => hw (String.length_eq_zero_iff.mp h0)
  rw [String.length_toList] at hle
  exact ⟨w.length, hpos, hle, rfl, eq_advance_of_word? h⟩

theorem prefix_of_upTo? {stop : Char} {inner : List Char} (h : c.upTo? stop = some (inner, d)) :
    inner <+: c.rest ∧ c.Reaches d := by
  simp only [upTo?, Option.ite_none_right_eq_some, Option.some.injEq, Prod.mk.injEq] at h
  obtain ⟨-, rfl, rfl⟩ := h
  exact ⟨List.takeWhile_prefix _, _, rfl⟩

theorem run_le (c : Cursor) (p : Char → Bool) : c.run p ≤ c.rest.length :=
  (List.takeWhile_sublist p).length_le

theorem run_pos {p : Char → Bool} (h : c.rest.head?.any p = true) : 0 < c.run p := by
  unfold run
  cases hrest : c.rest with
  | nil => simp [hrest] at h
  | cons x xs =>
    have hx : p x = true := by simpa [hrest] using h
    simp [List.takeWhile_cons_of_pos hx]

theorem reads_of_name? (h : c.name? = some (t, d)) : c.Reads t d := by
  simp only [name?, Option.ite_none_right_eq_some, Option.some.injEq, Prod.mk.injEq] at h
  obtain ⟨hstart, rfl, rfl⟩ := h
  -- What a name may start with it may go on with, so at least one character is read.
  have hhead : c.rest.head?.any isNameChar = true := by
    cases hrest : c.rest.head? with
    | none => simp [hrest] at hstart
    | some x => simpa using isNameChar_of_isNameStart (by simpa [hrest] using hstart)
  exact ⟨_, run_pos hhead, run_le c _, rfl, rfl⟩

theorem reads_of_typeName? (h : c.typeName? = some (t, d)) : c.Reads t d := by
  obtain ⟨⟨name, next⟩, hname, hmark⟩ := Option.bind_eq_some_iff.mp h
  have hread := reads_of_name? hname
  dsimp only at hmark
  cases hword : next.word? "[]" with
  | none =>
    rw [hword] at hmark
    cases hmark
    exact hread
  | some last =>
    rw [hword] at hmark
    cases hmark
    exact hread.append (reads_of_word? hword (by decide))

end Recognisers

end Cursor

/-- The place at an offset of a text. -/
def cursorAt (text : List Char) (offset : Nat) : Cursor :=
  ⟨offset, text.drop offset⟩

section Occurrences

variable {α : Type} {recognise : Cursor → Option (α × Cursor)} {text : List Char}

/-- What a search through the text finds from an offset on. Behind what was read it goes on where
the recogniser stopped, but always by a character at least. -/
inductive Search (recognise : Cursor → Option (α × Cursor)) (text : List Char) :
    Nat → List (Nat × α) → Prop
  | done {pos : Nat} (h : text.length ≤ pos) : Search recognise text pos []
  | miss {pos : Nat} {found : List (Nat × α)} (h : recognise (cursorAt text pos) = none)
      (rest : Search recognise text (pos + 1) found) : Search recognise text pos found
  | hit {pos : Nat} {read : α} {next : Cursor} {found : List (Nat × α)}
      (h : recognise (cursorAt text pos) = some (read, next))
      (rest : Search recognise text (max (pos + 1) next.offset) found) :
      Search recognise text pos ((pos, read) :: found)

theorem search_occurrences (recognise : Cursor → Option (α × Cursor)) (text : List Char) :
    Search recognise text 0 (occurrences recognise text) := by
  -- Whatever is skipped, the place in the text goes on by one for each character.
  have hgo : ∀ (rest : List Char) (pos skip : Nat), rest = text.drop pos →
      Search recognise text (pos + skip) (occurrences.go recognise pos skip rest) := by
    intro rest
    induction rest with
    | nil =>
      intro pos skip hrest
      have hlength := List.drop_eq_nil_iff.mp hrest.symm
      exact .done (by omega)
    | cons x rest ih =>
      intro pos skip hrest
      have hnext : rest = text.drop (pos + 1) := by
        rw [← List.drop_drop, ← hrest]
        rfl
      have hat : cursorAt text pos = ⟨pos, x :: rest⟩ := by rw [cursorAt, hrest]
      cases skip with
      | succ skip =>
        rw [← Nat.add_assoc, Nat.add_right_comm]
        exact ih (pos + 1) skip hnext
      | zero =>
        rw [occurrences.go]
        cases hread : recognise ⟨pos, x :: rest⟩ with
        | none => exact .miss (hat ▸ hread) (ih (pos + 1) 0 hnext)
        | some read =>
          refine .hit (hat ▸ hread) ?_
          rw [show max (pos + 1) read.2.offset = pos + 1 + (read.2.offset - pos - 1) by omega]
          exact ih (pos + 1) _ hnext
  exact hgo text 0 0 rfl

theorem Search.exists_of_mem {pos : Nat} {all : List (Nat × α)} (h : Search recognise text pos all)
    {found : Nat × α} (hmem : found ∈ all) :
    pos ≤ found.1 ∧ ∃ next, recognise (cursorAt text found.1) = some (found.2, next) := by
  induction h with
  | done _ => exact (List.not_mem_nil hmem).elim
  | miss _ _ ih =>
    obtain ⟨hle, hread⟩ := ih hmem
    exact ⟨Nat.le_of_succ_le hle, hread⟩
  | hit hread _ ih =>
    rcases List.mem_cons.mp hmem with rfl | hmem
    · exact ⟨Nat.le_refl _, _, hread⟩
    · obtain ⟨hle, hread⟩ := ih hmem
      exact ⟨by omega, hread⟩

theorem exists_of_mem_occurrences_at {found : Nat × α} (h : found ∈ occurrences recognise text) :
    ∃ next, recognise (cursorAt text found.1) = some (found.2, next) :=
  ((search_occurrences recognise text).exists_of_mem h).2

/-- What is found in a text was recognised at its place there. -/
theorem exists_of_mem_occurrences {found : Nat × α} (h : found ∈ occurrences recognise text) :
    ∃ c next : Cursor, c.On text ∧ c.offset = found.1 ∧ recognise c = some (found.2, next) := by
  obtain ⟨next, hread⟩ := exists_of_mem_occurrences_at h
  exact ⟨cursorAt text found.1, next, rfl, rfl, hread⟩

theorem Search.pairwise {pos : Nat} {all : List (Nat × α)} (h : Search recognise text pos all) :
    all.Pairwise fun a b => a.1 < b.1 ∧
      ∀ next, recognise (cursorAt text a.1) = some (a.2, next) → next.offset ≤ b.1 := by
  induction h with
  | done _ => exact List.Pairwise.nil
  | miss _ _ ih => exact ih
  | hit hread hrest ih =>
    refine List.pairwise_cons.mpr ⟨fun found hmem => ?_, ih⟩
    -- The search goes on where the recogniser stopped.
    have hbehind := (hrest.exists_of_mem hmem).1
    refine ⟨by omega, fun next hsame => ?_⟩
    rw [hread] at hsame
    cases hsame
    omega

/-- What is found is found from left to right, and each time behind what was read before. -/
theorem pairwise_occurrences_apart (recognise : Cursor → Option (α × Cursor)) (text : List Char) :
    (occurrences recognise text).Pairwise fun a b => a.1 < b.1 ∧
      ∀ next, recognise (cursorAt text a.1) = some (a.2, next) → next.offset ≤ b.1 :=
  (search_occurrences recognise text).pairwise

/-- What is found ends before all that is found further to the right. -/
theorem le_of_mem_occurrences {a b : Nat × α} (ha : a ∈ occurrences recognise text)
    (hb : b ∈ occurrences recognise text) (hlt : a.1 < b.1) {next : Cursor}
    (hread : recognise (cursorAt text a.1) = some (a.2, next)) : next.offset ≤ b.1 := by
  have hpairs := List.pairwise_iff_getElem.mp (pairwise_occurrences_apart recognise text)
  obtain ⟨i, hi, rfl⟩ := List.mem_iff_getElem.mp ha
  obtain ⟨j, hj, rfl⟩ := List.mem_iff_getElem.mp hb
  rcases Nat.lt_trichotomy i j with hij | rfl | hji
  · exact (hpairs i j hi hj hij).2 next hread
  · exact absurd hlt (Nat.lt_irrefl _)
  · have hback := (hpairs j i hj hi hji).1
    omega

/-- What is found lies one behind the other: each place within what was read comes before those of
everything that is found later. -/
theorem pairwise_occurrences (place : α → Nat)
    (h : ∀ c found next, recognise c = some (found, next) →
      c.offset ≤ place found ∧ place found < next.offset) (text : List Char) :
    (occurrences recognise text).Pairwise fun a b => place a.2 < place b.2 := by
  refine (pairwise_occurrences_apart recognise text).imp_of_mem fun {a b} ha hb hapart => ?_
  obtain ⟨next, hread⟩ := exists_of_mem_occurrences_at ha
  obtain ⟨later, hlater⟩ := exists_of_mem_occurrences_at hb
  have hend := (h _ _ _ hread).2
  have hbehind := hapart.2 next hread
  have hstart : b.1 ≤ place b.2 := (h _ _ _ hlater).1
  omega

/-- Where something can be read it is found, unless the place lies within what was found before. -/
theorem Search.mem_or_inside {pos : Nat} {all : List (Nat × α)}
    (hsearch : Search recognise text pos all) {offset : Nat} (hpos : pos ≤ offset)
    (hoffset : offset < text.length) {found : α} {next : Cursor}
    (h : recognise (cursorAt text offset) = some (found, next)) :
    (offset, found) ∈ all ∨ ∃ earlier ∈ all, earlier.1 < offset ∧
      ∃ last, recognise (cursorAt text earlier.1) = some (earlier.2, last) ∧
        offset < last.offset := by
  induction hsearch with
  | done hdone => omega
  | @miss pos all hnone _ ih =>
    have hne : pos ≠ offset := by
      rintro rfl
      rw [h] at hnone
      cases hnone
    exact ih (by omega)
  | @hit pos read last all hread _ ih =>
    rcases Nat.lt_or_eq_of_le hpos with hlt | rfl
    · by_cases hinside : offset < last.offset
      · exact .inr ⟨_, List.mem_cons_self, hlt, last, hread, hinside⟩
      · rcases ih (by omega) with hmem | ⟨earlier, hmem, hearlier⟩
        · exact .inl (List.mem_cons_of_mem _ hmem)
        · exact .inr ⟨earlier, List.mem_cons_of_mem _ hmem, hearlier⟩
    · rw [h] at hread
      cases hread
      exact .inl List.mem_cons_self

theorem mem_occurrences_or_inside {offset : Nat} {found : α} {next : Cursor}
    (hoffset : offset < text.length)
    (h : recognise (cursorAt text offset) = some (found, next)) :
    (offset, found) ∈ occurrences recognise text ∨
      ∃ earlier ∈ occurrences recognise text, earlier.1 < offset ∧
        ∃ last, recognise (cursorAt text earlier.1) = some (earlier.2, last) ∧
          offset < last.offset :=
  (search_occurrences recognise text).mem_or_inside (Nat.zero_le _) hoffset h

end Occurrences

end ScriptLint.Text
