import ScriptLint.Proofs.Subject.Marks
import ScriptLint.Proofs.Text.Recognise

/-! Where names are called. A call site is an identifier with an opening bracket behind it, taken as
long as it goes. The search for calls finds these and no others, though it only ever looks to the
right; and a word that the search for words takes for the name of a call is one of them, though it
is cut out of the text by other characters. -/
namespace ScriptLint

open Text (Cursor Token cursorAt)

/-- The word starts like a name and goes on like one. -/
structure Text.IsIdentifier (word : String) : Prop where
  start : word.toList.head?.any isNameStart = true
  isName : IsName word

namespace References

/-- The token stands in the text, and an opening bracket behind it, blanks aside. -/
def OpensCall (text : List Char) (name : Token) : Prop :=
  ∃ blanks behind, text.drop name.offset = name.text.toList ++ (blanks ++ '(' :: behind) ∧
    ∀ c ∈ blanks, Text.isBlank c = true

/-- The name is called at its place in the text. It is all of the name: no longer identifier ends
where it ends. -/
structure CallSite (text : List Char) (name : Token) : Prop where
  identifier : Text.IsIdentifier name.text
  opens : OpensCall text name
  longest : ∀ longer : Token, Text.IsIdentifier longer.text →
    longer.text.toList <+: text.drop longer.offset →
    longer.offset + longer.text.length = name.offset + name.text.length →
    name.offset ≤ longer.offset

section Calls

variable {text blanks : List Char} {name : Token}

theorem isNameChar_head_of_blanks (behind : List Char)
    (hblanks : ∀ c ∈ blanks, Text.isBlank c = true) :
    (blanks ++ '(' :: behind).head?.any Text.isNameChar = false := by
  cases blanks with
  | nil => rfl
  | cons c blanks =>
    have hc : Text.isBlank c = true := hblanks c List.mem_cons_self
    cases hname : Text.isNameChar c with
    | false => exact hname
    | true => exact absurd (Text.isBlank_of_isNameChar hname) (by simp [hc])

/-- A call is read where an identifier has a bracket behind it, up to that bracket. -/
theorem call?_eq_some_iff {offset : Nat} {next : Cursor} :
    call? (cursorAt text offset) = some (name, next) ↔
      name.offset = offset ∧ Text.IsIdentifier name.text ∧
        ∃ blanks behind, text.drop offset = name.text.toList ++ (blanks ++ '(' :: behind) ∧
          (∀ c ∈ blanks, Text.isBlank c = true) ∧
          next = ⟨offset + name.text.length + blanks.length + 1, behind⟩ := by
  constructor
  · intro h
    simp only [call?, Option.bind_eq_bind, Option.bind_eq_some_iff] at h
    obtain ⟨⟨token, c₁⟩, hname, last, hword, heq⟩ := h
    cases heq
    have hreads := Cursor.reads_of_name? hname
    have hrest : text.drop offset = token.text.toList ++ c₁.rest := hreads.rest_eq
    have hisName := Cursor.isName_of_name? hname
    obtain ⟨blanks, hblanks, hskip, hoffset⟩ := Cursor.exists_skipBlanks c₁
    obtain ⟨behind, hbehind⟩ := Cursor.prefix_of_word? hword
    have hnext : next = ⟨c₁.skipBlanks.offset + 1, behind⟩ := by
      rw [Cursor.eq_advance_of_word? hword, Cursor.advance, ← hbehind]
      rfl
    refine ⟨hreads.offset_eq, ⟨?_, hisName⟩, blanks, behind, ?_, hblanks, ?_⟩
    · simp only [Cursor.name?, Option.ite_none_right_eq_some] at hname
      have hstart : (text.drop offset).head?.any Text.isNameStart = true := hname.1
      rw [hrest] at hstart
      -- The name is not empty, so its first character is the first that was read.
      cases hchars : token.text.toList with
      | nil => exact absurd (String.toList_eq_nil_iff.mp hchars) hisName.1
      | cons c cs => rwa [hchars] at hstart
    · rw [hrest, hskip, ← hbehind]
      rfl
    · rw [hnext, hoffset, ← hreads.offset_add_length]
      rfl
  · rintro ⟨rfl, hname, blanks, behind, hsplit, hblanks, rfl⟩
    have hopen : ('(' :: behind).head?.any Text.isBlank = false := rfl
    have hread : (cursorAt text name.offset).name? =
        some (name, ⟨name.offset + name.text.length, blanks ++ '(' :: behind⟩) := by
      rw [cursorAt, hsplit, Cursor.name?_append _ hname.start hname.isName.2
        (isNameChar_head_of_blanks behind hblanks), String.ofList_toList, String.length_toList]
    have hword := Cursor.word?_append (name.offset + name.text.length + blanks.length) "(" behind
    simp only [call?, hread, Option.bind_eq_bind, Option.bind_some,
      Cursor.skipBlanks_append _ _ hblanks hopen]
    exact congrArg (fun c : Option Cursor => c.bind fun c => some (name, c)) hword

theorem OpensCall.offset_lt (h : OpensCall text name) : name.offset < text.length := by
  obtain ⟨blanks, behind, hsplit, -⟩ := h
  refine Nat.lt_of_not_le fun hle => ?_
  rw [List.drop_eq_nil_of_le hle] at hsplit
  simp at hsplit

theorem OpensCall.exists_call? (h : OpensCall text name) (hname : Text.IsIdentifier name.text) :
    ∃ next, call? (cursorAt text name.offset) = some (name, next) := by
  obtain ⟨blanks, behind, hsplit, hblanks⟩ := h
  exact ⟨_, call?_eq_some_iff.mpr ⟨rfl, hname, blanks, behind, hsplit, hblanks, rfl⟩⟩

theorem end_lt_of_call? {offset : Nat} {next : Cursor}
    (h : call? (cursorAt text offset) = some (name, next)) :
    name.offset + name.text.length < next.offset := by
  obtain ⟨rfl, -, blanks, behind, -, -, rfl⟩ := call?_eq_some_iff.mp h
  show name.offset + name.text.length < name.offset + name.text.length + blanks.length + 1
  omega

/-- Whether a bracket follows depends only on where the token ends. -/
theorem opensCall_iff (hfound : name.text.toList <+: text.drop name.offset) :
    OpensCall text name ↔
      (Text.trimStart (text.drop (name.offset + name.text.length))).head? = some '(' := by
  have hsplit : text.drop name.offset =
      name.text.toList ++ text.drop (name.offset + name.text.length) := by
    obtain ⟨rest, hrest⟩ := hfound
    rw [← List.drop_drop, ← hrest, ← String.length_toList, List.drop_left]
  constructor
  · rintro ⟨blanks, behind, hopens, hblanks⟩
    rw [hsplit, List.append_cancel_left_eq] at hopens
    rw [hopens, Text.trimStart, List.dropWhile_append_of_pos hblanks]
    rfl
  · intro hhead
    obtain ⟨behind, hbehind⟩ := List.head?_eq_some_iff.mp hhead
    refine ⟨(text.drop (name.offset + name.text.length)).takeWhile Text.isBlank, behind, ?_, ?_⟩
    · rw [hsplit, ← hbehind, Text.trimStart, List.takeWhile_append_dropWhile]
    · exact fun c hc => List.all_eq_true.mp List.all_takeWhile c hc

/-- A name within a call that was read ends where the name of that call ends. -/
theorem end_eq_of_inside {earlier : Token} {last : Cursor}
    (hread : call? (cursorAt text earlier.offset) = some (earlier, last))
    (hname : Text.IsIdentifier name.text) (hopens : OpensCall text name)
    (hlt : earlier.offset < name.offset) (hinside : name.offset < last.offset) :
    earlier.offset + earlier.text.length = name.offset + name.text.length := by
  obtain ⟨-, hearlier, blanks, behind, hsplit, hblanks, rfl⟩ := call?_eq_some_iff.mp hread
  obtain ⟨blanks', behind', hsplit', hblanks'⟩ := hopens
  have hshift : text.drop name.offset =
      (earlier.text.toList ++ (blanks ++ '(' :: behind)).drop (name.offset - earlier.offset) := by
    rw [← hsplit, List.drop_drop, Nat.add_sub_cancel' (Nat.le_of_lt hlt)]
  have hlength : earlier.text.toList.length = earlier.text.length := String.length_toList
  have hlength' : name.text.toList.length = name.text.length := String.length_toList
  have hinside : name.offset < earlier.offset + earlier.text.length + blanks.length + 1 := hinside
  by_cases hwithin : name.offset - earlier.offset < earlier.text.toList.length
  · -- What is left of the earlier name is the name, since both go as far as they can.
    rw [List.drop_append_of_le_length (Nat.le_of_lt hwithin), hsplit'] at hshift
    have hrun := Cursor.run_append 0 hname.isName.2
      (isNameChar_head_of_blanks behind' hblanks')
    have hleft : ∀ c ∈ earlier.text.toList.drop (name.offset - earlier.offset),
        Text.isNameChar c = true := fun c hc => hearlier.isName.2 c (List.mem_of_mem_drop hc)
    have hrun' := Cursor.run_append 0 hleft (isNameChar_head_of_blanks behind hblanks)
    rw [hshift, hrun', List.length_drop] at hrun
    omega
  · -- Behind the name there are blanks and a bracket, with which no name starts.
    have hle : name.offset - earlier.offset - earlier.text.toList.length ≤ blanks.length := by omega
    have hnil : earlier.text.toList.drop (name.offset - earlier.offset) = [] :=
      List.drop_eq_nil_of_le (Nat.le_of_not_lt hwithin)
    rw [List.drop_append, hnil, List.nil_append, List.drop_append_of_le_length hle, hsplit']
      at hshift
    have hleft : ∀ c ∈ blanks.drop (name.offset - earlier.offset - earlier.text.toList.length),
        Text.isBlank c = true := fun c hc => hblanks c (List.mem_of_mem_drop hc)
    have hnot := isNameChar_head_of_blanks behind hleft
    rw [← hshift] at hnot
    cases hchars : name.text.toList with
    | nil => exact absurd (String.toList_eq_nil_iff.mp hchars) hname.isName.1
    | cons c cs =>
      have hc : Text.isNameChar c = true := hname.isName.2 c (by simp [hchars])
      rw [hchars] at hnot
      simp [hc] at hnot

theorem CallSite.mem_occurrences (h : CallSite text name) :
    (name.offset, name) ∈ Text.occurrences call? text := by
  obtain ⟨next, hread⟩ := h.opens.exists_call? h.identifier
  rcases Text.mem_occurrences_or_inside h.opens.offset_lt hread with
    hmem | ⟨⟨offset, earlier⟩, hmem, hlt, last, hearlier, hinside⟩
  · exact hmem
  · -- The earlier name would be a longer one that ends at the same place.
    obtain ⟨hoffset, hname, blanks, behind, hsplit, -⟩ := call?_eq_some_iff.mp hearlier
    dsimp only at hoffset hname hsplit hlt hearlier
    subst hoffset
    have hend := end_eq_of_inside hearlier h.identifier h.opens hlt hinside
    have hfound : earlier.text.toList <+: text.drop earlier.offset := ⟨_, hsplit.symm⟩
    have hle := h.longest earlier hname hfound hend
    omega

/-- The calls that are found are the call sites of the text. -/
theorem mem_occurrences_call?_iff {found : Nat × Token} :
    found ∈ Text.occurrences call? text ↔
      found.1 = found.2.offset ∧ CallSite text found.2 := by
  constructor
  · intro hmem
    obtain ⟨next, hread⟩ := Text.exists_of_mem_occurrences_at hmem
    obtain ⟨offset, name⟩ := found
    obtain ⟨hoffset, hname, blanks, behind, hsplit, hblanks, hnext⟩ := call?_eq_some_iff.mp hread
    dsimp only at hoffset hname hsplit hnext hread ⊢
    subst hoffset
    refine ⟨rfl, hname, ⟨blanks, behind, hsplit, hblanks⟩, fun longer hlonger hfound hend => ?_⟩
    refine Nat.le_of_not_lt fun hlt => ?_
    -- A longer identifier opens a call as well, and that call reaches behind the one found.
    have hopens : OpensCall text longer := by
      rw [opensCall_iff hfound, hend]
      exact (opensCall_iff ⟨_, hsplit.symm⟩).mp ⟨blanks, behind, hsplit, hblanks⟩
    obtain ⟨last, hlast⟩ := hopens.exists_call? hlonger
    rcases Text.mem_occurrences_or_inside hopens.offset_lt hlast with
      hfirst | ⟨⟨offset, first⟩, hfirst, hbefore, beyond, hbeyond, hinside⟩
    · have hle := Text.le_of_mem_occurrences hfirst hmem hlt hlast
      have hreach := end_lt_of_call? hlast
      dsimp only at hle
      omega
    · obtain ⟨hoffset, -⟩ := call?_eq_some_iff.mp hbeyond
      dsimp only at hoffset hbefore hbeyond
      subst hoffset
      have hsame := end_eq_of_inside hbeyond hlonger hopens hbefore hinside
      have hle := Text.le_of_mem_occurrences hfirst hmem (Nat.lt_trans hbefore hlt) hbeyond
      have hreach := end_lt_of_call? hbeyond
      dsimp only at hle
      omega
  · rintro ⟨hoffset, hsite⟩
    obtain ⟨offset, name⟩ := found
    dsimp only at hoffset hsite
    rw [hoffset]
    exact hsite.mem_occurrences

end Calls

/-- A word that looks like a variable and has an opening bracket behind it. The search for words
finds it and passes over it. -/
structure SkippedWord (text : List Char) (word : Token) : Prop where
  found : ∃ offset, (offset, word) ∈ Text.occurrences word? text
  lowercase : isVariableWord word.text = true
  bracket : (Text.trimStart (text.drop (word.offset + word.text.length))).head? = some '('

section Words

variable {text : List Char} {word : Token}

theorem breaksWord_of_isNameChar {c : Char} (h : Text.isNameChar c = true) :
    breaksWord c = false := by
  have hsigns : (".()\x7b\x7d[],;=+-*/%<>!&|^~".toList.all fun x => !Text.isNameChar x) = true := by
    decide
  unfold breaksWord
  rw [Text.isBlank_of_isNameChar h, Bool.false_or, List.contains_eq_mem]
  apply decide_eq_false
  intro hmem
  have hsign := List.all_eq_true.mp hsigns c hmem
  simp [h] at hsign

theorem isIdentifier_of_isVariableWord {name : String} (h : isVariableWord name = true) :
    Text.IsIdentifier name := by
  unfold isVariableWord at h
  cases hchars : name.toList with
  | nil => simp [hchars] at h
  | cons c cs =>
    simp only [hchars, Bool.and_eq_true, List.all_eq_true] at h
    have hstart : Text.isNameStart c = true := by
      have halpha : c.isAlpha = (c.isUpper || c.isLower) := rfl
      have hc := h.1
      simp only [Text.isNameStart, halpha, Bool.or_eq_true] at hc ⊢
      exact hc.imp_left Or.inr
    refine ⟨by simpa [hchars] using hstart, fun hempty => by simp [hempty] at hchars, ?_⟩
    intro x hx
    rw [hchars] at hx
    rcases List.mem_cons.mp hx with rfl | hx
    · exact Text.isNameChar_of_isNameStart hstart
    · exact h.2 x hx

/-- Small letters and the underscore have no upper-case letters among them. -/
theorem isUppercase_of_isVariableWord {name : String} (h : isVariableWord name = true) :
    name.toList.head?.any Text.isUppercase = false := by
  have hruns : ∀ r ∈ Text.uppercaseRuns, r.last ≤ 90 ∨ 192 ≤ r.first := by
    decide +kernel
  unfold isVariableWord at h
  cases hchars : name.toList with
  | nil => rfl
  | cons c cs =>
    simp only [hchars, Bool.and_eq_true, Bool.or_eq_true, beq_iff_eq] at h
    have hc : 90 < c.toNat ∧ c.toNat < 192 := by
      rcases h.1 with hlower | rfl
      · have hchar : c.isLower = (decide (c.val ≥ 'a'.val) && decide (c.val ≤ 'z'.val)) := rfl
        simp only [hchar, Bool.and_eq_true, decide_eq_true_eq, ge_iff_le,
          UInt32.le_iff_toNat_le] at hlower
        change 97 ≤ c.toNat ∧ c.toNat ≤ 122 at hlower
        omega
      · decide
    show Text.uppercaseRuns.any (·.contains c) = false
    refine List.any_eq_false.mpr fun r hr hcontains => ?_
    simp only [Text.CodeRun.contains, Bool.and_eq_true, decide_eq_true_eq] at hcontains
    have := hruns r hr
    omega

theorem exists_word? {c : Cursor} (h : c.rest.head?.any (fun x => !breaksWord x) = true) :
    ∃ word next, word? c = some (word, next) := by
  have hpos := Cursor.run_pos h
  unfold word?
  split
  · next hzero => omega
  · exact ⟨_, _, rfl⟩

/-- A word that is read starts with a character that breaks no word. -/
theorem head?_of_word? {offset : Nat} {next : Cursor}
    (h : word? (cursorAt text offset) = some (word, next)) :
    (text.drop offset).head?.any (fun x => !breaksWord x) = true := by
  obtain ⟨hreads, hchars, -⟩ := reads_of_word? h
  have hrest : text.drop offset = word.text.toList ++ next.rest := hreads.rest_eq
  have hlength : word.text.toList.length = word.text.length := String.length_toList
  have hpos := hreads.length_pos
  rw [hrest]
  cases hword : word.text.toList with
  | nil =>
    rw [hword] at hlength
    exact absurd hlength (Nat.ne_of_lt hpos)
  | cons x xs =>
    have hx : breaksWord x = false := hchars x (by simp [hword])
    simp [hx]

/-- No word ends where another one starts, since it would have gone on. -/
theorem offset_ne_of_word? {offset start : Nat} {next last : Cursor} {earlier : Token}
    (h : word? (cursorAt text offset) = some (word, next))
    (hearlier : word? (cursorAt text start) = some (earlier, last)) : last.offset ≠ offset := by
  intro heq
  obtain ⟨hreads, -, hstop⟩ := reads_of_word? hearlier
  have hon : last.rest = text.drop last.offset := hreads.reaches.on rfl
  rw [hon, heq, head?_of_word? h] at hstop
  cases hstop

/-- A word is cut out of the text: in front of it there is a character that breaks it. -/
theorem breaksWord_before {offset : Nat} (h : (offset, word) ∈ Text.occurrences word? text)
    {before : Nat} (hbefore : before + 1 = offset) {c : Char} (hc : text[before]? = some c) :
    breaksWord c = true := by
  obtain ⟨next, hread⟩ := Text.exists_of_mem_occurrences_at h
  dsimp only at hread
  cases hbreaks : breaksWord c with
  | true => rfl
  | false =>
    have hsplit : text.drop before = c :: text.drop offset := by
      rw [List.drop_eq_getElem?_toList_append, hc, hbefore]
      rfl
    have hlt : before < text.length := (List.getElem?_eq_some_iff.mp hc).1
    obtain ⟨longer, last, hlast⟩ := exists_word? (c := cursorAt text before) (by
      rw [cursorAt, hsplit]
      simp [hbreaks])
    -- A word could be read there, so one that was found reaches up to this one.
    rcases Text.mem_occurrences_or_inside hlt hlast with
      hmem | ⟨earlier, hmem, hleft, beyond, hbeyond, hinside⟩
    · have hle := Text.le_of_mem_occurrences hmem h (by dsimp only; omega) hlast
      have hreach := (reads_of_word? hlast).1.offset_add_length
      have hpos := (reads_of_word? hlast).1.length_pos
      have hstart : (cursorAt text before).offset = before := rfl
      refine absurd ?_ (offset_ne_of_word? hread hlast)
      dsimp only at hle
      omega
    · have hle := Text.le_of_mem_occurrences hmem h (by dsimp only; omega) hbeyond
      refine absurd ?_ (offset_ne_of_word? hread hbeyond)
      dsimp only at hle
      omega

/-- A word that is skipped for the bracket behind it is a call site. -/
theorem SkippedWord.callSite (h : SkippedWord text word) : CallSite text word := by
  obtain ⟨offset, hmem⟩ := h.found
  obtain ⟨next, hread⟩ := Text.exists_of_mem_occurrences_at hmem
  obtain ⟨hreads, -, -⟩ := reads_of_word? hread
  have hoffset : word.offset = offset := hreads.offset_eq
  subst hoffset
  have hfound : word.text.toList <+: text.drop word.offset := ⟨next.rest, hreads.rest_eq.symm⟩
  refine ⟨isIdentifier_of_isVariableWord h.lowercase, (opensCall_iff hfound).mpr h.bracket, ?_⟩
  intro longer hlonger hprefix hend
  refine Nat.le_of_not_lt fun hlt => ?_
  -- The character before the word would be part of the longer name.
  have hlength : longer.text.toList.length = longer.text.length := String.length_toList
  have hpos : 0 < word.text.length := hreads.length_pos
  obtain ⟨k, hk⟩ : ∃ k, longer.offset + k + 1 = word.offset :=
    ⟨word.offset - longer.offset - 1, by omega⟩
  have hindex : k < longer.text.toList.length := by omega
  have hchar : text[longer.offset + k]? = some longer.text.toList[k] := by
    obtain ⟨rest, hrest⟩ := hprefix
    rw [← List.getElem?_drop, ← hrest, List.getElem?_append_left hindex,
      List.getElem?_eq_getElem hindex]
  have hbreaks := breaksWord_before hmem hk hchar
  rw [breaksWord_of_isNameChar (hlonger.isName.2 _ (List.getElem_mem hindex))] at hbreaks
  cases hbreaks

/-- A word that looks like a variable, and is no word of the language and no member of a value, is
the name of a call, or known, or reported. -/
theorem callSite_or_mem_wordDiagnostics (t : SymbolTable) (line : Line) (names : List String)
    (base : Nat) {offset : Nat} (h : (offset, word) ∈ Text.occurrences word? text)
    (hlowercase : isVariableWord word.text = true) (hkeyword : word.text ∉ keywords)
    (htype : word.text ∉ builtinTypes) (hdot : (text.take word.offset).getLast? ≠ some '.') :
    CallSite text word ∨ word.text ∈ names ∨ word.text ∈ builtinFunctions ∨
      undefinedVariable line (base + word.offset) word.text ∈
        wordDiagnostics t names line base text word := by
  by_cases hbracket :
      (Text.trimStart (text.drop (word.offset + word.text.length))).head? = some '('
  · exact Or.inl (SkippedWord.callSite ⟨⟨offset, h⟩, hlowercase, hbracket⟩)
  · by_cases hname : word.text ∈ names
    · exact Or.inr (Or.inl hname)
    · by_cases hbuiltin : word.text ∈ builtinFunctions
      · exact Or.inr (Or.inr (Or.inl hbuiltin))
      · refine Or.inr (Or.inr (Or.inr ?_))
        simp [wordDiagnostics, hkeyword, htype, hdot, isUppercase_of_isVariableWord hlowercase,
          hlowercase, hbracket, hname, hbuiltin]

end Words

end References

end ScriptLint
