import ScriptLint.Proofs.Listing.Basic
import ScriptLint.Proofs.Statement.Tokens
import ScriptLint.Proofs.Text.Recognise

/-! What the lines of a listing say. Each form is told from the others by its first word, and its
parts are found at the offsets at which they were printed. -/
namespace ScriptLint

open Text (Cursor)

namespace Text.Cursor

variable (offset : Nat)

theorem name?_identifier (i : Identifier) (rest : List Char)
    (hrest : rest.head?.any isNameChar = false) :
    (⟨offset, i.chars ++ rest⟩ : Cursor).name? =
      some (⟨i.text, offset⟩, ⟨offset + i.chars.length, rest⟩) :=
  name?_append offset i.starts i.goesOn hrest

theorem word?_eq_none {word : String} {rest : List Char}
    (h : word.toList.isPrefixOf rest = false) : (⟨offset, rest⟩ : Cursor).word? word = none := by
  rw [word?, h]
  rfl

theorem skipBlanks_word?_parenthesis (rest : List Char) :
    (⟨offset, '(' :: rest⟩ : Cursor).skipBlanks.word? "(" = some ⟨offset + 1, rest⟩ := by
  rw [skipBlanks_of_head _ rfl]
  exact word?_append offset "(" rest

/-- A type is read with its mark, which must not follow where none was printed. -/
theorem typeName?_append (t : TypeName) (rest : List Char)
    (hname : rest.head?.any isNameChar = false) (harray : rest.head? ≠ some '[') :
    (⟨offset, t.chars ++ rest⟩ : Cursor).typeName? =
      some (⟨t.text, offset⟩, ⟨offset + t.chars.length, rest⟩) := by
  have hchars : t.chars ++ rest =
      t.name.chars ++ ((if t.isArray then ['[', ']'] else []) ++ rest) := by
    rw [TypeName.chars, List.append_assoc]
  have hnext : ((if t.isArray then ['[', ']'] else []) ++ rest).head?.any isNameChar = false := by
    split
    · rfl
    · exact hname
  have htoken : (⟨offset, t.chars ++ rest⟩ : Cursor).token t.chars.length = ⟨t.text, offset⟩ :=
    token_append offset t.chars rest
  rw [hchars] at htoken
  simp only [typeName?, hchars, name?_identifier offset t.name _ hnext, Option.bind_eq_bind,
    Option.bind_some]
  cases harr : t.isArray with
  | true =>
    -- The token goes from the start of the name to the end of the mark.
    have hmark : (⟨offset + t.name.chars.length, ['[', ']'] ++ rest⟩ : Cursor).word? "[]" =
        some ⟨offset + t.name.chars.length + 2, rest⟩ :=
      word?_append _ "[]" rest
    have hlength : offset + t.name.chars.length + 2 - offset = t.chars.length := by
      simp only [TypeName.chars, harr, ↓reduceIte, List.length_append, List.length_cons,
        List.length_nil]
      omega
    have hlast : offset + t.name.chars.length + 2 = offset + t.chars.length := by omega
    simp only [harr, ↓reduceIte] at htoken ⊢
    rw [hmark]
    dsimp only
    rw [hlength, htoken, hlast]
    rfl
  | false =>
    have hnot : "[]".toList.isPrefixOf rest = false := by
      cases rest with
      | nil => rfl
      | cons c cs =>
        have hc : ¬c = '[' := by simpa using harray
        have hne : ('[' == c) = false := by simpa using fun h : '[' = c => hc h.symm
        change (('[' == c) && _) = false
        rw [hne, Bool.false_and]
    have hplain : t.chars = t.name.chars := by simp [TypeName.chars, harr]
    simp only [Bool.false_eq_true, ↓reduceIte, List.nil_append]
    rw [word?_eq_none _ hnot, TypeName.text, hplain]
    rfl

end Text.Cursor

/-- Behind what was read, the search for occurrences goes on with the rest. -/
theorem Text.occurrences_go_append {α : Type} (recognise : Cursor → Option (α × Cursor))
    (read rest : List Char) (pos : Nat) :
    occurrences.go recognise pos read.length (read ++ rest) =
      occurrences.go recognise (pos + read.length) 0 rest := by
  induction read generalizing pos with
  | nil => rfl
  | cons c read ih =>
    rw [List.cons_append, List.length_cons, occurrences.go, ih]
    congr 1
    omega

theorem Text.occurrences_go_of_some {α : Type} {recognise : Cursor → Option (α × Cursor)}
    {read rest : List Char} {pos : Nat} {found : α} (hne : read ≠ [])
    (h : recognise ⟨pos, read ++ rest⟩ = some (found, ⟨pos + read.length, rest⟩)) :
    occurrences.go recognise pos 0 (read ++ rest) =
      (pos, found) :: occurrences.go recognise (pos + read.length) 0 rest := by
  obtain ⟨c, cs, rfl⟩ := List.exists_cons_of_ne_nil hne
  have hskip : pos + (c :: cs).length - pos - 1 = cs.length := by
    simp only [List.length_cons]
    omega
  have hnext : pos + 1 + cs.length = pos + (c :: cs).length := by
    simp only [List.length_cons]
    omega
  rw [List.cons_append] at h ⊢
  rw [occurrences.go, h]
  dsimp only
  rw [hskip, occurrences_go_append, hnext]

namespace Grammar

theorem parameter?_append (p : Identifier × TypeName) (offset : Nat) (rest : List Char)
    (hname : rest.head?.any Text.isNameChar = false) (harray : rest.head? ≠ some '[') :
    parameter? ⟨offset, Layout.paramChars p ++ rest⟩ =
      some ((⟨p.1.text, offset⟩, ⟨p.2.text, offset + p.1.chars.length + 1⟩),
        ⟨offset + (Layout.paramChars p).length, rest⟩) := by
  have hchars : Layout.paramChars p ++ rest = p.1.chars ++ ' ' :: (p.2.chars ++ rest) := by
    simp [Layout.paramChars]
  have hlength : offset + p.1.chars.length + 1 + p.2.chars.length =
      offset + (Layout.paramChars p).length := by
    simp [Layout.paramChars]
    omega
  simp only [parameter?, hchars, Option.bind_eq_bind, Option.bind_some,
    Cursor.name?_identifier offset p.1 (' ' :: (p.2.chars ++ rest)) rfl,
    Cursor.blanks?_space _ (p.2.isBlank_head rest), Cursor.typeName?_append _ p.2 rest hname harray,
    hlength]
  rfl

theorem parameter?_of_not_name {offset : Nat} {rest : List Char}
    (h : rest.head?.any Text.isNameStart = false) : parameter? ⟨offset, rest⟩ = none := by
  simp [parameter?, Cursor.name?, h]

/-- The parameters of a function are found again, each type at the offset where it was printed. -/
theorem parameters_paramsChars (params : List (Identifier × TypeName)) (base : Nat) :
    parameters (Layout.paramsChars params) base = Layout.params base params := by
  suffices h : ∀ pos, (Text.occurrences.go parameter? pos 0 (Layout.paramsChars params)).map
      (fun m => (⟨m.2.1.text, m.2.2.text, (base : Int) + m.2.2.offset⟩ : Parameter)) =
        Layout.params (base + pos) params from h 0
  -- The search starts again at every character, so the place in it is part of the induction.
  induction params with
  | nil => exact fun pos => rfl
  | cons p params ih =>
    intro pos
    have hne : Layout.paramChars p ≠ [] := by simp [Layout.paramChars]
    have hoffset : (base : Int) + ((pos + p.1.chars.length + 1 : Nat) : Int) =
        ((base + pos + p.1.chars.length + 1 : Nat) : Int) := by omega
    cases params with
    | nil =>
      have hp := parameter?_append p pos [] rfl (by decide)
      have hchars : Layout.paramsChars [p] = Layout.paramChars p ++ [] := by
        simp [Layout.paramsChars]
      rw [hchars, Text.occurrences_go_of_some hne hp, List.map_cons, Layout.params]
      dsimp only
      rw [hoffset]
      rfl
    | cons q params =>
      have hchars : Layout.paramsChars (p :: q :: params) =
          Layout.paramChars p ++ ',' :: ' ' :: Layout.paramsChars (q :: params) := by
        simp [Layout.paramsChars, List.intercalate_cons_cons]
      have hp := parameter?_append p pos (',' :: ' ' :: Layout.paramsChars (q :: params)) rfl
        (by simp)
      -- No parameter starts at the comma or at the blank behind it.
      rw [hchars, Text.occurrences_go_of_some hne hp, List.map_cons, Layout.params,
        Text.occurrences.go, parameter?_of_not_name rfl, Text.occurrences.go,
        parameter?_of_not_name rfl, ih]
      have hnext : base + (pos + (Layout.paramChars p).length + 1 + 1) =
          base + pos + (Layout.paramChars p).length + 2 := by omega
      dsimp only
      rw [hoffset, hnext]

theorem trim_identifier (i : Identifier) (blanks : List Char)
    (h : ∀ c ∈ blanks, Text.isBlank c = true) : Text.trim (blanks ++ i.chars) = i.chars := by
  have hkeep : ∀ text : List Char, text ≠ [] → (∀ c ∈ text, Text.isNameChar c = true) →
      text.dropWhile Text.isBlank = text := by
    intro text hne hall
    obtain ⟨c, cs, rfl⟩ := List.exists_cons_of_ne_nil hne
    have hc := Text.isBlank_of_isNameChar (hall c List.mem_cons_self)
    exact List.dropWhile_cons_of_neg (by simp [hc])
  have hstart : Text.trimStart (blanks ++ i.chars) = i.chars := by
    rw [Text.trimStart, List.dropWhile_append_of_pos h, hkeep _ i.ne_nil i.goesOn]
  have hreverse : i.chars.reverse.dropWhile Text.isBlank = i.chars.reverse :=
    hkeep _ (by simpa using i.ne_nil) fun c hc => i.goesOn c (List.mem_reverse.mp hc)
  rw [Text.trim, hstart, Text.trimEnd, hreverse, List.reverse_reverse]

/-- The parameters of a macro are found again. -/
theorem macroParameters_macroParamsChars (params : List Identifier) :
    macroParameters (Layout.macroParamsChars params) = params.map (·.text) := by
  cases params with
  | nil => rfl
  | cons first more =>
    -- Cutting is at the commas alone, so the blank behind each belongs to the next part.
    have hjoin : Layout.macroParamsChars (first :: more) =
        [','].intercalate (first.chars :: more.map fun i => ' ' :: i.chars) := by
      unfold Layout.macroParamsChars
      induction more generalizing first with
      | nil => simp
      | cons next more ih =>
        have hnext := ih next
        cases more <;> simp_all [List.intercalate_cons_cons]
    have hcomma : ∀ part ∈ first.chars :: more.map (fun i => ' ' :: i.chars), ',' ∉ part := by
      have hname : ∀ i : Identifier, ',' ∉ i.chars :=
        fun i hmem => absurd (i.goesOn ',' hmem) (by decide)
      simp [hname]
    have htrim : ∀ i : Identifier, Text.trim (' ' :: i.chars) = i.chars :=
      fun i => trim_identifier i [' '] (List.all_eq_true.mp rfl)
    have hfirst : Text.trim first.chars = first.chars := trim_identifier first [] (by simp)
    have htrimmed : (first.chars :: more.map fun i => ' ' :: i.chars).map Text.trim =
        (first :: more).map (·.chars) := by
      simp [hfirst, htrim, Function.comp_def]
    have hkept : ∀ i : Identifier,
        (if i.chars.isEmpty then none else some (String.ofList i.chars)) = some i.text := by
      intro i
      simp [i.ne_nil, Identifier.text]
    rw [macroParameters, hjoin, Text.pieces_intercalate hcomma (by simp), htrimmed,
      List.filterMap_map, ← List.filterMap_eq_map]
    exact congrArg (fun f => List.filterMap f (first :: more)) (funext hkept)

section Forms

variable {c : Cursor}

theorem inclusion?_eq_none (h : "include".toList.isPrefixOf c.skipBlanks.rest = false) :
    inclusion? c = none := by
  rw [inclusion?, Cursor.word?, h]
  rfl

theorem classHead?_eq_none (h : "class".toList.isPrefixOf c.skipBlanks.rest = false) :
    classHead? c = none := by
  rw [classHead?, Cursor.word?, h]
  rfl

theorem macroHead?_eq_none (h : "macro".toList.isPrefixOf c.skipBlanks.rest = false) :
    macroHead? c = none := by
  rw [macroHead?, Cursor.word?, h]
  rfl

theorem functionHead?_eq_none (hmodifier : modifier? c.skipBlanks = none)
    (h : "def".toList.isPrefixOf c.skipBlanks.rest = false) : functionHead? c = none := by
  rw [functionHead?, modifiers_of_none hmodifier]
  dsimp only
  rw [Cursor.word?, h]
  rfl

theorem variableDecl?_eq_none (hmodifier : modifier? c.skipBlanks = none)
    (h : "var".toList.isPrefixOf c.skipBlanks.rest = false) : variableDecl? c = none := by
  rw [variableDecl?, modifiers_of_none hmodifier]
  dsimp only
  rw [Cursor.word?, h]
  rfl

end Forms

section Heads

variable {c : Cursor} {offset : Nat} (name : Identifier)

theorem classHead?_eq {rest : List Char} (hrest : rest.head?.any Text.isNameChar = false)
    (hc : c.skipBlanks = ⟨offset, 'c' :: 'l' :: 'a' :: 's' :: 's' :: ' ' :: (name.chars ++ rest)⟩) :
    classHead? c = some (.classHead ⟨name.text, offset + 6⟩) := by
  have hword : c.skipBlanks.word? "class" = some ⟨offset + 5, ' ' :: (name.chars ++ rest)⟩ := by
    rw [hc]
    exact Cursor.word?_append offset "class" _
  simp only [classHead?, hword, Option.bind_eq_bind, Option.bind_some,
    Cursor.blanks?_space _ (name.isBlank_head _),
    Cursor.name?_identifier _ name rest hrest]
  rfl

/-- The head of a function is read from its word to its return type. -/
theorem functionHead?_eq {params rest : List Char} (returnType : TypeName)
    (hparams : ')' ∉ params) (hrest : rest.head?.any Text.isNameChar = false)
    (harray : rest.head? ≠ some '[')
    (hc : c.skipBlanks = ⟨offset, 'd' :: 'e' :: 'f' :: ' ' :: (name.chars ++ '(' :: (params ++
      ')' :: ' ' :: '-' :: '>' :: ' ' :: (returnType.chars ++ rest)))⟩) :
    functionHead? c = some (.functionHead
      { access := none
        name := ⟨name.text, offset + 4⟩
        params := parameters params (offset + 4 + name.chars.length + 1 : Nat)
        returnType :=
          ⟨returnType.text, offset + 4 + name.chars.length + 1 + params.length + 5⟩ }) := by
  have hmodifier : modifier? c.skipBlanks = none := by
    rw [hc]
    rfl
  have hword : c.skipBlanks.word? "def" = some ⟨offset + 3, ' ' :: (name.chars ++ '(' ::
      (params ++ ')' :: ' ' :: '-' :: '>' :: ' ' :: (returnType.chars ++ rest)))⟩ := by
    rw [hc]
    exact Cursor.word?_append offset "def" _
  have harrow : ∀ (o : Nat) (more : List Char),
      (⟨o, ' ' :: '-' :: '>' :: more⟩ : Cursor).skipBlanks.word? "->" = some ⟨o + 3, more⟩ := by
    intro o more
    have hskip : (⟨o, ' ' :: '-' :: '>' :: more⟩ : Cursor).skipBlanks =
        ⟨o + 1, '-' :: '>' :: more⟩ :=
      Cursor.skipBlanks_append o [' '] (List.all_eq_true.mp rfl) rfl
    rw [hskip]
    exact Cursor.word?_append (o + 1) "->" more
  have htype : ∀ o : Nat, (⟨o, ' ' :: (returnType.chars ++ rest)⟩ : Cursor).skipBlanks =
      ⟨o + 1, returnType.chars ++ rest⟩ :=
    fun o =>
      Cursor.skipBlanks_append o [' '] (List.all_eq_true.mp rfl) (returnType.isBlank_head rest)
  rw [functionHead?, modifiers_of_none hmodifier]
  simp only [hword, Option.bind_eq_bind, Option.bind_some,
    Cursor.blanks?_space _ (name.isBlank_head _), Cursor.name?_identifier _ name ('(' :: _)
    rfl, Cursor.skipBlanks_word?_parenthesis, Cursor.upTo?_append _ hparams, harrow, htype,
    Cursor.typeName?_append _ returnType rest hrest harray]
  have hoffset : offset + 3 + 1 + name.chars.length + 1 + (params.length + 1) + 3 + 1 =
      offset + 4 + name.chars.length + 1 + params.length + 5 := by omega
  rw [hoffset]
  rfl

theorem macroHead?_eq {params rest : List Char} (hparams : ')' ∉ params)
    (hc : c.skipBlanks = ⟨offset, 'm' :: 'a' :: 'c' :: 'r' :: 'o' :: ' ' ::
      (name.chars ++ '(' :: (params ++ ')' :: rest))⟩) :
    macroHead? c = some (.macroHead ⟨name.text, offset + 6⟩ (macroParameters params)) := by
  have hword : c.skipBlanks.word? "macro" = some ⟨offset + 5, ' ' :: (name.chars ++ '(' ::
      (params ++ ')' :: rest))⟩ := by
    rw [hc]
    exact Cursor.word?_append offset "macro" _
  simp only [macroHead?, hword, Option.bind_eq_bind, Option.bind_some,
    Cursor.blanks?_space _ (name.isBlank_head _), Cursor.name?_identifier _ name ('(' :: _)
    rfl, Cursor.skipBlanks_word?_parenthesis, Cursor.upTo?_append _ hparams]
  rfl

theorem variableDecl?_eq (type : TypeName)
    (hc : c.skipBlanks = ⟨offset, 'v' :: 'a' :: 'r' :: ' ' :: (name.chars ++ ' ' ::
      (type.chars ++ []))⟩) :
    variableDecl? c = some (.variableDecl none ⟨name.text, offset + 4⟩
      ⟨type.text, offset + 4 + name.chars.length + 1⟩) := by
  have hmodifier : modifier? c.skipBlanks = none := by
    rw [hc]
    rfl
  have hword : c.skipBlanks.word? "var" = some ⟨offset + 3, ' ' :: (name.chars ++ ' ' ::
      (type.chars ++ []))⟩ := by
    rw [hc]
    exact Cursor.word?_append offset "var" _
  rw [variableDecl?, modifiers_of_none hmodifier]
  simp only [hword, Option.bind_eq_bind, Option.bind_some,
    Cursor.blanks?_space _ (name.isBlank_head _), Cursor.name?_identifier _ name (' ' :: _)
    rfl, Cursor.blanks?_space _ (type.isBlank_head _),
    Cursor.typeName?_append _ type [] rfl (by simp)]
  rfl

end Heads

end Grammar

namespace Statement

open Grammar

section Forms

variable {blanks : List Char} (h : ∀ c ∈ blanks, Text.isBlank c = true)
include h

theorem skipBlanks_start {text : List Char} (htext : text.head?.any Text.isBlank = false) :
    (Cursor.start (blanks ++ text)).skipBlanks = ⟨blanks.length, text⟩ := by
  rw [Cursor.start, Cursor.skipBlanks_append 0 blanks h htext, Nat.zero_add]

theorem ofText_classHead (name : Identifier) {rest : List Char}
    (hrest : rest.head?.any Text.isNameChar = false) :
    ofText (blanks ++ (Layout.classHead name ++ rest)) =
      .classHead ⟨name.text, blanks.length + 6⟩ := by
  have hc : (Cursor.start (blanks ++ (Layout.classHead name ++ rest))).skipBlanks =
      ⟨blanks.length, 'c' :: 'l' :: 'a' :: 's' :: 's' :: ' ' :: (name.chars ++ rest)⟩ := by
    have hchars : Layout.classHead name ++ rest =
        'c' :: 'l' :: 'a' :: 's' :: 's' :: ' ' :: (name.chars ++ rest) := by simp [Layout.classHead]
    rw [hchars]
    exact skipBlanks_start h rfl
  have hinclusion := inclusion?_eq_none (by rw [hc]; rfl)
  simp only [ofText, List.findSome?_cons, hinclusion, classHead?_eq name hrest hc]
  rfl

theorem ofText_functionHead (name : Identifier) (params : List (Identifier × TypeName))
    (returnType : TypeName) {rest : List Char} (hrest : rest.head?.any Text.isNameChar = false)
    (harray : rest.head? ≠ some '[') :
    let start := blanks.length + (Layout.functionStart name).length
    ofText (blanks ++ (Layout.functionHead name params returnType ++ rest)) =
      .functionHead
        { access := none
          name := ⟨name.text, blanks.length + 4⟩
          params := Layout.params start params
          returnType := ⟨returnType.text, start + (Layout.paramsChars params).length + 5⟩ } := by
  intro start
  have hc : (Cursor.start
      (blanks ++ (Layout.functionHead name params returnType ++ rest))).skipBlanks =
      ⟨blanks.length, 'd' :: 'e' :: 'f' :: ' ' :: (name.chars ++ '(' ::
        (Layout.paramsChars params ++
          ')' :: ' ' :: '-' :: '>' :: ' ' :: (returnType.chars ++ rest)))⟩ := by
    have hchars : Layout.functionHead name params returnType ++ rest =
        'd' :: 'e' :: 'f' :: ' ' :: (name.chars ++ '(' :: (Layout.paramsChars params ++
          ')' :: ' ' :: '-' :: '>' :: ' ' :: (returnType.chars ++ rest))) := by
      simp [Layout.functionHead, Layout.functionStart]
    rw [hchars]
    exact skipBlanks_start h rfl
  have hstart : blanks.length + 4 + name.chars.length + 1 = start := by
    simp [start, Layout.functionStart]
    omega
  -- The forms are tried in their order, and those before a function are told by their words.
  have hinclusion := inclusion?_eq_none (by rw [hc]; rfl)
  have hclass := classHead?_eq_none (by rw [hc]; rfl)
  have hfunction := functionHead?_eq name returnType
    (Layout.close_notMem (Layout.isParamChar_paramsChars params)) hrest harray hc
  rw [hstart, parameters_paramsChars] at hfunction
  simp only [ofText, List.findSome?_cons, hinclusion, hclass, hfunction]
  rfl

theorem ofText_macroHead (name : Identifier) (params : List Identifier) (rest : List Char) :
    ofText (blanks ++ (Layout.macroHead name params ++ rest)) =
      .macroHead ⟨name.text, blanks.length + 6⟩ (params.map (·.text)) := by
  have hc : (Cursor.start (blanks ++ (Layout.macroHead name params ++ rest))).skipBlanks =
      ⟨blanks.length, 'm' :: 'a' :: 'c' :: 'r' :: 'o' :: ' ' :: (name.chars ++ '(' ::
        (Layout.macroParamsChars params ++ ')' :: rest))⟩ := by
    have hchars : Layout.macroHead name params ++ rest = "macro".toList ++ ' ' ::
        (name.chars ++ '(' :: (Layout.macroParamsChars params ++ ')' :: rest)) := by
      simp [Layout.macroHead]
    rw [hchars]
    exact skipBlanks_start h rfl
  have hinclusion := inclusion?_eq_none (by rw [hc]; rfl)
  have hclass := classHead?_eq_none (by rw [hc]; rfl)
  have hfunction := functionHead?_eq_none (by rw [hc]; rfl) (by rw [hc]; rfl)
  have hmacro := macroHead?_eq name
    (Layout.close_notMem (Layout.isParamChar_macroParamsChars params)) hc
  rw [macroParameters_macroParamsChars] at hmacro
  simp only [ofText, List.findSome?_cons, hinclusion, hclass, hfunction, hmacro]
  rfl

theorem ofText_variable (name : Identifier) (type : TypeName) :
    ofText (blanks ++ (Layout.variableStart name ++ type.chars)) =
      .variableDecl none ⟨name.text, blanks.length + 4⟩
        ⟨type.text, blanks.length + (Layout.variableStart name).length⟩ := by
  have hc : (Cursor.start (blanks ++ (Layout.variableStart name ++ type.chars))).skipBlanks =
      ⟨blanks.length, 'v' :: 'a' :: 'r' :: ' ' :: (name.chars ++ ' ' :: (type.chars ++ []))⟩ := by
    have hchars : Layout.variableStart name ++ type.chars =
        'v' :: 'a' :: 'r' :: ' ' :: (name.chars ++ ' ' :: (type.chars ++ [])) := by
      simp [Layout.variableStart]
    rw [hchars]
    exact skipBlanks_start h rfl
  have hstart : blanks.length + 4 + name.chars.length + 1 =
      blanks.length + (Layout.variableStart name).length := by
    simp [Layout.variableStart]
    omega
  have hinclusion := inclusion?_eq_none (by rw [hc]; rfl)
  have hclass := classHead?_eq_none (by rw [hc]; rfl)
  have hfunction := functionHead?_eq_none (by rw [hc]; rfl) (by rw [hc]; rfl)
  have hmacro := macroHead?_eq_none (by rw [hc]; rfl)
  have hvariable := variableDecl?_eq name type hc
  rw [hstart] at hvariable
  simp only [ofText, List.findSome?_cons, hinclusion, hclass, hfunction, hmacro, hvariable]
  rfl

/-- A line with a closing brace alone says nothing. -/
theorem ofText_close : ofText (blanks ++ ['\x7d']) = .other := by
  have hc : (Cursor.start (blanks ++ ['\x7d'])).skipBlanks = ⟨blanks.length, ['\x7d']⟩ :=
    skipBlanks_start h rfl
  have hinclusion := inclusion?_eq_none (by rw [hc]; rfl)
  have hclass := classHead?_eq_none (by rw [hc]; rfl)
  have hfunction := functionHead?_eq_none (by rw [hc]; rfl) (by rw [hc]; rfl)
  have hmacro := macroHead?_eq_none (by rw [hc]; rfl)
  have hvariable := variableDecl?_eq_none (by rw [hc]; rfl) (by rw [hc]; rfl)
  have hmalformed : malformed? (Cursor.start (blanks ++ ['\x7d'])) = none := by
    rw [malformed?, hc, modifiers_of_none rfl]
    rfl
  have hconditional : conditional? (Cursor.start (blanks ++ ['\x7d'])) = none := by
    rw [conditional?, hc]
    rfl
  simp only [ofText, List.findSome?_cons, hinclusion, hclass, hfunction, hmacro, hvariable,
    hmalformed, hconditional]
  rfl

end Forms

end Statement

end ScriptLint
