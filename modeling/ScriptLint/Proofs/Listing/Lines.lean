import ScriptLint.Check.Heads
import ScriptLint.Proofs.Listing.Heads
import ScriptLint.Proofs.Text.Trim

/-! The lines of a listing. They are plain, so their text is their code; the only braces are those
of bodies; and nothing is found in their heads. -/
namespace ScriptLint

theorem Line.isBlank_of_mem {line : Line} {c : Char} (hmem : c ∈ line.code)
    (hc : Text.isBlank c = false) : line.isBlank = false := by
  rw [isBlank, trimmed, List.isEmpty_eq_false_iff]
  exact List.ne_nil_of_mem (Text.mem_trim hmem hc)

theorem matchBrace_of_ne {c : Char} (hopen : c ≠ '\x7b') (hclose : c ≠ '\x7d') (line : Int)
    (known : List Int × Bool) : matchBrace line known c = known := by
  unfold matchBrace
  split
  · exact absurd rfl hopen
  · exact absurd rfl hclose
  · exact absurd rfl hclose
  · rfl

/-- Characters that are no braces leave the open braces as they are. -/
theorem foldl_matchBrace_of_notMem {text : List Char} (hopen : '\x7b' ∉ text)
    (hclose : '\x7d' ∉ text) (line : Int) (known : List Int × Bool) :
    text.foldl (matchBrace line) known = known := by
  induction text with
  | nil => rfl
  | cons c cs ih =>
    rw [List.mem_cons, not_or] at hopen hclose
    rw [List.foldl_cons, matchBrace_of_ne (Ne.symm hopen.1) (Ne.symm hclose.1),
      ih hopen.2 hclose.2]

namespace Layout

variable (l : Layout)

theorem isPlain_of_isHeadChar {c : Char} (h : isHeadChar c = true) : Text.isPlain c = true := by
  have hall : ∀ x ∈ Text.markers, (!isHeadChar x) = true := List.all_eq_true.mp rfl
  refine Text.isPlain_iff.mpr fun hc => ?_
  simpa [h] using hall c hc

theorem isPlain_indent (n : Nat) : ∀ c ∈ l.indent n, Text.isPlain c = true :=
  fun c hc => Text.isPlain_of_isBlank (l.isBlank_indent n c hc)
    fun heq => l.lineFeed_indent n (heq ▸ hc)

/-- What stands behind the head of a line: nothing, a brace, or an empty body. -/
def tails : List (List Char) :=
  [[], [' ', '{'], [' ', '{', ' ', '}']]

theorem isPlain_of_mem_tails : ∀ tail ∈ tails, ∀ c ∈ tail, Text.isPlain c = true := by
  have hall : tails.all (fun tail => tail.all Text.isPlain) = true := rfl
  intro tail htail
  exact List.all_eq_true.mp (List.all_eq_true.mp hall tail htail)

section Line

variable {l} {n : Nat} {head tail : List Char}

theorem isPlain_line (hhead : ∀ c ∈ head, isHeadChar c = true) (htail : tail ∈ tails) :
    ∀ c ∈ l.indent n ++ (head ++ tail), Text.isPlain c = true :=
  List.forall_mem_append.mpr ⟨l.isPlain_indent n, List.forall_mem_append.mpr
    ⟨fun c hc => isPlain_of_isHeadChar (hhead c hc), isPlain_of_mem_tails tail htail⟩⟩

theorem isPlain_close : ∀ c ∈ l.indent n ++ ['\x7d'], Text.isPlain c = true :=
  List.forall_mem_append.mpr ⟨l.isPlain_indent n, List.all_eq_true.mp rfl⟩

theorem matchBraces_indent {text : List Char}
    (h : ∀ c ∈ l.indent n ++ text, Text.isPlain c = true) (unclosed : List Int) :
    matchBraces unclosed ⟨n, l.indent n ++ text, false⟩ =
      text.foldl (matchBrace n) (unclosed, false) := by
  have hopen : '\x7b' ∉ l.indent n := fun hc => absurd (l.isBlank_indent n _ hc) (by decide)
  have hclose : '\x7d' ∉ l.indent n := fun hc => absurd (l.isBlank_indent n _ hc) (by decide)
  rw [matchBraces, Line.code_of_plain h, Literal.mask_of_plain h, List.foldl_append,
    foldl_matchBrace_of_notMem hopen hclose]

/-- A head has no braces, so only what stands behind it counts. -/
theorem matchBraces_line (hhead : ∀ c ∈ head, isHeadChar c = true) (htail : tail ∈ tails)
    (unclosed : List Int) :
    matchBraces unclosed ⟨n, l.indent n ++ (head ++ tail), false⟩ =
      tail.foldl (matchBrace n) (unclosed, false) := by
  have hopen : '\x7b' ∉ head := fun hc => absurd (hhead _ hc) (by decide)
  have hclose : '\x7d' ∉ head := fun hc => absurd (hhead _ hc) (by decide)
  rw [matchBraces_indent (isPlain_line hhead htail), List.foldl_append,
    foldl_matchBrace_of_notMem hopen hclose]

theorem isBlank_line {text : List Char} (h : ∀ c ∈ l.indent n ++ text, Text.isPlain c = true)
    {c : Char} (hmem : c ∈ text) (hc : Text.isBlank c = false) :
    (⟨n, l.indent n ++ text, false⟩ : Line).isBlank = false := by
  refine Line.isBlank_of_mem ?_ hc
  rw [Line.code_of_plain h]
  exact List.mem_append_right _ hmem

end Line

/-- The line states what is given, which includes nothing, and nothing is found in it. -/
structure States (line : Line) (statement : Statement) : Prop where
  isBlank : line.isBlank = false
  ofText : Statement.ofText line.code = statement
  notInclusion : ∀ path, statement ≠ .inclusion path
  wellFormed : malformedDiagnostics line statement = []
  complete : headDiagnostics line statement = []

section States

variable (n : Nat)

theorem states_classHead (name : Identifier) :
    States ⟨n, l.indent n ++ (classHead name ++ [' ', '{']), false⟩
      (.classHead ⟨name.text, (l.indent n).length + 6⟩) := by
  have htail : [' ', '{'] ∈ tails := by decide
  have hplain := isPlain_line (l := l) (n := n) (isHeadChar_classHead name) htail
  have hcode := Line.code_of_plain hplain n
  -- The brace is not blank, so the line is not.
  refine ⟨isBlank_line hplain (c := '\x7b') ?_ rfl, ?_, fun _ => Statement.noConfusion, rfl, ?_⟩
  · exact List.mem_append_right _ (by decide)
  · rw [hcode]
    exact Statement.ofText_classHead (l.isBlank_indent n) name rfl
  · have hlast : (Text.trim (l.indent n ++ (classHead name ++ [' ', '{']))).getLast? =
        some '\x7b' := by
      have hsplit : l.indent n ++ (classHead name ++ [' ', '{']) =
          (l.indent n ++ (classHead name ++ [' '])) ++ ['\x7b'] := by simp
      rw [hsplit]
      exact Text.getLast?_trim_append _ rfl
    rw [headDiagnostics, Line.trimmed, hcode, if_pos (Or.inl hlast)]

theorem opensBrace_line {head tail : List Char} (hopen : '\x7b' ∈ tail) :
    opensBrace (l.indent n ++ (head ++ tail)) = true := by
  simp [opensBrace, hopen]

theorem states_functionHead (name : Identifier) (params : List (Identifier × TypeName))
    (returnType : TypeName) {tail : List Char} (htail : tail ∈ tails.tail) :
    let start := (l.indent n).length + (functionStart name).length
    States ⟨n, l.indent n ++ (functionHead name params returnType ++ tail), false⟩
      (.functionHead
        { access := none
          name := ⟨name.text, (l.indent n).length + 4⟩
          params := Layout.params start params
          returnType := ⟨returnType.text, start + (paramsChars params).length + 5⟩ }) := by
  intro start
  have hplain := isPlain_line (l := l) (n := n) (isHeadChar_functionHead name params returnType)
    (List.mem_of_mem_tail htail)
  have hcode := Line.code_of_plain hplain n
  have hopen : '\x7b' ∈ tail := (by decide : ∀ t ∈ tails.tail, '\x7b' ∈ t) tail htail
  have hname : tail.head?.any Text.isNameChar = false :=
    (by decide : ∀ t ∈ tails.tail, t.head?.any Text.isNameChar = false) tail htail
  have harray : tail.head? ≠ some '[' :=
    (by decide : ∀ t ∈ tails.tail, t.head? ≠ some '[') tail htail
  refine ⟨isBlank_line hplain (c := '\x7b') ?_ rfl, ?_, fun _ => Statement.noConfusion, rfl, ?_⟩
  · exact List.mem_append_right _ hopen
  · rw [hcode]
    exact Statement.ofText_functionHead (l.isBlank_indent n) name params returnType hname harray
  · rw [headDiagnostics, hcode, opensBrace_line l n hopen]
    rfl

theorem states_macroHead (name : Identifier) (params : List Identifier) {tail : List Char}
    (htail : tail ∈ tails.tail) :
    States ⟨n, l.indent n ++ (macroHead name params ++ tail), false⟩
      (.macroHead ⟨name.text, (l.indent n).length + 6⟩ (params.map (·.text))) := by
  have hplain := isPlain_line (l := l) (n := n) (isHeadChar_macroHead name params)
    (List.mem_of_mem_tail htail)
  have hcode := Line.code_of_plain hplain n
  have hopen : '\x7b' ∈ tail := (by decide : ∀ t ∈ tails.tail, '\x7b' ∈ t) tail htail
  refine ⟨isBlank_line hplain (c := '\x7b') ?_ rfl, ?_, fun _ => Statement.noConfusion, rfl, ?_⟩
  · exact List.mem_append_right _ hopen
  · rw [hcode]
    exact Statement.ofText_macroHead (l.isBlank_indent n) name params tail
  · rw [headDiagnostics, hcode, opensBrace_line l n hopen]
    rfl

theorem isPlain_variable (name : Identifier) (type : TypeName) :
    ∀ c ∈ l.indent n ++ (variableStart name ++ type.chars), Text.isPlain c = true :=
  List.forall_mem_append.mpr ⟨l.isPlain_indent n,
    fun c hc => isPlain_of_isHeadChar (isHeadChar_variable name type c hc)⟩

theorem states_variable (name : Identifier) (type : TypeName) :
    States ⟨n, l.indent n ++ (variableStart name ++ type.chars), false⟩
      (.variableDecl none ⟨name.text, (l.indent n).length + 4⟩
        ⟨type.text, (l.indent n).length + (variableStart name).length⟩) := by
  have hplain := isPlain_variable l n name type
  have hcode := Line.code_of_plain hplain n
  refine ⟨isBlank_line hplain (c := 'v') ?_ rfl, ?_, fun _ => Statement.noConfusion, rfl, rfl⟩
  · exact List.mem_append_left _ (List.mem_append_left _ (by decide))
  · rw [hcode]
    exact Statement.ofText_variable (l.isBlank_indent n) name type

theorem states_close : States ⟨n, l.indent n ++ ['\x7d'], false⟩ .other := by
  have hplain := isPlain_close (l := l) (n := n)
  have hcode := Line.code_of_plain hplain n
  refine ⟨isBlank_line hplain (c := '\x7d') ?_ rfl, ?_, fun _ => Statement.noConfusion, rfl, rfl⟩
  · exact List.mem_singleton_self _
  · rw [hcode]
    exact Statement.ofText_close (l.isBlank_indent n)

end States

end Layout

end ScriptLint
