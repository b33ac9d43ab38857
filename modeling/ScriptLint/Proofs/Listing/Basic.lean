import ScriptLint.Proofs.Line.Plain
import ScriptLint.Symbol.Declaration

/-! Listings: declarations that are printed one on a line, and what they declare.

A class holds the declarations that are printed between its head and the brace that closes it. The
bodies of functions and macros are empty. How far a line is indented, and whether an empty body is
closed on its own line, is left to a layout. -/
namespace ScriptLint

/-- A name: a letter or an underscore, and then letters, digits and underscores. -/
structure Identifier where
  /-- The characters of the name. -/
  chars : List Char
  /-- A name starts like one. -/
  starts : chars.head?.any Text.isNameStart = true
  /-- A name goes on like one. -/
  goesOn : ∀ c ∈ chars, Text.isNameChar c = true

/-- The text of the name. -/
def Identifier.text (i : Identifier) : String :=
  String.ofList i.chars

theorem Identifier.ne_nil (i : Identifier) : i.chars ≠ [] := by
  intro h
  simpa [h] using i.starts

theorem Identifier.isBlank_head (i : Identifier) (rest : List Char) :
    (i.chars ++ rest).head?.any Text.isBlank = false := by
  obtain ⟨c, cs, hcs⟩ := List.exists_cons_of_ne_nil i.ne_nil
  have hc : Text.isNameChar c = true := i.goesOn c (hcs ▸ List.mem_cons_self)
  simpa [hcs] using Text.isBlank_of_isNameChar hc

/-- A type: a name, and maybe the mark of an array. -/
structure TypeName where
  /-- The name. -/
  name : Identifier
  /-- Whether the mark of an array follows. -/
  isArray : Bool

/-- The characters of the type. -/
def TypeName.chars (t : TypeName) : List Char :=
  t.name.chars ++ if t.isArray then ['[', ']'] else []

theorem TypeName.isBlank_head (t : TypeName) (rest : List Char) :
    (t.chars ++ rest).head?.any Text.isBlank = false := by
  rw [TypeName.chars, List.append_assoc]
  exact t.name.isBlank_head _

/-- The text of the type. -/
def TypeName.text (t : TypeName) : String :=
  String.ofList t.chars

/-- Declarations in their order. -/
inductive Declarations where
  /-- No more declarations. -/
  | done
  /-- A class with the declarations inside it, and more. -/
  | classDecl (name : Identifier) (inner more : Declarations)
  /-- A function, and more. -/
  | functionDecl (name : Identifier) (params : List (Identifier × TypeName))
    (returnType : TypeName) (more : Declarations)
  /-- A macro, and more. -/
  | macroDecl (name : Identifier) (params : List Identifier) (more : Declarations)
  /-- A variable, and more. -/
  | variableDecl (name : Identifier) (type : TypeName) (more : Declarations)

/-- How declarations are laid out on their lines. -/
structure Layout where
  /-- What stands in front of each line. -/
  indent : Nat → List Char
  /-- Blanks stand there. -/
  isBlank_indent : ∀ n, ∀ c ∈ indent n, Text.isBlank c = true
  /-- They do not break the line. -/
  lineFeed_indent : ∀ n, '\n' ∉ indent n
  /-- Whether the body of a function or a macro is closed on the line that opens it. -/
  closesAtOnce : Nat → Bool
  /-- Whether the last line is ended. -/
  endsLastLine : Bool

namespace Layout

/-- A parameter of a function. -/
def paramChars (p : Identifier × TypeName) : List Char :=
  p.1.chars ++ ' ' :: p.2.chars

/-- The head of a class, without the brace of its body. -/
def classHead (name : Identifier) : List Char :=
  ['c', 'l', 'a', 's', 's', ' '] ++ name.chars

/-- What stands in front of the parameters of a function. -/
def functionStart (name : Identifier) : List Char :=
  ['d', 'e', 'f', ' '] ++ (name.chars ++ ['('])

/-- The parameters of a function. -/
def paramsChars (params : List (Identifier × TypeName)) : List Char :=
  [',', ' '].intercalate (params.map paramChars)

/-- The head of a function, without the brace of its body. -/
def functionHead (name : Identifier) (params : List (Identifier × TypeName))
    (returnType : TypeName) : List Char :=
  functionStart name ++ (paramsChars params ++ ([')', ' ', '-', '>', ' '] ++ returnType.chars))

/-- The parameters of a macro. -/
def macroParamsChars (params : List Identifier) : List Char :=
  [',', ' '].intercalate (params.map (·.chars))

/-- The head of a macro, without the brace of its body. -/
def macroHead (name : Identifier) (params : List Identifier) : List Char :=
  ['m', 'a', 'c', 'r', 'o', ' '] ++ (name.chars ++ ('(' :: (macroParamsChars params ++ [')'])))

/-- What stands in front of the type of a variable. -/
def variableStart (name : Identifier) : List Char :=
  ['v', 'a', 'r', ' '] ++ (name.chars ++ [' '])

section Chars

/-- Whether the character may stand in the parameters of a head. -/
def isParamChar (c : Char) : Bool :=
  Text.isNameChar c || [' ', ',', '[', ']'].contains c

/-- Whether the character may stand in a head. -/
def isHeadChar (c : Char) : Bool :=
  isParamChar c || ['(', ')', '-', '>'].contains c

theorem isParamChar_of_mem_intercalate {parts : List (List Char)}
    (h : ∀ part ∈ parts, ∀ c ∈ part, isParamChar c = true) :
    ∀ c ∈ [',', ' '].intercalate parts, isParamChar c = true := by
  induction parts with
  | nil => simp
  | cons part parts ih =>
    rw [List.forall_mem_cons] at h
    cases parts with
    | nil => simpa using h.1
    | cons next parts =>
      intro c hc
      rw [List.intercalate_cons_cons, List.mem_append, List.mem_append] at hc
      rcases hc with (hc | hc) | hc
      · exact h.1 c hc
      · exact List.all_eq_true.mp (rfl : [',', ' '].all isParamChar = true) c hc
      · exact ih h.2 c hc

theorem isParamChar_identifier (i : Identifier) : ∀ c ∈ i.chars, isParamChar c = true := by
  intro c hc
  simp [isParamChar, i.goesOn c hc]

theorem isParamChar_typeName (t : TypeName) : ∀ c ∈ t.chars, isParamChar c = true := by
  intro c hc
  rw [TypeName.chars, List.mem_append] at hc
  rcases hc with hc | hc
  · exact isParamChar_identifier t.name c hc
  · split at hc
    · exact List.all_eq_true.mp (rfl : ['[', ']'].all isParamChar = true) c hc
    · cases hc

theorem isParamChar_paramsChars (params : List (Identifier × TypeName)) :
    ∀ c ∈ paramsChars params, isParamChar c = true := by
  refine isParamChar_of_mem_intercalate fun part hpart => ?_
  obtain ⟨p, -, rfl⟩ := List.mem_map.mp hpart
  intro c hc
  rw [paramChars, List.mem_append, List.mem_cons] at hc
  rcases hc with hc | rfl | hc
  · exact isParamChar_identifier p.1 c hc
  · rfl
  · exact isParamChar_typeName p.2 c hc

theorem isParamChar_macroParamsChars (params : List Identifier) :
    ∀ c ∈ macroParamsChars params, isParamChar c = true := by
  refine isParamChar_of_mem_intercalate fun part hpart => ?_
  obtain ⟨i, -, rfl⟩ := List.mem_map.mp hpart
  exact isParamChar_identifier i

theorem isHeadChar_of_isParamChar {c : Char} (h : isParamChar c = true) : isHeadChar c = true := by
  simp [isHeadChar, h]

theorem close_notMem {text : List Char} (h : ∀ c ∈ text, isParamChar c = true) : ')' ∉ text :=
  fun hmem => absurd (h ')' hmem) (by decide)

theorem isHeadChar_identifier (i : Identifier) : ∀ c ∈ i.chars, isHeadChar c = true :=
  fun c hc => isHeadChar_of_isParamChar (isParamChar_identifier i c hc)

theorem isHeadChar_typeName (t : TypeName) : ∀ c ∈ t.chars, isHeadChar c = true :=
  fun c hc => isHeadChar_of_isParamChar (isParamChar_typeName t c hc)

theorem isHeadChar_classHead (name : Identifier) : ∀ c ∈ classHead name, isHeadChar c = true :=
  List.forall_mem_append.mpr ⟨List.all_eq_true.mp rfl, isHeadChar_identifier name⟩

theorem isHeadChar_functionHead (name : Identifier) (params : List (Identifier × TypeName))
    (returnType : TypeName) : ∀ c ∈ functionHead name params returnType, isHeadChar c = true := by
  have hparams : ∀ c ∈ paramsChars params, isHeadChar c = true :=
    fun c hc => isHeadChar_of_isParamChar (isParamChar_paramsChars params c hc)
  have hstart : ∀ c ∈ functionStart name, isHeadChar c = true :=
    List.forall_mem_append.mpr ⟨List.all_eq_true.mp rfl,
      List.forall_mem_append.mpr ⟨isHeadChar_identifier name, List.all_eq_true.mp rfl⟩⟩
  exact List.forall_mem_append.mpr ⟨hstart, List.forall_mem_append.mpr ⟨hparams,
    List.forall_mem_append.mpr ⟨List.all_eq_true.mp rfl, isHeadChar_typeName returnType⟩⟩⟩

theorem isHeadChar_macroHead (name : Identifier) (params : List Identifier) :
    ∀ c ∈ macroHead name params, isHeadChar c = true := by
  have hparams : ∀ c ∈ macroParamsChars params, isHeadChar c = true :=
    fun c hc => isHeadChar_of_isParamChar (isParamChar_macroParamsChars params c hc)
  exact List.forall_mem_append.mpr ⟨List.all_eq_true.mp rfl, List.forall_mem_append.mpr
    ⟨isHeadChar_identifier name, List.forall_mem_cons.mpr
      ⟨rfl, List.forall_mem_append.mpr ⟨hparams, List.all_eq_true.mp rfl⟩⟩⟩⟩

theorem isHeadChar_variable (name : Identifier) (type : TypeName) :
    ∀ c ∈ variableStart name ++ type.chars, isHeadChar c = true := by
  have hstart : ∀ c ∈ variableStart name, isHeadChar c = true :=
    List.forall_mem_append.mpr ⟨List.all_eq_true.mp rfl,
      List.forall_mem_append.mpr ⟨isHeadChar_identifier name, List.all_eq_true.mp rfl⟩⟩
  exact List.forall_mem_append.mpr ⟨hstart, isHeadChar_typeName type⟩

end Chars

variable (l : Layout)

/-- The lines of a head and its empty body, from line `n` on. -/
def withBody (n : Nat) (head : List Char) : List (List Char) :=
  if l.closesAtOnce n then [l.indent n ++ (head ++ [' ', '{', ' ', '}'])]
  else [l.indent n ++ (head ++ [' ', '{']), l.indent (n + 1) ++ ['}']]

/-- The lines of declarations, from line `n` on. -/
def lines (n : Nat) : Declarations → List (List Char)
  | .done => []
  | .classDecl name inner more =>
    let innerLines := lines (n + 1) inner
    let last := n + 1 + innerLines.length
    (l.indent n ++ (classHead name ++ [' ', '{'])) :: (innerLines ++ (l.indent last ++ ['}']) ::
      lines (last + 1) more)
  | .functionDecl name params returnType more =>
    let own := l.withBody n (functionHead name params returnType)
    own ++ lines (n + own.length) more
  | .macroDecl name params more =>
    let own := l.withBody n (macroHead name params)
    own ++ lines (n + own.length) more
  | .variableDecl name type more =>
    (l.indent n ++ (variableStart name ++ type.chars)) :: lines (n + 1) more

/-- The text of declarations. -/
def text (declarations : Declarations) : List Char :=
  ['\n'].intercalate (l.lines 1 declarations ++ if l.endsLastLine then [[]] else [])

/-- The parameters of a function that are printed from offset `base` on. -/
def params (base : Nat) : List (Identifier × TypeName) → List Parameter
  | [] => []
  | p :: more =>
    ⟨p.1.text, p.2.text, (base + p.1.chars.length + 1 : Nat)⟩ ::
      params (base + (paramChars p).length + 2) more

/-- The function of the given head. -/
def functionOf (file owner : Option String) (n : Nat) (name : Identifier)
    (params : List (Identifier × TypeName)) (returnType : TypeName) : FunctionDecl where
  name := name.text
  params := Layout.params ((l.indent n).length + (functionStart name).length) params
  returnType := returnType.text
  line := n
  scope := owner
  file := file
  returnTypeOffset :=
    ((l.indent n).length + (functionStart name).length + (paramsChars params).length + 5 : Nat)

/-- The macro of the given head. -/
def macroOf (file : Option String) (n : Nat) (name : Identifier) (params : List Identifier) :
    MacroDecl where
  name := name.text
  params := params.map (·.text)
  line := n
  file := file

/-- The variable of the given name and type. -/
def variableOf (owner : Option String) (n : Nat) (name : Identifier) (type : TypeName) :
    VariableDecl where
  name := name.text
  type := type.text
  line := n
  scope := owner.getD globalScope
  typeOffset := ((l.indent n).length + (variableStart name).length : Nat)

/-- What declarations declare that are printed from line `n` on, inside the class `owner` or at the
top level: each in the list of its kind, in the order of printing. -/
def body (file owner : Option String) (n : Nat) : Declarations → Body ClassDecl
  | .done => {}
  | .classDecl name inner more =>
    let rest := body file owner (n + 1 + (l.lines (n + 1) inner).length + 1) more
    { rest with
      classes := ⟨name.text, n, file, body file (some name.text) (n + 1) inner⟩ :: rest.classes }
  | .functionDecl name params returnType more =>
    let own := l.withBody n (functionHead name params returnType)
    let rest := body file owner (n + own.length) more
    { rest with functions := l.functionOf file owner n name params returnType :: rest.functions }
  | .macroDecl name params more =>
    let own := l.withBody n (macroHead name params)
    let rest := body file owner (n + own.length) more
    { rest with macros := macroOf file n name params :: rest.macros }
  | .variableDecl name type more =>
    let rest := body file owner (n + 1) more
    { rest with vars := l.variableOf owner n name type :: rest.vars }

end Layout

end ScriptLint
