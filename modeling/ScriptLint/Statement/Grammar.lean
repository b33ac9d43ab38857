import ScriptLint.Statement.Basic
import ScriptLint.Text.Pieces
import ScriptLint.Text.WordChar

/-!
The grammar of statements. Each form has a recogniser, and the first that succeeds decides what a
line says. A form is matched at the start of the line, behind blanks, and need not reach its end.
-/

namespace ScriptLint

open Text (Cursor Token)

/-- The word that introduces a declaration. -/
def DeclarationKind.word : DeclarationKind → String
  | .functionDecl => "def"
  | .classDecl => "class"
  | .macroDecl => "macro"
  | .variableDecl => "var"

/-- The kinds of declaration, in the order in which their words are tried. -/
def DeclarationKind.all : List DeclarationKind :=
  [.functionDecl, .classDecl, .macroDecl, .variableDecl]

namespace Grammar

/-- The words that may stand before a function or a variable. -/
def modifierWords : List String := ["public", "private", "static"]

/-- The modifiers that speak of access. -/
def accessWords : List String := ["public", "private"]

/-- Reads one modifier and the blanks behind it. -/
def modifier? (c : Cursor) : Option (Token × Cursor) :=
  modifierWords.findSome? fun w =>
    (c.word? w).bind fun next => next.blanks?.map fun last => (c.token w.length, last)

theorem length_rest_lt_of_modifier? {c d : Cursor} {t : Token} (h : modifier? c = some (t, d)) :
    d.rest.length < c.rest.length := by
  obtain ⟨w, _, hw⟩ := List.exists_of_findSome?_eq_some h
  obtain ⟨next, hnext, hlast⟩ := Option.bind_eq_some_iff.mp hw
  obtain ⟨last, hblanks, heq⟩ := Option.map_eq_some_iff.mp hlast
  cases heq
  exact Nat.lt_of_lt_of_le (Cursor.length_rest_lt_of_blanks? hblanks)
    (Cursor.length_rest_le_of_word? hnext)

/-- Reads modifiers as long as there are any. -/
def modifiers (c : Cursor) : List Token × Cursor :=
  match _ : modifier? c with
  | none => ([], c)
  | some (first, next) =>
    let (more, last) := modifiers next
    (first :: more, last)
termination_by c.rest.length
decreasing_by exact length_rest_lt_of_modifier? (by assumption)

/-- The first modifier that speaks of access. -/
def access? (mods : List Token) : Option Token :=
  mods.find? fun m => accessWords.contains m.text

/-- Reads a parameter: a name, blanks and a type. -/
def parameter? (c : Cursor) : Option ((Token × Token) × Cursor) := do
  let (name, c) ← c.name?
  let c ← c.blanks?
  let (type, c) ← c.typeName?
  return ((name, type), c)

/-- The typed parameters in a text that starts at offset `base`. What is not of the form of a
parameter is passed over. -/
def parameters (text : List Char) (base : Int) : List Parameter :=
  (Text.occurrences parameter? text).map fun (_, name, type) =>
    ⟨name.text, type.text, base + type.offset⟩

/-- The parameters of a macro: the pieces between the commas, trimmed, without the empty ones. -/
def macroParameters (text : List Char) : List String :=
  ((Text.pieces ',' text).map Text.trim).filterMap fun p =>
    if p.isEmpty then none else some (String.ofList p)

/-- Reads the dotted path of an include line: a name, more name characters and dots, and at most one
macro name behind an at sign. -/
def includePath? (c : Cursor) : Option (Token × Cursor) := do
  let (_, _) ← c.name?
  let dotted := c.advance (c.run fun x => Text.isNameChar x || x == '.')
  let last := ((dotted.word? "@").bind Cursor.name?).elim dotted (·.2)
  return (c.token (last.offset - c.offset), last)

/-- Recognises an include line. -/
def inclusion? (c : Cursor) : Option Statement := do
  let c ← c.skipBlanks.word? "include"
  let c ← c.blanks?
  let (path, _) ← includePath? c
  return .inclusion path

/-- Recognises the head of a class. -/
def classHead? (c : Cursor) : Option Statement := do
  let c ← c.skipBlanks.word? "class"
  let c ← c.blanks?
  let (name, _) ← c.name?
  return .classHead name

/-- Recognises the head of a function. -/
def functionHead? (c : Cursor) : Option Statement := do
  let (mods, c) := modifiers c.skipBlanks
  let c ← c.word? "def"
  let c ← c.blanks?
  let (name, c) ← c.name?
  let c ← c.skipBlanks.word? "("
  let (params, d) ← c.upTo? ')'
  let d ← d.skipBlanks.word? "->"
  let (returnType, _) ← d.skipBlanks.typeName?
  return .functionHead ⟨access? mods, name, parameters params c.offset, returnType⟩

/-- Recognises the head of a macro. -/
def macroHead? (c : Cursor) : Option Statement := do
  let c ← c.skipBlanks.word? "macro"
  let c ← c.blanks?
  let (name, c) ← c.name?
  let c ← c.skipBlanks.word? "("
  let (params, _) ← c.upTo? ')'
  return .macroHead name (macroParameters params)

/-- Recognises the declaration of a variable. -/
def variableDecl? (c : Cursor) : Option Statement := do
  let (mods, c) := modifiers c.skipBlanks
  let c ← c.word? "var"
  let c ← c.blanks?
  let (name, c) ← c.name?
  let c ← c.blanks?
  let (type, _) ← c.typeName?
  return .variableDecl (access? mods) name type

/-- Recognises a line that starts like a declaration: modifiers, and a word that introduces one. -/
def malformed? (c : Cursor) : Option Statement := do
  let (_, c) := modifiers c.skipBlanks
  let kind ← DeclarationKind.all.find? fun kind =>
    (c.word? kind.word).any fun last => !last.rest.head?.any Text.isWordChar
  return .malformed kind

/-- Recognises a condition, behind the end of the body before it and behind an alternative. -/
def conditional? (c : Cursor) : Option Statement := do
  let c := c.skipBlanks
  let c := (c.word? "\x7d").elim c Cursor.skipBlanks
  let c := ((c.word? "else").bind Cursor.blanks?).getD c
  let c ← c.word? "if"
  let c ← c.skipBlanks.word? "("
  let _ ← c.upTo? ')'
  return .conditional

end Grammar

/-- What a line of comment-free text says. -/
def Statement.ofText (text : List Char) : Statement :=
  let recognisers := [Grammar.inclusion?, Grammar.classHead?, Grammar.functionHead?,
    Grammar.macroHead?, Grammar.variableDecl?, Grammar.malformed?, Grammar.conditional?]
  (recognisers.findSome? fun recognise => recognise (Cursor.start text)).getD .other

/-- Whether the text opens a brace. -/
def opensBrace (text : List Char) : Bool :=
  text.contains '{'

/-- Whether the text opens a brace and closes one behind it. -/
def isOneLiner (text : List Char) : Bool :=
  (text.dropWhile (· != '{')).contains '}'

/-- The words that make the names of a line declarations, with the space behind them. -/
def declarationWords : List String := ["var ", "def ", "class ", "include "]

/-- Whether the text, trimmed, starts with a word that makes its names declarations. -/
def isDeclarationLine (text : List Char) : Bool :=
  declarationWords.any fun w => w.toList.isPrefixOf (Text.trim text)

end ScriptLint
