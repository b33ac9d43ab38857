import ScriptLint.Text.Hex

/-!
JSON values and their text. The text is indented, a value is on a line of its own, and everything
but the printable characters of ASCII is escaped.
-/

namespace ScriptLint

/-- A JSON value without fractions. Fields keep their order. -/
inductive JsonValue where
  /-- The value that stands for nothing. -/
  | null
  /-- A truth value. -/
  | bool (b : Bool)
  /-- An integer. -/
  | int (n : Int)
  /-- A text. -/
  | text (s : String)
  /-- A list of values. -/
  | array (items : List JsonValue)
  /-- A list of named values. -/
  | object (fields : List (String × JsonValue))

namespace JsonValue

/-- A text, or nothing. -/
def ofText? : Option String → JsonValue
  | none => .null
  | some s => .text s

/-- The escape of a number below 65536: four hexadecimal digits. -/
def escapeUnit (n : Nat) : List Char :=
  '\\' :: 'u' :: Text.hexDigits 4 n

/-- The form of a character within quotes. A character beyond the first 65536 is escaped as two
units. -/
def escapeChar (c : Char) : List Char :=
  let n := c.toNat
  if c = '\x22' ∨ c = '\\' then ['\\', c]
  else if c = '\n' then ['\\', 'n']
  else if c = '\r' then ['\\', 'r']
  else if c = '\t' then ['\\', 't']
  else if c = '\x08' then ['\\', 'b']
  else if c = '\x0c' then ['\\', 'f']
  else if 0x20 ≤ n ∧ n < 0x7F then [c]
  else if n < 0x10000 then escapeUnit n
  else
    escapeUnit (0xD800 + (n - 0x10000) / 0x400) ++ escapeUnit (0xDC00 + (n - 0x10000) % 0x400)

/-- A text within quotes. -/
def quote (s : String) : String :=
  "\x22" ++ String.ofList (s.toList.flatMap escapeChar) ++ "\x22"

/-- A line end and the blanks at the start of the next line. -/
def newLine (indent : Nat) : String :=
  "\n" ++ String.ofList (List.replicate indent ' ')

mutual

/-- The text of a value, where lines after the first start with `indent` blanks. -/
def render (indent : Nat) : JsonValue → String
  | .null => "null"
  | .bool b => if b then "true" else "false"
  | .int n => toString n
  | .text s => quote s
  | .array [] => "[]"
  | .array (item :: items) =>
    "[" ++ newLine (indent + 2) ++ item.render (indent + 2) ++ renderItems (indent + 2) items ++
      newLine indent ++ "]"
  | .object [] => "\x7b\x7d"
  | .object ((name, value) :: fields) =>
    "\x7b" ++ newLine (indent + 2) ++ quote name ++ ": " ++ value.render (indent + 2) ++
      renderFields (indent + 2) fields ++ newLine indent ++ "\x7d"

/-- The text of the items after the first. -/
def renderItems (indent : Nat) : List JsonValue → String
  | [] => ""
  | item :: items => "," ++ newLine indent ++ item.render indent ++ renderItems indent items

/-- The text of the fields after the first. -/
def renderFields (indent : Nat) : List (String × JsonValue) → String
  | [] => ""
  | (name, value) :: fields =>
    "," ++ newLine indent ++ quote name ++ ": " ++ value.render indent ++ renderFields indent fields

end

end JsonValue

end ScriptLint
