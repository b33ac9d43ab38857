/-!
The words of the language that checks have to know: types and functions that need no declaration,
and words that are no names.
-/

namespace ScriptLint

/-- The types that need no declaration. -/
def builtinTypes : List String :=
  ["int", "string", "float", "file", "void", "bool", "int[]", "string[]", "float[]"]

/-- The functions that need no declaration. -/
def builtinFunctions : List String :=
  ["print", "input", "to_int", "to_string", "to_stringf", "to_intf", "append", "pop", "length",
   "index", "open", "write", "read", "close", "exec", "show"]

/-- Words with a meaning of their own. -/
def keywords : List String :=
  ["if", "else", "loop", "stop", "return", "include", "class", "def", "var", "public", "private",
   "macro", "this", "static", "new", "true", "false", "use"]

/-- Words that are no function though a bracket follows. -/
def callKeywords : List String :=
  ["if", "else", "loop", "static", "var", "return", "stop"]

end ScriptLint
