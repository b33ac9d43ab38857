import ScriptLint.Report.Json
import ScriptLint.Symbol.Table

/-!
Symbol tables as JSON values.
-/

namespace ScriptLint

/-- A parameter as a value. -/
def Parameter.toJson (p : Parameter) : JsonValue :=
  .object [("name", .text p.name), ("type", .text p.type), ("offset", .int p.offset)]

/-- A function as a value. -/
def FunctionDecl.toJson (f : FunctionDecl) : JsonValue :=
  .object [
    ("name", .text f.name),
    ("params", .array (f.params.map (·.toJson))),
    ("return_type", .text f.returnType),
    ("line", .int f.line),
    ("scope", .ofText? f.scope),
    ("source_file", .ofText? f.file),
    ("class_name", .ofText? f.owner),
    ("return_type_offset", .int f.returnTypeOffset),
    ("access_modifier", .ofText? f.access)]

/-- A macro as a value. -/
def MacroDecl.toJson (m : MacroDecl) : JsonValue :=
  .object [
    ("name", .text m.name),
    ("params", .array (m.params.map .text)),
    ("line", .int m.line),
    ("source_file", .ofText? m.file)]

/-- A variable as a value. -/
def VariableDecl.toJson (v : VariableDecl) : JsonValue :=
  .object [
    ("name", .text v.name),
    ("type", .text v.type),
    ("line", .int v.line),
    ("scope", .text v.scope),
    ("type_offset", .int v.typeOffset)]

mutual

/-- A class as a value. -/
def ClassDecl.toJson : ClassDecl → JsonValue
  | ⟨name, line, file, ⟨classes, functions, vars, macros⟩⟩ =>
    .object [
      ("name", .text name),
      ("line", .int line),
      ("source_file", .ofText? file),
      ("members", .object [
        ("classes", .array (ClassDecl.allToJson classes)),
        ("functions", .array (functions.map (·.toJson))),
        ("variables", .array (vars.map (·.toJson))),
        ("macros", .array (macros.map (·.toJson)))])]

/-- Classes as values. -/
def ClassDecl.allToJson : List ClassDecl → List JsonValue
  | [] => []
  | c :: cs => c.toJson :: ClassDecl.allToJson cs

end

/-- An imported class as a value. -/
def ImportedClass.toJson (c : ImportedClass) : JsonValue :=
  .object [
    ("name", .text c.name),
    ("source_file", .text c.file),
    ("is_inner", .bool c.isInner),
    ("parent_class", .ofText? c.parent)]

/-- Imported symbols as a value. -/
def Imports.toJson (i : Imports) : JsonValue :=
  .object [
    ("classes", .array (i.classes.map (·.toJson))),
    ("functions", .array (i.functions.map (·.toJson))),
    ("macros", .array (i.macros.map (·.toJson)))]

/-- An include as a value. -/
def Include.toJson (i : Include) : JsonValue :=
  .object [
    ("path", .text i.path),
    ("alias", .text i.name),
    ("resolved_file", .ofText? i.file),
    ("kind", .text i.kind.name),
    ("line", .int i.line),
    ("parent_class", .ofText? i.parent)]

/-- A symbol table as a value. -/
def SymbolTable.toJson (t : SymbolTable) : JsonValue :=
  .object [
    ("file", .ofText? t.file),
    ("classes", .array (ClassDecl.allToJson t.body.classes)),
    ("functions", .array (t.body.functions.map (·.toJson))),
    ("macros", .array (t.body.macros.map (·.toJson))),
    ("variables", .array (t.body.vars.map (·.toJson))),
    ("includes", .array (t.includes.map (·.toJson))),
    ("imported_symbols", t.imports.toJson)]

end ScriptLint
