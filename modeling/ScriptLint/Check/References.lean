import ScriptLint.Check.Calls
import ScriptLint.Check.MacroCalls
import ScriptLint.Check.Words

/-!
Uses of names. Three passes go over the lines that hold code: macro calls, words that name classes
or variables, and calls of functions. Literals are blanked before names are looked for.
-/

namespace ScriptLint

namespace References

/-- What is found in the uses of names, macro calls first, then words, then calls. -/
def diagnostics (lines : List Line) (t : SymbolTable) : List Diagnostic :=
  let coded := lines.filter fun line => !line.isBlank
  let names := variableNames t
  coded.flatMap (macroDiagnostics t) ++ coded.flatMap (lineWordDiagnostics t names) ++
    coded.flatMap (lineCallDiagnostics t)

end References

end ScriptLint
