/-!
Lists of texts in ascending order, texts being compared by their code points.
-/

namespace ScriptLint.Text

/-- The texts in ascending order. -/
def sort (texts : List String) : List String :=
  texts.mergeSort fun a b => !(b < a)

/-- The texts in ascending order, each of them once. -/
def sortUnique (texts : List String) : List String :=
  sort texts.eraseDups

end ScriptLint.Text
