import ScriptLint.Text.Pieces

/-!
Absolute paths in normal form, and the text of paths.

A path is read from the left: a name goes one level down, two dots go one level up and stay where
they are at the root, and everything else changes nothing. A path that starts with exactly two
slashes is kept apart from one that starts with a single slash.
-/

namespace ScriptLint

/-- A name of a directory entry: no empty text, no slash in it, and neither of the two names that
stand for a directory itself and for the one around it. -/
def IsEntryName (name : String) : Prop :=
  name ≠ "" ∧ name ≠ "." ∧ name ≠ ".." ∧ '/' ∉ name.toList

instance (name : String) : Decidable (IsEntryName name) :=
  inferInstanceAs (Decidable (_ ∧ _))

/-- An absolute path in normal form. -/
structure Path where
  /-- Whether it starts with two slashes. -/
  doubled : Bool := false
  /-- The names from the root down. -/
  names : List String := []
  /-- Each of them is the name of an entry. -/
  isEntryName_of_mem : ∀ name ∈ names, IsEntryName name := by simp
deriving DecidableEq

namespace Path

/-- The path one level down. -/
def child (p : Path) (name : String) (h : IsEntryName name) : Path where
  doubled := p.doubled
  names := p.names ++ [name]
  isEntryName_of_mem := by
    intro n hn
    rcases List.mem_append.mp hn with hn | hn
    · exact p.isEntryName_of_mem n hn
    · rw [List.mem_singleton.mp hn]
      exact h

/-- The path one level up. The root is its own parent. -/
def parent (p : Path) : Path where
  doubled := p.doubled
  names := p.names.dropLast
  isEntryName_of_mem n hn := p.isEntryName_of_mem n ((List.dropLast_sublist _).subset hn)

/-- Where one component of a path leads. -/
def enter (p : Path) (component : String) : Path :=
  if h : IsEntryName component then p.child component h
  else if component = ".." then p.parent
  else p

/-- The components of the text of a path, empty ones included. -/
def components (text : String) : List String :=
  (Text.pieces '/' text.toList).map String.ofList

/-- The number of slashes at the start of the text. -/
def leadingSlashes (text : String) : Nat :=
  (text.toList.takeWhile (· == '/')).length

/-- The absolute path that a text means when relative paths start at `base`. -/
def resolve (base : Path) (text : String) : Path :=
  let start : Path :=
    match leadingSlashes text with
    | 0 => base
    | 2 => { doubled := true }
    | _ => {}
  (components text).foldl enter start

/-- The text of the path. -/
def toText (p : Path) : String :=
  (if p.doubled then "//" else "/") ++ "/".intercalate p.names

end Path

/-- The text of the path `part` as seen from the directory `directory`. An absolute part stands for
itself. -/
def joinPath (directory part : String) : String :=
  if part.toList.head? = some '/' then part
  else if directory = "" ∨ directory.toList.getLast? = some '/' then directory ++ part
  else directory ++ "/" ++ part

/-- The text of a path given by its parts from left to right. -/
def joinPaths : List String → String
  | [] => ""
  | part :: parts => parts.foldl joinPath part

/-- What stands behind the last slash of the text of a path. -/
def fileName (text : String) : String :=
  String.ofList (text.toList.reverse.takeWhile (· != '/')).reverse

/-- The name of a file without its extension: what stands before the last dot. Dots at the start of
the name begin no extension. -/
def stem (name : String) : String :=
  let dots := name.toList.takeWhile (· == '.')
  let body := name.toList.dropWhile (· == '.')
  if body.contains '.' then
    String.ofList (dots ++ ((body.reverse.dropWhile (· != '.')).drop 1).reverse)
  else name

end ScriptLint
