import ScriptLint.Path.Basic

/-!
Directory paths as they are configured: relative or absolute, without single dots, doubled slashes
and a trailing slash. Two dots stay, since what they mean is only known on the disk.
-/

namespace ScriptLint

/-- A tidy path. -/
structure TidyPath where
  /-- What stands before the first name: nothing, or one slash or two for an absolute path. -/
  root : String
  /-- The names, none of them empty or a single dot. -/
  names : List String

/-- Why the sign for a home directory cannot be replaced. -/
inductive HomeError where
  /-- The user whose home is meant is not known. -/
  | unknownUser
deriving DecidableEq

/-- The text of the error. -/
def HomeError.message : HomeError → String
  | .unknownUser => "Could not determine home directory."

namespace TidyPath

/-- The tidy path of a text. -/
def ofText (text : String) : TidyPath where
  root :=
    match Path.leadingSlashes text with
    | 0 => ""
    | 2 => "//"
    | _ => "/"
  names := (Path.components text).filter fun name => name ≠ "" && name ≠ "."

/-- The text of the path. A relative path without names is a single dot. -/
def toText (p : TidyPath) : String :=
  if p.root = "" ∧ p.names = [] then "." else p.root ++ "/".intercalate p.names

/-- The path with a leading tilde replaced by the home directory. A tilde with a name behind it
would mean the home of another user. -/
def expandHome (p home : TidyPath) : Except HomeError TidyPath :=
  match p.root, p.names with
  | "", first :: more =>
    if first = "~" then .ok { home with names := home.names ++ more }
    else if first.toList.head? = some '~' then .error .unknownUser
    else .ok p
  | _, _ => .ok p

end TidyPath

end ScriptLint
