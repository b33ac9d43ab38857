import ScriptLint.Path.Basic
import ScriptLint.Text.Quoted

/-!
The files that an analysis can see, and how a path finds them.

A path is followed component by component, and each directory on its way has to exist, also where
two dots lead out of it again. That is why a path can fail to find a file that its normal form
finds. That a file is found does not mean that it can be read: the system can refuse to open it, or
to give out what is in it.
-/

namespace ScriptLint

/-- Why the system does not let an existing file be read. -/
inductive Refusal where
  /-- The file cannot be opened. -/
  | unopened (reason : String)
  /-- It can be opened, but what is in it cannot be had. -/
  | unread (reason : String)
deriving DecidableEq

/-- The text of the error. The path is named only where the file is opened. -/
def Refusal.message (path : String) : Refusal → String
  | .unopened reason => reason ++ ": " ++ Text.quoted path
  | .unread reason => reason

/-- A tree of directories and files. The root directory always exists. -/
structure Disk where
  /-- The directory at which relative paths start. -/
  workingDirectory : Path
  /-- The directories, each by its names from the root down. -/
  directories : List (List String) := []
  /-- The files with their bytes, each by its names from the root down. -/
  files : List (List String × List UInt8) := []
  /-- The files that the system does not let be read. -/
  refusals : List (List String × Refusal) := []

/-- What a path can find. -/
inductive DiskEntry where
  /-- A directory. -/
  | directory
  /-- A file with its bytes, and why these cannot be read, if they cannot. -/
  | file (bytes : List UInt8) (refusal : Option Refusal)

/-- Why a path finds nothing. -/
inductive PathFault where
  /-- There is no such entry. -/
  | missing
  /-- The path, or a name that was looked for on its way, is too long. -/
  | tooLong
deriving DecidableEq

namespace Disk

/-- The greatest number of bytes in the text of a path. -/
def pathLimit : Nat := 4095

/-- The greatest number of bytes in the name of an entry. -/
def nameLimit : Nat := 255

/-- Whether the directory exists. -/
def hasDirectory (d : Disk) (names : List String) : Bool :=
  names = [] || d.directories.contains names

/-- Follows components from the existing directory `here`. -/
def follow (d : Disk) (here : List String) : List String → Except PathFault DiskEntry
  | [] => .ok .directory
  | component :: more =>
    if component = "" ∨ component = "." then d.follow here more
    else if component = ".." then d.follow here.dropLast more
    else if nameLimit < component.utf8ByteSize then .error .tooLong
    else if d.hasDirectory (here ++ [component]) then d.follow (here ++ [component]) more
    else
      match d.files.lookup (here ++ [component]) with
      | some bytes =>
        if more = [] then .ok (.file bytes (d.refusals.lookup (here ++ [component])))
        else .error .missing
      | none => .error .missing

/-- What the text of a path finds. The empty text and one with a null character find nothing. -/
def entry (d : Disk) (path : String) : Except PathFault DiskEntry :=
  if path = "" ∨ path.toList.contains '\x00' then .error .missing
  else if pathLimit < path.utf8ByteSize then .error .tooLong
  else if Path.leadingSlashes path = 0 then
    d.follow d.workingDirectory.names (Path.components path)
  else d.follow [] (Path.components path)

/-- The bytes of the file at a path, if it can be read. -/
def bytes? (d : Disk) (path : String) : Option (List UInt8) :=
  match d.entry path with
  | .ok (.file bytes none) => some bytes
  | _ => none

/-- Why the file at a path cannot be read, if there is one that cannot. -/
def refusal? (d : Disk) (path : String) : Option Refusal :=
  match d.entry path with
  | .ok (.file _ refusal) => refusal
  | _ => none

/-- Whether the path finds a file, be it one that can be read or not. -/
def isFile (d : Disk) (path : String) : Bool :=
  match d.entry path with
  | .ok (.file _ _) => true
  | _ => false

/-- The absolute path that a text means here. -/
def absolute (d : Disk) (text : String) : Path :=
  d.workingDirectory.resolve text

/-- Makes a directory and those around it. -/
def makeDirectory (d : Disk) (path : Path) : Disk :=
  let chain := (List.range (path.names.length + 1)).map fun depth => path.names.take depth
  { d with directories := d.directories ++ chain.filter fun names => !d.hasDirectory names }

/-- Removes a file, or a directory with everything in it. -/
def remove (d : Disk) (path : Path) : Disk :=
  { d with
    directories := d.directories.filter fun names => !path.names.isPrefixOf names
    files := d.files.filter fun (names, _) => !path.names.isPrefixOf names
    refusals := d.refusals.filter fun (names, _) => !path.names.isPrefixOf names }

/-- Writes a file, and makes the directories around it. -/
def write (d : Disk) (path : Path) (bytes : List UInt8) : Disk :=
  let cleared := (d.remove path).makeDirectory path.parent
  { cleared with files := cleared.files ++ [(path.names, bytes)] }

end Disk

end ScriptLint
