import ScriptLint.Disk
import ScriptLint.Text.Hex
import ScriptLint.Text.Utf8

/-!
Reading a source file as text.

A file is read in chunks, and a chunk is only read while lines are still wanted. What follows the
last wanted line is therefore no obstacle unless it lies in a chunk that was read. A line ends at a
line feed, at a carriage return, or at the pair of both, and each of them is read as a line feed.
A file that is missing, or that holds no source text, is an error of the reading itself; where the
system refuses to let an existing file be read, its own error is passed on.
-/

namespace ScriptLint

/-- Why a file cannot be read as source text. -/
inductive SourceError where
  /-- There is no such file. -/
  | notFound (path : String)
  /-- There is a null byte near its start. -/
  | binary (path : String)
  /-- It is not text. -/
  | undecodable (path : String) (fault : Text.Utf8.Fault)
  /-- The system does not let it be read. -/
  | refused (path : String) (refusal : Refusal)
deriving DecidableEq

/-- The text of a reason. -/
def Text.Utf8.Reason.message : Text.Utf8.Reason → String
  | .invalidStart => "invalid start byte"
  | .invalidContinuation => "invalid continuation byte"
  | .unexpectedEnd => "unexpected end of data"

/-- The text of a fault. A single byte is shown, several are counted. -/
def Text.Utf8.Fault.message (f : Text.Utf8.Fault) : String :=
  let place :=
    if f.length = 1 then
      "byte 0x" ++ String.ofList (Text.hexDigits 2 f.byte.toNat) ++ " in position " ++
        toString f.offset
    else "bytes in position " ++ toString f.offset ++ "-" ++ toString (f.offset + f.length - 1)
  "'utf-8' codec can't decode " ++ place ++ ": " ++ f.reason.message

/-- The text of the error. -/
def SourceError.message : SourceError → String
  | .notFound path => "No such file: " ++ path
  | .binary path => path ++ " looks like a binary file"
  | .undecodable path fault => path ++ " is not valid UTF-8: " ++ fault.message
  | .refused path refusal => refusal.message path

/-- Whether the error is one of the reading itself, and not one of the system that is passed on. -/
def SourceError.isLoadError : SourceError → Bool
  | .notFound _ | .binary _ | .undecodable _ _ => true
  | .refused _ _ => false

namespace SourceFile

/-- The number of bytes in a chunk, the last one excepted. -/
def chunkSize : Nat := 8192

/-- The chunks of a file. -/
def chunks (bytes : List UInt8) : List (List UInt8) :=
  if bytes = [] then []
  else bytes.take chunkSize :: chunks (bytes.drop chunkSize)
termination_by bytes.length
decreasing_by
  rename_i h
  have hpos : 0 < bytes.length := List.length_pos_iff.mpr h
  rw [List.length_drop, chunkSize]
  omega

/-- The text with every line end made a line feed. -/
def unifyLineEnds : List Char → List Char
  | [] => []
  | '\r' :: '\n' :: cs => '\n' :: unifyLineEnds cs
  | c :: cs => (if c = '\r' then '\n' else c) :: unifyLineEnds cs

/-- The number of line ends that are sure to be there. A carriage return at the end is none, since a
line feed may follow it. -/
def lineEnds (text : List Char) : Nat :=
  let settled := if text.getLast? = some '\r' then text.dropLast else text
  (unifyLineEnds settled).count '\n'

/-- The first lines of a text, each with its line feed. -/
def firstLines : Nat → List Char → List Char
  | 0, _ => []
  | _ + 1, [] => []
  | n + 1, c :: cs => if c = '\n' then c :: firstLines n cs else c :: firstLines (n + 1) cs

/-- Decodes chunks until more than `maxLines` lines are complete or all chunks are read. `text` is
what was decoded before, and `place` where that reading stopped. -/
def decode (maxLines : Nat) (text : List Char) (place : Text.Utf8.Place) :
    List (List UInt8) → Except Text.Utf8.Fault (List Char)
  | [] =>
    match Text.Utf8.endFault? place with
    | some fault => .error fault
    | none => .ok text
  | chunk :: more => do
    let (chars, next) ← Text.Utf8.read place place.held chunk
    if maxLines < lineEnds (text ++ chars) then return text ++ chars
    else decode maxLines (text ++ chars) next more

end SourceFile

/-- The first lines of a source file, at most `maxLines` of them. -/
def Disk.readSource (d : Disk) (path : String) (maxLines : Int) : Except SourceError (List Char) :=
  match d.bytes? path with
  | none => .error ((d.refusal? path).elim (.notFound path) (.refused path))
  | some bytes =>
    if (bytes.take SourceFile.chunkSize).contains 0 then .error (.binary path)
    else
      match SourceFile.decode maxLines.toNat [] .between (SourceFile.chunks bytes) with
      | .error fault => .error (.undecodable path fault)
      | .ok text => .ok (SourceFile.firstLines maxLines.toNat (SourceFile.unifyLineEnds text))

end ScriptLint
