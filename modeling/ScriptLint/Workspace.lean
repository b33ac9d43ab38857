import ScriptLint.Analysis
import ScriptLint.Text.Order

/-!
Open documents and their analyses, as an editor sees them.

A document is known by a key, the normal form of its path with forward slashes, and keeps its place
among the others when it is analysed again. Its text is either given, and then remembered, or read
from the disk at each analysis.
-/

namespace ScriptLint

/-- The entries with the value of a key replaced, or with a new entry at the end. -/
def setEntry {α : Type} (entries : List (String × α)) (key : String) (value : α) :
    List (String × α) :=
  if entries.any (·.1 = key) then
    entries.map fun entry => if entry.1 = key then (key, value) else entry
  else entries ++ [(key, value)]

/-- The entries without that of a key. -/
def removeEntry {α : Type} (entries : List (String × α)) (key : String) : List (String × α) :=
  entries.filter (·.1 ≠ key)

/-- The key of the document at a path. -/
def documentKey (disk : Disk) (path : String) : String :=
  String.ofList ((disk.absolute path).toText.toList.map fun c => if c = '\\' then '/' else c)

/-- The open documents under one configuration. -/
structure Workspace where
  /-- The configuration. -/
  config : Config
  /-- The latest analysis of each open document. -/
  documents : List (String × Analysis) := []
  /-- What is known of the text of each document: the text itself, or that it is on the disk. -/
  texts : List (String × Option (List Char)) := []

namespace Workspace

/-- Remembers where the text of a document comes from. -/
def remember (w : Workspace) (key : String) (text : Option (List Char)) : Workspace :=
  { w with texts := setEntry w.texts key text }

/-- Keeps an analysis in place of the one before it. -/
def store (w : Workspace) (key : String) (a : Analysis) : Workspace :=
  { w with documents := setEntry w.documents key a }

/-- Analyses a document from a given text, or else from the disk. -/
def analyse (w : Workspace) (disk : Disk) (path : String) :
    Option (List Char) → Except SourceError Analysis
  | some text => .ok (analyze disk w.config (some path) text)
  | none => analyzeFile disk w.config path

/-- Analyses the document of a key and keeps the analysis. If the file cannot be read, the one
before stays. -/
def refresh (w : Workspace) (disk : Disk) (key path : String) (text : Option (List Char)) :
    Except SourceError Analysis × Workspace :=
  match w.analyse disk path text with
  | .error e => (.error e, w)
  | .ok a => (.ok a, w.store key a)

/-- Opens a document with a given text, or else with its text on the disk. -/
def openDocument (w : Workspace) (disk : Disk) (path : String) (text : Option (List Char)) :
    Except SourceError Analysis × Workspace :=
  let key := documentKey disk path
  (w.remember key text).refresh disk key path text

/-- Gives a document a new text, and opens it if it is not open. -/
def change (w : Workspace) (disk : Disk) (path : String) (text : List Char) :
    Analysis × Workspace :=
  let key := documentKey disk path
  let a := analyze disk w.config (some path) text
  (a, (w.remember key (some text)).store key a)

/-- Closes a document, and tells whether it was open. -/
def close (w : Workspace) (disk : Disk) (path : String) : Bool × Workspace :=
  let key := documentKey disk path
  (w.documents.any (·.1 = key),
    { w with documents := removeEntry w.documents key, texts := removeEntry w.texts key })

/-- Analyses the documents of the given keys again, one after the other, up to the first whose file
cannot be read. -/
def refreshEach (w : Workspace) (disk : Disk) : List String → Except SourceError Unit × Workspace
  | [] => (.ok (), w)
  | key :: keys =>
    match w.refresh disk key key ((w.texts.lookup key).join) with
    | (.error e, w) => (.error e, w)
    | (.ok _, w) => w.refreshEach disk keys

/-- Analyses all open documents again, and tells how many there are. -/
def refreshAll (w : Workspace) (disk : Disk) : Except SourceError Nat × Workspace :=
  let (outcome, w) := w.refreshEach disk (w.documents.map (·.1))
  (outcome.map fun _ => w.documents.length, w)

/-- Changes the configuration and analyses all open documents again. -/
def reconfigure (w : Workspace) (disk : Disk) (config : Config) :
    Except SourceError Nat × Workspace :=
  { w with config := config }.refreshAll disk

/-- The latest analysis of a document. -/
def get? (w : Workspace) (disk : Disk) (path : String) : Option Analysis :=
  w.documents.lookup (documentKey disk path)

/-- Whether a document is open. -/
def isOpen (w : Workspace) (disk : Disk) (path : String) : Bool :=
  (w.get? disk path).isSome

/-- The keys of the open documents in ascending order. -/
def openDocuments (w : Workspace) : List String :=
  Text.sort (w.documents.map (·.1))

end Workspace

end ScriptLint
