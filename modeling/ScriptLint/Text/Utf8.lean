/-!
UTF-8, read byte by byte. The first byte of a character says how many more it has and within which
bounds each must lie, so that a character has one form only and a surrogate has none.

The reading can stop at any byte and go on later. Where a byte is wrong, the fault covers the bytes
of the unfinished character, or the byte itself where no character can start with it. A fault is
told at the byte that is wrong, with one exception: the two bytes that open a surrogate are held
until a third byte or the end of the text comes.
-/

namespace ScriptLint.Text.Utf8

/-- What is wrong with some bytes. -/
inductive Reason where
  /-- No character starts with the byte. -/
  | invalidStart
  /-- The next byte does not go on with the character. -/
  | invalidContinuation
  /-- The text ends within the character. -/
  | unexpectedEnd
deriving DecidableEq

/-- Bytes that are not text. -/
structure Fault where
  /-- The first of the bytes. -/
  byte : UInt8
  /-- How many bytes come before it in the piece that was read. -/
  offset : Nat
  /-- The number of the bytes. -/
  length : Nat
  /-- What is wrong with them. -/
  reason : Reason
deriving DecidableEq

/-- The bounds of the bytes that follow a first byte, or `none` if no character starts with it. -/
def followers? (first : UInt8) : Option (List (UInt8 × UInt8)) :=
  if first < 0x80 then some []
  else if first < 0xC2 then none
  else if first < 0xE0 then some [(0x80, 0xBF)]
  else if first = 0xE0 then some [(0xA0, 0xBF), (0x80, 0xBF)]
  else if first = 0xED then some [(0x80, 0x9F), (0x80, 0xBF)]
  else if first < 0xF0 then some [(0x80, 0xBF), (0x80, 0xBF)]
  else if first = 0xF0 then some [(0x90, 0xBF), (0x80, 0xBF), (0x80, 0xBF)]
  else if first < 0xF4 then some [(0x80, 0xBF), (0x80, 0xBF), (0x80, 0xBF)]
  else if first = 0xF4 then some [(0x80, 0x8F), (0x80, 0xBF), (0x80, 0xBF)]
  else none

/-- The character that a first byte and the bytes behind it spell. -/
def charOf (first : UInt8) (others : List UInt8) : Char :=
  let lead :=
    match others.length with
    | 0 => first.toNat
    | 1 => first.toNat % 0x20
    | 2 => first.toNat % 0x10
    | _ => first.toNat % 0x08
  Char.ofNat (others.foldl (fun n b => n * 0x40 + b.toNat % 0x40) lead)

/-- An unfinished character. -/
structure Unfinished where
  /-- Its first byte. -/
  first : UInt8
  /-- The bytes behind the first, in their order. -/
  others : List UInt8
  /-- The bounds of the next byte. -/
  next : UInt8 × UInt8
  /-- The bounds of those behind it. -/
  later : List (UInt8 × UInt8)

/-- The first byte of every surrogate. -/
def surrogateLead : UInt8 := 0xED

/-- Whether the byte makes the unfinished character a surrogate. -/
def Unfinished.opensSurrogate (u : Unfinished) (byte : UInt8) : Bool :=
  u.first = surrogateLead && u.others.isEmpty && 0xA0 ≤ byte && byte ≤ 0xBF

/-- Where the reading stands between two bytes. -/
inductive Place where
  /-- Between two characters. -/
  | between
  /-- Within a character. -/
  | within (u : Unfinished)
  /-- Behind the first two bytes of a surrogate. -/
  | surrogate

namespace Place

/-- The number of bytes behind the last finished character. -/
def held : Place → Nat
  | .between => 0
  | .within u => 1 + u.others.length
  | .surrogate => 2

/-- The fault where nothing goes on with the held bytes, before which there are `offset` bytes. The
second byte of a surrogate does not go on with the first, so the fault covers that one. -/
def fault? (offset : Nat) (reason : Reason) : Place → Option Fault
  | .between => none
  | .within u => some ⟨u.first, offset, 1 + u.others.length, reason⟩
  | .surrogate => some ⟨surrogateLead, offset, 1, .invalidContinuation⟩

end Place

/-- Reads bytes from where an earlier reading stopped. Returns the characters finished and where the
reading stands. `offset` counts the bytes before in the piece that is read. -/
def read (place : Place) (offset : Nat) : List UInt8 → Except Fault (List Char × Place)
  | [] => .ok ([], place)
  | byte :: bytes =>
    match place with
    | .between =>
      match followers? byte with
      | none => .error ⟨byte, offset, 1, .invalidStart⟩
      | some [] => (read .between (offset + 1) bytes).map fun (cs, p) => (charOf byte [] :: cs, p)
      | some (next :: later) => read (.within ⟨byte, [], next, later⟩) (offset + 1) bytes
    | .within u =>
      if u.next.1 ≤ byte ∧ byte ≤ u.next.2 then
        let others := u.others ++ [byte]
        match u.later with
        | [] =>
          (read .between (offset + 1) bytes).map fun (cs, p) => (charOf u.first others :: cs, p)
        | next :: later => read (.within ⟨u.first, others, next, later⟩) (offset + 1) bytes
      else if u.opensSurrogate byte then read .surrogate (offset + 1) bytes
      else .error ⟨u.first, offset - place.held, place.held, .invalidContinuation⟩
    | .surrogate => .error ⟨surrogateLead, offset - place.held, 1, .invalidContinuation⟩

/-- The fault at the end of a text. Only the held bytes are left to be read there, so they start the
piece. -/
def endFault? (place : Place) : Option Fault :=
  place.fault? 0 .unexpectedEnd

end ScriptLint.Text.Utf8
