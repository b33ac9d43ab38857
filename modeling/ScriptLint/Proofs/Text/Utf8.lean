import Mathlib.Data.List.Forall2
import Mathlib.Tactic.SplitIfs
import ScriptLint.Text.Utf8

/-! Reading UTF-8 undoes writing it, and reads nothing but what can be written. The reading is
taken one byte at a time, so that it can stop behind any byte, within a character too, and go on
from there as if it had not stopped. -/
namespace ScriptLint.Text.Utf8

/-- The bytes of a text. -/
def encode (text : List Char) : List UInt8 :=
  (String.ofList text).toUTF8.data.toList

theorem encode_eq_flatMap (text : List Char) :
    encode text = text.flatMap String.utf8EncodeChar := by
  rw [encode, String.toUTF8_eq_toByteArray, String.toByteArray_ofList, List.utf8Encode,
    List.toList_data_toByteArray]

/-- Reads one byte: the character that it finishes, if it finishes one, and where it leads. There is
nothing where the byte is wrong. -/
def step? (place : Place) (byte : UInt8) : Option (Option Char × Place) :=
  match place with
  | .between =>
    match followers? byte with
    | none => none
    | some [] => some (some (charOf byte []), .between)
    | some (next :: later) => some (none, .within ⟨byte, [], next, later⟩)
  | .within u =>
    if u.next.1 ≤ byte ∧ byte ≤ u.next.2 then
      match u.later with
      | [] => some (some (charOf u.first (u.others ++ [byte])), .between)
      | next :: later => some (none, .within ⟨u.first, u.others ++ [byte], next, later⟩)
    else if u.opensSurrogate byte then some (none, .surrogate)
    else none
  | .surrogate => none

/-- A byte is read first, and then the others. -/
theorem read_cons (place : Place) (offset : Nat) (byte : UInt8) (bytes : List UInt8) :
    match step? place byte with
    | none => ∃ fault, read place offset (byte :: bytes) = .error fault
    | some (found, next) => read place offset (byte :: bytes) =
        (read next (offset + 1) bytes).map fun (cs, p) => (found.toList ++ cs, p) := by
  -- Where the byte finishes no character, what the others give is what all give.
  have hsame : ∀ {result : Except Fault (List Char × Place)},
      result = result.map fun (cs, p) => ([] ++ cs, p) := by
    rintro (fault | ⟨cs, p⟩) <;> rfl
  cases place with
  | between =>
    simp only [step?, read]
    cases followers? byte with
    | none => exact ⟨_, rfl⟩
    | some bounds =>
      cases bounds with
      | nil => rfl
      | cons next later => exact hsame
  | within u =>
    simp only [step?, read]
    by_cases hin : u.next.1 ≤ byte ∧ byte ≤ u.next.2
    · simp only [if_pos hin]
      cases u.later with
      | nil => rfl
      | cons next later => exact hsame
    · simp only [if_neg hin]
      by_cases hopens : u.opensSurrogate byte = true
      · simp only [if_pos hopens]
        exact hsame
      · simp only [if_neg hopens]
        exact ⟨_, rfl⟩
  | surrogate => exact ⟨_, rfl⟩

theorem read_of_step? {place next last : Place} {byte : UInt8} {found : Option Char}
    {bytes : List UInt8} {chars : List Char} {offset : Nat}
    (hstep : step? place byte = some (found, next))
    (hrest : read next (offset + 1) bytes = .ok (chars, last)) :
    read place offset (byte :: bytes) = .ok (found.toList ++ chars, last) := by
  have hread := read_cons place offset byte bytes
  rw [hstep] at hread
  rw [hread, hrest]
  rfl

/-- From one place the bytes are read as characters, and lead to another place. -/
inductive Reads : Place → List UInt8 → List Char → Place → Prop
  | nil (place : Place) : Reads place [] [] place
  | cons {place next last : Place} {byte : UInt8} {found : Option Char} {bytes : List UInt8}
      {chars : List Char} (hstep : step? place byte = some (found, next))
      (h : Reads next bytes chars last) : Reads place (byte :: bytes) (found.toList ++ chars) last

namespace Reads

variable {place next last : Place} {front back : List UInt8} {chars more : List Char}

/-- It does not matter where in its piece the reading starts. -/
theorem read_eq (h : Reads place front chars next) (offset : Nat) :
    read place offset front = .ok (chars, next) := by
  induction h generalizing offset with
  | nil place => rfl
  | cons hstep _ ih => exact read_of_step? hstep (ih (offset + 1))

theorem append (h : Reads place front chars next) (hback : Reads next back more last) :
    Reads place (front ++ back) (chars ++ more) last := by
  induction h with
  | nil place => exact hback
  | cons hstep _ ih =>
    rw [List.cons_append, List.append_assoc]
    exact .cons hstep (ih hback)

/-- The reading can stop anywhere and go on from there. -/
theorem exists_of_append (h : Reads place (front ++ back) chars last) :
    ∃ found next rest, Reads place front found next ∧ Reads next back rest last ∧
      chars = found ++ rest := by
  induction front generalizing place chars with
  | nil => exact ⟨[], place, chars, .nil place, h, rfl⟩
  | cons byte front ih =>
    rw [List.cons_append] at h
    cases h with
    | @cons _ _ _ _ found _ _ hstep hrest =>
      obtain ⟨first, next, rest, hfront, hback, rfl⟩ := ih hrest
      exact ⟨found.toList ++ first, next, rest, .cons hstep hfront, hback,
        (List.append_assoc ..).symm⟩

/-- What reading returns was read one byte after the other. -/
theorem of_read {bytes : List UInt8} {offset : Nat}
    (h : read place offset bytes = .ok (chars, last)) : Reads place bytes chars last := by
  induction bytes generalizing place chars offset with
  | nil =>
    cases h
    exact .nil _
  | cons byte bytes ih =>
    have hread := read_cons place offset byte bytes
    cases hstep : step? place byte with
    | none =>
      rw [hstep] at hread
      obtain ⟨fault, hfault⟩ := hread
      rw [hfault] at h
      cases h
    | some step =>
      obtain ⟨found, next⟩ := step
      rw [hstep] at hread
      rw [hread] at h
      cases hrest : read next (offset + 1) bytes with
      | error fault =>
        rw [hrest] at h
        cases h
      | ok rest =>
        rw [hrest] at h
        cases h
        exact .cons hstep (ih hrest)

/-- Each character that is read ends with a byte of its own. -/
theorem length_le {bytes : List UInt8} (h : Reads place bytes chars last) :
    chars.length ≤ bytes.length := by
  induction h with
  | nil place => exact Nat.le_refl _
  | @cons _ _ _ _ found _ _ _ _ ih =>
    rw [List.length_append, List.length_cons, Nat.add_comm]
    exact Nat.add_le_add ih (Option.length_toList_le)

end Reads

/-- The byte lies within the bounds. -/
def InBounds (bounds : UInt8 × UInt8) (byte : UInt8) : Prop :=
  bounds.1 ≤ byte ∧ byte ≤ bounds.2

theorem inBounds_iff {bounds : UInt8 × UInt8} {byte : UInt8} :
    InBounds bounds byte ↔ bounds.1.toNat ≤ byte.toNat ∧ byte.toNat ≤ bounds.2.toNat := by
  rw [InBounds, UInt8.le_iff_toNat_le, UInt8.le_iff_toNat_le]

section Within

variable {first byte : UInt8} {others bytes : List UInt8} {next bound : UInt8 × UInt8}
  {later : List (UInt8 × UInt8)} {chars : List Char}

theorem step?_last (h : InBounds next byte) : step? (.within ⟨first, others, next, []⟩) byte =
    some (some (charOf first (others ++ [byte])), .between) :=
  if_pos h

theorem step?_within (h : InBounds next byte) :
    step? (.within ⟨first, others, next, bound :: later⟩) byte =
      some (none, .within ⟨first, others ++ [byte], bound, later⟩) :=
  if_pos h

theorem reads_within (first : UInt8) (others : List UInt8)
    (h : List.Forall₂ InBounds (next :: later) bytes) :
    Reads (.within ⟨first, others, next, later⟩) bytes [charOf first (others ++ bytes)]
      .between := by
  -- What has been read of the character joins `others`, so the induction is on what is missing.
  induction later generalizing others next bytes with
  | nil =>
    obtain ⟨byte, _, hbyte, hnil, rfl⟩ := List.forall₂_cons_left_iff.mp h
    obtain rfl := List.forall₂_nil_left_iff.mp hnil
    exact .cons (step?_last hbyte) (.nil .between)
  | cons bound later ih =>
    obtain ⟨byte, bytes, hbyte, hbytes, rfl⟩ := List.forall₂_cons_left_iff.mp h
    have hrest := ih (others ++ [byte]) hbytes
    rw [List.append_assoc, List.singleton_append] at hrest
    exact .cons (step?_within hbyte) hrest

theorem not_reads_surrogate : ¬Reads .surrogate bytes chars .between := by
  intro h
  cases h with
  | cons hnone _ => cases hnone

/-- A character that is finished goes on with a byte within its bounds. -/
theorem inBounds_of_reads {u : Unfinished}
    (h : Reads (.within u) (byte :: bytes) chars .between) : InBounds u.next byte := by
  cases h with
  | cons hstep hrest =>
    rw [step?] at hstep
    split at hstep
    · assumption
    · split at hstep
      · cases hstep
        exact absurd hrest not_reads_surrogate
      · cases hstep

/-- A character that was begun is finished by bytes within its bounds. -/
theorem exists_of_reads_within
    (h : Reads (.within ⟨first, others, next, later⟩) bytes chars .between) :
    ∃ taken rest more, List.Forall₂ InBounds (next :: later) taken ∧ bytes = taken ++ rest ∧
      chars = charOf first (others ++ taken) :: more ∧ Reads .between rest more .between := by
  induction later generalizing others next bytes chars with
  | nil =>
    cases h with
    | @cons _ _ _ byte found rest more hstep hrest =>
      have hin : InBounds next byte := inBounds_of_reads (.cons hstep hrest)
      rw [step?_last hin] at hstep
      cases hstep
      exact ⟨[byte], rest, more, .cons hin .nil, rfl, rfl, hrest⟩
  | cons bound later ih =>
    cases h with
    | @cons _ _ _ byte found rest more hstep hrest =>
      have hin : InBounds next byte := inBounds_of_reads (.cons hstep hrest)
      rw [step?_within hin] at hstep
      cases hstep
      obtain ⟨taken, rest, more, htaken, rfl, rfl, hmore⟩ := ih hrest
      exact ⟨byte :: taken, rest, more, .cons hin htaken, rfl, by simp, hmore⟩

end Within

/-- A first byte and as many others as it asks for, each within its bounds, are one character. -/
theorem reads_char {first : UInt8} {bounds : List (UInt8 × UInt8)} {others : List UInt8}
    (hfirst : followers? first = some bounds) (h : List.Forall₂ InBounds bounds others) :
    Reads .between (first :: others) [charOf first others] .between := by
  cases bounds with
  | nil =>
    obtain rfl := List.forall₂_nil_left_iff.mp h
    have hstep : step? .between first = some (some (charOf first []), .between) := by
      rw [step?, hfirst]
    exact .cons hstep (.nil .between)
  | cons next later =>
    have hstep : step? .between first = some (none, .within ⟨first, [], next, later⟩) := by
      rw [step?, hfirst]
    exact .cons hstep (reads_within first [] h)

/-- What is read of bytes starts with a character of a first byte and those that it asks for. -/
theorem exists_of_reads_between {first : UInt8} {bytes : List UInt8} {chars : List Char}
    (h : Reads .between (first :: bytes) chars .between) :
    ∃ bounds taken rest more, followers? first = some bounds ∧
      List.Forall₂ InBounds bounds taken ∧ bytes = taken ++ rest ∧
      chars = charOf first taken :: more ∧ Reads .between rest more .between := by
  cases h with
  | @cons _ _ _ _ found _ more hstep hrest =>
    rw [step?] at hstep
    cases hfirst : followers? first with
    | none =>
      rw [hfirst] at hstep
      cases hstep
    | some bounds =>
      rw [hfirst] at hstep
      cases bounds with
      | nil =>
        cases hstep
        exact ⟨[], [], bytes, more, rfl, .nil, rfl, rfl, hrest⟩
      | cons next later =>
        cases hstep
        obtain ⟨taken, rest, more, htaken, hbytes, hchars, hmore⟩ := exists_of_reads_within hrest
        exact ⟨_, taken, rest, more, rfl, htaken, hbytes, hchars, hmore⟩

/-- The bounds of any byte that is not the first of its character. -/
def tail : UInt8 × UInt8 := (0x80, 0xBF)

section Bytes

variable {n : Nat}

theorem toNat_byte (h : n < 256) : (UInt8.ofNat n).toNat = n :=
  UInt8.toNat_ofNat_of_lt' h

/-- What follows a first byte, said of its number. -/
theorem followers?_byte (h : n < 256) : followers? (UInt8.ofNat n) =
    if n < 0x80 then some []
    else if n < 0xC2 then none
    else if n < 0xE0 then some [tail]
    else if n = 0xE0 then some [(0xA0, 0xBF), tail]
    else if n = 0xED then some [(0x80, 0x9F), tail]
    else if n < 0xF0 then some [tail, tail]
    else if n = 0xF0 then some [(0x90, 0xBF), tail, tail]
    else if n < 0xF4 then some [tail, tail, tail]
    else if n = 0xF4 then some [(0x80, 0x8F), tail, tail]
    else none := by
  simp only [followers?, UInt8.lt_iff_toNat_lt, ← UInt8.toNat_inj, toNat_byte h]
  rfl

theorem inBounds_byte (low high : Nat) (hlow : low ≤ n) (hhigh : n ≤ high) (h : high < 256) :
    InBounds (UInt8.ofNat low, UInt8.ofNat high) (UInt8.ofNat n) := by
  have hn : n < 256 := by omega
  have hlow' : low < 256 := by omega
  rw [InBounds, UInt8.le_iff_toNat_le, UInt8.le_iff_toNat_le, toNat_byte hn, toNat_byte hlow',
    toNat_byte h]
  exact ⟨hlow, hhigh⟩

theorem inBounds_tail (n : Nat) : InBounds tail (UInt8.ofNat (n % 0x40 + 0x80)) := by
  have hlt : n % 0x40 < 0x40 := Nat.mod_lt n (by decide)
  exact inBounds_byte 0x80 0xBF (by omega) (by omega) (by decide)

end Bytes

section Char

variable {v : Nat}

theorem reads_one (h : v ≤ 0x7F) : Reads .between [UInt8.ofNat v] [Char.ofNat v] .between := by
  have hfirst : followers? (UInt8.ofNat v) = some [] := by
    rw [followers?_byte (by omega), if_pos (by omega)]
  have hchar : charOf (UInt8.ofNat v) [] = Char.ofNat v := by
    simp [charOf, toNat_byte (show v < 256 by omega)]
  exact hchar ▸ reads_char hfirst .nil

theorem reads_two (h : 0x7F < v) (h' : v ≤ 0x7FF) :
    Reads .between [UInt8.ofNat (v / 64 % 0x20 + 0xC0), UInt8.ofNat (v % 0x40 + 0x80)]
      [Char.ofNat v] .between := by
  have hfirst : followers? (UInt8.ofNat (v / 64 % 0x20 + 0xC0)) = some [tail] := by
    rw [followers?_byte (by omega), if_neg (by omega), if_neg (by omega), if_pos (by omega)]
  have hnumber : (v / 64 % 0x20 + 0xC0) % 0x20 * 0x40 + (v % 0x40 + 0x80) % 0x40 = v := by omega
  have hchar : charOf (UInt8.ofNat (v / 64 % 0x20 + 0xC0)) [UInt8.ofNat (v % 0x40 + 0x80)] =
      Char.ofNat v := by
    simp only [charOf, List.length_cons, List.length_nil, List.foldl_cons, List.foldl_nil,
      toNat_byte (show v / 64 % 0x20 + 0xC0 < 256 by omega),
      toNat_byte (show v % 0x40 + 0x80 < 256 by omega), hnumber]
  exact hchar ▸ reads_char hfirst (.cons (inBounds_tail v) .nil)

theorem reads_three (h : 0x7FF < v) (h' : v ≤ 0xFFFF) (hvalid : v < 0xD800 ∨ 0xDFFF < v) :
    Reads .between [UInt8.ofNat (v / 4096 % 0x10 + 0xE0), UInt8.ofNat (v / 64 % 0x40 + 0x80),
      UInt8.ofNat (v % 0x40 + 0x80)] [Char.ofNat v] .between := by
  have hnumber : ((v / 4096 % 0x10 + 0xE0) % 0x10 * 0x40 + (v / 64 % 0x40 + 0x80) % 0x40) * 0x40 +
      (v % 0x40 + 0x80) % 0x40 = v := by omega
  have hchar : charOf (UInt8.ofNat (v / 4096 % 0x10 + 0xE0))
      [UInt8.ofNat (v / 64 % 0x40 + 0x80), UInt8.ofNat (v % 0x40 + 0x80)] = Char.ofNat v := by
    simp only [charOf, List.length_cons, List.length_nil, List.foldl_cons, List.foldl_nil,
      toNat_byte (show v / 4096 % 0x10 + 0xE0 < 256 by omega),
      toNat_byte (show v / 64 % 0x40 + 0x80 < 256 by omega),
      toNat_byte (show v % 0x40 + 0x80 < 256 by omega), hnumber]
  -- Only the second byte has bounds of its own, at the least numbers and next to the surrogates.
  obtain ⟨bounds, hfirst, hsecond⟩ : ∃ bounds,
      followers? (UInt8.ofNat (v / 4096 % 0x10 + 0xE0)) = some [bounds, tail] ∧
        InBounds bounds (UInt8.ofNat (v / 64 % 0x40 + 0x80)) := by
    rw [followers?_byte (by omega), if_neg (by omega), if_neg (by omega), if_neg (by omega)]
    split_ifs with hleast hsurrogates
    · exact ⟨_, rfl, inBounds_byte 0xA0 0xBF (by omega) (by omega) (by decide)⟩
    · exact ⟨_, rfl, inBounds_byte 0x80 0x9F (by omega) (by omega) (by decide)⟩
    · exact ⟨tail, rfl, inBounds_tail _⟩
    all_goals omega
  exact hchar ▸ reads_char hfirst (.cons hsecond (.cons (inBounds_tail v) .nil))

theorem reads_four (h : 0xFFFF < v) (h' : v < 0x110000) :
    Reads .between [UInt8.ofNat (v / 262144 % 0x08 + 0xF0), UInt8.ofNat (v / 4096 % 0x40 + 0x80),
      UInt8.ofNat (v / 64 % 0x40 + 0x80), UInt8.ofNat (v % 0x40 + 0x80)] [Char.ofNat v]
      .between := by
  have hnumber : (((v / 262144 % 0x08 + 0xF0) % 0x08 * 0x40 + (v / 4096 % 0x40 + 0x80) % 0x40) *
      0x40 + (v / 64 % 0x40 + 0x80) % 0x40) * 0x40 + (v % 0x40 + 0x80) % 0x40 = v := by omega
  have hchar : charOf (UInt8.ofNat (v / 262144 % 0x08 + 0xF0))
      [UInt8.ofNat (v / 4096 % 0x40 + 0x80), UInt8.ofNat (v / 64 % 0x40 + 0x80),
        UInt8.ofNat (v % 0x40 + 0x80)] = Char.ofNat v := by
    simp only [charOf, List.length_cons, List.length_nil, List.foldl_cons, List.foldl_nil,
      toNat_byte (show v / 262144 % 0x08 + 0xF0 < 256 by omega),
      toNat_byte (show v / 4096 % 0x40 + 0x80 < 256 by omega),
      toNat_byte (show v / 64 % 0x40 + 0x80 < 256 by omega),
      toNat_byte (show v % 0x40 + 0x80 < 256 by omega), hnumber]
  -- As before, at the least numbers and at the greatest ones.
  obtain ⟨bounds, hfirst, hsecond⟩ : ∃ bounds,
      followers? (UInt8.ofNat (v / 262144 % 0x08 + 0xF0)) = some [bounds, tail, tail] ∧
        InBounds bounds (UInt8.ofNat (v / 4096 % 0x40 + 0x80)) := by
    rw [followers?_byte (by omega), if_neg (by omega), if_neg (by omega), if_neg (by omega),
      if_neg (by omega), if_neg (by omega), if_neg (by omega)]
    split_ifs with hleast hmiddle hgreatest
    · exact ⟨_, rfl, inBounds_byte 0x90 0xBF (by omega) (by omega) (by decide)⟩
    · exact ⟨tail, rfl, inBounds_tail _⟩
    · exact ⟨_, rfl, inBounds_byte 0x80 0x8F (by omega) (by omega) (by decide)⟩
    · omega
  exact hchar ▸ reads_char hfirst
    (.cons hsecond (.cons (inBounds_tail _) (.cons (inBounds_tail v) .nil)))

theorem reads_utf8EncodeChar (c : Char) :
    Reads .between (String.utf8EncodeChar c) [c] .between := by
  have hvalid : c.val.toNat < 0xD800 ∨ 0xDFFF < c.val.toNat ∧ c.val.toNat < 0x110000 := c.valid
  have hchar : Char.ofNat c.val.toNat = c := Char.ofNat_toNat c
  suffices h : Reads .between (String.utf8EncodeChar c) [Char.ofNat c.val.toNat] .between by
    rwa [hchar] at h
  unfold String.utf8EncodeChar
  dsimp only
  split_ifs with hone htwo hthree
  · exact reads_one hone
  · exact reads_two (by omega) htwo
  · exact reads_three (by omega) hthree (by omega)
  · exact reads_four (by omega) (by omega)

end Char

/-- The bytes of a text are read as the text. -/
theorem reads_encode (text : List Char) : Reads .between (encode text) text .between := by
  rw [encode_eq_flatMap]
  induction text with
  | nil => exact .nil .between
  | cons c cs ih =>
    rw [List.flatMap_cons]
    exact (reads_utf8EncodeChar c).append ih

section Codes

variable {n v : Nat} {b c d : UInt8}

/-- The bytes of the character of a number. -/
theorem utf8EncodeChar_ofNat (h : v.isValidChar) : String.utf8EncodeChar (Char.ofNat v) =
    if v ≤ 0x7F then [UInt8.ofNat v]
    else if v ≤ 0x7FF then [UInt8.ofNat (v / 64 % 0x20 + 0xC0), UInt8.ofNat (v % 0x40 + 0x80)]
    else if v ≤ 0xFFFF then [UInt8.ofNat (v / 4096 % 0x10 + 0xE0),
      UInt8.ofNat (v / 64 % 0x40 + 0x80), UInt8.ofNat (v % 0x40 + 0x80)]
    else [UInt8.ofNat (v / 262144 % 0x08 + 0xF0), UInt8.ofNat (v / 4096 % 0x40 + 0x80),
      UInt8.ofNat (v / 64 % 0x40 + 0x80), UInt8.ofNat (v % 0x40 + 0x80)] := by
  have hv : (Char.ofNat v).val.toNat = v := by
    rw [Char.ofNat, dif_pos h]
    rfl
  rw [String.utf8EncodeChar]
  simp only [hv]

theorem encode_one (h : n < 0x80) :
    String.utf8EncodeChar (charOf (UInt8.ofNat n) []) = [UInt8.ofNat n] := by
  have hvalue : charOf (UInt8.ofNat n) [] = Char.ofNat n := by
    simp [charOf, toNat_byte (show n < 256 by omega)]
  rw [hvalue, utf8EncodeChar_ofNat (.inl (by omega)), if_pos (by omega)]

theorem encode_two (h : 0xC2 ≤ n) (h' : n < 0xE0) (hb : InBounds tail b) :
    String.utf8EncodeChar (charOf (UInt8.ofNat n) [b]) = [UInt8.ofNat n, b] := by
  obtain ⟨hb, hb'⟩ : 0x80 ≤ b.toNat ∧ b.toNat ≤ 0xBF := inBounds_iff.mp hb
  let v := n % 0x20 * 0x40 + b.toNat % 0x40
  have hvalue : charOf (UInt8.ofNat n) [b] = Char.ofNat v := by
    simp [charOf, toNat_byte (show n < 256 by omega), v]
  have hfirst : v / 64 % 0x20 + 0xC0 = n := by omega
  have hsecond : v % 0x40 + 0x80 = b.toNat := by omega
  rw [hvalue, utf8EncodeChar_ofNat (.inl (by omega)), if_neg (by omega), if_pos (by omega), hfirst,
    hsecond, UInt8.ofNat_toNat]

theorem encode_three (h : 0xE0 ≤ n) (h' : n < 0xF0) (hb : InBounds tail b) (hc : InBounds tail c)
    (hleast : n = 0xE0 → 0xA0 ≤ b.toNat) (hsurrogates : n = 0xED → b.toNat ≤ 0x9F) :
    String.utf8EncodeChar (charOf (UInt8.ofNat n) [b, c]) = [UInt8.ofNat n, b, c] := by
  obtain ⟨hb, hb'⟩ : 0x80 ≤ b.toNat ∧ b.toNat ≤ 0xBF := inBounds_iff.mp hb
  obtain ⟨hc, hc'⟩ : 0x80 ≤ c.toNat ∧ c.toNat ≤ 0xBF := inBounds_iff.mp hc
  let v := (n % 0x10 * 0x40 + b.toNat % 0x40) * 0x40 + c.toNat % 0x40
  have hvalue : charOf (UInt8.ofNat n) [b, c] = Char.ofNat v := by
    simp [charOf, toNat_byte (show n < 256 by omega), v]
  have hvalid : v < 0xD800 ∨ 0xDFFF < v ∧ v < 0x110000 := by omega
  have hfirst : v / 4096 % 0x10 + 0xE0 = n := by omega
  have hsecond : v / 64 % 0x40 + 0x80 = b.toNat := by omega
  have hthird : v % 0x40 + 0x80 = c.toNat := by omega
  rw [hvalue, utf8EncodeChar_ofNat hvalid, if_neg (by omega), if_neg (by omega), if_pos (by omega),
    hfirst, hsecond, hthird, UInt8.ofNat_toNat, UInt8.ofNat_toNat]

theorem encode_four (h : 0xF0 ≤ n) (h' : n < 0xF5) (hb : InBounds tail b) (hc : InBounds tail c)
    (hd : InBounds tail d) (hleast : n = 0xF0 → 0x90 ≤ b.toNat)
    (hgreatest : n = 0xF4 → b.toNat ≤ 0x8F) :
    String.utf8EncodeChar (charOf (UInt8.ofNat n) [b, c, d]) = [UInt8.ofNat n, b, c, d] := by
  obtain ⟨hb, hb'⟩ : 0x80 ≤ b.toNat ∧ b.toNat ≤ 0xBF := inBounds_iff.mp hb
  obtain ⟨hc, hc'⟩ : 0x80 ≤ c.toNat ∧ c.toNat ≤ 0xBF := inBounds_iff.mp hc
  obtain ⟨hd, hd'⟩ : 0x80 ≤ d.toNat ∧ d.toNat ≤ 0xBF := inBounds_iff.mp hd
  let v := ((n % 0x08 * 0x40 + b.toNat % 0x40) * 0x40 + c.toNat % 0x40) * 0x40 + d.toNat % 0x40
  have hvalue : charOf (UInt8.ofNat n) [b, c, d] = Char.ofNat v := by
    simp [charOf, toNat_byte (show n < 256 by omega), v]
  have hvalid : v < 0xD800 ∨ 0xDFFF < v ∧ v < 0x110000 := by omega
  have hfirst : v / 262144 % 0x08 + 0xF0 = n := by omega
  have hsecond : v / 4096 % 0x40 + 0x80 = b.toNat := by omega
  have hthird : v / 64 % 0x40 + 0x80 = c.toNat := by omega
  have hfourth : v % 0x40 + 0x80 = d.toNat := by omega
  rw [hvalue, utf8EncodeChar_ofNat hvalid, if_neg (by omega), if_neg (by omega), if_neg (by omega),
    hfirst, hsecond, hthird, hfourth, UInt8.ofNat_toNat, UInt8.ofNat_toNat, UInt8.ofNat_toNat]

end Codes

/-- What a first byte says of the second, and how many more it asks for. -/
theorem followers?_cons {n : Nat} {b : UInt8} {second : UInt8 × UInt8}
    {later : List (UInt8 × UInt8)} (hn : n < 256)
    (hfirst : followers? (UInt8.ofNat n) = some (second :: later)) (hb : InBounds second b) :
    InBounds tail b ∧
      (0xC2 ≤ n ∧ n < 0xE0 ∧ later = [] ∨
        0xE0 ≤ n ∧ n < 0xF0 ∧ later = [tail] ∧ (n = 0xE0 → 0xA0 ≤ b.toNat) ∧
          (n = 0xED → b.toNat ≤ 0x9F) ∨
        0xF0 ≤ n ∧ n < 0xF5 ∧ later = [tail, tail] ∧ (n = 0xF0 → 0x90 ≤ b.toNat) ∧
          (n = 0xF4 → b.toNat ≤ 0x8F)) := by
  rw [followers?_byte hn] at hfirst
  rw [inBounds_iff] at hb ⊢
  split_ifs at hfirst <;> cases hfirst <;>
    simp only [tail, UInt8.reduceToNat, reduceCtorEq, List.cons_ne_self, List.ne_cons_self,
      List.nil_eq, and_true, true_and, and_false, false_and, or_false, false_or, or_self]
      at hb ⊢ <;>
    omega

/-- A first byte and those that it asks for are the bytes of the character that they spell. -/
theorem utf8EncodeChar_charOf {first : UInt8} {bounds : List (UInt8 × UInt8)} {others : List UInt8}
    (hfirst : followers? first = some bounds) (h : List.Forall₂ InBounds bounds others) :
    String.utf8EncodeChar (charOf first others) = first :: others := by
  obtain ⟨n, hn, rfl⟩ : ∃ n < 256, first = UInt8.ofNat n :=
    ⟨first.toNat, first.toNat_lt, UInt8.ofNat_toNat.symm⟩
  cases bounds with
  | nil =>
    obtain rfl := List.forall₂_nil_left_iff.mp h
    rw [followers?_byte hn] at hfirst
    split at hfirst
    · next hlt => exact encode_one hlt
    · split_ifs at hfirst <;> cases hfirst
  | cons second later =>
    obtain ⟨b, others, hb, hothers, rfl⟩ := List.forall₂_cons_left_iff.mp h
    obtain ⟨hb, ⟨hle, hlt, rfl⟩ | ⟨hle, hlt, rfl, hleast, hsurrogates⟩ |
      ⟨hle, hlt, rfl, hleast, hgreatest⟩⟩ := followers?_cons hn hfirst hb
    · obtain rfl := List.forall₂_nil_left_iff.mp hothers
      exact encode_two hle hlt hb
    · obtain ⟨c, _, hc, hnil, rfl⟩ := List.forall₂_cons_left_iff.mp hothers
      obtain rfl := List.forall₂_nil_left_iff.mp hnil
      exact encode_three hle hlt hb hc hleast hsurrogates
    · obtain ⟨c, _, hc, hmore, rfl⟩ := List.forall₂_cons_left_iff.mp hothers
      obtain ⟨d, _, hd, hnil, rfl⟩ := List.forall₂_cons_left_iff.mp hmore
      obtain rfl := List.forall₂_nil_left_iff.mp hnil
      exact encode_four hle hlt hb hc hd hleast hgreatest

/-- Only the bytes of a text are read as the text. -/
theorem Reads.eq_encode {bytes : List UInt8} {chars : List Char}
    (h : Reads .between bytes chars .between) : bytes = encode chars := by
  rw [encode_eq_flatMap]
  induction chars generalizing bytes with
  | nil =>
    cases bytes with
    | nil => rfl
    | cons first bytes =>
      obtain ⟨_, _, _, _, _, _, _, hchars, _⟩ := exists_of_reads_between h
      cases hchars
  | cons c cs ih =>
    cases bytes with
    | nil => cases h
    | cons first bytes =>
      obtain ⟨bounds, taken, rest, more, hfirst, htaken, rfl, hchars, hmore⟩ :=
        exists_of_reads_between h
      cases hchars
      rw [List.flatMap_cons, utf8EncodeChar_charOf hfirst htaken, ← ih hmore, List.cons_append]

end ScriptLint.Text.Utf8
