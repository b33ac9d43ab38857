import ScriptLint.Proofs.Source.Reading

/-! What is read of a file, however its chunks lie in its text. A chunk may end within a character,
or between a carriage return and its line feed, and the limit of lines may be reached in any chunk.
What is read are the first lines of the text all the same; and with a limit that is out of reach all
of the file is decoded, so it is read if and only if it holds a text. -/
namespace ScriptLint

namespace SourceFile

open Text.Utf8 (Reads Place)

/-- The characters that end a line. -/
def lineEndings : List (List Char) :=
  [['\n'], ['\r', '\n'], ['\r']]

/-- The text of a line: without line feeds and carriage returns. -/
def IsLine (line : List Char) : Prop :=
  '\n' ∉ line ∧ '\r' ∉ line

/-- The lines of a text, each with a line feed for whatever ends it there. What stands behind the
last end of a line is a line too, unless it is empty. -/
inductive HasLines : List Char → List (List Char) → Prop where
  /-- An empty text has none. -/
  | nil : HasLines [] []
  /-- The last line, without an end. -/
  | last (line : List Char) (hline : IsLine line) (hne : line ≠ []) : HasLines line [line]
  /-- A line with its end, of which a line feed behind a carriage return is part. -/
  | cons (line ending : List Char) {text : List Char} {lines : List (List Char)}
      (hline : IsLine line) (hending : ending ∈ lineEndings)
      (hpair : ending = ['\r'] → text.head? ≠ some '\n') (h : HasLines text lines) :
      HasLines (line ++ (ending ++ text)) ((line ++ ['\n']) :: lines)

section Lines

variable {line text : List Char} {lines : List (List Char)} {n : Nat}

theorem exists_hasLines (text : List Char) : ∃ lines, HasLines text lines := by
  induction text using unifyLineEnds.induct with
  | case1 => exact ⟨[], .nil⟩
  | case2 text ih =>
    obtain ⟨lines, hlines⟩ := ih
    exact ⟨_, .cons [] ['\r', '\n'] ⟨by simp, by simp⟩ (by decide) (by simp) hlines⟩
  | case3 c text hpair ih =>
    obtain ⟨lines, hlines⟩ := ih
    by_cases hend : c = '\n' ∨ c = '\r'
    · refine ⟨_, .cons [] [c] ⟨by simp, by simp⟩ ?_ ?_ hlines⟩
      · rcases hend with rfl | rfl <;> decide
      · intro hc hhead
        obtain ⟨more, htext⟩ := List.head?_eq_some_iff.mp hhead
        exact hpair more (List.singleton_inj.mp hc) htext
    · -- The character joins the first line behind it, or is a line by itself.
      obtain ⟨hfeed, hreturn⟩ := not_or.mp hend
      have hjoin : ∀ {line : List Char}, IsLine line → IsLine (c :: line) := by
        rintro line ⟨hline, hline'⟩
        rw [IsLine, List.mem_cons, List.mem_cons, not_or, not_or]
        exact ⟨⟨Ne.symm hfeed, hline⟩, Ne.symm hreturn, hline'⟩
      cases hlines with
      | nil => exact ⟨_, .last [c] (hjoin ⟨by simp, by simp⟩) (by simp)⟩
      | last _ hline _ => exact ⟨_, .last (c :: text) (hjoin hline) (by simp)⟩
      | cons line ending hline hending hlast h =>
        exact ⟨_, .cons (c :: line) ending (hjoin hline) hending hlast h⟩

theorem unifyLineEnds_of_isLine (h : IsLine line) : unifyLineEnds line = line := by
  have hmerge := Text.mergeReturns_of_no_return h.2
  have hpaired : Text.ReturnsPaired line := by
    rw [← Text.return_notMem_mergeReturns_iff, hmerge]
    exact h.2
  rw [(unifyLineEnds_eq_mergeReturns_iff line).mpr hpaired, hmerge]

/-- Whatever ends a line, it is read as a line feed. -/
theorem unifyLineEnds_line {ending : List Char} (hline : IsLine line)
    (hending : ending ∈ lineEndings) (hpair : ending = ['\r'] → text.head? ≠ some '\n') :
    unifyLineEnds (line ++ (ending ++ text)) = line ++ '\n' :: unifyLineEnds text := by
  have hends : ∀ ending ∈ lineEndings, unifyLineEnds ending = ['\n'] ∧
      (ending.getLast? = some '\r' → ending = ['\r']) := by decide
  obtain ⟨hfeed, hlast⟩ := hends ending hending
  have hline' : line.getLast? ≠ some '\r' := fun h => hline.2 (List.mem_of_getLast? h)
  rw [unifyLineEnds_append fun h => hline' h.1, unifyLineEnds_of_isLine hline,
    unifyLineEnds_append fun h => hpair (hlast h.1) h.2, hfeed, List.singleton_append]

theorem firstLines_append_feed (h : '\n' ∉ line) (n : Nat) (text : List Char) :
    firstLines (n + 1) (line ++ '\n' :: text) = line ++ '\n' :: firstLines n text := by
  induction line with
  | nil => rw [List.nil_append, firstLines, if_pos rfl, List.nil_append]
  | cons c line ih =>
    rw [List.mem_cons, not_or] at h
    obtain ⟨hc, hline⟩ := h
    rw [List.cons_append, firstLines, if_neg (Ne.symm hc), ih hline, List.cons_append]

theorem firstLines_of_notMem (h : '\n' ∉ line) (n : Nat) : firstLines (n + 1) line = line := by
  induction line with
  | nil => rfl
  | cons c line ih =>
    rw [List.mem_cons, not_or] at h
    obtain ⟨hc, hline⟩ := h
    rw [firstLines, if_neg (Ne.symm hc), ih hline]

/-- The first lines of a text are the first of its lines. -/
theorem HasLines.firstLines_eq (h : HasLines text lines) (n : Nat) :
    firstLines n (unifyLineEnds text) = (lines.take n).flatten := by
  induction h generalizing n with
  | nil => cases n <;> rfl
  | last line hline hne =>
    rw [unifyLineEnds_of_isLine hline]
    cases n with
    | zero => rw [firstLines, List.take_zero, List.flatten_nil]
    | succ n => simpa using firstLines_of_notMem hline.1 n
  | cons line ending hline hending hpair h ih =>
    rw [unifyLineEnds_line hline hending hpair]
    cases n with
    | zero => rw [firstLines, List.take_zero, List.flatten_nil]
    | succ n =>
      rw [firstLines_append_feed hline.1, ih n]
      simp

end Lines

section Limit

theorem length_unifyLineEnds_le (text : List Char) :
    (unifyLineEnds text).length ≤ text.length := by
  induction text using unifyLineEnds.induct with
  | case1 => exact Nat.le_refl _
  | case2 text ih =>
    rw [unifyLineEnds, List.length_cons, List.length_cons, List.length_cons]
    omega
  | case3 c text hpair ih =>
    rw [unifyLineEnds.eq_3 _ _ hpair, List.length_cons, List.length_cons]
    omega

/-- A text has no more line ends than characters. -/
theorem lineEnds_le_length (text : List Char) : lineEnds text ≤ text.length := by
  let settled := if text.getLast? = some '\r' then text.dropLast else text
  have hsettled : settled.Sublist text := by
    unfold settled
    split
    · exact List.dropLast_sublist text
    · exact List.Sublist.refl text
  calc lineEnds text
      = (unifyLineEnds settled).count '\n' := rfl
    _ ≤ (unifyLineEnds settled).length := List.count_le_length
    _ ≤ settled.length := length_unifyLineEnds_le settled
    _ ≤ text.length := hsettled.length_le

/-- If the limit is out of reach, all bytes of the chunks are decoded. -/
theorem reads_of_decode {maxLines : Nat} {text result : List Char} {place : Place}
    {chunks : List (List UInt8)} (hmax : text.length + chunks.flatten.length ≤ maxLines)
    (h : decode maxLines text place chunks = .ok result) :
    ∃ chars, Reads place chunks.flatten chars .between := by
  induction chunks generalizing text place with
  | nil =>
    rw [decode] at h
    cases place with
    | between => exact ⟨[], .nil _⟩
    | within u => cases h
    | surrogate => cases h
  | cons chunk more ih =>
    rw [decode] at h
    rw [List.flatten_cons] at hmax ⊢
    rw [List.length_append] at hmax
    cases hread : Text.Utf8.read place place.held chunk with
    | error fault =>
      rw [hread] at h
      cases h
    | ok step =>
      obtain ⟨chars, next⟩ := step
      have hchunk : Reads place chunk chars next := .of_read hread
      have hchars := hchunk.length_le
      -- There are fewer line ends than the limit, so it does not stop the reading here.
      have hends := lineEnds_le_length (text ++ chars)
      rw [List.length_append] at hends
      have hgo : decode maxLines (text ++ chars) next more = .ok result := by
        rw [hread] at h
        have hnot : ¬maxLines < lineEnds (text ++ chars) := by omega
        exact (if_neg hnot).symm.trans h
      obtain ⟨rest, hrest⟩ := ih (by rw [List.length_append]; omega) hgo
      exact ⟨chars ++ rest, hchunk.append hrest⟩

end Limit

end SourceFile

open SourceFile (HasLines)

section File

variable {disk : Disk} {path : String} {bytes : List UInt8}
  (hfile : disk.bytes? path = some bytes)
include hfile

/-- If the limit is out of reach, a file is read if and only if it holds a text and is not taken for
a binary one. -/
theorem exists_readSource_iff {maxLines : Int} (hmax : bytes.length < maxLines) :
    (∃ read, disk.readSource path maxLines = .ok read) ↔
      (∃ text, bytes = Text.Utf8.encode text) ∧ 0 ∉ bytes.take 8192 := by
  constructor
  · rintro ⟨read, hread⟩
    rw [Disk.readSource, hfile] at hread
    dsimp only at hread
    split at hread
    · cases hread
    · next hbinary =>
      have hzero : 0 ∉ bytes.take 8192 := by
        rwa [List.contains_iff_mem] at hbinary
      split at hread
      · cases hread
      · next result hdecode =>
        have hle : ([] : List Char).length + (SourceFile.chunks bytes).flatten.length ≤
            maxLines.toNat := by
          rw [SourceFile.flatten_chunks, List.length_nil]
          omega
        obtain ⟨text, htext⟩ := SourceFile.reads_of_decode hle hdecode
        rw [SourceFile.flatten_chunks] at htext
        exact ⟨⟨text, htext.eq_encode⟩, hzero⟩
  · rintro ⟨⟨text, rfl⟩, hbinary⟩
    exact ⟨_, SourceFile.readSource_encode hfile hbinary maxLines⟩

end File

/-- Of a file that holds a text the first lines of the text are read, with their ends made line
feeds, wherever its chunks end. A file that does not hold a text is not read, if the limit of lines
is out of reach. -/
theorem readSource_lines_of_text {disk : Disk} {path : String} {bytes : List UInt8}
    (hfile : disk.bytes? path = some bytes) :
    (∀ text, bytes = Text.Utf8.encode text → 0 ∉ bytes.take 8192 →
      (∃ lines, HasLines text lines) ∧ ∀ lines, HasLines text lines → ∀ maxLines : Int,
        disk.readSource path maxLines = .ok (lines.take (max maxLines 0).toNat).flatten) ∧
    ∀ maxLines : Int, bytes.length < maxLines →
      ((∃ read, disk.readSource path maxLines = .ok read) ↔
        (∃ text, bytes = Text.Utf8.encode text) ∧ 0 ∉ bytes.take 8192) := by
  refine ⟨?_, fun maxLines hmax => exists_readSource_iff hfile hmax⟩
  rintro text rfl hbinary
  refine ⟨SourceFile.exists_hasLines text, ?_⟩
  intro lines hlines maxLines
  have hlimit : (max maxLines 0).toNat = maxLines.toNat := by omega
  rw [SourceFile.readSource_encode hfile hbinary, hlines.firstLines_eq, hlimit]

/-- The first chunk ends within a character, and the limit cuts off the last line. -/
theorem readSource_lines_of_text_crossedChunk :
    let front := List.replicate 8191 'x' ++ ['é']
    let text := front ++ "\r\ny\rz".toList
    let lines := [front ++ ['\n'], ['y', '\n'], ['z']]
    let disk : Disk := { Disk.bare with files := [(["a.pgy"], Text.Utf8.encode text)] }
    (disk.bytes? "/a.pgy" = some (Text.Utf8.encode text) ∧
      0 ∉ (Text.Utf8.encode text).take 8192 ∧ HasLines text lines) ∧
    disk.readSource "/a.pgy" 2 = .ok (front ++ "\ny\n".toList) ∧
    ∃ read, disk.readSource "/a.pgy" 9000 = .ok read := by
  intro front text lines disk
  have hfile : ∀ bytes : List UInt8,
      ({ Disk.bare with files := [(["a.pgy"], bytes)] } : Disk).bytes? "/a.pgy" = some bytes :=
    fun _ => rfl
  have hbytes : Text.Utf8.encode text =
      List.replicate 8191 120 ++ [0xC3, 0xA9, 0x0D, 0x0A, 0x79, 0x0D, 0x7A] := by
    have htext : text = List.replicate 8191 'x' ++ (['é'] ++ "\r\ny\rz".toList) :=
      List.append_assoc ..
    have hx : String.utf8EncodeChar 'x' = [120] := by decide
    have hback : (['é'] ++ "\r\ny\rz".toList).flatMap String.utf8EncodeChar =
        [0xC3, 0xA9, 0x0D, 0x0A, 0x79, 0x0D, 0x7A] := by decide
    rw [Text.Utf8.encode_eq_flatMap, htext, List.flatMap_append, hback, List.flatMap_replicate, hx,
      List.flatten_replicate_singleton]
  have hbinary : 0 ∉ (Text.Utf8.encode text).take 8192 := by
    intro hmem
    rw [hbytes] at hmem
    rcases List.mem_append.mp (List.mem_of_mem_take hmem) with hfront | hback
    · exact absurd (List.eq_of_mem_replicate hfront) (by decide)
    · exact absurd hback (by decide)
  have hlength : ((Text.Utf8.encode text).length : Int) < 9000 := by
    rw [hbytes, List.length_append, List.length_replicate]
    decide
  have hfront : SourceFile.IsLine front := by
    have hx : ∀ c, c ∈ front → c = 'x' ∨ c = 'é' := fun c hc =>
      (List.mem_append.mp hc).imp List.eq_of_mem_replicate List.mem_singleton.mp
    exact ⟨fun h => absurd (hx _ h) (by decide), fun h => absurd (hx _ h) (by decide)⟩
  have hlines : HasLines text lines :=
    .cons front ['\r', '\n'] hfront (by decide) (by decide)
      (.cons ['y'] ['\r'] ⟨by decide, by decide⟩ (by decide) (by decide)
        (.last ['z'] ⟨by decide, by decide⟩ (by decide)))
  obtain ⟨hread, hwhole⟩ := readSource_lines_of_text (hfile (Text.Utf8.encode text))
  refine ⟨⟨hfile _, hbinary, hlines⟩, ?_, (hwhole 9000 hlength).mpr ⟨⟨text, rfl⟩, hbinary⟩⟩
  have htwo := (hread text rfl hbinary).2 lines hlines 2
  rwa [show (lines.take (max 2 0 : Int).toNat).flatten = front ++ "\ny\n".toList from
    List.append_assoc front ['\n'] ['y', '\n']] at htwo

end ScriptLint
