import ScriptLint.Proofs.Analysis.Parts
import ScriptLint.Proofs.Text.LineEnds
import ScriptLint.Proofs.Text.Utf8

/-! A text that is written to a file and read again. Where the chunks of the file end does not
matter, neither to the characters nor to the lines, so what is read are the first lines of the text
with its line ends unified. That is as good as the text itself if no line is cut off and no carriage
return stands alone. -/
namespace ScriptLint

namespace SourceFile

open Text.Utf8 (Reads Place)

theorem flatten_chunks (bytes : List UInt8) : (chunks bytes).flatten = bytes := by
  induction bytes using chunks.induct with
  | case1 => simp [chunks]
  | case2 bytes hne ih =>
    rw [chunks, if_neg hne, List.flatten_cons, ih]
    exact List.take_append_drop chunkSize bytes

/-- Decoding gives all characters of the chunks, or stops behind enough lines. -/
theorem exists_decode (maxLines : Nat) {text chars : List Char} {place : Place}
    {chunks : List (List UInt8)} (h : Reads place chunks.flatten chars .between) :
    ∃ found rest, decode maxLines text place chunks = .ok (text ++ found) ∧
      chars = found ++ rest ∧ (rest = [] ∨ maxLines < lineEnds (text ++ found)) := by
  -- A chunk may end within a character, so the place to start from is any.
  induction chunks generalizing text chars place with
  | nil =>
    cases h
    exact ⟨[], [], by rw [List.append_nil]; rfl, rfl, .inl rfl⟩
  | cons chunk more ih =>
    rw [List.flatten_cons] at h
    obtain ⟨first, next, others, hchunk, hmore, rfl⟩ := h.exists_of_append
    have hdecode : decode maxLines text place (chunk :: more) =
        if maxLines < lineEnds (text ++ first) then .ok (text ++ first)
        else decode maxLines (text ++ first) next more := by
      rw [decode, hchunk.read_eq]
      rfl
    by_cases hstop : maxLines < lineEnds (text ++ first)
    · exact ⟨first, others, by rw [hdecode, if_pos hstop], rfl, .inr hstop⟩
    · obtain ⟨found, rest, hfound, rfl, hrest⟩ := @ih (text ++ first) _ _ hmore
      rw [List.append_assoc] at hfound hrest
      exact ⟨first ++ found, rest, by rw [hdecode, if_neg hstop, ← hfound],
        (List.append_assoc ..).symm, hrest⟩

/-- Behind enough line feeds nothing more is taken. -/
theorem firstLines_append {n : Nat} {text : List Char} (h : n ≤ text.count '\n')
    (more : List Char) : firstLines n (text ++ more) = firstLines n text := by
  induction text generalizing n with
  | nil =>
    obtain rfl : n = 0 := Nat.le_zero.mp h
    rw [firstLines, firstLines]
  | cons c cs ih =>
    cases n with
    | zero => rfl
    | succ n =>
      rw [List.cons_append, firstLines, firstLines]
      split
      · next hc =>
        rw [hc, List.count_cons_self] at h
        rw [ih (by omega)]
      · next hc =>
        rw [List.count_cons_of_ne hc] at h
        rw [ih h]

/-- The line ends that are sure to be there, are there whatever comes behind. -/
theorem exists_settled (text : List Char) :
    ∃ settled back, lineEnds text = (unifyLineEnds settled).count '\n' ∧ ∀ more,
      unifyLineEnds (text ++ more) = unifyLineEnds settled ++ unifyLineEnds (back ++ more) := by
  by_cases hlast : text.getLast? = some '\r'
  · -- The carriage return at the end is left to what comes behind.
    obtain ⟨front, rfl⟩ := List.getLast?_eq_some_iff.mp hlast
    refine ⟨front, ['\r'], ?_, fun more => ?_⟩
    · rw [lineEnds, if_pos hlast, List.dropLast_concat]
    · rw [List.append_assoc]
      exact unifyLineEnds_append fun hpair => nomatch hpair.2
  · refine ⟨text, [], ?_, fun more => ?_⟩
    · rw [lineEnds, if_neg hlast]
    · exact unifyLineEnds_append fun hpair => hlast hpair.1

/-- If enough lines are sure to be there, what comes behind adds nothing. -/
theorem firstLines_unifyLineEnds_of_lt {n : Nat} {text : List Char} (h : n < lineEnds text)
    (more : List Char) :
    firstLines n (unifyLineEnds (text ++ more)) = firstLines n (unifyLineEnds text) := by
  obtain ⟨settled, back, hcount, hunify⟩ := exists_settled text
  have hle : n ≤ (unifyLineEnds settled).count '\n' := by omega
  have hself := hunify []
  rw [List.append_nil] at hself
  rw [hunify more, hself, firstLines_append hle, firstLines_append hle]

/-- What is read of a file that holds a text: its first lines, with their line ends unified. -/
theorem readSource_encode {disk : Disk} {path : String} {text : List Char}
    (hfile : disk.bytes? path = some (Text.Utf8.encode text))
    (hbinary : 0 ∉ (Text.Utf8.encode text).take 8192) (maxLines : Int) :
    disk.readSource path maxLines = .ok (firstLines maxLines.toNat (unifyLineEnds text)) := by
  have hreads : Reads .between (chunks (Text.Utf8.encode text)).flatten text .between := by
    rw [flatten_chunks]
    exact Text.Utf8.reads_encode text
  obtain ⟨found, rest, hdecode, rfl, hrest⟩ := @exists_decode maxLines.toNat [] _ _ _ hreads
  rw [List.nil_append] at hdecode hrest
  have hlines : firstLines maxLines.toNat (unifyLineEnds found) =
      firstLines maxLines.toNat (unifyLineEnds (found ++ rest)) := by
    rcases hrest with rfl | hstop
    · rw [List.append_nil]
    · exact (firstLines_unifyLineEnds_of_lt hstop rest).symm
  have hcontains : ((Text.Utf8.encode (found ++ rest)).take chunkSize).contains 0 = false := by
    rw [List.contains_eq_mem]
    exact decide_eq_false hbinary
  rw [Disk.readSource, hfile]
  simp only [hcontains, hdecode, hlines]
  rfl

/-- The number of lines of a text. A carriage return, a line feed and the pair of both end a line,
and what follows the last of them is a line too, unless it is empty. -/
def lineCount : List Char → Nat
  | [] => 0
  | c :: cs =>
    if c = '\r' ∧ cs.head? = some '\n' then lineCount cs
    else if c = '\r' ∨ c = '\n' then lineCount cs + 1
    else max 1 (lineCount cs)

theorem firstLines_of_lineCount_le {n : Nat} {text : List Char} (h : lineCount text ≤ n) :
    firstLines n (unifyLineEnds text) = unifyLineEnds text := by
  -- An end of a line takes one off the number, and another character leaves at least one.
  have hend : ∀ {n : Nat} {cs : List Char}, lineCount cs + 1 ≤ n →
      (∀ {n}, lineCount cs ≤ n → firstLines n (unifyLineEnds cs) = unifyLineEnds cs) →
      firstLines n ('\n' :: unifyLineEnds cs) = '\n' :: unifyLineEnds cs := by
    intro n cs hcs ih
    obtain ⟨n, rfl⟩ := Nat.exists_eq_add_of_le' (Nat.le_of_add_left_le hcs)
    rw [firstLines, if_pos rfl, ih (by omega)]
  induction text using unifyLineEnds.induct generalizing n with
  | case1 => cases n <;> rfl
  | case2 cs ih =>
    have hcount : lineCount ('\r' :: '\n' :: cs) = lineCount cs + 1 := by
      simp [lineCount]
    rw [unifyLineEnds]
    exact hend (hcount ▸ h) ih
  | case3 c cs hpair ih =>
    have hne : ¬(c = '\r' ∧ cs.head? = some '\n') := by
      rintro ⟨hc, hhead⟩
      obtain ⟨more, hcs⟩ := List.head?_eq_some_iff.mp hhead
      exact hpair more hc hcs
    rw [lineCount, if_neg hne] at h
    rw [unifyLineEnds.eq_3 _ _ hpair]
    split at h
    · next hc =>
      have hfeed : (if c = '\r' then '\n' else c) = '\n' := by
        rcases hc with rfl | rfl <;> rfl
      rw [hfeed]
      exact hend h ih
    · next hc =>
      obtain ⟨hreturn, hfeed⟩ := not_or.mp hc
      obtain ⟨n, rfl⟩ := Nat.exists_eq_add_of_le' (show 1 ≤ n by omega)
      rw [if_neg hreturn, firstLines, if_neg hfeed, ih (by omega)]

end SourceFile

open SourceFile (lineCount)

/-- The analysis of a text depends on its lines only. -/
theorem analyze_eq_of_sourceLines_eq {text text' : List Char}
    (h : Text.sourceLines text = Text.sourceLines text') (disk : Disk) (config : Config)
    (file : Option String) : analyze disk config file text = analyze disk config file text' := by
  have hlines : Line.ofSource text = Line.ofSource text' := by
    rw [Line.ofSource, Line.ofSource, h]
  rw [analyze, analyze, hlines]

/-- A text that is read from a file, and not cut off, has the lines that it has in an editor, if and
only if each of its carriage returns stands in front of a line feed; and then the analysis of the
file is that of the text. -/
theorem readSource_lines_iff {disk : Disk} {path : String} {text : List Char}
    (hfile : disk.bytes? path = some (Text.Utf8.encode text))
    (hbinary : 0 ∉ (Text.Utf8.encode text).take 8192) :
    (∀ maxLines : Int, lineCount text ≤ maxLines →
      ∃ read, disk.readSource path maxLines = .ok read ∧
        (Text.sourceLines read = Text.sourceLines text ↔ Text.ReturnsPaired text)) ∧
    ∀ config : Config, lineCount text ≤ config.maxLines → Text.ReturnsPaired text →
      analyzeFile disk config path = .ok (analyze disk config (some path) text) := by
  have hread (maxLines : Int) (hlines : lineCount text ≤ maxLines) :
      disk.readSource path maxLines = .ok (SourceFile.unifyLineEnds text) := by
    rw [SourceFile.readSource_encode hfile hbinary,
      SourceFile.firstLines_of_lineCount_le (by omega)]
  have hiff := SourceFile.sourceLines_unifyLineEnds_iff text
  refine ⟨fun maxLines hlines => ⟨_, hread maxLines hlines, hiff⟩, ?_⟩
  intro config hlines hpaired
  rw [analyzeFile, hread config.maxLines hlines]
  exact congrArg Except.ok (analyze_eq_of_sourceLines_eq (hiff.mpr hpaired) disk config (some path))

theorem readSource_lines_iff_paired :
    let text := "print(x) // é\r\nvar y T".toList
    let disk : Disk := { Disk.bare with files := [(["a.pgy"], Text.Utf8.encode text)] }
    (disk.bytes? "/a.pgy" = some (Text.Utf8.encode text) ∧
      0 ∉ (Text.Utf8.encode text).take 8192 ∧ lineCount text = 2 ∧ Text.ReturnsPaired text) ∧
    (∃ read, disk.readSource "/a.pgy" 2 = .ok read ∧
      (Text.sourceLines read = Text.sourceLines text ↔ Text.ReturnsPaired text)) ∧
    analyzeFile disk .bare "/a.pgy" = .ok (analyze disk .bare (some "/a.pgy") text) ∧
    (analyze disk .bare (some "/a.pgy") text).diagnostics.map (·.code) =
      [.unknownType, .undefinedVariable] := by
  intro text disk
  have hfile : disk.bytes? "/a.pgy" = some (Text.Utf8.encode text) := by decide +kernel
  have hbinary : 0 ∉ (Text.Utf8.encode text).take 8192 := by
    rw [Text.Utf8.encode_eq_flatMap]
    decide +kernel
  have hcount : lineCount text = 2 := by decide +kernel
  have hpaired : Text.ReturnsPaired text := by decide +kernel
  obtain ⟨hread, hanalysis⟩ := readSource_lines_iff hfile hbinary
  exact ⟨⟨hfile, hbinary, hcount, hpaired⟩, hread 2 (by rw [hcount]; decide),
    hanalysis .bare (by rw [hcount]; decide) hpaired, by decide +kernel⟩

end ScriptLint
