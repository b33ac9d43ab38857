import Mathlib.Data.List.Basic
import Mathlib.Data.List.Induction
import ScriptLint.Proofs.Include.Longest
import ScriptLint.Proofs.Path.Join
import ScriptLint.Proofs.Subject.Marks

/-! Where the module of an include path can lie. The path of an include line has no slash, and its
segments have no dot either, so none of them leads up. The file is below a directory that was
searched. -/
namespace ScriptLint

open Text (Cursor Token)

namespace Text

/-- The characters of a dotted path. -/
def isPathChar (c : Char) : Bool :=
  isNameChar c || c == '.' || c == '@'

theorem isPathChar_of_isNameChar {c : Char} (h : isNameChar c = true) : isPathChar c = true := by
  simp [isPathChar, h]

/-- What is read in two parts has the characters of both. -/
theorem Cursor.Reads.toList_append {c d e : Cursor} {t t' : Token} (h : c.Reads t d)
    (h' : d.Reads t' e) :
    (c.token (e.offset - c.offset)).text.toList = t.text.toList ++ t'.text.toList := by
  obtain ⟨m, -, -, rfl, rfl⟩ := h
  obtain ⟨n, -, -, rfl, rfl⟩ := h'
  have hoffset : ((c.advance m).advance n).offset - c.offset = m + n := by
    simp only [advance]
    omega
  rw [hoffset]
  simp only [token, advance, String.toList_ofList]
  exact List.take_add

theorem Cursor.toList_token_of_word? {c d : Cursor} {w : String} (h : c.word? w = some d) :
    (c.token w.length).text.toList = w.toList := by
  have hprefix := List.prefix_iff_eq_take.mp (Cursor.prefix_of_word? h)
  rw [String.length_toList] at hprefix
  rw [Cursor.token, String.toList_ofList, ← hprefix]

end Text

namespace Grammar

/-- An include path is a dotted part, and at most one sign with a name behind it. -/
theorem exists_of_includePath? {c d : Cursor} {path : Token}
    (h : includePath? c = some (path, d)) :
    ∃ dotted last, c.Reads dotted last ∧
      (∀ x ∈ dotted.text.toList, Text.isNameChar x = true ∨ x = '.') ∧
      ((path = dotted ∧ d = last) ∨ ∃ next name, last.word? "@" = some next ∧
        next.name? = some (name, d) ∧
        path.text.toList = dotted.text.toList ++ '@' :: name.text.toList) := by
  obtain ⟨⟨first, next⟩, hfirst, hread⟩ := Option.bind_eq_some_iff.mp h
  cases hread
  let dotted := c.run fun x => Text.isNameChar x || x == '.'
  have hdotted : c.Reads (c.token dotted) (c.advance dotted) := reads_dotted hfirst
  have hchars : ∀ x ∈ (c.token dotted).text.toList, Text.isNameChar x = true ∨ x = '.' := by
    intro x hx
    simpa using Cursor.of_mem_token_run hx
  refine ⟨_, _, hdotted, hchars, ?_⟩
  cases hbehind : ((c.advance dotted).word? "@").bind Cursor.name? with
  | none =>
    have hoffset : (c.advance dotted).offset - c.offset = dotted := by simp [Cursor.advance]
    simp only [dotted] at hoffset ⊢
    simp only [Option.elim_none, hoffset]
    exact .inl ⟨trivial, trivial⟩
  | some read =>
    obtain ⟨behind, hat, hname⟩ := Option.bind_eq_some_iff.mp hbehind
    have hsign := Cursor.reads_of_word? hat (by decide)
    simp only [dotted] at hdotted hat ⊢
    simp only [Option.elim_some]
    -- Behind the dotted part there is the sign, and behind it one name.
    refine .inr ⟨behind, read.1, hat, hname, ?_⟩
    rw [(hdotted.append hsign).toList_append (Cursor.reads_of_name? hname),
      hdotted.toList_append hsign, Cursor.toList_token_of_word? hat, List.append_assoc]
    rfl

theorem isPathChar_of_includePath? {c d : Cursor} {t : Token} (h : includePath? c = some (t, d)) :
    ∀ x ∈ t.text.toList, Text.isPathChar x = true := by
  obtain ⟨dotted, last, -, hchars, ⟨rfl, -⟩ | ⟨next, name, -, hname, htext⟩⟩ :=
    exists_of_includePath? h
  · intro x hx
    rcases hchars x hx with hname | rfl
    · exact Text.isPathChar_of_isNameChar hname
    · rfl
  · rw [htext, List.forall_mem_append, List.forall_mem_cons]
    refine ⟨fun x hx => ?_, rfl, fun x hx => ?_⟩
    · rcases hchars x hx with hname | rfl
      · exact Text.isPathChar_of_isNameChar hname
      · rfl
    · exact Text.isPathChar_of_isNameChar ((Cursor.isName_of_name? hname).2 x hx)

end Grammar

/-- An include line starts with the word for it, and the path follows behind blanks. -/
theorem Statement.exists_of_ofText_inclusion {text : List Char} {path : Token}
    (h : Statement.ofText text = .inclusion path) :
    ∃ word start behind, (Cursor.start text).skipBlanks.word? "include" = some word ∧
      word.blanks? = some start ∧ Grammar.includePath? start = some (path, behind) := by
  obtain ⟨recognise, hmem, hsome⟩ := Statement.exists_recogniser h (by simp)
  simp only [Statement.recognisers, List.mem_cons, List.not_mem_nil, or_false] at hmem
  rcases hmem with rfl | hmem
  · simp only [Grammar.inclusion?, Option.bind_eq_bind, Option.bind_eq_some_iff] at hsome
    obtain ⟨word, hword, start, hblanks, ⟨token, behind⟩, hpath, heq⟩ := hsome
    cases heq
    exact ⟨word, start, behind, hword, hblanks, hpath⟩
  · -- No other form gives an include line.
    exfalso
    rcases hmem with rfl | rfl | rfl | rfl | rfl | rfl
    all_goals
      simp [Grammar.classHead?, Grammar.functionHead?, Grammar.macroHead?, Grammar.variableDecl?,
        Grammar.malformed?, Grammar.conditional?, Option.bind_eq_some_iff] at hsome

/-- The path of an include line is made of the characters of a dotted path. -/
theorem Statement.isPathChar_of_ofText {text : List Char} {path : Token}
    (h : Statement.ofText text = .inclusion path) :
    ∀ x ∈ path.text.toList, Text.isPathChar x = true := by
  obtain ⟨_, _, _, -, -, hpath⟩ := Statement.exists_of_ofText_inclusion h
  exact Grammar.isPathChar_of_includePath? hpath

/-- A segment of an include path: it is not empty and has neither a dot nor a slash. -/
structure IsSegment (segment : String) : Prop where
  ne_empty : segment ≠ ""
  dot_notMem : '.' ∉ segment.toList
  slash_notMem : '/' ∉ segment.toList

namespace IsSegment

variable {segment extension : String}

/-- With any extension behind it, a segment is the name of an entry. -/
theorem isEntryName_append (h : IsSegment segment) (hext : '/' ∉ extension.toList) :
    IsEntryName (segment ++ extension) := by
  obtain ⟨c, cs, hlist⟩ :=
    List.exists_cons_of_ne_nil (mt String.toList_eq_nil_iff.mp h.ne_empty)
  have hdot : c ≠ '.' := fun hc => h.dot_notMem (by simp [hlist, hc])
  -- Neither of the two names made of dots starts like a segment.
  have hne (name : String) (hname : name.toList.head?.all (· == '.')) :
      segment ++ extension ≠ name := by
    rintro rfl
    rw [String.toList_append, hlist] at hname
    simp [hdot] at hname
  refine ⟨hne "" (by decide), hne "." (by decide), hne ".." (by decide), ?_⟩
  rw [String.toList_append, List.mem_append, not_or]
  exact ⟨h.slash_notMem, hext⟩

theorem isEntryName (h : IsSegment segment) : IsEntryName segment := by
  have hnone : IsEntryName (segment ++ "") := h.isEntryName_append (by decide)
  rwa [String.append_empty] at hnone

end IsSegment

theorem joinPaths_concat (parts : List String) (part : String) :
    joinPaths (parts ++ [part]) = joinPath (joinPaths parts) part := by
  cases parts with
  | nil => simp [joinPaths, joinPath]
  | cons first more => simp [joinPaths]

/-- Segments that are joined, with an extension behind the last one, are found again. -/
theorem components_joinPaths {parts : List String} {last extension : String}
    (hparts : ∀ part ∈ parts, IsSegment part) (hlast : IsSegment last)
    (hext : '/' ∉ extension.toList) :
    Path.components (joinPaths (parts ++ [last]) ++ extension) = parts ++ [last ++ extension] := by
  induction parts using List.reverseRecOn generalizing last extension with
  | nil =>
    apply Path.components_of_notMem
    exact (hlast.isEntryName_append hext).2.2.2
  | append_singleton parts part ih =>
    rw [List.forall_mem_append, List.forall_mem_singleton] at hparts
    have hfront : Path.components (joinPaths (parts ++ [part])) = parts ++ [part] := by
      have hnone : '/' ∉ "".toList := by decide
      have hjoined := ih hparts.1 hparts.2 hnone
      rwa [String.append_empty, String.append_empty] at hjoined
    have hempty : "" ∉ Path.components (joinPaths (parts ++ [part])) := by
      rw [hfront, List.mem_append, List.mem_singleton]
      rintro (hmem | heq)
      · exact (hparts.1 "" hmem).ne_empty rfl
      · exact hparts.2.ne_empty heq.symm
    have hhead : last.toList.head? ≠ some '/' := fun hhead =>
      hlast.slash_notMem (List.mem_of_head? hhead)
    rw [joinPaths_concat]
    rcases Path.joinPath_cases (joinPaths (parts ++ [part])) hhead with
      ⟨hnil, -⟩ | ⟨front, hslash, -⟩ | ⟨-, -, hjoin⟩
    · exact absurd (by rw [hnil]; decide) hempty
    · refine absurd ?_ hempty
      have hcomponents := Path.components_append_slash front ""
      rw [String.append_empty] at hcomponents
      rw [hslash, hcomponents]
      exact List.mem_append_right _ (by decide)
    · rw [hjoin, String.append_assoc, Path.components_append_slash, hfront,
        Path.components_of_notMem (hlast.isEntryName_append hext).2.2.2]

namespace ModuleSearch

variable {s : ModuleSearch} {disk : Disk} {currentDir path : String} {r : Resolution}

theorem isSegment_of_mem_segments (hpath : ∀ x ∈ path.toList, Text.isPathChar x = true) :
    ∀ segment ∈ segments path, IsSegment segment := by
  intro segment hmem
  obtain ⟨piece, hpiece, rfl⟩ := List.mem_map.mp hmem
  obtain ⟨hpiece, hne⟩ := List.mem_filter.mp hpiece
  refine ⟨?_, ?_, ?_⟩
  · simpa using hne
  · rw [String.toList_ofList]
    exact Text.sep_notMem_of_mem_pieces hpiece
  · rw [String.toList_ofList]
    intro hslash
    obtain ⟨c, hc, hin⟩ := List.mem_flatMap.mp (Text.mem_of_mem_pieces hpiece hslash)
    -- Nothing but a dot is put into the path, and no slash was in it.
    have heq : c = '/' := by
      split at hin
      · simp_all
      · exact (List.mem_singleton.mp hin).symm
    exact absurd (hpath c hc) (by rw [heq]; decide)

theorem candidate_below {parts : List String} (hne : parts ≠ [])
    (hparts : ∀ part ∈ parts, IsSegment part) (hext : '/' ∉ s.extension.toList)
    (directory : String) :
    (s.candidate disk parts directory).Below (disk.absolute directory) := by
  apply Path.resolve_joinPath_below
  obtain ⟨front, last, rfl⟩ := (List.eq_nil_or_concat' parts).resolve_left hne
  rw [List.forall_mem_append, List.forall_mem_singleton] at hparts
  rw [components_joinPaths hparts.1 hparts.2 hext, List.forall_mem_append,
    List.forall_mem_singleton]
  exact ⟨fun part hpart => (hparts.1 part hpart).isEntryName, hparts.2.isEntryName_append hext⟩

/-- The file that was found is there, and one of the directories holds it. -/
theorem exists_of_findModule? {parts leftOver : List String} {file : Path}
    (h : s.findModule? disk currentDir parts = some (file, leftOver)) :
    disk.isFile file.toText = true ∧ ∃ front, front ≠ [] ∧ front ⊆ parts ∧
      ∃ directory ∈ s.directories currentDir, file = s.candidate disk front directory := by
  obtain ⟨p, hp, rfl, -⟩ := findModule?_eq_some_iff.mp h
  refine ⟨hp.isFile, parts.take p.count, ?_, List.take_subset _ _,
    if p.inLibrary then s.libraryDir else currentDir, ?_, rfl⟩
  · have hpos := hp.count_pos
    have hle := hp.count_le
    rw [ne_eq, List.take_eq_nil_iff]
    rintro (hzero | rfl)
    · omega
    · rw [List.length_nil] at hle
      omega
  · cases p.inLibrary <;> simp [directories]

/-- The module of a path is a file below one of the directories that are searched. -/
theorem file_of_resolve? (hext : '/' ∉ s.extension.toList)
    (hpath : ∀ x ∈ path.toList, Text.isPathChar x = true)
    (h : s.resolve? disk currentDir path = some r) :
    disk.isFile r.file.toText = true ∧
      (r.file.Below (disk.absolute currentDir) ∨ r.file.Below (disk.absolute s.libraryDir)) := by
  obtain ⟨⟨file, leftOver⟩, hfound, rfl⟩ := Option.map_eq_some_iff.mp h
  obtain ⟨hisFile, front, hne, hsub, directory, hdirectory, rfl⟩ := exists_of_findModule? hfound
  refine ⟨hisFile, ?_⟩
  have hbelow : (s.candidate disk front directory).Below (disk.absolute directory) :=
    candidate_below hne (fun part hpart => isSegment_of_mem_segments hpath part (hsub hpart)) hext
      directory
  simp only [directories, List.mem_cons, List.not_mem_nil, or_false] at hdirectory
  rcases hdirectory with rfl | rfl
  · exact .inl hbelow
  · exact .inr hbelow

end ModuleSearch

end ScriptLint
