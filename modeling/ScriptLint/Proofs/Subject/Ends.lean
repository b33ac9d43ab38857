import ScriptLint.Proofs.Line.Positions
import ScriptLint.Proofs.Subject.Analysis

/-! Where a finding ends. It starts at the column of its token in the line as written, but its
length is the one of the token in the comment-free text. So it falls short of the end of the token
by the comments within, and by nothing else. -/
namespace ScriptLint

open Text (Token)

namespace Line

/-- The number of characters of comments from the column `first` on and before the column `last`. -/
def commentsBetween (l : Line) (first last : Nat) : Nat :=
  ((l.marks.take last).drop first).count .comment

/-- The column of the `k`th character that is kept has `k` kept ones before it, and the comments. -/
theorem Mode.add_count_of_getElem?_keptFrom {mode : Mode} {text : List Char} {here k column : Nat}
    (h : (mode.keptFrom here text)[k]? = some column) :
    here + k + ((mode.marks text).take (column - here)).count .comment = column := by
  induction text generalizing mode here k with
  | nil => cases h
  | cons c cs ih =>
    by_cases hmark : (mode.read c cs.head?).1 = .comment
    · rw [keptFrom_cons_of_comment hmark] at h
      have hle := le_of_mem_keptFrom (List.mem_of_getElem? h)
      have hstep : column - here = column - (here + 1) + 1 := by omega
      have hrest := ih h
      rw [marks, hstep, List.take_succ_cons, hmark, List.count_cons_self]
      omega
    · rw [keptFrom_cons_of_kept hmark] at h
      cases k with
      | zero =>
        obtain rfl : here = column := Option.some.inj h
        rw [Nat.sub_self, List.take_zero, List.count_nil, Nat.add_zero]
      | succ k =>
        rw [List.getElem?_cons_succ] at h
        have hle := le_of_mem_keptFrom (List.mem_of_getElem? h)
        have hstep : column - here = column - (here + 1) + 1 := by omega
        have hrest := ih h
        rw [marks, hstep, List.take_succ_cons, List.count_cons_of_ne hmark]
        omega

variable (l : Line)

theorem count_marks_of_column? {offset column : Nat} (hlt : offset < l.code.length)
    (h : l.column? offset = some column) :
    offset + (l.marks.take column).count .comment = column := by
  rw [← l.length_kept] at hlt
  rw [l.column?_of_lt hlt] at h
  have hkept : (l.mode.keptFrom 0 l.text)[offset]? = some column := by
    rw [← l.kept_eq_keptFrom, List.getElem?_eq_getElem hlt, h]
  have hcount := Mode.add_count_of_getElem?_keptFrom hkept
  rwa [Nat.zero_add, Nat.sub_zero] at hcount

theorem count_marks_add {first last : Nat} (h : first ≤ last) :
    (l.marks.take last).count .comment =
      (l.marks.take first).count .comment + l.commentsBetween first last := by
  have hfront : (l.marks.take last).take first = l.marks.take first := by
    rw [List.take_take, Nat.min_eq_left h]
  calc (l.marks.take last).count .comment
      = ((l.marks.take last).take first ++ (l.marks.take last).drop first).count .comment := by
        rw [List.take_append_drop]
    _ = _ := by rw [List.count_append, hfront, commentsBetween]

/-- The columns of the first and of the last character of a token are as far apart as these
characters, and the comments between them. -/
theorem exists_columns_of_in {token : Token} (h : token.In l.code) :
    ∃ first last : Nat, l.column? token.offset = some first ∧
      l.column? (token.offset + (token.text.length - 1) : Nat) = some last ∧
      first + token.text.length + l.commentsBetween first last = last + 1 := by
  have hpos := h.length_pos
  have hend := h.add_le
  have hfirst : token.offset < l.code.length := by omega
  have hlast : token.offset + (token.text.length - 1) < l.code.length := by omega
  obtain ⟨first, hcolumn, -⟩ := l.columnsMatch.offset_of_column _ hfirst
  obtain ⟨last, hcolumn', -⟩ := l.columnsMatch.offset_of_column _ hlast
  refine ⟨first, last, hcolumn, hcolumn', ?_⟩
  have hle : first ≤ last := by
    rcases Nat.eq_zero_or_pos (token.text.length - 1) with hone | hmore
    · rw [hone, Nat.add_zero, hcolumn] at hcolumn'
      exact Nat.le_of_eq (Option.some.inj hcolumn')
    · obtain ⟨a, b, ha, hb, hab⟩ := l.columnsMatch.monotone token.offset
        (token.offset + (token.text.length - 1) : Nat) (by omega) (by omega) (by omega)
      rw [hcolumn] at ha
      rw [hcolumn'] at hb
      cases ha
      cases hb
      exact Nat.le_of_lt hab
  have hbefore := l.count_marks_of_column? hfirst hcolumn
  have hbefore' := l.count_marks_of_column? hlast hcolumn'
  have hcount := l.count_marks_add hle
  omega

end Line

/-- Every finding of an analysis spans what it is about. -/
theorem exists_spansSubject_of_mem_analyze {disk : Disk} {config : Config} {file : Option String}
    {text : List Char} {d : Diagnostic} (h : d ∈ (analyze disk config file text).diagnostics) :
    ∃ line ∈ Line.ofSource text, d.SpansSubject (analyze disk config file text).table line := by
  have houtline := congrArg Prod.fst
    (ModuleSource.outline_eq (s := config.modules disk) true file (Line.ofSource text) {})
  rw [analyze_diagnostics] at h
  rcases List.mem_append.mp h with h | huse
  · rcases List.mem_append.mp h with hread | htype
    · rw [houtline] at hread
      obtain ⟨line, hline, hgives⟩ :=
        Outline.gives_of_mem_diagnostics (Line.numbered_ofSource text) hread
      exact ⟨line, hline, hgives.spansSubject⟩
    · apply spansSubject_of_mem_typeCheck _ htype
      rw [analyze_table, houtline]
      exact Outline.typesIn_ofLines _ _ _ _ _ _
  · exact spansSubject_of_mem_references huse

/-- Every finding of an analysis that does not take a line as a whole is about a token of its line.
It starts at the column of the first character of the token. It ends behind the column of the last
one, less the characters of comments between the two. -/
theorem analyze_ends (disk : Disk) (config : Config) (file : Option String) (text : List Char) :
    ∀ d ∈ (analyze disk config file text).diagnostics, d.wholeLine = false →
      ∃ line ∈ Line.ofSource text, line.number = d.line ∧
        ∃ token : Token, token.In line.code ∧
          d.IsAbout (analyze disk config file text).table line token.text ∧
          ∃ first last : Nat, line.column? token.offset = some first ∧
            line.column? (token.offset + (token.text.length - 1) : Nat) = some last ∧
            d.startColumn = first ∧
            d.endColumn + line.commentsBetween first last = last + 1 := by
  intro d hd hpart
  obtain ⟨line, hline, hspans⟩ := exists_spansSubject_of_mem_analyze hd
  obtain ⟨token, hin, ⟨column, hcolumn, hstart, hend⟩, habout⟩ := hspans.subject hpart
  obtain ⟨first, last, hfirst, hlast, hwidth⟩ := line.exists_columns_of_in hin
  obtain rfl : column = first := Option.some.inj (hcolumn.symm.trans hfirst)
  refine ⟨line, hline, hspans.number.symm, token, hin, habout, column, last, hfirst, hlast, hstart,
    ?_⟩
  omega

/-- A macro of one parameter that is called with two, the second behind a comment. -/
def commentedCall : List Char :=
  "macro m(a) \x7b\n\x7d\n@m(1, /* x */ 2)".toList

/-- The finding about the call ends where the comment in it lets it end. -/
theorem analyze_ends_commentedCall :
    ∃ d ∈ (analyze .bare .bare none commentedCall).diagnostics, d.wholeLine = false ∧
      ∃ line ∈ Line.ofSource commentedCall, line.number = d.line ∧
        ∃ token : Token, token.In line.code ∧
          d.IsAbout (analyze .bare .bare none commentedCall).table line token.text ∧
          ∃ first last : Nat, line.column? token.offset = some first ∧
            line.column? (token.offset + (token.text.length - 1) : Nat) = some last ∧
            d.startColumn = first ∧
            d.endColumn + line.commentsBetween first last = last + 1 := by
  have hparts : (analyze .bare .bare none commentedCall).diagnostics.map (·.wholeLine) =
      [false] := by
    decide +kernel
  obtain ⟨d, hd, hpart⟩ := List.mem_map.mp (hparts ▸ List.mem_singleton_self false)
  exact ⟨d, hd, hpart, analyze_ends .bare .bare none commentedCall d hd hpart⟩

/-- The call goes on to column 15, but its finding ends before column 9, in the comment. -/
theorem commentedCall_ends_early :
    ∃ line ∈ Line.ofSource commentedCall,
      ∃ d ∈ (analyze .bare .bare none commentedCall).diagnostics,
        d.wholeLine = false ∧ d.line = line.number ∧
        d.marked? line = some "@m(1,  2)".toList ∧ line.column? 8 = some 15 ∧
        d.endColumn = 9 := by
  decide +kernel

end ScriptLint
