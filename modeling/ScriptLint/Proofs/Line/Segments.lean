import ScriptLint.Proofs.Line.Plain
import ScriptLint.Proofs.Line.Reading
import ScriptLint.Proofs.Text.LineEnds

/-! A text put together from code, literals and comments. Behind a text that ends in code, and not
with a slash, the reading starts afresh: a literal is kept whole, a block comment is left out up to
where it is closed, over as many lines as it takes, and a comment to the end of the line takes all
the rest with it. -/
namespace ScriptLint.Line

namespace Mode

variable {mode : Mode} {c : Char}

/-- What leads to code does not look at the next character, unless it is a slash. -/
theorem read_of_code_behind (hnext : (mode.read c none).2 = .code) (hc : c ≠ '/')
    (ahead : Option Char) : mode.read c ahead = mode.read c none := by
  cases mode with
  | code => exact read_code_of_ne_slash hc ahead none
  | block => simp [read] at hnext
  | codeEscape | literal _ | literalEscape _ | blockStart | blockEnd | lineComment => rfl

section Front

variable {front : List Char} (hafter : mode.after front = .code)
  (hlast : front.getLast? ≠ some '/')
include hafter hlast

theorem read_front_append {cs : List Char} (hfront : front = c :: cs) (back : List Char) :
    mode.read c (cs ++ back).head? = mode.read c cs.head? := by
  subst hfront
  cases cs with
  | nil => exact read_of_code_behind hafter (fun hc => hlast (congrArg some hc)) _
  | cons d ds => rfl

omit hafter in
theorem tail_getLast?_ne_slash {cs : List Char} (hfront : front = c :: cs) :
    cs.getLast? ≠ some '/' := by
  intro hslash
  apply hlast
  rw [hfront, List.getLast?_cons, hslash]
  rfl

theorem after_append (back : List Char) : mode.after (front ++ back) = Mode.code.after back := by
  induction front generalizing mode with
  | nil => rw [List.nil_append, ← hafter, after]
  | cons c cs ih =>
    rw [List.cons_append, after, read_front_append hafter hlast rfl]
    exact ih hafter (tail_getLast?_ne_slash hlast rfl)

theorem uncommented_append (back : List Char) :
    mode.uncommented (front ++ back) = mode.uncommented front ++ Mode.code.uncommented back := by
  induction front generalizing mode with
  | nil =>
    have hmode : mode = .code := hafter
    rw [hmode]
    rfl
  | cons c cs ih =>
    rw [List.cons_append, uncommented_cons, uncommented_cons,
      read_front_append hafter hlast rfl, ih hafter (tail_getLast?_ne_slash hlast rfl),
      List.append_assoc]

end Front

/-- What stands between the quotes of a literal: a backslash takes the next character with it, and
no other quote of the kind is there. -/
inductive LiteralBody (quote : Char) : List Char → Prop
  | nil : LiteralBody quote []
  | plain {c : Char} {cs : List Char} (hquote : c ≠ quote) (hescape : c ≠ '\\')
      (h : LiteralBody quote cs) : LiteralBody quote (c :: cs)
  | escaped {c : Char} {cs : List Char} (h : LiteralBody quote cs) :
      LiteralBody quote ('\\' :: c :: cs)

theorem uncommented_literal {quote : Char} {body : List Char} (h : LiteralBody quote body)
    (hquote : quote ≠ '\\') (back : List Char) :
    (Mode.literal quote).uncommented (body ++ quote :: back) =
      body ++ quote :: Mode.code.uncommented back := by
  induction h with
  | nil =>
    have hread : ∀ ahead, (Mode.literal quote).read quote ahead = (.literal, .code) := by
      intro ahead
      simp [read, hquote]
    rw [List.nil_append, uncommented_cons, hread]
    rfl
  | @plain c cs hne hescape _ ih =>
    have hread : ∀ ahead, (Mode.literal quote).read c ahead = (.literal, .literal quote) := by
      intro ahead
      simp [read, hne, hescape]
    rw [List.cons_append, uncommented_cons, hread, ih]
    rfl
  | @escaped c cs _ ih =>
    rw [List.cons_append, uncommented_cons]
    change '\\' :: (Mode.literalEscape quote).uncommented (c :: (cs ++ quote :: back)) = _
    rw [uncommented_cons]
    change '\\' :: c :: (Mode.literal quote).uncommented (cs ++ quote :: back) = _
    rw [ih, List.cons_append, List.cons_append]

/-- A quoted literal that is closed at its end, and not before. -/
def IsLiteral (text : List Char) : Prop :=
  ∃ quote body, (quote = '\x22' ∨ quote = '\x27') ∧ LiteralBody quote body ∧
    text = quote :: body ++ [quote]

/-- A literal in code is kept as it is. -/
theorem uncommented_literal_append {literal : List Char} (h : IsLiteral literal)
    (back : List Char) :
    Mode.code.uncommented (literal ++ back) = literal ++ Mode.code.uncommented back := by
  obtain ⟨quote, body, hquote, hbody, rfl⟩ := h
  have hread : ∀ ahead, Mode.code.read quote ahead = (.literal, .literal quote) := by
    intro ahead
    rcases hquote with rfl | rfl <;> rfl
  have hne : quote ≠ '\\' := by
    rcases hquote with rfl | rfl <;> decide
  rw [List.append_assoc, List.singleton_append, List.cons_append, uncommented_cons, hread,
    uncommented_literal hbody hne]
  simp

theorem read_block {ahead : Option Char} (h : ¬(c = '*' ∧ ahead = some '/')) :
    Mode.block.read c ahead = (.comment, .block) := by
  rw [read, if_neg h]

/-- What opens a block comment. -/
def opening : List Char := ['/', '*']

/-- What closes a block comment. -/
def closing : List Char := ['*', '/']

section Block

variable {body : List Char} (h : ¬closing <:+: body)
include h

theorem not_closing_tail {cs : List Char} (hbody : body = c :: cs) : ¬closing <:+: cs := by
  rintro hcs
  exact h (hbody ▸ hcs.trans (List.suffix_cons c cs).isInfix)

theorem not_closing_head {cs : List Char} (hbody : body = c :: cs) :
    ¬(c = '*' ∧ cs.head? = some '/') := by
  rintro ⟨rfl, hslash⟩
  obtain ⟨more, rfl⟩ := List.head?_eq_some_iff.mp hslash
  exact h (hbody ▸ ⟨[], more, rfl⟩)

/-- The first place where the comment is closed is the one behind its body. -/
theorem uncommented_block (back : List Char) :
    Mode.block.uncommented (body ++ closing ++ back) = Mode.code.uncommented back := by
  induction body with
  | nil => rfl
  | cons c cs ih =>
    -- A star at the end of the body has the closing star behind it, and no slash.
    have hopen : ¬(c = '*' ∧ (cs ++ closing ++ back).head? = some '/') := by
      cases cs with
      | nil => exact fun hstar => nomatch hstar.2
      | cons d ds => exact fun hstar => not_closing_head h rfl hstar
    rw [List.cons_append, List.cons_append, uncommented_cons, read_block hopen, if_pos rfl,
      List.nil_append]
    exact ih (not_closing_tail h rfl)

/-- Where a comment is not closed, all of the text belongs to it. -/
theorem uncommented_block_open : Mode.block.uncommented body = [] := by
  induction body with
  | nil => rfl
  | cons c cs ih =>
    rw [uncommented_cons, read_block (not_closing_head h rfl), if_pos rfl, List.nil_append]
    exact ih (not_closing_tail h rfl)

theorem after_block_open : Mode.block.after body = .block := by
  induction body with
  | nil => rfl
  | cons c cs ih =>
    rw [after, read_block (not_closing_head h rfl)]
    exact ih (not_closing_tail h rfl)

/-- Merging line ends brings no star and slash together. -/
theorem not_closing_mergeReturns : ¬closing <:+: Text.mergeReturns body := by
  induction body using Text.mergeReturns.induct with
  | case1 => exact h
  | case2 cs ih =>
    rw [Text.mergeReturns, List.infix_cons_iff]
    have hstart : ¬closing <+: '\n' :: Text.mergeReturns cs := by simp [closing]
    exact not_or.mpr ⟨hstart, ih (not_closing_tail (not_closing_tail h rfl) rfl)⟩
  | case3 c cs hpair ih =>
    rw [Text.mergeReturns.eq_3 _ _ hpair, List.infix_cons_iff]
    refine not_or.mpr ⟨fun hstart => ?_, ih (not_closing_tail h rfl)⟩
    obtain ⟨hc, hslash⟩ := List.cons_prefix_cons.mp hstart
    obtain ⟨more, hmerged⟩ := hslash
    have hfirst : (Text.mergeReturns cs).head? = some '/' := by
      rw [← hmerged]
      rfl
    exact not_closing_head h rfl
      ⟨hc.symm, Text.head?_of_head?_mergeReturns hfirst (by decide)⟩

/-- The body at its first line break. -/
theorem exists_first_break (hmem : '\n' ∈ body) :
    ∃ first more, body = first ++ '\n' :: more ∧ '\n' ∉ first ∧ ¬closing <:+: first ∧
      ¬closing <:+: more ∧ body.count '\n' = more.count '\n' + 1 := by
  obtain ⟨first, more, rfl, hfirst⟩ := List.eq_append_cons_of_mem hmem
  have hin : first <:+: first ++ '\n' :: more := (List.prefix_append first _).isInfix
  have hin' : more <:+: first ++ '\n' :: more :=
    ((List.suffix_cons '\n' more).trans (List.suffix_append first _)).isInfix
  refine ⟨first, more, rfl, hfirst, fun hclosing => h (hclosing.trans hin),
    fun hclosing => h (hclosing.trans hin'), ?_⟩
  rw [List.count_append, List.count_cons_self, List.count_eq_zero.mpr hfirst]
  omega

end Block

end Mode

/-- The comment-free text of a line that starts outside of comments. -/
def stripped (text : List Char) : List Char :=
  (⟨1, text, false⟩ : Line).code

section Lines

open Text (mergeReturns pieces)
open Mode (opening closing)

variable {body post : List Char} (hbody : ¬closing <:+: body) (hpost : '\n' ∉ post)
include hbody hpost

/-- The lines from within a comment on: all are empty up to the one that closes it. -/
theorem map_code_go_block (n : Nat) :
    (ofSource.go n true (pieces '\n' (body ++ closing ++ post))).map code =
      List.replicate (body.count '\n') [] ++ [stripped post] := by
  -- One line break less for every line that lies within the comment.
  generalize hcount : body.count '\n' = breaks
  induction breaks generalizing body n with
  | zero =>
    have hfeed : '\n' ∉ body ++ closing ++ post := by
      simpa [hpost, closing] using List.count_eq_zero.mp hcount
    rw [Text.pieces_of_notMem hfeed]
    exact congrArg (· :: []) (Mode.uncommented_block hbody post)
  | succ breaks ih =>
    have hmem : '\n' ∈ body := by
      apply List.count_pos_iff.mp
      omega
    obtain ⟨first, more, rfl, hfirst, hopen, hmore, hless⟩ := Mode.exists_first_break hbody hmem
    have hend : (⟨n, first, true⟩ : Line).endsInComment = true :=
      decide_eq_true (Mode.after_block_open hopen)
    have hcode : (⟨n, first, true⟩ : Line).code = [] := Mode.uncommented_block_open hopen
    have hlines : first ++ '\n' :: more ++ closing ++ post =
        first ++ '\n' :: (more ++ closing ++ post) := by simp
    rw [hlines, Text.pieces_append_sep_cons, Text.pieces_of_notMem hfirst, List.singleton_append,
      ofSource.go, List.map_cons, hend, hcode, ih hmore (n + 1) (by omega)]
    rfl

variable {pre : List Char} (hpre : '\n' ∉ pre) (hafter : Mode.code.after pre = .code)
  (hlast : pre.getLast? ≠ some '/')
include hpre hafter hlast

/-- The lines from the one on in which a comment opens that is closed in a later one. -/
theorem map_code_go_front (n : Nat) (hbreak : '\n' ∈ body) :
    (ofSource.go n false (pieces '\n' (pre ++ opening ++ body ++ closing ++ post))).map code =
      stripped pre :: List.replicate (body.count '\n' - 1) [] ++ [stripped post] := by
  obtain ⟨first, more, rfl, hfirst, hopen, hmore, hcount⟩ := Mode.exists_first_break hbody hbreak
  have hfeed : '\n' ∉ pre ++ (opening ++ first) := by
    simpa [hpre, opening] using hfirst
  have hlines : pre ++ opening ++ (first ++ '\n' :: more) ++ closing ++ post =
      pre ++ (opening ++ first) ++ '\n' :: (more ++ closing ++ post) := by simp
  have hend : (⟨n, pre ++ (opening ++ first), false⟩ : Line).endsInComment = true := by
    refine decide_eq_true ((Mode.after_append hafter hlast _).trans ?_)
    exact Mode.after_block_open hopen
  have hcode : (⟨n, pre ++ (opening ++ first), false⟩ : Line).code = stripped pre := by
    refine (Mode.uncommented_append hafter hlast _).trans ?_
    change stripped pre ++ Mode.block.uncommented first = stripped pre
    rw [Mode.uncommented_block_open hopen, List.append_nil]
  rw [hlines, Text.pieces_append_sep_cons, Text.pieces_of_notMem hfeed, List.singleton_append,
    ofSource.go, List.map_cons, hend, hcode, map_code_go_block hmore hpost, hcount]
  rfl

/-- The same of a source text, whose line ends are merged first. -/
theorem map_code_ofSource_block (hbreak : '\n' ∈ body) :
    (ofSource (pre ++ opening ++ body ++ closing ++ post)).map code =
      stripped pre :: List.replicate (body.count '\n' - 1) [] ++ [stripped post] := by
  -- There are line ends in the body only, and none stands across one of its ends.
  have hmerge : mergeReturns (pre ++ opening ++ body ++ closing ++ post) =
      pre ++ opening ++ mergeReturns body ++ closing ++ post := by
    have hfront : '\n' ∉ pre ++ opening := by simpa [opening] using hpre
    have hback : '\n' ∉ closing ++ post := by simpa [closing] using hpost
    calc mergeReturns (pre ++ opening ++ body ++ closing ++ post)
      _ = mergeReturns ((pre ++ opening) ++ (body ++ (closing ++ post))) := by simp
      _ = (pre ++ opening) ++ mergeReturns (body ++ (closing ++ post)) := by
        rw [Text.mergeReturns_append_of_apart, Text.mergeReturns_of_notMem hfront]
        simp [opening]
      _ = (pre ++ opening) ++ (mergeReturns body ++ (closing ++ post)) := by
        rw [Text.mergeReturns_append_of_apart, Text.mergeReturns_of_notMem hback]
        simp [closing]
      _ = pre ++ opening ++ mergeReturns body ++ closing ++ post := by simp
  have hmem : '\n' ∈ mergeReturns body := by
    rw [← List.count_pos_iff, Text.count_mergeReturns]
    exact List.count_pos_iff.mpr hbreak
  rw [ofSource, Text.sourceLines, hmerge, ← Text.count_mergeReturns body]
  exact map_code_go_front (Mode.not_closing_mergeReturns hbody) hpost hpre hafter hlast 1 hmem

end Lines

open Mode (opening closing)

/-- Behind a text that ends in code, and not with a slash, the comment-free text is put together
from its parts: literals are kept, block comments are left out, over several lines too, and so is a
comment to the end of the line. -/
theorem stripped_segments {pre : List Char} (hafter : Mode.code.after pre = .code)
    (hlast : pre.getLast? ≠ some '/') (post : List Char) :
    (∀ literal, Mode.IsLiteral literal →
      stripped (pre ++ literal ++ post) = stripped pre ++ literal ++ stripped post) ∧
    (∀ body, ¬closing <:+: body →
      stripped (pre ++ opening ++ body ++ closing ++ post) = stripped pre ++ stripped post ∧
      ('\n' ∉ pre → '\n' ∉ post → '\n' ∈ body →
        (ofSource (pre ++ opening ++ body ++ closing ++ post)).map code =
          stripped pre :: List.replicate (body.count '\n' - 1) [] ++ [stripped post])) ∧
    (∀ rest, stripped (pre ++ '#' :: rest) = stripped pre ∧
      stripped (pre ++ '/' :: '/' :: rest) = stripped pre) := by
  have happend (back : List Char) : stripped (pre ++ back) = stripped pre ++ stripped back :=
    Mode.uncommented_append hafter hlast back
  refine ⟨fun literal h => ?_, fun body h => ⟨?_, fun hpre hpost hbreak => ?_⟩, fun rest => ?_⟩
  · have hliteral : stripped (literal ++ post) = literal ++ stripped post :=
      Mode.uncommented_literal_append h post
    rw [List.append_assoc, happend, hliteral, List.append_assoc]
  · have hblock : stripped (opening ++ (body ++ closing ++ post)) = stripped post :=
      Mode.uncommented_block h post
    have hsplit : pre ++ opening ++ body ++ closing ++ post =
        pre ++ (opening ++ (body ++ closing ++ post)) := by simp
    rw [hsplit, happend, hblock]
  · exact map_code_ofSource_block h hpost hpre hafter hlast hbreak
  · -- Either sign leads into a comment that takes the rest of the line.
    have hrest : stripped ('#' :: rest) = [] ∧ stripped ('/' :: '/' :: rest) = [] :=
      ⟨Mode.uncommented_lineComment rest, Mode.uncommented_lineComment rest⟩
    rw [happend, happend, hrest.1, hrest.2]
    simp

theorem stripped_segments_mixed :
    let pre := "s = \x22//\x22 + ".toList
    let literal := "\x27\\\x27#\x27".toList
    let body := "* one /*\n# two\r\n/ *".toList
    let post := "; t // u".toList
    (Mode.code.after pre = .code ∧ pre.getLast? ≠ some '/' ∧ Mode.IsLiteral literal ∧
      ¬closing <:+: body ∧ '\n' ∉ pre ∧ '\n' ∉ post ∧ '\n' ∈ body) ∧
    stripped pre = pre ∧ stripped post = "; t ".toList ∧
    stripped (pre ++ literal ++ post) = pre ++ literal ++ "; t ".toList ∧
    stripped (pre ++ opening ++ body ++ closing ++ post) = pre ++ "; t ".toList ∧
    (ofSource (pre ++ opening ++ body ++ closing ++ post)).map code =
      [pre, [], "; t ".toList] ∧
    stripped (pre ++ '#' :: post) = pre := by
  intro pre literal body post
  have hafter : Mode.code.after pre = .code := by decide +kernel
  have hlast : pre.getLast? ≠ some '/' := by decide +kernel
  have hliteral : Mode.IsLiteral literal :=
    ⟨'\x27', ['\\', '\x27', '#'], .inr rfl, .escaped (.plain (by decide) (by decide) .nil),
      by decide +kernel⟩
  have hbody : ¬closing <:+: body := by decide +kernel
  have hpre : '\n' ∉ pre := by decide +kernel
  have hpost : '\n' ∉ post := by decide +kernel
  have hbreak : '\n' ∈ body := by decide +kernel
  have hstripped : stripped pre = pre ∧ stripped post = "; t ".toList := by decide +kernel
  have hlines : pre :: List.replicate (body.count '\n' - 1) [] ++ ["; t ".toList] =
      [pre, [], "; t ".toList] := by decide +kernel
  obtain ⟨hkept, hblocks, hrests⟩ := stripped_segments hafter hlast post
  obtain ⟨hblock, hblockLines⟩ := hblocks body hbody
  have hrest := (hrests post).1
  have hkept := hkept literal hliteral
  have hblockLines := hblockLines hpre hpost hbreak
  rw [hstripped.1, hstripped.2] at hkept hblock hblockLines
  rw [hstripped.1] at hrest
  exact ⟨⟨hafter, hlast, hliteral, hbody, hpre, hpost, hbreak⟩, hstripped.1, hstripped.2, hkept,
    hblock, hblockLines.trans hlines, hrest⟩

end ScriptLint.Line
