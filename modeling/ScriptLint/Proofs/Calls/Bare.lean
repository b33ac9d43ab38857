import ScriptLint.Proofs.Calls.Analysis
import ScriptLint.Proofs.Listing.Lines
import ScriptLint.Proofs.Literals.Regions
import ScriptLint.Proofs.Text.Trim

/-! Which names count as called functions. On most lines a name behind the sign of a macro or the
dot of a method does not, nor does the word that makes objects. What stands in front of a name is
looked up in the masked text, but a mask hides neither the sign nor the dot of a name that it
leaves. Among the arguments of a call in the external form nothing is made of what stands in
front. -/
namespace ScriptLint

open Text (Cursor Token cursorAt)

namespace Literal

variable {mode : Mode} {c : Char} {ahead : Option Char}

/-- Where a character is left that is no backslash, no literal is open. -/
theorem Mode.eq_outside_of_read (hc : c ≠ '\\') (h : (mode.read c ahead).1 = .outside) :
    mode = .outside := by
  cases mode with
  | outside => rfl
  | inside q =>
    unfold read at h
    dsimp only at h
    rw [if_neg hc] at h
    split at h <;> cases h
  | escaped q => cases h

/-- A character that is no quote is left if no literal is open behind it. -/
theorem Mode.Proper.part_eq_outside (hmode : mode.Proper) (hc : ¬IsQuote c)
    (h : (mode.read c ahead).2 = .outside) : (mode.read c ahead).1 = .outside := by
  cases mode with
  | outside => rw [read_outside hc]
  | inside q =>
    have hne : c ≠ q := by
      rintro rfl
      exact hc hmode
    unfold Mode.read at h ⊢
    dsimp only at h ⊢
    rw [if_neg hne] at h ⊢
    split_ifs at h ⊢
    rfl
  | escaped q => cases h

/-- The mask of a text at whose start a literal may be open. -/
def Mode.mask (mode : Mode) (text : List Char) : List Char :=
  (text.zip (mode.parts text)).map fun (c, part) => if part = .outside then c else ' '

theorem Mode.mask_cons (mode : Mode) (c : Char) (cs : List Char) :
    mode.mask (c :: cs) = (if (mode.read c cs.head?).1 = .outside then c else ' ') ::
      (mode.read c cs.head?).2.mask cs := rfl

/-- A mask leaves a character that is no quote if it leaves the next one. -/
theorem Mode.getElem?_mask_of_next {mode : Mode} (hmode : mode.Proper) {text : List Char} {k : Nat}
    {c x : Char} (hc : text[k]? = some c) (hquote : ¬IsQuote c)
    (hx : (mode.mask text)[k + 1]? = some x) (hblank : x ≠ ' ') (hslash : x ≠ '\\') :
    (mode.mask text)[k]? = some c := by
  induction text generalizing mode k with
  | nil => cases hc
  | cons first rest ih =>
    rw [mask_cons, List.getElem?_cons_succ] at hx
    cases k with
    | zero =>
      obtain rfl : first = c := Option.some.inj hc
      cases rest with
      | nil => cases hx
      | cons second rest =>
        rw [mask_cons] at hx
        have hsecond := Option.some.inj hx
        have hleft : ((mode.read first (second :: rest).head?).2.read second rest.head?).1 =
            .outside := by
          by_contra hmasked
          rw [if_neg hmasked] at hsecond
          exact hblank hsecond.symm
        rw [if_pos hleft] at hsecond
        have hopen := Mode.eq_outside_of_read (hsecond ▸ hslash) hleft
        rw [mask_cons, if_pos (hmode.part_eq_outside hquote hopen)]
        rfl
    | succ k =>
      rw [mask_cons, List.getElem?_cons_succ]
      exact ih (hmode.read first rest.head?) hc hx

end Literal

namespace References

/-- The name has no sign of a macro and no dot of a method right in front of it, and is not the word
that makes objects. -/
structure Bare (text : List Char) (name : Token) : Prop where
  sign : (text.take name.offset).getLast? ≠ some '@'
  dot : (text.take name.offset).getLast? ≠ some '.'
  word : name.text ≠ "new"

/-- The name is among the arguments of a call in the external form. -/
def InArguments (text : List Char) (name : Token) : Prop :=
  ∃ start args offset next,
    externalCall? (cursorAt text start) = some ((args, offset), next) ∧
    offset ≤ name.offset ∧ name.offset + name.text.length ≤ offset + args.length

section Site

variable {line : Line} {name : Token}

/-- The last character in front of the name of a call, unless it is a quote, is the same in the text
and in its mask. -/
theorem CallSite.getLast?_take_mask {text : List Char}
    (hsite : CallSite (Literal.mask text) name) {c : Char} (hquote : ¬Literal.IsQuote c)
    (h : (text.take name.offset).getLast? = some c) :
    ((Literal.mask text).take name.offset).getLast? = some c := by
  have hlt := hsite.opens.offset_lt
  cases hoffset : name.offset with
  | zero =>
    rw [hoffset] at h
    cases h
  | succ k =>
    have hlast : ∀ {l : List Char}, k < l.length → (l.take (k + 1)).getLast? = l[k]? := by
      intro l hk
      rw [List.take_succ_eq_append_getElem hk, List.getLast?_concat, List.getElem?_eq_getElem hk]
    have hmask : k < (Literal.mask text).length := by omega
    have htext : k < text.length := by rwa [Literal.length_mask] at hmask
    rw [hoffset, hlast htext] at h
    rw [hlast hmask]
    -- The name starts with a character that is neither a blank nor a backslash.
    obtain ⟨blanks, behind, hsplit, -⟩ := hsite.opens
    obtain ⟨x, hx⟩ := Option.isSome_iff_exists.mp (Option.isSome_of_any hsite.identifier.start)
    have hname : Text.isNameChar x = true := by
      exact hsite.identifier.isName.2 x (List.mem_of_mem_head? hx)
    have hnext : (Literal.mask text)[k + 1]? = some x := by
      rw [← hoffset, ← Nat.add_zero name.offset, ← List.getElem?_drop, hsplit,
        ← List.head?_eq_getElem?, List.head?_append, hx]
      rfl
    have hne : x ≠ ' ' ∧ x ≠ '\\' := by
      constructor <;> rintro rfl <;> exact absurd hname (by decide)
    have hproper : Literal.Mode.outside.Proper := trivial
    exact Literal.Mode.getElem?_mask_of_next hproper h hquote hnext hne.1 hne.2

/-- A line with a call site is not blank. -/
theorem CallSite.isBlank_eq_false (hsite : CallSite (Literal.mask (region line).text) name) :
    line.isBlank = false := by
  obtain ⟨x, hx⟩ := Option.isSome_iff_exists.mp (Option.isSome_of_any hsite.identifier.start)
  have hmem : x ∈ name.text.toList := List.mem_of_mem_head? hx
  apply Line.isBlank_of_mem (List.mem_of_mem_drop (hsite.in_line.found.subset hmem))
  exact Text.isBlank_of_isNameChar (hsite.identifier.isName.2 x hmem)

/-- What is taken for the call of a function, outside of the external form, is a bare name. -/
theorem CallSite.bare (hsite : CallSite (Literal.mask line.code) name)
    (h : isNoCall line (Literal.mask line.code) name = false) : Bare line.code name := by
  simp only [isNoCall, Bool.or_eq_false_iff, decide_eq_false_iff_not] at h
  obtain ⟨⟨⟨⟨hsign, -⟩, -⟩, hnew⟩, hdot⟩ := h
  refine ⟨fun hlast => hsign ?_, fun hlast => hdot ?_, hnew⟩
  · exact hsite.getLast?_take_mask (by decide) hlast
  · have hmask := hsite.getLast?_take_mask (by decide) hlast
    obtain ⟨front, hfront⟩ := List.getLast?_eq_some_iff.mp hmask
    rw [hfront, Text.trimEnd_append_cons (by decide)]
    simp [Text.trimEnd]

/-- A name of the region that is taken for the call of a function is bare, or it is an argument of a
call in the external form. -/
theorem CallSite.bare_or_inArguments (hsite : CallSite (Literal.mask (region line).text) name)
    (h : (!(region line).isExternal && isNoCall line (Literal.mask (region line).text) name) =
      false) :
    Bare line.code ⟨name.text, (region line).offset + name.offset⟩ ∨
      InArguments line.code ⟨name.text, (region line).offset + name.offset⟩ := by
  cases hexternal : (region line).isExternal with
  | false =>
    have hregion := region_of_isExternal_eq_false hexternal
    rw [hregion] at hsite h
    rw [hregion, Nat.zero_add]
    exact .inl (hsite.bare h)
  | true =>
    obtain ⟨start, next, hcall⟩ := exists_externalCall? hexternal
    refine .inr ⟨start, _, _, next, hcall, Nat.le_add_right _ _, ?_⟩
    obtain ⟨blanks, behind, hsplit, -⟩ := hsite.opens
    have hlength := congrArg List.length hsplit
    rw [List.length_drop, Literal.length_mask, List.length_append, String.length_toList] at hlength
    have hlt := hsite.opens.offset_lt
    rw [Literal.length_mask] at hlt
    dsimp only
    omega

end Site

end References

open References in
/-- What is said of a called function is said of a name that is bare, or that is an argument of a
call in the external form. Among the arguments of the first such call of a line each call site has
its outcome, whatever stands in front of it. -/
theorem analyze_calledNames (disk : Disk) (config : Config) (file : Option String)
    (text : List Char) :
    let a := analyze disk config file text
    (∀ d ∈ a.diagnostics, d.code = .functionInfo ∨ d.code = .undefinedFunction →
      ∃ line ∈ Line.ofSource text, ∃ name : Token, ∃ column : Nat, name.In line.code ∧
        line.column? name.offset = some column ∧ d ∈ a.callsAt line.number column ∧
        CallOutcome a.table line name.text column (a.callsAt line.number column) ∧
        (Bare line.code name ∨ InArguments line.code name)) ∧
    (∀ line ∈ Line.ofSource text, (region line).isExternal = true →
      ∀ name, CallSite (Literal.mask (region line).text) name →
        ∃ column : Nat, line.column? ((region line).offset + name.offset : Nat) = some column ∧
          CallOutcome a.table line name.text column (a.callsAt line.number column)) := by
  intro a
  constructor
  · intro d hd hcode
    have hmem : d ∈ a.ofCheck .calls := by
      refine List.mem_filter.mpr ⟨hd, decide_eq_true ?_⟩
      exact DiagnosticCode.check_eq_calls_iff.mpr hcode
    rw [analyze_ofCheck_calls] at hmem
    obtain ⟨line, hcoded, hd'⟩ := List.mem_flatMap.mp hmem
    have hline : line ∈ Line.ofSource text := (List.mem_filter.mp hcoded).1
    obtain ⟨⟨offset, name⟩, hfound, hsaid⟩ := List.mem_flatMap.mp hd'
    have hsite := (mem_occurrences_call?_iff.mp hfound).2
    change d ∈ callDiagnostics a.table line (region line) (Literal.mask (region line).text) name
      at hsaid
    have hcall : (!(region line).isExternal &&
        isNoCall line (Literal.mask (region line).text) name) = false := by
      by_contra hskipped
      rw [callDiagnostics, if_pos (eq_true_of_ne_false hskipped)] at hsaid
      exact List.not_mem_nil hsaid
    obtain ⟨column, hcolumn, hcalls⟩ :=
      exists_column_of_callSite disk config file hline hsite.isBlank_eq_false hsite
    refine ⟨line, hline, ⟨name.text, (region line).offset + name.offset⟩, column, hsite.in_line,
      hcolumn, ?_, ?_, hsite.bare_or_inArguments hcall⟩
    · rw [hcalls]
      exact hsaid
    · rw [hcalls]
      exact callOutcome_callDiagnostics hcolumn hcall
  · intro line hline hexternal name hsite
    obtain ⟨column, hcolumn, hcalls⟩ :=
      exists_column_of_callSite disk config file hline hsite.isBlank_eq_false hsite
    refine ⟨column, hcolumn, ?_⟩
    rw [hcalls]
    apply callOutcome_callDiagnostics hcolumn
    rw [hexternal]
    rfl

/-- A macro that is called among the arguments of a call in the external form. -/
def externalLine : Line :=
  ⟨4, "(\x22lib\x22 use.f(@m(x)))".toList, false⟩

/-- The macro and the variable are declared in front of the line. -/
def externalText : List Char :=
  "macro m(a) \x7b\n\x7d\nvar x int\n".toList ++ externalLine.text

open References in
/-- The name of the macro is the one that is called among the arguments. -/
theorem analyze_calledNames_externalText :
    let a := analyze .bare .bare none externalText
    (∃ d ∈ a.diagnostics, (d.code = .functionInfo ∨ d.code = .undefinedFunction) ∧
      ∃ line ∈ Line.ofSource externalText, ∃ name : Token, ∃ column : Nat, name.In line.code ∧
        line.column? name.offset = some column ∧ d ∈ a.callsAt line.number column ∧
        CallOutcome a.table line name.text column (a.callsAt line.number column) ∧
        (Bare line.code name ∨ InArguments line.code name)) ∧
    ∃ name, (externalLine ∈ Line.ofSource externalText ∧ (region externalLine).isExternal = true ∧
        CallSite (Literal.mask (region externalLine).text) name) ∧
      ∃ column : Nat, externalLine.column? ((region externalLine).offset + name.offset : Nat) =
          some column ∧
        CallOutcome a.table externalLine name.text column
          (a.callsAt externalLine.number column) := by
  intro a
  have hnames := analyze_calledNames .bare .bare none externalText
  have hcodes : a.diagnostics.map (·.code) = [.undefinedFunction] := by decide +kernel
  have hsites : (Text.occurrences call? (Literal.mask (region externalLine).text)).map (·.1) =
      [1] := by
    decide +kernel
  obtain ⟨d, hd, hcode⟩ := List.mem_map.mp (hcodes ▸ List.mem_singleton_self _)
  obtain ⟨⟨offset, name⟩, hfound, -⟩ := List.mem_map.mp (hsites ▸ List.mem_singleton_self _)
  have hline : externalLine ∈ Line.ofSource externalText := List.mem_of_getElem? (i := 3) rfl
  have hexternal : (region externalLine).isExternal = true := by decide +kernel
  have hsite := (mem_occurrences_call?_iff.mp hfound).2
  exact ⟨⟨d, hd, .inr hcode, hnames.1 d hd (.inr hcode)⟩, name, ⟨hline, hexternal, hsite⟩,
    hnames.2 externalLine hline hexternal name hsite⟩

/-- A function is said to be missing whose name has the sign of a macro in front of it. -/
theorem undefinedFunction_of_macro_externalText :
    ∃ line ∈ Line.ofSource externalText,
      ∃ d ∈ (analyze .bare .bare none externalText).diagnostics,
        d.code = .undefinedFunction ∧ d.line = line.number ∧ d.marked? line = some ['m'] ∧
        line.codeOffset? d.startColumn = some 14 ∧ (line.code.take 14).getLast? = some '@' := by
  decide +kernel

end ScriptLint
