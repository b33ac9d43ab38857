import ScriptLint.Check.Braces
import ScriptLint.Line.Basic
import ScriptLint.Proofs.Text.LineEnds
import ScriptLint.Text.Cursor

/-! Lines without quotes, backslashes and comments. All of such a line is code, no part of it is a
literal, and the lines of a text of such lines are the ones it was joined from. -/
namespace ScriptLint

namespace Text

/-- The characters that quote, that open a comment, or that break a line. -/
def markers : List Char := ['\\', '\x22', '\x27', '/', '#', '\n']

/-- Whether the character means the same in code whatever stands around it. -/
def isPlain (c : Char) : Bool :=
  !markers.contains c

theorem isPlain_iff {c : Char} : isPlain c = true ↔ c ∉ markers := by
  simp [isPlain]

theorem isNameChar_iff {c : Char} :
    isNameChar c = true ↔ (65 ≤ c.toNat ∧ c.toNat ≤ 90) ∨ (97 ≤ c.toNat ∧ c.toNat ≤ 122) ∨
      (48 ≤ c.toNat ∧ c.toNat ≤ 57) ∨ c.toNat = 95 := by
  have hunderscore : c = '_' ↔ c.toNat = 95 := by
    constructor
    · rintro rfl
      rfl
    · exact fun h => Char.toNat_inj.mp h
  have hchar : isNameChar c = (((decide (c.val ≥ 'A'.val ∧ c.val ≤ 'Z'.val) ||
      (c.val ≥ 'a'.val && c.val ≤ 'z'.val)) || (c.val ≥ '0'.val && c.val ≤ '9'.val)) ||
        c == '_') := rfl
  simp only [hchar, Bool.or_eq_true, Bool.and_eq_true, decide_eq_true_eq, ge_iff_le,
    UInt32.le_iff_toNat_le, beq_iff_eq, hunderscore, Char.toNat]
  change ((((65 ≤ c.val.toNat ∧ c.val.toNat ≤ 90) ∨ (97 ≤ c.val.toNat ∧ c.val.toNat ≤ 122)) ∨
    (48 ≤ c.val.toNat ∧ c.val.toNat ≤ 57)) ∨ c.val.toNat = 95) ↔ _
  omega

theorem isNameChar_of_isNameStart {c : Char} (h : isNameStart c = true) : isNameChar c = true := by
  simp only [isNameStart, isNameChar, Char.isAlphanum, Bool.or_eq_true] at h ⊢
  exact h.imp_left Or.inl

theorem isBlank_of_isNameChar {c : Char} (h : isNameChar c = true) : isBlank c = false := by
  rw [isNameChar_iff] at h
  apply Bool.eq_false_iff.mpr
  intro hblank
  simp only [isBlank, Bool.or_eq_true, Bool.and_eq_true, decide_eq_true_eq, beq_iff_eq] at hblank
  omega

theorem isPlain_of_isBlank {c : Char} (h : isBlank c = true) (hfeed : c ≠ '\n') :
    isPlain c = true := by
  have hall : ∀ x ∈ markers, (!isBlank x || x == '\n') = true := List.all_eq_true.mp rfl
  refine isPlain_iff.mpr fun hc => ?_
  simpa [h, hfeed] using hall c hc

theorem lineFeed_notMem_of_plain {text : List Char} (h : ∀ c ∈ text, isPlain c = true) :
    '\n' ∉ text :=
  fun hmem => absurd (h '\n' hmem) (by decide)

/-- A line is left as it is by the merging of line ends, and so is the line feed behind it. -/
theorem mergeReturns_append {line : List Char} (hfeed : '\n' ∉ line)
    (hreturn : line.getLast? ≠ some '\r') (rest : List Char) :
    mergeReturns (line ++ '\n' :: rest) = line ++ '\n' :: mergeReturns rest := by
  have hapart : ¬(line.getLast? = some '\r' ∧ ('\n' :: rest).head? = some '\n') :=
    fun hmeet => hreturn hmeet.1
  rw [mergeReturns_append_of_apart hapart, mergeReturns_of_notMem hfeed, mergeReturns_feed]

/-- The lines of a text are the lines that it was joined from. -/
theorem sourceLines_intercalate {lines : List (List Char)} (hne : lines ≠ [])
    (hfeed : ∀ line ∈ lines, '\n' ∉ line) (hreturn : ∀ line ∈ lines, line.getLast? ≠ some '\r') :
    sourceLines (['\n'].intercalate lines) = lines := by
  have hmerge : mergeReturns (['\n'].intercalate lines) = ['\n'].intercalate lines := by
    -- The claim holds of no lines too, and the induction needs it there.
    clear hne
    induction lines with
    | nil => rfl
    | cons line lines ih =>
      rw [List.forall_mem_cons] at hfeed hreturn
      cases lines with
      | nil => simpa [List.intercalate] using mergeReturns_of_notMem hfeed.1
      | cons next lines =>
        have hcons : ['\n'].intercalate (line :: next :: lines) =
            line ++ '\n' :: ['\n'].intercalate (next :: lines) := by
          simp [List.intercalate, List.intersperse]
        rw [hcons, mergeReturns_append hfeed.1 hreturn.1, ih hfeed.2 hreturn.2]
  rw [sourceLines, hmerge, pieces_intercalate hfeed hne]

end Text

namespace Line

theorem Mode.read_of_plain {c : Char} (h : Text.isPlain c = true) (ahead : Option Char) :
    Mode.code.read c ahead = (.code, .code) := by
  simp [Text.isPlain_iff, Text.markers] at h
  simp [read, h]

section Plain

variable {text : List Char} (h : ∀ c ∈ text, Text.isPlain c = true)
include h

theorem Mode.marks_of_plain : Mode.code.marks text = List.replicate text.length .code := by
  induction text with
  | nil => rfl
  | cons c cs ih =>
    rw [List.forall_mem_cons] at h
    rw [marks, read_of_plain h.1, ih h.2, List.length_cons, List.replicate_succ]

theorem Mode.after_of_plain : Mode.code.after text = .code := by
  induction text with
  | nil => rfl
  | cons c cs ih =>
    rw [List.forall_mem_cons] at h
    rw [after, read_of_plain h.1, ih h.2]

theorem code_of_plain (n : Int) : (⟨n, text, false⟩ : Line).code = text := by
  have hmarks : (⟨n, text, false⟩ : Line).marks = List.replicate text.length .code :=
    Mode.marks_of_plain h
  rw [code, hmarks]
  clear h hmarks
  induction text with
  | nil => rfl
  | cons c cs ih => simpa [List.replicate_succ] using ih

theorem endsInComment_of_plain (n : Int) : (⟨n, text, false⟩ : Line).endsInComment = false := by
  have hafter : (⟨n, text, false⟩ : Line).mode.after text = .code := Mode.after_of_plain h
  rw [endsInComment, hafter]
  rfl

end Plain

/-- Lines from number `n` on, none of which starts in a comment. -/
def numbered (n : Nat) : List (List Char) → List Line
  | [] => []
  | text :: more => ⟨n, text, false⟩ :: numbered (n + 1) more

theorem numbered_append (n : Nat) (a b : List (List Char)) :
    numbered n (a ++ b) = numbered n a ++ numbered (n + a.length) b := by
  induction a generalizing n with
  | nil => rfl
  | cons text a ih =>
    have hadd : n + 1 + a.length = n + (a.length + 1) := by omega
    rw [List.cons_append, numbered, numbered, ih, List.cons_append, List.length_cons, hadd]

theorem ofSource_go_of_plain {lines : List (List Char)}
    (h : ∀ text ∈ lines, ∀ c ∈ text, Text.isPlain c = true) (n : Nat) :
    ofSource.go n false lines = numbered n lines := by
  induction lines generalizing n with
  | nil => rfl
  | cons text lines ih =>
    rw [List.forall_mem_cons] at h
    rw [ofSource.go, numbered, endsInComment_of_plain h.1, ih h.2]

end Line

/-- A text without quotes holds no literal. -/
theorem Literal.mask_of_plain {text : List Char} (h : ∀ c ∈ text, Text.isPlain c = true) :
    mask text = text := by
  unfold mask
  induction text with
  | nil => rfl
  | cons c cs ih =>
    rw [List.forall_mem_cons] at h
    have hc := h.1
    simp [Text.isPlain_iff, Text.markers] at hc
    have hread : Mode.outside.read c cs.head? = (.outside, .outside) := by
      simp [Mode.read, hc]
    rw [Mode.parts, hread, List.zip_cons_cons, List.map_cons, ih h.2]
    rfl

end ScriptLint
