import Mathlib.Data.Option.Basic
import ScriptLint.Proofs.Line.Columns
import ScriptLint.Proofs.Line.Reading

/-! Columns of a line and offsets of its comment-free text. The two maps between them are inverse to
each other wherever a character is kept, they are monotone, and each of them is what a walk over the
line gives that counts the characters of code on its way. The walks know nothing of the kept
columns, so these are what ties the walks to the maps. -/
namespace ScriptLint.Line

namespace Mode

variable {mode : Mode} {c : Char} {cs : List Char}

/-- The columns of what is kept of a text that starts at the column `here`. -/
def keptFrom (mode : Mode) (here : Nat) (text : List Char) : List Nat :=
  (((mode.marks text).zipIdx here).filter (·.1 ≠ .comment)).map (·.2)

theorem keptFrom_cons_of_comment (h : (mode.read c cs.head?).1 = .comment) (here : Nat) :
    mode.keptFrom here (c :: cs) = (mode.read c cs.head?).2.keptFrom (here + 1) cs := by
  unfold keptFrom
  rw [marks, List.zipIdx_cons, List.filter_cons_of_neg (by simp [h])]

theorem keptFrom_cons_of_kept (h : (mode.read c cs.head?).1 ≠ .comment) (here : Nat) :
    mode.keptFrom here (c :: cs) = here :: (mode.read c cs.head?).2.keptFrom (here + 1) cs := by
  unfold keptFrom
  rw [marks, List.zipIdx_cons, List.filter_cons_of_pos (by simp [h]), List.map_cons]

theorem le_of_mem_keptFrom {here column : Nat} {text : List Char}
    (h : column ∈ mode.keptFrom here text) : here ≤ column := by
  obtain ⟨⟨mark, _⟩, hmem, rfl⟩ := List.mem_map.mp h
  exact (List.mem_zipIdx (List.mem_filter.mp hmem).1).1

/-- At the kept columns stand the characters of the comment-free text. -/
theorem map_keptFrom (mode : Mode) (front text : List Char) :
    (mode.keptFrom front.length text).map ((front ++ text)[·]?) =
      (mode.uncommented text).map some := by
  induction text generalizing mode front with
  | nil => rfl
  | cons c cs ih =>
    have hrest := ih (mode.read c cs.head?).2 (front ++ [c])
    rw [List.length_append, List.length_singleton, List.append_assoc, List.singleton_append]
      at hrest
    by_cases hmark : (mode.read c cs.head?).1 = .comment
    · rw [keptFrom_cons_of_comment hmark, uncommented_cons_of_comment hmark, hrest]
    · have hc : (front ++ c :: cs)[front.length]? = some c := by simp
      rw [keptFrom_cons_of_kept hmark, uncommented_cons_of_kept hmark, List.map_cons, hc, hrest,
        List.map_cons]

/-- Walks over a text up to a column. The next character is at the column `here`, and `count`
characters of code stand before it. -/
def walkToColumn (mode : Mode) (column : Int) (here count : Nat) : List Char → Option Nat
  | [] => none
  | c :: cs =>
    let (mark, next) := mode.read c cs.head?
    if here = column then if mark = .comment then none else some count
    else next.walkToColumn column (here + 1) (if mark = .comment then count else count + 1) cs

/-- Walks over a text up to the character of code that has `offset` others before it, or to the
place `behind` the last one. -/
def walkToOffset (mode : Mode) (offset : Int) (here count : Nat) (behind : Option Nat) :
    List Char → Option Nat
  | [] => if count = offset then behind else none
  | c :: cs =>
    let (mark, next) := mode.read c cs.head?
    if mark = .comment then next.walkToOffset offset (here + 1) count behind cs
    else if count = offset then some here
    else next.walkToOffset offset (here + 1) (count + 1) (some (here + 1)) cs

theorem findIdx?_keptFrom_of_lt {column : Int} {here : Nat} (h : column < here)
    (mode : Mode) (text : List Char) :
    (mode.keptFrom here text).findIdx? (fun (i : Nat) => (i : Int) = column) = none := by
  refine List.findIdx?_eq_none_iff.mpr fun i hi => ?_
  have hle := le_of_mem_keptFrom hi
  simp only [decide_eq_false_iff_not]
  omega

theorem walkToColumn_eq (mode : Mode) (column : Int) (here count : Nat) (text : List Char) :
    mode.walkToColumn column here count text =
      ((mode.keptFrom here text).findIdx? fun (i : Nat) => (i : Int) = column).map
        (· + count) := by
  induction text generalizing mode here count with
  | nil => rfl
  | cons c cs ih =>
    rw [walkToColumn]
    by_cases hmark : (mode.read c cs.head?).1 = .comment
    · rw [keptFrom_cons_of_comment hmark]
      by_cases hhere : (here : Int) = column
      -- The columns behind are greater, and the one that is looked for is not kept.
      · have hlt : column < (here + 1 : Nat) := by omega
        rw [findIdx?_keptFrom_of_lt hlt]
        simp [hmark, hhere]
      · simp [hmark, hhere, ih]
    · rw [keptFrom_cons_of_kept hmark, List.findIdx?_cons]
      by_cases hhere : (here : Int) = column
      · simp [hmark, hhere]
      · have hadd : ∀ k : Nat, k + (count + 1) = k + 1 + count := fun k => by omega
        simp [hmark, hhere, ih, Option.map_map, Function.comp_def, hadd]

theorem walkToOffset_of_lt {offset : Int} {count : Nat} (h : offset < count) (mode : Mode)
    (here : Nat) (behind : Option Nat) (text : List Char) :
    mode.walkToOffset offset here count behind text = none := by
  induction text generalizing mode here count behind with
  | nil =>
    have hne : ¬(count : Int) = offset := by omega
    rw [walkToOffset, if_neg hne]
  | cons c cs ih =>
    have hne : ¬(count : Int) = offset := by omega
    have hlt : offset < (count + 1 : Nat) := by omega
    simp only [walkToOffset, hne, if_false, ih h, ih hlt, ite_self]

theorem walkToOffset_add (mode : Mode) (k here count : Nat) (behind : Option Nat)
    (text : List Char) :
    mode.walkToOffset (count + k : Nat) here count behind text =
      (mode.keptFrom here text)[k]?.or
        (if k = (mode.keptFrom here text).length then
          (mode.keptFrom here text).getLast?.elim behind fun column => some (column + 1)
        else none) := by
  induction text generalizing mode k here count behind with
  | nil =>
    have hiff : (count : Int) = ((count + k : Nat) : Int) ↔ k = 0 := by omega
    have hwalk : mode.walkToOffset (count + k : Nat) here count behind [] =
        if k = 0 then behind else none := by
      simp only [walkToOffset, hiff]
    exact hwalk
  | cons c cs ih =>
    rw [walkToOffset]
    by_cases hmark : (mode.read c cs.head?).1 = .comment
    · rw [keptFrom_cons_of_comment hmark]
      simp only [hmark, if_true]
      exact ih ..
    · rw [keptFrom_cons_of_kept hmark]
      simp only [hmark, if_false]
      cases k with
      | zero => simp
      | succ k =>
        have hne : ¬(count : Int) = ((count + (k + 1) : Nat) : Int) := by omega
        have hadd : count + (k + 1) = count + 1 + k := by omega
        rw [if_neg hne, hadd, ih, List.getElem?_cons_succ, List.length_cons]
        -- The last of the columns is `here` only if there are no more.
        rw [List.getLast?_cons]
        cases ((mode.read c cs.head?).2.keptFrom (here + 1) cs).getLast? <;> simp

end Mode

/-- Looks for a column among others, counting them, up to one that is greater. -/
def seek (column : Int) (count : Nat) : List Nat → Option Nat
  | [] => none
  | i :: more =>
    if i = column then some count
    else if column < i then none
    else seek column (count + 1) more

theorem seek_eq_findIdx? {columns : List Nat} (h : columns.Pairwise (· < ·)) (column : Int)
    (count : Nat) :
    seek column count columns =
      (columns.findIdx? fun (i : Nat) => (i : Int) = column).map (· + count) := by
  induction columns generalizing count with
  | nil => rfl
  | cons i more ih =>
    rw [List.pairwise_cons] at h
    rw [seek, List.findIdx?_cons]
    by_cases hi : (i : Int) = column
    · simp [hi]
    by_cases hlt : column < i
    -- What comes behind is greater still, so nothing is lost by stopping here.
    · have hnone : (more.findIdx? fun (i : Nat) => (i : Int) = column) = none := by
        refine List.findIdx?_eq_none_iff.mpr fun j hj => ?_
        have hij := h.1 j hj
        simp only [decide_eq_false_iff_not]
        omega
      simp [hi, hlt, hnone]
    · have hadd : ∀ k : Nat, k + (count + 1) = k + 1 + count := fun k => by omega
      simp [hi, hlt, ih h.2, Option.map_map, Function.comp_def, hadd]

variable (l : Line)

theorem kept_eq_keptFrom : l.kept = l.mode.keptFrom 0 l.text := rfl

/-- Whether the character at the column is kept. -/
def Keeps (column : Nat) : Prop :=
  ∃ mark, l.marks[column]? = some mark ∧ mark ≠ .comment

theorem mem_kept_iff {column : Nat} : column ∈ l.kept ↔ l.Keeps column := by
  simp [kept, Keeps, List.mem_zipIdx_iff_getElem?]

theorem isSome_codeOffset?_iff (column : Int) :
    (l.codeOffset? column).isSome ↔ ∃ i : Nat, i = column ∧ l.Keeps i := by
  rw [codeOffset?, List.findIdx?_isSome, List.any_eq_true]
  constructor
  · rintro ⟨i, hmem, hi⟩
    exact ⟨i, of_decide_eq_true hi, l.mem_kept_iff.mp hmem⟩
  · rintro ⟨i, hi, hkeeps⟩
    exact ⟨i, l.mem_kept_iff.mpr hkeeps, decide_eq_true hi⟩

theorem column?_of_codeOffset? {column : Int} {offset : Nat}
    (h : l.codeOffset? column = some offset) :
    ∃ i : Nat, i = column ∧ l.column? offset = some i := by
  obtain ⟨hlt, hi, -⟩ := List.findIdx?_eq_some_iff_getElem.mp h
  exact ⟨l.kept[offset], of_decide_eq_true hi, l.column?_of_lt hlt⟩

theorem column?_length {last : Nat} (h : l.kept.getLast? = some last) :
    l.column? l.kept.length = some (last + 1) := by
  have hcolumn : l.column? (Int.ofNat l.kept.length) = l.kept[l.kept.length]?.or
      (if l.kept.length = l.kept.length then l.kept.getLast?.map (· + 1) else none) := rfl
  rw [List.getElem?_eq_none (Nat.le_refl _), Option.none_or, if_pos rfl, h] at hcolumn
  exact hcolumn

theorem column?_lt_of_lt {j k : Nat} (hjk : j < k) (hk : k ≤ l.kept.length) :
    ∃ a b, l.column? j = some a ∧ l.column? k = some b ∧ a < b := by
  have hj : j < l.kept.length := by omega
  refine ⟨l.kept[j], ?_⟩
  rcases Nat.lt_or_eq_of_le hk with hlt | rfl
  · have hkept : l.kept[j] < l.kept[k] :=
      List.pairwise_iff_getElem.mp l.kept_pairwise j k hj hlt hjk
    exact ⟨l.kept[k], l.column?_of_lt hj, l.column?_of_lt hlt, hkept⟩
  · -- The end has the place behind the last character, which is not before the one at `j`.
    have hlast : l.kept.length - 1 < l.kept.length := by omega
    have hle : l.kept[j] ≤ l.kept[l.kept.length - 1] := by
      have hadd := l.kept_add_le hj (n := l.kept.length - 1 - j) (by omega)
      have hend : j + (l.kept.length - 1 - j) = l.kept.length - 1 := by omega
      simp only [hend] at hadd
      omega
    have hsome : l.kept.getLast? = some l.kept[l.kept.length - 1] := by
      rw [List.getLast?_eq_getElem?, List.getElem?_eq_getElem hlast]
    exact ⟨_, l.column?_of_lt hj, l.column?_length hsome, Nat.lt_succ_of_le hle⟩

theorem column?_eq_none_iff (offset : Int) :
    l.column? offset = none ↔ ¬(0 ≤ offset ∧ offset ≤ l.code.length) ∨ l.code.length = 0 := by
  rw [← Option.not_isSome_iff_eq_none, l.isSome_column?_iff]
  omega

theorem codeOffset?_eq_seek (column : Int) : l.codeOffset? column = seek column 0 l.kept := by
  rw [seek_eq_findIdx? l.kept_pairwise, codeOffset?]
  simp

theorem codeOffset?_eq_walk (column : Int) :
    l.codeOffset? column = l.mode.walkToColumn column 0 0 l.text := by
  rw [Mode.walkToColumn_eq, ← l.kept_eq_keptFrom, codeOffset?]
  simp

theorem column?_eq_walk (offset : Int) :
    l.column? offset = l.mode.walkToOffset offset 0 0 none l.text := by
  cases offset with
  | ofNat k =>
    have hwalk := l.mode.walkToOffset_add k 0 0 none l.text
    rw [Nat.zero_add, ← l.kept_eq_keptFrom] at hwalk
    rw [Int.ofNat_eq_natCast, hwalk, ← Int.ofNat_eq_natCast, column?]
    cases l.kept.getLast? <;> rfl
  | negSucc k => exact (Mode.walkToOffset_of_lt (Int.negSucc_lt_zero k) l.mode 0 none l.text).symm

/-- How the columns of a line and the offsets of its comment-free text belong together. -/
structure ColumnsMatch : Prop where
  ascending : l.kept.Pairwise (· < ·)
  inside : ∀ column ∈ l.kept, column < l.text.length
  characters : l.kept.map (l.text[·]?) = l.code.map some
  offset_of_column : ∀ offset < l.code.length,
    ∃ column, l.column? offset = some column ∧ l.codeOffset? column = some offset
  hasOffset : ∀ column : Int, (l.codeOffset? column).isSome ↔ ∃ i : Nat, i = column ∧ l.Keeps i
  column_of_offset : ∀ column offset, l.codeOffset? column = some offset →
    ∃ i : Nat, i = column ∧ l.column? offset = some i
  monotone : ∀ j k : Int, 0 ≤ j → j < k → k ≤ l.code.length →
    ∃ a b, l.column? j = some a ∧ l.column? k = some b ∧ a < b
  outside : ∀ offset : Int, l.column? offset = none ↔
    ¬(0 ≤ offset ∧ offset ≤ l.code.length) ∨ l.code.length = 0
  /-- The search for a column may stop at the first one that is greater. -/
  seeks : ∀ column, l.codeOffset? column = seek column 0 l.kept
  walksToColumn : ∀ column, l.codeOffset? column = l.mode.walkToColumn column 0 0 l.text
  walksToOffset : ∀ offset, l.column? offset = l.mode.walkToOffset offset 0 0 none l.text

/-- The columns of every line match the offsets of its comment-free text. -/
theorem columnsMatch : l.ColumnsMatch where
  ascending := l.kept_pairwise
  inside := fun _ => l.kept_lt
  characters := l.mode.map_keptFrom [] l.text
  offset_of_column := by
    intro offset hlt
    rw [← l.length_kept] at hlt
    exact ⟨l.kept[offset], l.column?_of_lt hlt, l.codeOffset?_kept hlt⟩
  hasOffset := l.isSome_codeOffset?_iff
  column_of_offset := fun _ _ => l.column?_of_codeOffset?
  monotone := by
    intro j k hj hjk hk
    obtain ⟨j, rfl⟩ := Int.eq_ofNat_of_zero_le hj
    obtain ⟨k, rfl⟩ := Int.eq_ofNat_of_zero_le (Int.le_trans hj (Int.le_of_lt hjk))
    rw [← l.length_kept] at hk
    exact l.column?_lt_of_lt (by omega) (by omega)
  outside := l.column?_eq_none_iff
  seeks := l.codeOffset?_eq_seek
  walksToColumn := l.codeOffset?_eq_walk
  walksToOffset := l.column?_eq_walk

end ScriptLint.Line
