import Mathlib.Data.List.Forall2
import Mathlib.Data.List.Nodup
import ScriptLint.Proofs.Outline.Steps

/-! Braces that are never closed. While a text is read it is known of each of them on which line it
stands, by the number of that line, and behind the last line these lines are looked up. The lines of
a text are numbered from 1 on, so each number leads to its line, and what is found are the lines of
the text on which a brace is open, in their order. -/
namespace ScriptLint

section Ascending

variable {n m : Int} {numbers sorted : List Int}

theorem mem_insertNumber : m ∈ insertNumber n sorted ↔ m = n ∨ m ∈ sorted := by
  induction sorted with
  | nil => simp [insertNumber]
  | cons k more ih =>
    unfold insertNumber
    split
    · exact List.mem_cons
    · split
      · next heq => simp [heq]
      · rw [List.mem_cons, ih, List.mem_cons, or_left_comm]

theorem pairwise_insertNumber (h : sorted.Pairwise (· < ·)) :
    (insertNumber n sorted).Pairwise (· < ·) := by
  induction sorted with
  | nil => exact List.pairwise_singleton _ _
  | cons k more ih =>
    obtain ⟨hk, hmore⟩ := List.pairwise_cons.mp h
    unfold insertNumber
    split
    · next hlt =>
      refine List.pairwise_cons.mpr ⟨List.forall_mem_cons.mpr ⟨hlt, ?_⟩, h⟩
      exact fun m hm => Int.lt_trans hlt (hk m hm)
    · split
      · exact h
      · refine List.pairwise_cons.mpr ⟨fun m hm => ?_, ih hmore⟩
        rcases mem_insertNumber.mp hm with rfl | hm
        · omega
        · exact hk m hm

theorem mem_ascending : m ∈ ascending numbers ↔ m ∈ numbers := by
  have hfold : ∀ (numbers sorted : List Int),
      m ∈ numbers.foldl (fun sorted n => insertNumber n sorted) sorted ↔
        m ∈ sorted ∨ m ∈ numbers := by
    intro numbers
    induction numbers with
    | nil => simp
    | cons n numbers ih =>
      intro sorted
      rw [List.foldl_cons, ih, mem_insertNumber, List.mem_cons, or_assoc, or_left_comm]
  simp [ascending, hfold]

theorem pairwise_ascending (numbers : List Int) : (ascending numbers).Pairwise (· < ·) := by
  have hfold : ∀ (numbers sorted : List Int), sorted.Pairwise (· < ·) →
      (numbers.foldl (fun sorted n => insertNumber n sorted) sorted).Pairwise (· < ·) := by
    intro numbers
    induction numbers with
    | nil => exact fun _ h => h
    | cons n numbers ih => exact fun _ h => ih _ (pairwise_insertNumber h)
  exact hfold numbers [] .nil

/-- Numbers in ascending order are known by which numbers they are. -/
theorem ascending_eq {items : List Int} (hitems : items.Pairwise (· < ·))
    (h : ∀ n, n ∈ items ↔ n ∈ numbers) : ascending numbers = items := by
  have hsorted := pairwise_ascending numbers
  -- Neither list has a number twice, so that they hold the same numbers makes one a permutation of
  -- the other, and two ascending permutations are equal.
  have hperm : (ascending numbers).Perm items := by
    apply (List.perm_ext_iff_of_nodup hsorted.nodup hitems.nodup).mpr
    exact fun n => mem_ascending.trans (h n).symm
  exact hperm.eq_of_pairwise (fun _ _ _ _ hab hba => absurd hab (Int.lt_asymm hba)) hsorted hitems

end Ascending

namespace Line

/-- The lines are numbered from 1 on. -/
def Numbered (lines : List Line) : Prop :=
  ∀ (i : Nat) (line : Line), lines[i]? = some line → line.number = i + 1

theorem getElem?_ofSource {text : List Char} {i : Nat} {line : Line}
    (h : (ofSource text)[i]? = some line) :
    line.number = i + 1 ∧ (Text.sourceLines text)[i]? = some line.text := by
  have hgo : ∀ (more : List (List Char)) (n : Nat) (inComment : Bool) (i : Nat),
      (ofSource.go n inComment more)[i]? = some line →
        line.number = n + i ∧ more[i]? = some line.text := by
    intro more
    induction more with
    | nil =>
      intro n inComment i h
      simp [ofSource.go] at h
    | cons text more ih =>
      intro n inComment i h
      cases i with
      | zero =>
        cases h
        exact ⟨by simp, rfl⟩
      | succ i =>
        obtain ⟨hnumber, htext⟩ := ih _ _ i h
        exact ⟨by omega, htext⟩
  obtain ⟨hnumber, htext⟩ := hgo _ _ _ i h
  exact ⟨by omega, htext⟩

theorem numbered_ofSource (text : List Char) : Numbered (ofSource text) :=
  fun _ _ h => (getElem?_ofSource h).1

variable {lines : List Line} {line : Line}

theorem mem_of_at? {number : Int} (h : at? lines number = some line) : line ∈ lines := by
  unfold at? at h
  generalize (if 1 ≤ number then number - 1 else (lines.length : Int) + number - 1) = index at h
  dsimp only at h
  split at h
  · exact List.mem_of_getElem? h
  · cases h

/-- Lines with the same number are related if the lines are, one by one. -/
theorem at?_rel {R : Line → Line → Prop} {lines' : List Line} (h : List.Forall₂ R lines lines')
    (number : Int) : Option.Rel R (at? lines number) (at? lines' number) := by
  have hindex : ∀ i : Nat, Option.Rel R lines[i]? lines'[i]? := by
    induction h with
    | nil => exact fun i => .none
    | cons hab _ ih =>
      intro i
      cases i with
      | zero => exact .some hab
      | succ i => exact ih i
  -- A number from the end counts from the number of lines, which is the same too.
  unfold at?
  rw [h.length_eq]
  dsimp only
  generalize (if 1 ≤ number then number - 1 else (lines'.length : Int) + number - 1) = index
  split
  · exact hindex _
  · exact .none

theorem map_at?_eq {R : Line → Line → Prop} {lines' : List Line} {α : Type} {f : Line → α}
    (h : List.Forall₂ R lines lines') (hf : ∀ a b, R a b → f a = f b) (number : Int) :
    (at? lines number).map f = (at? lines' number).map f := by
  have hrel := at?_rel h number
  generalize at? lines number = found at hrel ⊢
  generalize at? lines' number = found' at hrel ⊢
  cases hrel with
  | some hab => exact congrArg some (hf _ _ hab)
  | none => rfl

/-- A line is the one that its number leads to. -/
theorem Numbered.at? (h : Numbered lines) (hline : line ∈ lines) :
    Line.at? lines line.number = some line := by
  obtain ⟨i, hi⟩ := List.mem_iff_getElem?.mp hline
  have hnumber := h i line hi
  have hpos : (1 : Int) ≤ line.number := by omega
  have hindex : line.number - 1 = (i : Int) := by omega
  rw [Line.at?, if_pos hpos, hindex, if_pos (Int.natCast_nonneg i), Int.toNat_natCast, hi]

theorem at?_ofSource {text : List Char} (h : line ∈ ofSource text) :
    Line.at? (ofSource text) line.number = some line :=
  (numbered_ofSource text).at? h

/-- The lines are numbered in their order. -/
theorem Numbered.pairwise (h : Numbered lines) : lines.Pairwise (·.number < ·.number) := by
  refine List.pairwise_iff_getElem.mpr fun i j hi hj hlt => ?_
  have hfirst := h i _ (List.getElem?_eq_getElem hi)
  have hsecond := h j _ (List.getElem?_eq_getElem hj)
  omega

theorem pairwise_number_ofSource (text : List Char) :
    (ofSource text).Pairwise (·.number < ·.number) :=
  (numbered_ofSource text).pairwise

/-- The lines before and behind a line have other numbers. -/
theorem Numbered.number_ne {before after : List Line}
    (h : Numbered (before ++ line :: after)) :
    (∀ l ∈ before, l.number ≠ line.number) ∧ ∀ l ∈ after, l.number ≠ line.number := by
  obtain ⟨-, hrest, hfront⟩ := List.pairwise_append.mp h.pairwise
  constructor
  · intro l hl
    exact Int.ne_of_lt (hfront l hl line List.mem_cons_self)
  · intro l hl
    exact Int.ne_of_gt (List.rel_of_pairwise_cons hrest hl)

end Line

section Lookups

variable {lines : List Line} {unclosed : List Int}

theorem unclosedDiagnostics_nil : unclosedDiagnostics [] unclosed = [] := by
  have hnone : ∀ n, Line.at? [] n = none := by
    intro n
    simp [Line.at?]
  simp [unclosedDiagnostics, hnone]

/-- What is found of open braces is found on lines that there are. -/
theorem exists_of_mem_unclosedDiagnostics {found : Diagnostic}
    (h : found ∈ unclosedDiagnostics lines unclosed) :
    ∃ line ∈ lines, ∃ n ∈ unclosed, found = { unclosedBrace line with line := n } := by
  obtain ⟨n, hn, hfound⟩ := List.mem_filterMap.mp h
  obtain ⟨line, hline, rfl⟩ := Option.map_eq_some_iff.mp hfound
  exact ⟨line, Line.mem_of_at? hline, n, mem_ascending.mp hn, rfl⟩

/-- The lines of open braces in numbered lines are those whose numbers say so. -/
theorem Line.Numbered.unclosedDiagnostics (h : Line.Numbered lines)
    (hopen : ∀ n ∈ unclosed, ∃ line ∈ lines, line.number = n) :
    unclosedDiagnostics lines unclosed =
      (lines.filter fun line => unclosed.contains line.number).map unclosedBrace := by
  let opening := lines.filter fun line => unclosed.contains line.number
  -- The numbers are in ascending order, and so are the lines that have them.
  have hnumbers : ascending unclosed = opening.map (·.number) := by
    refine ascending_eq (List.pairwise_map.mpr (h.pairwise.filter _)) fun n => ?_
    rw [List.mem_map]
    constructor
    · rintro ⟨line, hline, rfl⟩
      simpa using (List.mem_filter.mp hline).2
    · intro hn
      obtain ⟨line, hline, rfl⟩ := hopen n hn
      exact ⟨line, List.mem_filter.mpr ⟨hline, by simpa using hn⟩, rfl⟩
  -- Each of the numbers leads back to the line that it was taken from.
  have hfound : ∀ line ∈ opening, ((Line.at? lines line.number).map fun found =>
      { ScriptLint.unclosedBrace found with line := line.number }) = some (unclosedBrace line) := by
    intro line hline
    rw [h.at? (List.mem_filter.mp hline).1]
    rfl
  unfold ScriptLint.unclosedDiagnostics
  rw [hnumbers, List.filterMap_map]
  exact (List.filterMap_congr hfound).trans (congrFun List.filterMap_eq_map opening)

/-- What is read off the findings on open braces is the same, if it is on each of the lines. -/
theorem map_unclosedDiagnostics_eq {R : Line → Line → Prop} {lines' : List Line} {α : Type}
    {f : Diagnostic → α} (h : List.Forall₂ R lines lines')
    (hf : ∀ n a b, R a b →
      f { unclosedBrace a with line := n } = f { unclosedBrace b with line := n }) :
    (unclosedDiagnostics lines unclosed).map f = (unclosedDiagnostics lines' unclosed).map f := by
  unfold unclosedDiagnostics
  simp only [List.map_filterMap, Option.map_map]
  refine List.filterMap_congr fun n _ => ?_
  exact Line.map_at?_eq h (hf n) n

end Lookups

theorem mem_of_mem_matchBrace {line n : Int} {known : List Int × Bool} {c : Char}
    (h : n ∈ (matchBrace line known c).1) : n = line ∨ n ∈ known.1 := by
  unfold matchBrace at h
  split at h
  · exact List.mem_cons.mp h
  · exact .inr h
  · exact .inr (List.mem_cons_of_mem _ h)
  · exact .inr h

/-- The braces that are open behind a line were open before, or they are its own. -/
theorem mem_of_mem_matchBraces {unclosed : List Int} {line : Line} {n : Int}
    (h : n ∈ (matchBraces unclosed line).1) : n = line.number ∨ n ∈ unclosed := by
  have hfold : ∀ (text : List Char) (known : List Int × Bool),
      n ∈ (text.foldl (matchBrace line.number) known).1 → n = line.number ∨ n ∈ known.1 := by
    intro text
    induction text with
    | nil => exact fun _ hn => .inr hn
    | cons c cs ih =>
      intro known hn
      rcases ih _ hn with heq | hn
      · exact .inl heq
      · exact mem_of_mem_matchBrace hn
  exact hfold _ _ h

section Drafts

variable {State : Type} (search : ModuleSearch) (disk : Disk)
  (load : Path → State → ModuleReply × State) (origin : Origin)

namespace Draft

theorem takeReply_unclosed (d : Draft State) (line : Line) (path : Text.Token) (r : Resolution)
    (reply : ModuleReply) : (d.takeReply line path r reply).unclosed = d.unclosed := by
  cases reply with
  | unreadable e => rfl
  | inProgress => rfl
  | outline o =>
    change (d.takeOver line path r o).unclosed = d.unclosed
    unfold Draft.takeOver
    cases r.selection with
    | none => rfl
    | some selection => cases h : o.table.select? r.file.toText selection <;> simp [h]

/-- Nothing but the braces of a line changes what is open. -/
theorem readLine_unclosed_of_coded {d : Draft State} {line : Line} (hb : line.isBlank = false) :
    (d.readLine search disk load origin line).unclosed = (matchBraces d.unclosed line).1 := by
  by_cases hs : ∃ path, Statement.ofText line.code = .inclusion path
  · obtain ⟨path, hs⟩ := hs
    rw [Draft.readLine_of_inclusion d search disk load origin hb hs]
    cases hr : search.resolve? disk origin.directory path.text with
    | none => simp [Draft.followInclude_of_eq_none _ search disk load hr]
    | some r =>
      rw [Draft.followInclude_of_eq_some _ search disk load hr, takeReply_unclosed]
      simp
  · rw [Draft.readLine_of_ne_inclusion d search disk load origin hb fun path h => hs ⟨path, h⟩]
    simp

theorem mem_of_mem_readLine_unclosed {d : Draft State} {line : Line} {n : Int}
    (h : n ∈ (d.readLine search disk load origin line).unclosed) :
    n = line.number ∨ n ∈ d.unclosed := by
  cases hb : line.isBlank with
  | true =>
    rw [Draft.readLine_of_isBlank d search disk load origin hb] at h
    exact .inr h
  | false =>
    rw [readLine_unclosed_of_coded search disk load origin hb] at h
    exact mem_of_mem_matchBraces h

/-- Each open brace stands on a line that was read. -/
theorem exists_line_of_mem_unclosed {lines : List Line} {d : Draft State} {n : Int}
    (h : n ∈ (lines.foldl (Draft.readLine search disk load origin) d).unclosed) :
    n ∈ d.unclosed ∨ ∃ line ∈ lines, line.number = n := by
  induction lines generalizing d with
  | nil => exact .inl h
  | cons line lines ih =>
    rcases ih h with hn | ⟨later, hlater, heq⟩
    · rcases mem_of_mem_readLine_unclosed search disk load origin hn with rfl | hn
      · exact .inr ⟨line, List.mem_cons_self, rfl⟩
      · exact .inl hn
    · exact .inr ⟨later, List.mem_cons_of_mem _ hlater, heq⟩

theorem finish_diagnostics (d : Draft State) (lines : List Line) :
    (d.finish origin lines).1.diagnostics =
      d.diagnostics ++ unclosedDiagnostics lines d.unclosed := by
  unfold finish
  cases OpenClass.closeAll? origin.file d.openClasses <;> rfl

/-- Of the lines at the end of a text only what is found on them counts. -/
theorem finish_congr (d : Draft State) {lines lines' : List Line}
    (h : unclosedDiagnostics lines' d.unclosed = unclosedDiagnostics lines d.unclosed) :
    d.finish origin lines' = d.finish origin lines := by
  unfold finish
  cases OpenClass.closeAll? origin.file d.openClasses <;> dsimp only <;> rw [h]

end Draft

/-- What is found of open braces in a text: the lines on which one is open in the end. -/
theorem Line.Numbered.unclosedDiagnostics_readLines {lines : List Line} (h : Line.Numbered lines)
    (state : State) :
    let last := lines.foldl (Draft.readLine search disk load origin) { state := state }
    ScriptLint.unclosedDiagnostics lines last.unclosed =
      (lines.filter fun line => last.unclosed.contains line.number).map unclosedBrace := by
  intro last
  apply h.unclosedDiagnostics
  intro n hn
  rcases Draft.exists_line_of_mem_unclosed search disk load origin hn with hnone | hline
  · exact (List.not_mem_nil hnone).elim
  · exact hline

/-- In numbered lines nothing is looked up in vain. -/
theorem Outline.ofLinesChecked_eq {lines : List Line} (h : Line.Numbered lines) (state : State) :
    Outline.ofLinesChecked search disk load origin lines state =
      .ok (Outline.ofLines search disk load origin lines state) := by
  have hnone : missingUnclosed? lines (lines.foldl (Draft.readLine search disk load origin)
      { state := state }).unclosed = none := by
    rw [missingUnclosed?, List.find?_eq_none]
    intro n hn hmissing
    rcases Draft.exists_line_of_mem_unclosed search disk load origin (mem_ascending.mp hn) with
      hnothing | ⟨line, hline, rfl⟩
    · exact List.not_mem_nil hnothing
    · rw [h.at? hline] at hmissing
      cases hmissing
  simp only [ofLinesChecked, hnone]
  rfl

/-- What is drawn up of any lines is what is drawn up where look-ups in vain are passed over. -/
theorem Outline.ofLines_of_ofLinesChecked {lines : List Line} {state : State}
    {made : Outline × State}
    (h : Outline.ofLinesChecked search disk load origin lines state = .ok made) :
    Outline.ofLines search disk load origin lines state = made := by
  unfold ofLinesChecked at h
  dsimp only at h
  split at h
  · cases h
  · exact Except.ok.inj h

end Drafts

end ScriptLint
