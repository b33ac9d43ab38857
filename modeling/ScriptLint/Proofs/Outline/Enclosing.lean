import ScriptLint.Proofs.Listing.Lines
import ScriptLint.Proofs.Outline.Complete

/-! Which class a declaration belongs to. The body of a class is open from the first brace on its
line to the brace that matches it. What is known between two lines is only how many braces are open,
and how many were open behind the line of each class. That is enough as long as no line both closes
braces of earlier lines and leaves others open, and no class leaves any but its first brace open. -/
namespace ScriptLint

namespace Braces

/-- A closing brace of the text has its partner in front of the text: up to this brace there are
more closing braces than opening ones. -/
def closesOuter (text : List Char) : Bool :=
  (List.range (text.length + 1)).any fun k =>
    (text.take k).count '\x7b' < (text.take k).count '\x7d'

/-- How many closing braces of a text have no partner in it. -/
def closers : List Char → Nat
  | [] => 0
  | c :: cs =>
    if c = '\x7b' then closers cs - 1 else if c = '\x7d' then closers cs + 1 else closers cs

/-- How many opening braces of a text have no partner in it. -/
def openers : List Char → Nat
  | [] => 0
  | c :: cs => if c = '\x7b' then openers cs + (1 - closers cs) else openers cs

/-- The braces without a partner are the greatest number by which the closing braces of a beginning
of the text exceed the opening ones. -/
theorem lt_closers_iff {n : Nat} {text : List Char} :
    n < closers text ↔ ∃ k, (text.take k).count '\x7b' + n < (text.take k).count '\x7d' := by
  induction text generalizing n with
  | nil => simp [closers]
  | cons c cs ih =>
    have hstep : (∃ k, ((c :: cs).take k).count '\x7b' + n < ((c :: cs).take k).count '\x7d') ↔
        ∃ k, (c :: cs.take k).count '\x7b' + n < (c :: cs.take k).count '\x7d' := by
      rw [← Nat.or_exists_add_one]
      simp
    rw [hstep, closers]
    by_cases hopen : c = '\x7b'
    · subst hopen
      have hmore : n < closers cs - 1 ↔ n + 1 < closers cs := by omega
      rw [if_pos rfl, hmore, ih]
      refine exists_congr fun k => ?_
      rw [List.count_cons_self, List.count_cons_of_ne (by decide)]
      omega
    · by_cases hclose : c = '\x7d'
      · subst hclose
        rw [if_neg hopen, if_pos rfl]
        cases n with
        | zero => exact iff_of_true (by omega) ⟨0, by simp⟩
        | succ n =>
          rw [Nat.add_lt_add_iff_right, ih]
          refine exists_congr fun k => ?_
          rw [List.count_cons_self, List.count_cons_of_ne hopen]
          omega
      · simp [hopen, hclose, ih]

theorem closesOuter_iff {text : List Char} : closesOuter text = true ↔ 0 < closers text := by
  rw [lt_closers_iff, closesOuter, List.any_eq_true]
  constructor
  · rintro ⟨k, -, h⟩
    exact ⟨k, by simpa using h⟩
  · rintro ⟨k, h⟩
    refine ⟨min k text.length, List.mem_range.mpr (by omega), ?_⟩
    have htake : text.take (min k text.length) = text.take k := by simp
    rw [htake]
    exact decide_eq_true h

/-- The closing braces of the second text find partners in the first one, as far as there are
any. -/
theorem closers_append (a b : List Char) :
    closers (a ++ b) = closers a + (closers b - openers a) := by
  induction a with
  | nil => simp [closers, openers]
  | cons c cs ih =>
    rw [List.cons_append, closers, closers, openers, ih]
    split
    · omega
    · split <;> omega

theorem openers_append (a b : List Char) :
    openers (a ++ b) = openers a - closers b + openers b := by
  induction a with
  | nil => simp [openers]
  | cons c cs ih =>
    rw [List.cons_append, openers, openers, ih, closers_append]
    split <;> omega

theorem closers_of_notMem {text : List Char} (h : '\x7d' ∉ text) : closers text = 0 := by
  induction text with
  | nil => rfl
  | cons c cs ih =>
    rw [List.mem_cons, not_or] at h
    rw [closers, ih h.2, if_neg (Ne.symm h.1)]
    split <;> rfl

theorem openers_of_notMem {text : List Char} (h : '\x7b' ∉ text) : openers text = 0 := by
  induction text with
  | nil => rfl
  | cons c cs ih =>
    rw [List.mem_cons, not_or] at h
    rw [openers, if_neg (Ne.symm h.1), ih h.2]

section Characters

variable {c : Char} {text : List Char}

@[simp] theorem closers_open : closers ('\x7b' :: text) = closers text - 1 := rfl

@[simp] theorem closers_close : closers ('\x7d' :: text) = closers text + 1 := rfl

theorem closers_other (hopen : c ≠ '\x7b') (hclose : c ≠ '\x7d') :
    closers (c :: text) = closers text := by
  rw [closers, if_neg hopen, if_neg hclose]

@[simp] theorem openers_open :
    openers ('\x7b' :: text) = openers text + (1 - closers text) := rfl

theorem openers_other (hopen : c ≠ '\x7b') : openers (c :: text) = openers text := by
  rw [openers, if_neg hopen]

@[simp] theorem openers_close : openers ('\x7d' :: text) = openers text :=
  openers_other (by decide)

end Characters

/-- A text takes off the open braces that it closes, and puts on those that it leaves open. -/
theorem foldl_matchBrace (line : Int) (text : List Char) (unclosed : List Int) (excess : Bool) :
    text.foldl (matchBrace line) (unclosed, excess) =
      (List.replicate (openers text) line ++ unclosed.drop (closers text),
        excess || decide (unclosed.length < closers text)) := by
  induction text generalizing unclosed excess with
  | nil => simp [openers, closers]
  | cons c cs ih =>
    rw [List.foldl_cons]
    by_cases hopen : c = '\x7b'
    · subst hopen
      rw [show matchBrace line (unclosed, excess) '\x7b' = (line :: unclosed, excess) from rfl, ih,
        openers_open, closers_open]
      cases hclosers : closers cs with
      -- Nothing closes the brace, or the first closing brace takes it off again.
      | zero => simp [List.replicate_succ']
      | succ n => simp
    by_cases hclose : c = '\x7d'
    · subst hclose
      rw [openers_close, closers_close]
      cases unclosed with
      | nil => simp [matchBrace, ih]
      | cons first unclosed => simp [matchBrace, ih]
    · rw [matchBrace_of_ne hopen hclose, ih, openers_other hopen, closers_other hopen hclose]

/-- How many braces are open behind a text. -/
theorem length_foldl_matchBrace (line : Int) (text : List Char) (known : List Int × Bool) :
    (text.foldl (matchBrace line) known).1.length =
      known.1.length - closers text + openers text := by
  obtain ⟨unclosed, excess⟩ := known
  rw [foldl_matchBrace, List.length_append, List.length_replicate, List.length_drop]
  exact Nat.add_comm _ _

end Braces

open Braces

namespace Line

/-- The text of a line in which braces count: literals and comments are left out. -/
def braced (line : Line) : List Char :=
  Literal.mask line.code

/-- What follows the first opening brace of a line. -/
def bodyStart? (line : Line) : Option (List Char) :=
  (line.braced.dropWhile (· ≠ '\x7b')).tail?

/-- The first opening brace of a line has no partner on the line or in the text behind it. -/
def holdsOpen (line : Line) (more : List Char) : Bool :=
  line.bodyStart?.any fun rest => !closesOuter (rest ++ more)

/-- A line closes braces of earlier lines or leaves braces open, but not both. If it declares a
class, then it leaves at most the first of its braces open. -/
def Tidy (line : Line) : Prop :=
  (closers line.braced = 0 ∨ openers line.braced = 0) ∧
    (line.classHead?.isSome → openers line.braced = 0 ∨
      line.bodyStart?.any fun rest => closers rest = 0 ∧ openers rest = 0)

instance (line : Line) : Decidable line.Tidy :=
  inferInstanceAs (Decidable (_ ∧ _))

end Line

/-- The classes of lines whose bodies are open behind the lines and a further text, the innermost
first. -/
def openBodies (more : List Char) : List Line → List ClassHead
  | [] => []
  | line :: lines =>
    openBodies more lines ++
      line.classHead?.toList.filter fun _ => line.holdsOpen (lines.flatMap (·.braced) ++ more)

/-- The innermost class whose body is open behind lines. -/
def enclosing? (lines : List Line) : Option ClassHead :=
  (openBodies [] lines).head?

theorem openBodies_concat (more : List Char) (lines : List Line) (line : Line) :
    openBodies more (lines ++ [line]) =
      (line.classHead?.toList.filter fun _ => line.holdsOpen more) ++
        openBodies (line.braced ++ more) lines := by
  induction lines with
  | nil => simp [openBodies]
  | cons first lines ih => simp [openBodies, ih]

/-- Braces hold nothing open on a line that has only blanks and comments. -/
theorem Line.unpaired_of_isBlank {line : Line} (h : line.isBlank = true) :
    closers line.braced = 0 ∧ openers line.braced = 0 := by
  have hnone : ∀ c : Char, Text.isBlank c = false → c ≠ ' ' → c ∉ line.braced := by
    intro c hc hspace hmem
    obtain ⟨⟨c', part⟩, hpart, rfl⟩ := List.mem_map.mp hmem
    dsimp only at hspace hc
    split at hspace
    · next hout =>
      rw [if_pos hout] at hc
      rw [Line.isBlank_of_mem (List.of_mem_zip hpart).1 hc] at h
      cases h
    · exact hspace rfl
  exact ⟨closers_of_notMem (hnone _ (by decide) (by decide)),
    openers_of_notMem (hnone _ (by decide) (by decide))⟩

/-- The braces that a line leaves open are its first one, unless that is closed, and those that
follow it. -/
theorem Line.openers_braced (line : Line) :
    openers line.braced =
      line.bodyStart?.elim 0 fun rest => openers rest + (1 - closers rest) := by
  let isOther (c : Char) : Bool := c ≠ '\x7b'
  have hsplit : line.braced = line.braced.takeWhile isOther ++ line.braced.dropWhile isOther :=
    List.takeWhile_append_dropWhile.symm
  have hbefore : openers (line.braced.takeWhile isOther) = 0 := by
    refine openers_of_notMem fun hmem => ?_
    have hother := List.all_eq_true.mp List.all_takeWhile _ hmem
    simp [isOther] at hother
  have hbehind : openers line.braced = openers (line.braced.dropWhile isOther) := by
    have happend := openers_append (line.braced.takeWhile isOther) (line.braced.dropWhile isOther)
    rw [← hsplit] at happend
    omega
  rw [hbehind, Line.bodyStart?]
  change _ = ((line.braced.dropWhile isOther).tail?).elim 0 _
  cases hrest : line.braced.dropWhile isOther with
  | nil => rfl
  | cons c rest =>
    have hc : ¬isOther c = true := by
      have hhead := List.head?_dropWhile_not isOther line.braced
      simpa [hrest] using hhead
    have hopen : c = '\x7b' := by simpa [isOther] using hc
    rw [openers, if_pos hopen]
    rfl

/-- A class whose line leaves at most its first brace open is open behind a further text if that
brace was left open and no brace of the text closes it. -/
theorem Line.Tidy.holdsOpen_iff {line : Line} (h : line.Tidy) (hclass : line.classHead?.isSome)
    (more : List Char) :
    line.holdsOpen more = true ↔ 0 < openers line.braced ∧ closers more = 0 := by
  have hopeners := line.openers_braced
  have hfirst := h.2 hclass
  unfold Line.holdsOpen
  cases hstart : line.bodyStart? with
  | none =>
    rw [hstart] at hopeners
    simp [hopeners]
  | some rest =>
    rw [hstart] at hopeners hfirst
    have hopen : (!closesOuter (rest ++ more)) = true ↔ closers (rest ++ more) = 0 := by
      rw [Bool.not_eq_true', ← Bool.not_eq_true, closesOuter_iff]
      omega
    simp only [Option.elim_some, Option.any_some, decide_eq_true_eq] at hopeners hfirst ⊢
    rw [hopen, closers_append]
    omega

theorem OpenClass.eq_nil_of_closeAll?_eq_none {file : Option String} {classes : List OpenClass}
    (h : OpenClass.closeAll? file classes = none) : classes = [] := by
  have hsome : ∀ (classes : List OpenClass) (c : ClassDecl),
      (classes.foldl (fun inner c => some (OpenClass.close file inner c)) (some c)).isSome := by
    intro classes
    induction classes with
    | nil => exact fun _ => rfl
    | cons first classes ih => exact fun c => ih (first.close file (some c))
  cases classes with
  | nil => rfl
  | cons first classes =>
    have hmade := hsome classes (first.close file none)
    rw [OpenClass.closeAll?, List.foldl_cons] at h
    rw [h] at hmade
    cases hmade

/-- The classes that are open in a draft, the innermost first, each with the number of braces on
which its body rests. -/
def Draft.frames {State : Type} (d : Draft State) : List (ClassHead × Nat) :=
  d.openClasses.map fun c => (c.head, c.depth)

namespace Draft

variable {State : Type} (d : Draft State) (file : Option String)

theorem frames_modifyBody (f : Body ClassDecl → Body ClassDecl) :
    (d.modifyBody f).frames = d.frames := by
  obtain ⟨_, _ | _, _, _, _, _, _⟩ := d <;> rfl

theorem innermost?_eq : d.innermost? = d.frames.head?.map (·.1) := by
  unfold innermost? frames
  rw [List.head?_map, Option.map_map]
  rfl

theorem frames_closeBelow (depth : Nat) :
    (d.closeBelow file depth).frames = d.frames.dropWhile (depth < ·.2) := by
  have hdrop : d.frames.dropWhile (depth < ·.2) =
      (d.openClasses.dropWhile (depth < ·.depth)).map fun c => (c.head, c.depth) := by
    unfold frames
    rw [List.dropWhile_map]
    rfl
  unfold closeBelow
  dsimp only
  rw [hdrop]
  cases hclosed : OpenClass.closeAll? file (d.openClasses.takeWhile (depth < ·.depth)) with
  | none =>
    -- Only if there are no classes to close is nothing closed.
    have hnone : d.openClasses.takeWhile (depth < ·.depth) = [] :=
      OpenClass.eq_nil_of_closeAll?_eq_none hclosed
    have hall := List.takeWhile_append_dropWhile (p := fun c : OpenClass => depth < c.depth)
      (l := d.openClasses)
    rw [hnone, List.nil_append] at hall
    rw [hall]
    rfl
  | some c => exact frames_modifyBody _ _

theorem length_matchBraces (unclosed : List Int) (line : Line) :
    (matchBraces unclosed line).1.length =
      unclosed.length - closers line.braced + openers line.braced :=
  length_foldl_matchBrace line.number line.braced (unclosed, false)

theorem frames_settle (line : Line) :
    (d.settle file line).frames =
      d.frames.dropWhile ((matchBraces d.unclosed line).1.length < ·.2) := by
  exact frames_closeBelow { d with unclosed := (matchBraces d.unclosed line).1 } file _

/-- A statement opens a class if it is the head of one and leaves more braces open than before. -/
theorem frames_declare (before : Nat) (line : Int) (statement : Statement) :
    (d.declare file before line statement).frames =
      ((statement.classHead? line).toList.filter fun _ => before < d.unclosed.length).map
        (·, d.unclosed.length) ++ d.frames := by
  cases statement with
  | classHead name =>
    by_cases h : before < d.unclosed.length
    · rw [declare_of_opens d file h]
      simp [Statement.classHead?, h, frames, OpenClass.head]
    · rw [declare_of_not_opens d file fun _ _ => h, frames_modifyBody]
      simp [Statement.classHead?, h]
  | functionHead head => exact frames_modifyBody d _
  | macroHead name params => exact frames_modifyBody d _
  | variableDecl access name type => exact frames_modifyBody d _
  | _ => rfl

theorem frames_declareLine (d : Draft Unit) {line : Line} (h : line.isBlank = false) :
    let height := (matchBraces d.unclosed line).1.length
    (d.declareLine file line).unclosed.length = height ∧
    (d.declareLine file line).frames =
      (line.classHead?.toList.filter fun _ => d.unclosed.length < height).map (·, height) ++
        d.frames.dropWhile (height < ·.2) := by
  have hdeclare := frames_declare (d.settle file line) file d.unclosed.length line.number
    (Statement.ofText line.code)
  rw [settle_unclosed, frames_settle] at hdeclare
  unfold declareLine Line.classHead?
  rw [h]
  -- Only the braces of a line change how many are open.
  refine ⟨?_, hdeclare⟩
  change ((d.settle file line).declare ..).unclosed.length = _
  rw [declare_unclosed, settle_unclosed]

end Draft

/-- What is known of the open classes tells which bodies stay open behind any further text, `height`
being the number of open braces. -/
structure Tracks (lines : List Line) (height : Nat) (frames : List (ClassHead × Nat)) : Prop where
  sorted : (height :: frames.map (·.2)).Pairwise (· ≥ ·)
  bodies : ∀ more, openBodies more lines =
    (frames.filter (·.2 ≤ height - closers more)).map (·.1)

namespace Tracks

variable {lines : List Line} {height : Nat} {frames : List (ClassHead × Nat)}

theorem le_height (h : Tracks lines height frames) {frame : ClassHead × Nat}
    (hmem : frame ∈ frames) : frame.2 ≤ height :=
  (List.pairwise_cons.mp h.sorted).1 _ (List.mem_map_of_mem hmem)

/-- From the inside out the bodies rest on fewer and fewer braces, so those that are closed are the
ones that rest on too many. -/
theorem dropWhile_eq_filter (h : Tracks lines height frames) (k : Nat) :
    frames.dropWhile (k < ·.2) = frames.filter (·.2 ≤ k) := by
  have hsorted := (List.pairwise_cons.mp h.sorted).2
  clear h
  induction frames with
  | nil => rfl
  | cons frame frames ih =>
    obtain ⟨hfirst, hmore⟩ := List.pairwise_cons.mp hsorted
    by_cases hk : k < frame.2
    · rw [List.dropWhile_cons_of_pos (by simpa using hk),
        List.filter_cons_of_neg (by simpa using hk), ih hmore]
    · rw [List.dropWhile_cons_of_neg (by simpa using hk)]
      refine (List.filter_eq_self.mpr fun other hother => ?_).symm
      rcases List.mem_cons.mp hother with rfl | hother
      · simpa using hk
      · have hle : other.2 ≤ frame.2 := hfirst _ (List.mem_map_of_mem hother)
        simp only [decide_eq_true_eq]
        omega

section Concat

variable (h : Tracks lines height frames) (line : Line)
include h

theorem sorted_concat :
    let after := height - closers line.braced + openers line.braced
    (after :: ((line.classHead?.toList.filter fun _ => height < after).map (·, after) ++
      frames.dropWhile (after < ·.2)).map (·.2)).Pairwise (· ≥ ·) := by
  intro after
  rw [h.dropWhile_eq_filter]
  have hstaying : ∀ depth ∈ (frames.filter (·.2 ≤ after)).map (·.2), depth ≤ after := by
    intro depth hdepth
    obtain ⟨frame, hframe, rfl⟩ := List.mem_map.mp hdepth
    simpa using (List.mem_filter.mp hframe).2
  have hrest : (after :: (frames.filter (·.2 ≤ after)).map (·.2)).Pairwise (· ≥ ·) := by
    refine List.pairwise_cons.mpr ⟨hstaying, ?_⟩
    exact (List.pairwise_cons.mp h.sorted).2.sublist (List.filter_sublist.map _)
  -- A class that the line opens rests on all braces that are open.
  cases line.classHead? with
  | none => exact hrest
  | some head =>
    by_cases hopens : height < after
    · simp only [Option.toList_some, hopens, decide_true, List.filter_true, List.map_cons,
        List.map_nil, List.singleton_append]
      refine List.pairwise_cons.mpr ⟨?_, hrest⟩
      intro depth hdepth
      rcases List.mem_cons.mp hdepth with rfl | hdepth
      · exact Nat.le_refl _
      · exact hstaying depth hdepth
    · simp only [hopens, decide_false, List.filter_false, List.map_nil, List.nil_append]
      exact hrest

variable {line} in
theorem bodies_concat (htidy : line.Tidy) (more : List Char) :
    let after := height - closers line.braced + openers line.braced
    openBodies more (lines ++ [line]) =
      (((line.classHead?.toList.filter fun _ => height < after).map (·, after) ++
        frames.dropWhile (after < ·.2)).filter (·.2 ≤ after - closers more)).map (·.1) := by
  intro after
  have hsides := htidy.1
  -- A body that was open stays open if neither the line nor the text closes its brace. Since the
  -- line does one thing only, its lowest point is at its start or at its end.
  have hold : frames.filter (·.2 ≤ height - closers (line.braced ++ more)) =
      frames.filter fun frame =>
        decide (frame.2 ≤ after - closers more) && decide (frame.2 ≤ after) := by
    refine List.filter_congr fun frame hframe => ?_
    have hle := h.le_height hframe
    rw [closers_append, Bool.eq_iff_iff]
    simp only [Bool.and_eq_true, decide_eq_true_eq]
    omega
  have hnew : (line.classHead?.toList.filter fun _ => line.holdsOpen more) =
      line.classHead?.toList.filter fun _ =>
        decide (after ≤ after - closers more) && decide (height < after) := by
    refine List.filter_congr fun head hhead => ?_
    have hclass : line.classHead?.isSome := by
      cases hnone : line.classHead? with
      | none => rw [hnone] at hhead; exact (List.not_mem_nil hhead).elim
      | some _ => rfl
    rw [Bool.eq_iff_iff, htidy.holdsOpen_iff hclass]
    simp only [Bool.and_eq_true, decide_eq_true_eq]
    omega
  rw [openBodies_concat, h.bodies, h.dropWhile_eq_filter, List.filter_append, List.map_append,
    List.filter_filter, hold, hnew, List.filter_map, List.map_map, List.filter_filter]
  congr 1
  exact (List.map_id _).symm

/-- A line with nothing in it changes no braces. -/
theorem concat_of_isBlank (hb : line.isBlank = true) : Tracks (lines ++ [line]) height frames := by
  obtain ⟨hclosers, hopeners⟩ := Line.unpaired_of_isBlank hb
  have hclass : line.classHead? = none := by simp [Line.classHead?, hb]
  refine ⟨h.sorted, fun more => ?_⟩
  rw [openBodies_concat, hclass, h.bodies, closers_append, hclosers, hopeners]
  simp

end Concat

end Tracks

namespace Draft

variable (file : Option String)

theorem tracks_declareLine {lines : List Line} {d : Draft Unit} {line : Line}
    (h : Tracks lines d.unclosed.length d.frames) (htidy : line.Tidy) :
    Tracks (lines ++ [line]) (d.declareLine file line).unclosed.length
      (d.declareLine file line).frames := by
  cases hb : line.isBlank
  · obtain ⟨hheight, hframes⟩ := frames_declareLine file d hb
    rw [hheight, hframes, length_matchBraces]
    exact ⟨h.sorted_concat line, h.bodies_concat htidy⟩
  · unfold declareLine
    rw [hb]
    exact h.concat_of_isBlank line hb

/-- Behind tidy lines a draft knows which classes are open. -/
theorem tracks_declareLines {lines : List Line} (htidy : ∀ line ∈ lines, line.Tidy) :
    let d := lines.foldl (declareLine file) { state := () }
    Tracks lines d.unclosed.length d.frames := by
  have hfold : ∀ (more known : List Line) (d : Draft Unit),
      Tracks known d.unclosed.length d.frames → (∀ line ∈ more, line.Tidy) →
      Tracks (known ++ more) (more.foldl (declareLine file) d).unclosed.length
        (more.foldl (declareLine file) d).frames := by
    intro more
    induction more with
    | nil => exact fun known d h _ => by rwa [List.append_nil]
    | cons line more ih =>
      intro known d h hmore
      obtain ⟨hline, hrest⟩ := List.forall_mem_cons.mp hmore
      have hnext := ih (known ++ [line]) _ (tracks_declareLine file h hline) hrest
      rwa [List.append_assoc, List.singleton_append] at hnext
  have hstart : Tracks [] 0 [] := ⟨List.pairwise_singleton _ _, fun _ => rfl⟩
  exact hfold lines [] { state := () } hstart htidy

/-- Behind tidy lines, a line that closes no class belongs to the innermost one that is open in
front of it. -/
theorem ownerOn_eq {before : List Line} {line : Line} (htidy : ∀ l ∈ before, l.Tidy)
    (hcloses : openBodies line.braced before = openBodies [] before) :
    (before.foldl (declareLine file) { state := () }).ownerOn file line = enclosing? before := by
  have htracks := tracks_declareLines file htidy
  unfold enclosing?
  generalize before.foldl (declareLine file) { state := () } = d at htracks ⊢
  have hall : d.frames.filter (·.2 ≤ d.unclosed.length - closers []) = d.frames := by
    refine List.filter_eq_self.mpr fun frame hframe => ?_
    exact decide_eq_true (htracks.le_height hframe)
  rw [htracks.bodies, htracks.bodies, hall] at hcloses
  -- As many bodies as before stay open, so each of them does.
  have hlength := congrArg List.length hcloses
  rw [List.length_map, List.length_map, List.length_filter_eq_length_iff] at hlength
  have hstay : d.frames.filter (·.2 ≤ (matchBraces d.unclosed line).1.length) = d.frames := by
    refine List.filter_eq_self.mpr fun frame hframe => ?_
    have hle : frame.2 ≤ d.unclosed.length - closers line.braced := by
      simpa using hlength frame hframe
    rw [length_matchBraces, decide_eq_true_eq]
    omega
  rw [ownerOn, innermost?_eq, frames_settle, htracks.dropWhile_eq_filter, hstay, htracks.bodies,
    hall, List.head?_map]

end Draft

namespace ModuleSource

/-- What a line declares belongs to the innermost class whose body is open in front of the line,
provided that the lines in front of it are tidy and that its own braces close none of the bodies. -/
theorem placed_of_tidy (s : ModuleSource) (isRoot : Bool) (file : Option String) (pass : Pass)
    {text : List Char} {before after : List Line} {line : Line}
    (hlines : Line.ofSource text = before ++ line :: after) (htidy : ∀ l ∈ before, l.Tidy)
    (hcloses : openBodies line.braced before = openBodies [] before) :
    let t := (s.outline isRoot file (Line.ofSource text) pass).1.table
    (t.body.placed none).filter (·.2.line = line.number) =
      (line.members (enclosing? before) t.file).map (enclosing? before, ·) := by
  have hnumbers := Line.pairwise_number_ofSource text
  dsimp only
  rw [outline_eq, Outline.ofLines_body, placed_of_line _ _ hlines hnumbers,
    Draft.ownerOn_eq _ htidy hcloses]
  rfl

/-- A class with a method and a variable behind that. -/
def methodText : List Char :=
  "class A \x7b\ndef f() -> int \x7b\nreturn 1\n\x7d\nvar x int\n\x7d".toList

def methodLines : List Line :=
  (Line.ofSource methodText).take 4

def fieldLine : Line := ⟨5, "var x int".toList, false⟩

theorem placed_methodText :
    (Line.ofSource methodText = methodLines ++ fieldLine :: [⟨6, ['\x7d'], false⟩] ∧
      (∀ l ∈ methodLines, l.Tidy) ∧
      openBodies fieldLine.braced methodLines = openBodies [] methodLines) ∧
    enclosing? methodLines = some ⟨"A", 1⟩ ∧
    let t := (sharedModule.outline true (some "main.pgy") (Line.ofSource methodText) {}).1.table
    (t.body.placed none).filter (·.2.line = fieldLine.number) =
      (fieldLine.members (enclosing? methodLines) t.file).map (enclosing? methodLines, ·) := by
  have hlines : Line.ofSource methodText = methodLines ++ fieldLine :: [⟨6, ['\x7d'], false⟩] := by
    rfl
  have htidy : ∀ l ∈ methodLines, l.Tidy := by decide +kernel
  have hcloses : openBodies fieldLine.braced methodLines = openBodies [] methodLines := by
    decide +kernel
  exact ⟨⟨hlines, htidy, hcloses⟩, by decide +kernel,
    placed_of_tidy sharedModule true (some "main.pgy") {} hlines htidy hcloses⟩

/-- A class is closed before the declaration of a line is seen, even if the brace that closes it
stands behind that: the variable is in the body of the class, and is put at the top level. -/
theorem placed_closedBehind :
    let lines := Line.ofSource "class A \x7b\nvar x int \x7d".toList
    let t := (sharedModule.outline true (some "main.pgy") lines {}).1.table
    enclosing? (lines.take 1) = some ⟨"A", 1⟩ ∧
      t.body.vars.map (fun v => (v.name, v.scope, v.line)) = [("x", globalScope, 2)] ∧
      t.body.classes.map (·.body.vars.length) = [0] := by
  decide +kernel

end ModuleSource

end ScriptLint
