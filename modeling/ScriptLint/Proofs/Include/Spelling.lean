import ScriptLint.Proofs.Include.Longest
import ScriptLint.Proofs.Text.Pieces

/-! The ways to write the segments of an include path. There can be any number of dots in front of,
behind and between them, and in front of a sign there need not be one. Paths that have the same
segments include the same. -/
namespace ScriptLint

namespace ModuleSearch

/-- The text is a way to write the segments. -/
inductive Spells : List Char → List String → Prop
  | done : Spells [] []
  | dot {text : List Char} {segments : List String} (h : Spells text segments) :
    Spells ('.' :: text) segments
  /-- A segment has a sign at most at its start, and a dot or a sign ends it. -/
  | segment {first : Char} {name text : List Char} {segments : List String} (hfirst : first ≠ '.')
    (hdot : '.' ∉ name) (hsign : '@' ∉ name) (hend : ∀ c ∈ text.head?, c = '.' ∨ c = '@')
    (h : Spells text segments) :
    Spells (first :: (name ++ text)) (String.ofList (first :: name) :: segments)

/-- Each text is a way to write some segments. -/
theorem Spells.exists_segments (text : List Char) : ∃ segments, Spells text segments := by
  induction text with
  | nil => exact ⟨[], .done⟩
  | cons c text ih =>
    obtain ⟨segments, h⟩ := ih
    by_cases hc : c = '.'
    · exact ⟨segments, hc ▸ .dot h⟩
    · -- The character starts a segment if a dot, a sign or nothing follows; otherwise it is put in
      -- front of the first one.
      have hstart (hend : ∀ x ∈ text.head?, x = '.' ∨ x = '@') :
          Spells (c :: text) (String.ofList [c] :: segments) :=
        .segment hc List.not_mem_nil List.not_mem_nil hend h
      cases h with
      | done => exact ⟨_, hstart (by simp)⟩
      | dot h => exact ⟨_, hstart (by simp)⟩
      | @segment first name rest more hfirst hdot hsign hend h =>
        by_cases hat : first = '@'
        · exact ⟨_, hstart (by simp [hat])⟩
        · have hlonger : Spells (c :: ((first :: name) ++ rest))
              (String.ofList (c :: first :: name) :: more) := by
            refine .segment hc ?_ ?_ hend h
            · simp [hdot, Ne.symm hfirst]
            · simp [hsign, Ne.symm hat]
          exact ⟨_, hlonger⟩

/-- The text with a dot in front of each sign. -/
def dotSigns (text : List Char) : List Char :=
  text.flatMap fun c => if c = '@' then ['.', c] else [c]

theorem dotSigns_of_notMem {text : List Char} (h : '@' ∉ text) : dotSigns text = text := by
  have hsingle : ∀ c ∈ text, (if c = '@' then ['.', c] else [c]) = [c] := by
    intro c hc
    have hne : c ≠ '@' := fun heq => h (heq ▸ hc)
    rw [if_neg hne]
  rw [dotSigns, List.flatMap_congr hsingle, List.flatMap_singleton']

theorem dotSigns_sign_cons (text : List Char) :
    dotSigns ('@' :: text) = '.' :: '@' :: dotSigns text :=
  rfl

theorem dotSigns_append (front back : List Char) :
    dotSigns (front ++ back) = dotSigns front ++ dotSigns back :=
  List.flatMap_append

/-- The pieces of a text between the dots and in front of the signs that are not empty. -/
def parts (text : List Char) : List (List Char) :=
  (Text.pieces '.' (dotSigns text)).filter (· ≠ [])

theorem segments_eq (path : String) : segments path = (parts path.toList).map String.ofList :=
  rfl

theorem parts_dot_cons (text : List Char) : parts ('.' :: text) = parts text := by
  change (Text.pieces '.' ('.' :: dotSigns text)).filter (· ≠ []) = _
  rw [Text.pieces_sep_cons, List.filter_cons_of_neg (by simp)]
  rfl

/-- A part goes on to the next dot or sign. -/
theorem filter_pieces_append {front text : List Char} (hne : front ≠ []) (hdot : '.' ∉ front)
    (hend : ∀ c ∈ text.head?, c = '.' ∨ c = '@') :
    (Text.pieces '.' (front ++ dotSigns text)).filter (· ≠ []) = front :: parts text := by
  cases text with
  | nil =>
    change (Text.pieces '.' (front ++ [])).filter (· ≠ []) = [front]
    rw [List.append_nil, Text.pieces_of_notMem hdot, List.filter_cons_of_pos (by simpa using hne),
      List.filter_nil]
  | cons c text =>
    obtain ⟨more, hmore⟩ : ∃ more, dotSigns (c :: text) = '.' :: more := by
      rcases hend c rfl with rfl | rfl
      · exact ⟨dotSigns text, rfl⟩
      · exact ⟨'@' :: dotSigns text, rfl⟩
    rw [parts, hmore, Text.pieces_append_sep_cons, Text.pieces_of_notMem hdot, Text.pieces_sep_cons,
      List.singleton_append, List.filter_cons_of_pos (by simpa using hne),
      List.filter_cons_of_neg (by simp)]

theorem Spells.eq_parts {text : List Char} {segments : List String} (h : Spells text segments) :
    segments = (parts text).map String.ofList := by
  induction h with
  | done => rfl
  | dot h ih => rwa [parts_dot_cons]
  | @segment first name text segments hfirst hdot hsign hend h ih =>
    have hparts : parts (first :: (name ++ text)) = (first :: name) :: parts text := by
      have hname : '.' ∉ first :: name := by simp [hdot, Ne.symm hfirst]
      rw [← filter_pieces_append (List.cons_ne_nil first name) hname hend]
      by_cases hat : first = '@'
      · subst hat
        rw [parts, dotSigns_sign_cons, Text.pieces_sep_cons, List.filter_cons_of_neg (by simp),
          dotSigns_append, dotSigns_of_notMem hsign, List.cons_append]
      · have hnone : '@' ∉ first :: name := by simp [hsign, Ne.symm hat]
        rw [parts, ← List.cons_append, dotSigns_append, dotSigns_of_notMem hnone]
    rw [hparts, List.map_cons, ← ih]

/-- The segments of a path are those that it is a way to write. -/
theorem segments_eq_iff_spells {path : String} {segments : List String} :
    ModuleSearch.segments path = segments ↔ Spells path.toList segments := by
  constructor
  · rintro rfl
    obtain ⟨segments, h⟩ := Spells.exists_segments path.toList
    rwa [segments_eq, ← h.eq_parts]
  · exact fun h => h.eq_parts.symm

/-- The text without each dot that stands right in front of a sign. -/
def dropDots : List Char → List Char
  | [] => []
  | '.' :: '@' :: text => '@' :: dropDots text
  | c :: text => c :: dropDots text

theorem dropDots_dot_sign_cons (text : List Char) :
    dropDots ('.' :: '@' :: text) = dropDots ('@' :: text) := by
  simp [dropDots]

theorem dropDots_cons {c : Char} {text : List Char} (h : c ≠ '.' ∨ text.head? ≠ some '@') :
    dropDots (c :: text) = c :: dropDots text := by
  rw [dropDots]
  rintro more rfl rfl
  simp at h

theorem dropDots_append_of_notMem {front : List Char} (h : '.' ∉ front) (text : List Char) :
    dropDots (front ++ text) = front ++ dropDots text := by
  induction front with
  | nil => rfl
  | cons c front ih =>
    rw [List.mem_cons, not_or] at h
    rw [List.cons_append, dropDots_cons (.inl (Ne.symm h.1)), ih h.2, List.cons_append]

theorem head?_dropDots {text : List Char} (h : ∀ c ∈ text.head?, c = '.' ∨ c = '@') :
    ∀ c ∈ (dropDots text).head?, c = '.' ∨ c = '@' := by
  fun_cases dropDots text with
  | case1 => simp
  | case2 => simp
  | case3 c text => simpa using h

/-- The dot in front of a sign says nothing. -/
theorem Spells.dropDots {text : List Char} {segments : List String} (h : Spells text segments) :
    Spells (dropDots text) segments := by
  induction h with
  | done => exact .done
  | @dot text segments h ih =>
    by_cases hat : text.head? = some '@'
    · obtain ⟨rest, rfl⟩ := List.head?_eq_some_iff.mp hat
      rwa [dropDots_dot_sign_cons]
    · rw [dropDots_cons (.inr hat)]
      exact .dot ih
  | @segment first name text segments hfirst hdot hsign hend h ih =>
    rw [dropDots_cons (.inl hfirst), dropDots_append_of_notMem hdot]
    exact .segment hfirst hdot hsign (head?_dropDots hend) ih

/-- A path has the same segments if the dots in front of its signs are taken out first. -/
theorem segments_ofList_dropDots (path : String) :
    segments (String.ofList (ModuleSearch.dropDots path.toList)) = segments path := by
  rw [segments_eq_iff_spells, String.toList_ofList]
  exact (segments_eq_iff_spells.mp rfl).dropDots

end ModuleSearch

end ScriptLint
