import Mathlib.Data.List.Basic
import ScriptLint.Include.Search

/-! Which candidate the search for a module takes. A place to look is a number of segments together
with one of the two directories. More segments come first, and for equally many the directory of the
including file comes before the library. The search takes the first place with a file. -/
namespace ScriptLint

namespace ModuleSearch

/-- A place where the search looks. -/
structure Place where
  /-- The number of segments that make the name of the file. -/
  count : Nat
  /-- Whether it is in the library. -/
  inLibrary : Bool

namespace Place

/-- The order of the search. -/
def Before (p q : Place) : Prop :=
  q.count < p.count ∨ p.count = q.count ∧ p.inLibrary = false ∧ q.inLibrary = true

theorem Before.asymm {p q : Place} (h : p.Before q) : ¬q.Before p := by
  rcases h with hlt | ⟨heq, hcurrent, hlibrary⟩
  · rintro (hgt | ⟨heq, -⟩) <;> omega
  · rintro (hgt | ⟨-, hother, -⟩)
    · omega
    · rw [hlibrary] at hother
      cases hother

theorem before_trichotomy (p q : Place) : p.Before q ∨ p = q ∨ q.Before p := by
  obtain ⟨m, a⟩ := p
  obtain ⟨n, b⟩ := q
  rcases Nat.lt_trichotomy m n with hlt | rfl | hgt
  · exact .inr (.inr (.inl hlt))
  · cases a <;> cases b <;> simp [Before]
  · exact .inl (.inl hgt)

/-- The places for at most `bound` segments, in the order of the search. -/
def upTo : Nat → List Place
  | 0 => []
  | bound + 1 => ⟨bound + 1, false⟩ :: ⟨bound + 1, true⟩ :: upTo bound

theorem mem_upTo {bound : Nat} {p : Place} : p ∈ upTo bound ↔ 0 < p.count ∧ p.count ≤ bound := by
  induction bound with
  | zero =>
    simp only [upTo, List.not_mem_nil, false_iff]
    omega
  | succ bound ih =>
    obtain ⟨count, inLibrary⟩ := p
    rw [upTo, List.mem_cons, List.mem_cons, ih]
    cases inLibrary <;> simp <;> omega

theorem pairwise_upTo (bound : Nat) : (upTo bound).Pairwise Before := by
  induction bound with
  | zero => exact List.Pairwise.nil
  | succ bound ih =>
    have hlater (inLibrary : Bool) : ∀ q ∈ upTo bound, Before ⟨bound + 1, inLibrary⟩ q :=
      fun q hq => .inl (Nat.lt_succ_of_le (mem_upTo.mp hq).2)
    rw [upTo, List.pairwise_cons, List.pairwise_cons, List.forall_mem_cons]
    exact ⟨⟨.inr ⟨rfl, rfl, rfl⟩, hlater false⟩, hlater true, ih⟩

/-- What is found among the places is the first one of its kind. -/
theorem find?_upTo_eq_some_iff {bound : Nat} {test : Place → Bool} {p : Place} :
    (upTo bound).find? test = some p ↔
      p ∈ upTo bound ∧ test p = true ∧ ∀ q ∈ upTo bound, q.Before p → test q = false := by
  have hfirst {p : Place} (h : (upTo bound).find? test = some p) :
      p ∈ upTo bound ∧ test p = true ∧ ∀ q ∈ upTo bound, q.Before p → test q = false := by
    obtain ⟨htest, front, back, heq, hfront⟩ := List.find?_eq_some_iff_append.mp h
    have hpairwise := pairwise_upTo bound
    rw [heq, List.pairwise_append, List.pairwise_cons] at hpairwise
    refine ⟨List.mem_of_find?_eq_some h, htest, fun q hq hbefore => ?_⟩
    rw [heq, List.mem_append, List.mem_cons] at hq
    rcases hq with hq | rfl | hq
    · simpa using hfront q hq
    · exact absurd hbefore hbefore.asymm
    · exact absurd hbefore (hpairwise.2.1.1 q hq).asymm
  refine ⟨hfirst, fun ⟨hp, htest, hnone⟩ => ?_⟩
  obtain ⟨q, hq⟩ := Option.isSome_iff_exists.mp (List.find?_isSome.mpr ⟨p, hp, htest⟩)
  obtain ⟨hmem, hqtest, hqnone⟩ := hfirst hq
  -- Neither of the two can come before the other.
  rcases p.before_trichotomy q with hbefore | rfl | hbefore
  · simp [hqnone p hp hbefore] at htest
  · exact hq
  · simp [hnone q hmem hbefore] at hqtest

end Place

variable (s : ModuleSearch) (disk : Disk) (currentDir : String) (segments : List String)

/-- The candidate at a place. -/
def candidateAt (p : Place) : Path :=
  s.candidate disk (segments.take p.count) (if p.inLibrary then s.libraryDir else currentDir)

/-- Whether the candidate at a place is a file. -/
def isFileAt (p : Place) : Bool :=
  disk.isFile (s.candidateAt disk currentDir segments p).toText

theorem findSome?_range_reverse (bound : Nat) :
    ((List.range bound).reverse.findSome? fun last =>
      ((s.directories currentDir).map (s.candidate disk (segments.take (last + 1)))).findSome?
        fun file =>
          if disk.isFile file.toText then some (file, segments.drop (last + 1)) else none) =
    ((Place.upTo bound).find? (s.isFileAt disk currentDir segments)).map fun p =>
      (s.candidateAt disk currentDir segments p, segments.drop p.count) := by
  induction bound with
  | zero => rfl
  | succ bound ih =>
    rw [List.range_succ, List.reverse_append, List.reverse_singleton, List.singleton_append,
      List.findSome?_cons, ih, Place.upTo, List.find?_cons, List.find?_cons]
    simp only [isFileAt, candidateAt, directories, List.map_cons, List.map_nil,
      List.findSome?_cons, List.findSome?_nil, Bool.false_eq_true, ↓reduceIte]
    cases disk.isFile (s.candidate disk (segments.take (bound + 1)) currentDir).toText with
    | true => rfl
    | false =>
      cases disk.isFile (s.candidate disk (segments.take (bound + 1)) s.libraryDir).toText with
      | true => rfl
      | false => rfl

/-- The search goes through the places in their order. -/
theorem findModule?_eq :
    s.findModule? disk currentDir segments =
      ((Place.upTo segments.length).find? (s.isFileAt disk currentDir segments)).map fun p =>
        (s.candidateAt disk currentDir segments p, segments.drop p.count) :=
  s.findSome?_range_reverse disk currentDir segments segments.length

/-- A place for some of the segments has a file, and no place before it has one. -/
structure FindsAt (p : Place) : Prop where
  count_pos : 0 < p.count
  count_le : p.count ≤ segments.length
  isFile : s.isFileAt disk currentDir segments p = true
  first : ∀ q : Place, q.count ≤ segments.length → q.Before p →
    s.isFileAt disk currentDir segments q = false

variable {s disk currentDir segments}

theorem Place.Before.count_le {p q : Place} (h : q.Before p) : p.count ≤ q.count := by
  rcases h with hlt | ⟨heq, -⟩
  · exact Nat.le_of_lt hlt
  · exact Nat.le_of_eq heq.symm

/-- The search finds the candidate of the first place with a file, and leaves over the segments that
do not name it. -/
theorem findModule?_eq_some_iff {file : Path} {leftOver : List String} :
    s.findModule? disk currentDir segments = some (file, leftOver) ↔
      ∃ p, s.FindsAt disk currentDir segments p ∧
        file = s.candidateAt disk currentDir segments p ∧ leftOver = segments.drop p.count := by
  simp only [findModule?_eq, Option.map_eq_some_iff, Place.find?_upTo_eq_some_iff, Place.mem_upTo,
    Prod.mk.injEq]
  constructor
  · rintro ⟨p, ⟨⟨hpos, hle⟩, hfile, hfirst⟩, rfl, rfl⟩
    refine ⟨p, ⟨hpos, hle, hfile, fun q hq hbefore => ?_⟩, rfl, rfl⟩
    exact hfirst q ⟨Nat.lt_of_lt_of_le hpos hbefore.count_le, hq⟩ hbefore
  · rintro ⟨p, h, rfl, rfl⟩
    exact ⟨p, ⟨⟨h.count_pos, h.count_le⟩, h.isFile, fun q hq => h.first q hq.2⟩, rfl, rfl⟩

/-- Nothing is found exactly if no candidate is a file. -/
theorem findModule?_eq_none_iff :
    s.findModule? disk currentDir segments = none ↔
      ∀ p : Place, 0 < p.count → p.count ≤ segments.length →
        s.isFileAt disk currentDir segments p = false := by
  simp only [findModule?_eq, Option.map_eq_none_iff, List.find?_eq_none, Place.mem_upTo, and_imp,
    Bool.not_eq_true]

end ModuleSearch

end ScriptLint
