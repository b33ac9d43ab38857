import ScriptLint.Proofs.Analysis.Parts
import ScriptLint.Proofs.Include.Spelling

/-! What an include brings in, told from the segments that are left over when its module has been
found. Together with the search and with the ways to write the segments, this says what each path
includes. -/
namespace ScriptLint

namespace ModuleSearch

/-- A segment with a sign is not capitalised. -/
theorem isCapitalised_of_sign {segment : String} (h : segment.toList.head? = some '@') :
    isCapitalised segment = false := by
  rw [isCapitalised, h]
  decide

section LastSegment

variable {front : List String} {last : String}

theorem selectionOf_of_sign (h : last.toList.head? = some '@') :
    selectionOf (front ++ [last]).reverse =
      some (.oneMacro (String.ofList (last.toList.drop 1))) := by
  simp [selectionOf, h]

theorem selectionOf_of_not (hsign : last.toList.head? ≠ some '@')
    (hlast : isCapitalised last = false) : selectionOf (front ++ [last]).reverse = none := by
  simp [selectionOf, hsign, hlast]

theorem selectionOf_of_two {outer : String} (hlast : isCapitalised last = true)
    (houter : isCapitalised outer = true) :
    selectionOf (front ++ [outer] ++ [last]).reverse = some (.innerClass outer last) := by
  have hsign : last.toList.head? ≠ some '@' := fun h => by simp [isCapitalised_of_sign h] at hlast
  simp [selectionOf, hsign, hlast, houter]

theorem selectionOf_of_one (hlast : isCapitalised last = true)
    (hbefore : ∀ before ∈ front.getLast?, isCapitalised before = false) :
    selectionOf (front ++ [last]).reverse = some (.topClass last) := by
  have hsign : last.toList.head? ≠ some '@' := fun h => by simp [isCapitalised_of_sign h] at hlast
  rcases List.eq_nil_or_concat' front with rfl | ⟨front, before, rfl⟩
  · simp [selectionOf, hsign, hlast]
  · have hplain : isCapitalised before = false := hbefore before (by simp)
    simp [selectionOf, hsign, hlast, hplain]

end LastSegment

end ModuleSearch

open ModuleSearch (isCapitalised selectionOf nameOf Spells Place)

/-- The kind of an include, its name and the class around it, told from the segments left over. -/
structure Include.AsksFor (i : Include) (file : Path) (leftOver : List String) : Prop where
  oneMacro : i.kind = .oneMacro ↔ ∃ last ∈ leftOver.getLast?, last.toList.head? = some '@'
  innerClass : i.kind = .innerClass ↔ ∃ last ∈ leftOver.getLast?,
    ∃ outer ∈ leftOver.dropLast.getLast?, isCapitalised last = true ∧ isCapitalised outer = true
  topClass : i.kind = .topClass ↔ ∃ last ∈ leftOver.getLast?, isCapitalised last = true ∧
    ∀ before ∈ leftOver.dropLast.getLast?, isCapitalised before = false
  wholeFile : i.kind = .wholeFile ↔ ∀ last ∈ leftOver.getLast?,
    last.toList.head? ≠ some '@' ∧ isCapitalised last = false
  parent : i.parent = if i.kind = .innerClass then leftOver.dropLast.getLast? else none
  name : i.name =
    match leftOver.getLast? with
    | none => stem (ScriptLint.fileName file.toText)
    | some last => if i.kind = .oneMacro then String.ofList (last.toList.drop 1) else last

/-- The resolution to a file with some segments left over. -/
def Resolution.ofLeftOver (file : Path) (leftOver : List String) : Resolution :=
  let selection := selectionOf leftOver.reverse
  ⟨file, nameOf file leftOver selection, selection⟩

theorem Resolution.asksFor_toInclude (file : Path) (leftOver : List String) (path : String)
    (line : Int) : ((ofLeftOver file leftOver).toInclude path line).AsksFor file leftOver := by
  rw [toInclude, ofLeftOver]
  rcases List.eq_nil_or_concat' leftOver with rfl | ⟨front, last, rfl⟩
  · constructor <;> simp [selectionOf, nameOf, IncludeKind.ofSelection]
  by_cases hsign : last.toList.head? = some '@'
  · rw [ModuleSearch.selectionOf_of_sign hsign]
    have hplain := ModuleSearch.isCapitalised_of_sign hsign
    constructor <;> simp [nameOf, IncludeKind.ofSelection, Selection.parent?, hsign, hplain]
  cases hlast : isCapitalised last with
  | false =>
    rw [ModuleSearch.selectionOf_of_not hsign hlast]
    constructor <;> simp [nameOf, IncludeKind.ofSelection, hsign, hlast]
  | true =>
    by_cases hbefore : ∀ before ∈ front.getLast?, isCapitalised before = false
    · rw [ModuleSearch.selectionOf_of_one hlast hbefore]
      constructor <;> simp [nameOf, IncludeKind.ofSelection, Selection.parent?, hsign, hlast]
      all_goals exact hbefore
    · simp only [not_forall, Bool.not_eq_false] at hbefore
      obtain ⟨outer, hmem, houter⟩ := hbefore
      obtain ⟨front, rfl⟩ := List.getLast?_eq_some_iff.mp hmem
      rw [ModuleSearch.selectionOf_of_two hlast houter]
      constructor <;>
        simp [nameOf, IncludeKind.ofSelection, Selection.parent?, hsign, hlast, houter]

namespace ModuleSearch

variable (s : ModuleSearch) (disk : Disk) (currentDir : String)

theorem resolve?_of_spells {path : String} {segments : List String}
    (h : Spells path.toList segments) :
    s.resolve? disk currentDir path =
      (s.findModule? disk currentDir segments).map fun (file, leftOver) =>
        Resolution.ofLeftOver file leftOver := by
  rw [resolve?, segments_eq_iff_spells.mpr h]
  rfl

/-- The search finds the longest start of the segments that names a file, in the directory of the
including file before the library. The segments are the same if each dot in front of a sign is taken
out before one is put there. What paths with the same segments include differs in nothing but the
path as written, and the segments left over say what is asked for. -/
theorem include_of_spells :
    (∀ segments file leftOver,
      s.findModule? disk currentDir segments = some (file, leftOver) ↔
        ∃ p, s.FindsAt disk currentDir segments p ∧
          file = s.candidateAt disk currentDir segments p ∧ leftOver = segments.drop p.count) ∧
    (∀ segments, s.findModule? disk currentDir segments = none ↔
      ∀ p : Place, 0 < p.count → p.count ≤ segments.length →
        s.isFileAt disk currentDir segments p = false) ∧
    (∀ path segments, ModuleSearch.segments path = segments ↔ Spells path.toList segments) ∧
    (∀ path, ModuleSearch.segments (String.ofList (ModuleSearch.dropDots path.toList)) =
      ModuleSearch.segments path) ∧
    ∀ (path : String) (segments : List String) (line : Int), Spells path.toList segments →
      (s.findModule? disk currentDir segments = none →
        (s.resolve? disk currentDir path).map (·.toInclude path line) = none) ∧
      (∀ file leftOver, s.findModule? disk currentDir segments = some (file, leftOver) →
        ∃ i, (s.resolve? disk currentDir path).map (·.toInclude path line) = some i ∧
          i.path = path ∧ i.file = some file.toText ∧ i.line = line ∧ i.AsksFor file leftOver) ∧
      ∀ other : String, Spells other.toList segments →
        (s.resolve? disk currentDir other).map (·.toInclude other line) =
          ((s.resolve? disk currentDir path).map (·.toInclude path line)).map fun i =>
            { i with path := other } := by
  refine ⟨fun _ _ _ => findModule?_eq_some_iff, fun _ => findModule?_eq_none_iff,
    fun _ _ => segments_eq_iff_spells, segments_ofList_dropDots,
    fun path segments line hpath => ?_⟩
  rw [s.resolve?_of_spells disk currentDir hpath]
  refine ⟨fun hnone => ?_, fun file leftOver hfound => ?_, fun other hother => ?_⟩
  · rw [hnone]
    rfl
  · rw [hfound]
    exact ⟨_, rfl, rfl, rfl, rfl, Resolution.asksFor_toInclude file leftOver path line⟩
  · rw [s.resolve?_of_spells disk currentDir hother]
    cases s.findModule? disk currentDir segments with
    | none => rfl
    | some found => rfl

/-- A directory with a module in a package. -/
def packageDisk : Disk :=
  { Disk.bare with
    directories := [["home"], ["home", "a"]]
    files := [(["home", "a", "b.pgy"], [])] }

/-- Two ways to write the path of a macro of the module. -/
theorem include_of_spells_macro :
    let s : ModuleSearch := ⟨"/lib", ".pgy"⟩
    let segments := ["a", "b", "@m"]
    Spells "a.b@m".toList segments ∧ Spells "a..b.@m".toList segments ∧
      ModuleSearch.segments (String.ofList (ModuleSearch.dropDots "a..b.@m".toList)) = segments ∧
      ∃ file i, s.findModule? packageDisk "/home" segments = some (file, ["@m"]) ∧
        (s.resolve? packageDisk "/home" "a.b@m").map (·.toInclude "a.b@m" 1) = some i ∧
        i.file = some file.toText ∧ i.kind = .oneMacro ∧
        (s.resolve? packageDisk "/home" "a..b.@m").map (·.toInclude "a..b.@m" 1) =
          some { i with path := "a..b.@m" } := by
  intro s segments
  have hpath : Spells "a.b@m".toList segments := segments_eq_iff_spells.mp (by decide +kernel)
  have hother : Spells "a..b.@m".toList segments := segments_eq_iff_spells.mp (by decide +kernel)
  obtain ⟨-, -, hsegments, hdots, hspells⟩ := include_of_spells s packageDisk "/home"
  obtain ⟨-, hfile, hsame⟩ := hspells "a.b@m" segments 1 hpath
  have hfound : (s.findModule? packageDisk "/home" segments).any (·.2 = ["@m"]) = true := by
    decide +kernel
  obtain ⟨⟨file, leftOver⟩, hfound, hleft⟩ := (Option.any_eq_true _ _).mp hfound
  obtain rfl : leftOver = ["@m"] := of_decide_eq_true hleft
  obtain ⟨i, hi, -, hname, -, hasks⟩ := hfile file ["@m"] hfound
  have hdropped := (hdots "a..b.@m").trans ((hsegments _ _).mpr hother)
  have hmacro : i.kind = .oneMacro := hasks.oneMacro.mpr ⟨"@m", rfl, by decide⟩
  refine ⟨hpath, hother, hdropped, file, i, hfound, hi, hname, hmacro, ?_⟩
  rw [hsame _ hother, hi]
  rfl

end ModuleSearch

end ScriptLint
