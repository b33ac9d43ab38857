import ScriptLint.Proofs.Analysis.Codes
import ScriptLint.Proofs.Subject.Marks
import ScriptLint.Proofs.Types.Declared

/-! The declared types that are not known, and what an analysis says of them: one finding for each,
where it stands, and nothing else. The known types are those of the table, so its classes have to be
those of the lines and of the modules; and the findings are made from the declarations of the table,
so these have to be those of the lines. -/
namespace ScriptLint

open Text (Cursor Token)

/-- The type needs a declaration, and neither a line nor a module has one. -/
structure IsUnknownType (lines : List Line) (imports : Imports) (type : String) : Prop where
  not_builtin : type ∉ builtinTypes
  not_declared : ∀ line ∈ lines, line.classHead?.map (·.name) ≠ some type
  not_imported : ∀ c ∈ imports.classes, c.name ≠ type

theorem isUnknownType_iff (lines : List Line) (imports : Imports) (type : String) :
    IsUnknownType lines imports type ↔ type ∉ builtinTypes ∧
      (∀ line ∈ lines, line.classHead?.map (·.name) ≠ some type) ∧
      ∀ c ∈ imports.classes, c.name ≠ type :=
  ⟨fun h => ⟨h.1, h.2, h.3⟩, fun h => ⟨h.1, h.2.1, h.2.2⟩⟩

instance (lines : List Line) (imports : Imports) (type : String) :
    Decidable (IsUnknownType lines imports type) :=
  decidable_of_iff' _ (isUnknownType_iff lines imports type)

/-- The finding says of the declared type that it is not known, and marks it where it stands. -/
structure Diagnostic.ReportsType (d : Diagnostic) (p : TypePlace) : Prop where
  code : d.code = .unknownType
  source : d.source = ownSource
  severity : d.severity = .error
  number : d.line = p.line.number
  place : (p.line.codeOffset? d.startColumn).map Int.ofNat = some p.offset
  marked : d.marked? p.line = some p.type.toList
  part : d.wholeLine = false

section Names

variable {t : SymbolTable}

variable {file : Option String} {lines : List Line} (hbody : t.body = declaredBody file lines)
include hbody

/-- The classes of a table have the names that the lines give. -/
theorem SymbolTable.exists_class_iff {name : String} :
    (∃ c ∈ t.allClasses, c.name = name) ↔
      ∃ line ∈ lines, line.classHead?.map (·.name) = some name := by
  have hheads : t.allClasses.map (·.head) = lines.filterMap Line.classHead? := by
    rw [← heads_declaredBody file lines, ← hbody]
    rfl
  constructor
  · rintro ⟨c, hc, rfl⟩
    have hmem : c.head ∈ lines.filterMap Line.classHead? :=
      hheads ▸ List.mem_map_of_mem (f := (·.head)) hc
    obtain ⟨line, hline, hhead⟩ := List.mem_filterMap.mp hmem
    exact ⟨line, hline, by rw [hhead]; rfl⟩
  · rintro ⟨line, hline, hname⟩
    obtain ⟨head, hhead, rfl⟩ := Option.map_eq_some_iff.mp hname
    have hmem : head ∈ t.allClasses.map (·.head) :=
      hheads ▸ List.mem_filterMap.mpr ⟨line, hline, hhead⟩
    obtain ⟨c, hc, rfl⟩ := List.mem_map.mp hmem
    exact ⟨c, hc, rfl⟩

/-- What a table does not know needs a declaration that is nowhere. -/
theorem SymbolTable.not_mem_knownTypes_iff {type : String} :
    type ∉ t.knownTypes builtinTypes ↔ IsUnknownType lines t.imports type := by
  rw [knownTypes, List.mem_append, mem_classNames, exists_class_iff hbody, isUnknownType_iff]
  simp only [not_or, not_exists, not_and, ne_eq]

end Names

/-- A type that stands where its declaration says is reported there. -/
theorem TypeUse.reportsType_diagnostic {line : Line} {u : TypeUse}
    (h : Text.HasAt line.code u.type u.offset) :
    (u.diagnostic line).ReportsType ⟨line, u.type, u.offset⟩ := by
  rw [TypeUse.diagnostic_of_hasAt h]
  obtain ⟨token, hin, htype, hoffset⟩ := h
  obtain ⟨column, hcolumn, hplace⟩ := Line.exists_column_of_in hin
  rw [hoffset, htype, Diagnostic.atOffset_of_column? hcolumn]
  refine ⟨rfl, rfl, rfl, rfl, ?_, Diagnostic.marked?_of_in hin hplace rfl rfl, rfl⟩
  show (line.codeOffset? column).map Int.ofNat = some (token.offset : Int)
  rw [hplace]
  rfl

/-- What is said of the types that lines declare, each with the line that declares it. -/
def locatedUses (lines : List Line) : List (Line × TypeUse) :=
  (linesOfKind .variableDecl lines ++ linesOfKind .functionDecl lines).flatMap fun line =>
    line.typeUses.map (line, ·)

theorem map_locatedUses (lines : List Line) :
    (locatedUses lines).map (fun x => ⟨x.1, x.2.type, x.2.offset⟩) = declaredTypes lines := by
  rw [locatedUses, declaredTypes, List.map_flatMap]
  simp only [List.map_map, Function.comp_def, Line.map_typeUses]

section Findings

variable {text : List Char} {t : SymbolTable} {file : Option String}
  (hbody : t.body = declaredBody file (Line.ofSource text))

/-- The number that is said leads back to the line. -/
theorem at?_of_mem_locatedUses {x : Line × TypeUse} (hx : x ∈ locatedUses (Line.ofSource text)) :
    Line.at? (Line.ofSource text) x.2.line = some x.1 := by
  obtain ⟨line, hline, hmem⟩ := List.mem_flatMap.mp hx
  obtain ⟨u, hu, rfl⟩ := List.mem_map.mp hmem
  have hin : line ∈ Line.ofSource text :=
    (List.mem_append.mp hline).elim List.mem_of_mem_filter List.mem_of_mem_filter
  rw [Line.line_of_mem_typeUses hu]
  exact Line.at?_ofSource hin

include hbody

theorem SymbolTable.typeUses_eq_map :
    t.typeUses = (locatedUses (Line.ofSource text)).map (·.2) := by
  rw [typeUses_eq hbody (Line.pairwise_number_ofSource text), locatedUses, List.map_flatMap]
  simp only [List.map_map, Function.comp_def, List.map_id']

theorem SymbolTable.TypesIn.hasAt (htypes : t.TypesIn (Line.ofSource text)) {x : Line × TypeUse}
    (hx : x ∈ locatedUses (Line.ofSource text)) : Text.HasAt x.1.code x.2.type x.2.offset := by
  have hmem : x.2 ∈ t.typeUses := SymbolTable.typeUses_eq_map hbody ▸ List.mem_map_of_mem hx
  -- The table has the type on a line of that number, which is this line.
  obtain ⟨other, hother, hnumber, hplace⟩ := htypes x.2 hmem
  have hat := at?_of_mem_locatedUses hx
  rw [hnumber, Line.at?_ofSource hother] at hat
  rwa [Option.some.inj hat] at hplace

/-- What is reported is what is said of the types that are not known. -/
theorem TypeCheck.diagnostics_eq : TypeCheck.diagnostics (Line.ofSource text) t =
    ((locatedUses (Line.ofSource text)).filter fun x =>
      IsUnknownType (Line.ofSource text) t.imports x.2.type).map fun x => x.2.diagnostic x.1 := by
  have hunknown : ∀ type, (!(t.knownTypes builtinTypes).contains type) =
      decide (IsUnknownType (Line.ofSource text) t.imports type) := by
    intro type
    rw [← decide_eq_decide.mpr (SymbolTable.not_mem_knownTypes_iff hbody), decide_not,
      List.contains_eq_mem]
  rw [TypeCheck.diagnostics, SymbolTable.unknownTypes, SymbolTable.typeUses_eq_map hbody,
    List.filter_map, List.filterMap_map, ← List.filterMap_eq_map]
  simp only [hunknown, Function.comp_def]
  refine List.filterMap_congr fun x hx => ?_
  rw [at?_of_mem_locatedUses (List.mem_of_mem_filter hx)]
  rfl

/-- The types of the lines of a text, as far as they are not known, are what is reported. -/
theorem TypeCheck.forall₂_diagnostics (htypes : t.TypesIn (Line.ofSource text)) :
    List.Forall₂ Diagnostic.ReportsType (TypeCheck.diagnostics (Line.ofSource text) t)
      ((declaredTypes (Line.ofSource text)).filter fun p =>
        IsUnknownType (Line.ofSource text) t.imports p.type) := by
  rw [TypeCheck.diagnostics_eq hbody, ← map_locatedUses, List.filter_map,
    List.forall₂_map_left_iff, List.forall₂_map_right_iff]
  refine List.forall₂_same.mpr fun x hx => ?_
  exact TypeUse.reportsType_diagnostic (htypes.hasAt hbody (List.mem_of_mem_filter hx))

end Findings

/-- Types that stand at different places are reported at different places. -/
theorem Diagnostic.ReportsType.places_ne {d e : Diagnostic} {p q : TypePlace}
    (hd : d.ReportsType p) (he : e.ReportsType q)
    (h : p.line.number ≠ q.line.number ∨ p.line = q.line ∧ p.offset ≠ q.offset) :
    (d.line, d.startColumn) ≠ (e.line, e.startColumn) := by
  intro heq
  obtain ⟨hnumber, hstart⟩ := Prod.mk.inj heq
  rcases h with hne | ⟨hline, hne⟩
  · apply hne
    rw [← hd.number, ← he.number, hnumber]
  · apply hne
    have hoffset := hd.place
    rw [hstart, hline, he.place] at hoffset
    exact (Option.some.inj hoffset).symm

/-- The types that the lines of a text declare and that are not known have one finding each, where
they stand, and no others are reported. No two findings are at the same place, so a type is never
reported twice. -/
theorem analyze_unknownTypes (disk : Disk) (config : Config) (file : Option String)
    (text : List Char) :
    let lines := Line.ofSource text
    let a := analyze disk config file text
    let found := ofCode .unknownType a.diagnostics
    (declaredTypes lines).Perm (lines.flatMap Line.typePlaces) ∧
    List.Forall₂ Diagnostic.ReportsType found
      ((declaredTypes lines).filter fun p => IsUnknownType lines a.table.imports p.type) ∧
    (found.map fun d => (d.line, d.startColumn)).Nodup := by
  intro lines a found
  have hfound : found = TypeCheck.diagnostics lines a.table := by
    rw [← analyze_ofCheck_types, Analysis.ofCheck]
    simp only [DiagnosticCode.check_eq_types_iff]
    rfl
  obtain ⟨owner, hbody⟩ := exists_analyze_body disk config file text
  have hreports := TypeCheck.forall₂_diagnostics hbody (analyze_typesIn disk config file text)
  rw [← hfound] at hreports
  refine ⟨perm_declaredTypes lines, hreports, ?_⟩
  have hplaces := (pairwise_declaredTypes (Line.pairwise_number_ofSource text)).filter
    fun p => IsUnknownType lines a.table.imports p.type
  have hlength := hreports.length_eq
  refine List.pairwise_map.mpr (List.pairwise_iff_getElem.mpr fun i j hi hj hij => ?_)
  have hapart := List.pairwise_iff_getElem.mp hplaces i j (hlength ▸ hi) (hlength ▸ hj) hij
  exact (hreports.get hi _).places_ne (hreports.get hj _) hapart

example : ((analyze .bare .bare none "def f(a T, b T) -> T \x7b\nvar x T".toList).diagnostics.filter
    (·.code = .unknownType)).map (fun d => (d.line, d.startColumn)) =
      [(2, 6), (1, 19), (1, 8), (1, 13)] := by
  decide +kernel

end ScriptLint
