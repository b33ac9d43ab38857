import ScriptLint.Proofs.Analysis.Parts
import ScriptLint.Proofs.Module.Reach
import ScriptLint.Proofs.Outline.Levels
import ScriptLint.Proofs.Outline.Unclosed
import ScriptLint.Proofs.Placement.References

/-! Everything that an analysis finds lies on a line of the source and within it. The outline adds
to its findings line by line, each time with a place on the line that is read; the types that a
table declares stand where their lines say; and the uses of names are looked for in the lines
themselves. So the fallback to a whole line is never taken. -/
namespace ScriptLint

namespace Draft

variable {State : Type}

/-- What the later draft has found in addition fits the line. -/
def Adds (d : Draft State) (line : Line) (later : Draft State) : Prop :=
  ∃ found, later.diagnostics = d.diagnostics ++ found ∧ FitLine found line

variable {d e f : Draft State} {line : Line}

theorem Adds.of_eq (h : e.diagnostics = d.diagnostics) : d.Adds line e :=
  ⟨[], by rw [h, List.append_nil], fitLine_nil⟩

theorem Adds.trans (h : d.Adds line e) (h' : e.Adds line f) : d.Adds line f := by
  obtain ⟨found, hfound, hfits⟩ := h
  obtain ⟨found', hfound', hfits'⟩ := h'
  exact ⟨found ++ found', by rw [hfound', hfound, List.append_assoc], fitLine_append hfits hfits'⟩

theorem adds_report {found : List Diagnostic} (h : FitLine found line) :
    d.Adds line (d.report found) :=
  ⟨found, rfl, h⟩

theorem adds_settle (d : Draft State) (file : Option String) :
    d.Adds line (d.settle file line) := by
  refine ⟨_, settle_diagnostics d file line, ?_⟩
  split
  · exact fitLine_singleton fits_excessBrace
  · exact fitLine_nil

section Includes

variable {path : Text.Token} (hpath : path.In line.code)
include hpath

theorem adds_takeReply (d : Draft State) (r : Resolution) (reply : ModuleReply) :
    d.Adds line (d.takeReply line path r reply) := by
  cases reply with
  | unreadable error => exact adds_report (fitLine_singleton (fits_unreadableModule hpath _ _))
  | inProgress => exact .of_eq rfl
  | outline o =>
    -- What was found in the module is placed anew, on the path of the include line.
    have hlibrary : FitLine
        (o.diagnostics.map (libraryDiagnostic line path r.file.toText)) line := by
      intro found hfound
      obtain ⟨inner, -, rfl⟩ := List.mem_map.mp hfound
      exact fits_libraryDiagnostic hpath _ _
    have htaken : d.Adds line (d.report (o.diagnostics.map
        (libraryDiagnostic line path r.file.toText))) := adds_report hlibrary
    change d.Adds line (d.takeOver line path r o)
    unfold takeOver
    cases r.selection with
    | none => exact htaken.trans (.of_eq rfl)
    | some selection =>
      dsimp only
      cases o.table.select? r.file.toText selection with
      | none => exact htaken.trans (adds_report (fitLine_singleton (fits_missingSymbol hpath _ _)))
      | some given => exact htaken.trans (.of_eq rfl)

theorem adds_followInclude (d : Draft State) (search : ModuleSearch) (disk : Disk)
    (load : Path → State → ModuleReply × State) (directory : String) :
    d.Adds line (d.followInclude search disk load directory line path) := by
  cases hresolve : search.resolve? disk directory path.text with
  | none =>
    rw [followInclude_of_eq_none d search disk load hresolve]
    exact adds_report (fitLine_singleton (fits_unresolvedInclude hpath search))
  | some r =>
    rw [followInclude_of_eq_some d search disk load hresolve]
    exact Adds.trans (.of_eq rfl) (adds_takeReply hpath _ r _)

end Includes

variable (search : ModuleSearch) (disk : Disk) (load : Path → State → ModuleReply × State)
  (origin : Origin)

/-- What is found while a line is read fits that line. -/
theorem adds_readLine (d : Draft State) (line : Line) :
    d.Adds line (d.readLine search disk load origin line) := by
  have htokens := Statement.tokensIn_ofText line.code
  rcases line.isBlank_or_inclusion_or with hblank | ⟨hblank, ⟨path, hs⟩ | hs⟩
  · rw [readLine_of_isBlank d search disk load origin hblank]
    exact .of_eq rfl
  · rw [readLine_of_inclusion d search disk load origin hblank hs]
    rw [hs] at htokens
    exact (adds_settle d origin.file).trans (adds_followInclude htokens _ search disk load _)
  · rw [readLine_of_ne_inclusion d search disk load origin hblank hs]
    refine (adds_settle d origin.file).trans ((Adds.of_eq (declare_diagnostics ..)).trans
      (adds_report (fitLine_append (fitLine_malformedDiagnostics _) ?_)))
    split
    · exact fitLine_headDiagnostics htokens
    · exact fitLine_nil

theorem readLines_fit (lines : List Line) (d : Draft State) :
    ∀ found ∈ (lines.foldl (readLine search disk load origin) d).diagnostics,
      found ∈ d.diagnostics ∨ ∃ line ∈ lines, found.Fits line := by
  induction lines generalizing d with
  | nil => exact fun found h => Or.inl h
  | cons line lines ih =>
    intro found hfound
    -- A finding comes from a later line, or from this one, or it was there before.
    rcases ih _ found hfound with hnext | ⟨later, hlater, hfits⟩
    · obtain ⟨added, hadded, hfit⟩ := adds_readLine search disk load origin d line
      rw [hadded] at hnext
      rcases List.mem_append.mp hnext with hold | hnew
      · exact Or.inl hold
      · exact Or.inr ⟨line, List.mem_cons_self, hfit found hnew⟩
    · exact Or.inr ⟨later, List.mem_cons_of_mem _ hlater, hfits⟩

end Draft

/-- Each finding of an outline fits one of its lines, wherever its modules come from. -/
theorem Outline.ofLines_fit {State : Type} (search : ModuleSearch) (disk : Disk)
    (load : Path → State → ModuleReply × State) (origin : Origin) {lines : List Line}
    (h : Line.Numbered lines) (state : State) :
    ∀ found ∈ (Outline.ofLines search disk load origin lines state).1.diagnostics,
      ∃ line ∈ lines, found.Fits line := by
  intro found hfound
  rw [Outline.ofLines, Draft.finish_diagnostics,
    h.unclosedDiagnostics_readLines search disk load origin state] at hfound
  rcases List.mem_append.mp hfound with hread | hbrace
  · rcases Draft.readLines_fit search disk load origin lines _ found hread with hnone | hfits
    · exact (List.not_mem_nil hnone).elim
    · exact hfits
  · obtain ⟨line, hline, rfl⟩ := List.mem_map.mp hbrace
    exact ⟨line, (List.mem_filter.mp hline).1, fits_unclosedBrace⟩

/-- The types that a table declares stand in lines of the given text. -/
def SymbolTable.TypesIn (t : SymbolTable) (lines : List Line) : Prop :=
  ∀ u ∈ t.typeUses, ∃ line ∈ lines, u.line = line.number ∧ Text.HasAt line.code u.type u.offset

/-- The types that an outline declares stand where their declarations were read. -/
theorem Outline.typesIn_ofLines {State : Type} (search : ModuleSearch) (disk : Disk)
    (load : Path → State → ModuleReply × State) (origin : Origin) (lines : List Line)
    (state : State) :
    (Outline.ofLines search disk load origin lines state).1.table.TypesIn lines := by
  have hlevels : ∀ level ∈ (declaredBody origin.file lines).levels, level.Satisfies
      (fun f => ∀ u ∈ f.typeUses, ∃ line ∈ lines, u.line = line.number ∧
        Text.HasAt line.code u.type u.offset)
      (fun v => ∃ line ∈ lines, v.line = line.number ∧
        Text.HasAt line.code v.type v.typeOffset) := by
    refine satisfies_declaredBody fun line hline _ => ?_
    have htokens := Statement.tokensIn_ofText line.code
    refine ⟨fun head scope hs u hu => ?_, fun access name type scope hs => ?_⟩
    · rw [hs] at htokens
      refine ⟨line, hline, ?_⟩
      rcases List.mem_cons.mp hu with rfl | hu
      · exact ⟨rfl, head.returnType, htokens.returnType, rfl, rfl⟩
      · obtain ⟨p, hp, rfl⟩ := List.mem_map.mp hu
        exact ⟨rfl, htokens.params p hp⟩
    · rw [hs] at htokens
      exact ⟨line, hline, rfl, type, htokens.2.2, rfl, rfl⟩
  -- Only the inclusions of the read outline are filled in: its declarations are the body's.
  rw [← Outline.ofLines_body search disk load origin lines state] at hlevels
  intro u hu
  rcases List.mem_append.mp hu with hvar | hfunction
  · obtain ⟨v, hv, rfl⟩ := List.mem_map.mp hvar
    obtain ⟨level, hlevel, hv⟩ := List.mem_flatMap.mp (List.mem_mergeSort.mp hv)
    exact (hlevels level hlevel).vars v hv
  · obtain ⟨f, hf, hu⟩ := List.mem_flatMap.mp hfunction
    obtain ⟨level, hlevel, hf⟩ := List.mem_flatMap.mp (List.mem_mergeSort.mp hf)
    exact (hlevels level hlevel).functions f hf u hu

/-- The table of an analysis declares what the lines of the text do. -/
theorem exists_analyze_body (disk : Disk) (config : Config) (file : Option String)
    (text : List Char) :
    ∃ owner, (analyze disk config file text).table.body =
      declaredBody owner (Line.ofSource text) := by
  rw [analyze_table, ModuleSource.outline_eq]
  exact ⟨_, Outline.ofLines_body _ _ _ _ _ _⟩

theorem analyze_typesIn (disk : Disk) (config : Config) (file : Option String)
    (text : List Char) : (analyze disk config file text).table.TypesIn (Line.ofSource text) := by
  have houtline := congrArg Prod.fst
    (ModuleSource.outline_eq (s := config.modules disk) true file (Line.ofSource text) {})
  rw [analyze_table, houtline]
  exact Outline.typesIn_ofLines _ _ _ _ _ _

theorem TypeCheck.diagnostics_fit {text : List Char} {t : SymbolTable}
    (h : t.TypesIn (Line.ofSource text)) :
    ∀ found ∈ TypeCheck.diagnostics (Line.ofSource text) t,
      ∃ line ∈ Line.ofSource text, found.Fits line := by
  intro found hfound
  obtain ⟨u, hu, hsome⟩ := List.mem_filterMap.mp hfound
  obtain ⟨line, hline, hnumber, hplace⟩ := h u (List.mem_filter.mp hu).1
  rw [hnumber, Line.at?_ofSource hline] at hsome
  cases hsome
  exact ⟨line, hline, TypeUse.fits_diagnostic hplace⟩

theorem References.diagnostics_fit (lines : List Line) (t : SymbolTable) :
    ∀ found ∈ References.diagnostics lines t, ∃ line ∈ lines, found.Fits line := by
  have hpass : ∀ {find : Line → List Diagnostic}, (∀ line, FitLine (find line) line) →
      ∀ found ∈ (lines.filter fun line => !line.isBlank).flatMap find,
        ∃ line ∈ lines, found.Fits line := by
    intro find hfind found hfound
    obtain ⟨line, hline, hmem⟩ := List.mem_flatMap.mp hfound
    exact ⟨line, (List.mem_filter.mp hline).1, hfind line found hmem⟩
  intro found hfound
  rcases List.mem_append.mp hfound with hfound | hcall
  · rcases List.mem_append.mp hfound with hmacro | hword
    · exact hpass (fun _ => fitLine_macroDiagnostics t) found hmacro
    · exact hpass (fun _ => fitLine_lineWordDiagnostics t _) found hword
  · exact hpass (fun _ => fitLine_lineCallDiagnostics t) found hcall

/-- The finding has its place in the text: a line of it, and columns within that line. It takes the
line as a whole exactly if it is of the kind that does, so never as a fallback. -/
structure Diagnostic.InSource (d : Diagnostic) (text : List Char) : Prop where
  line_pos : 1 ≤ d.line
  line_le : d.line ≤ (Text.sourceLines text).length
  start_nonneg : 0 ≤ d.startColumn
  start_le : d.startColumn ≤ d.endColumn
  end_le : ∀ line ∈ (Text.sourceLines text)[d.line.toNat - 1]?, d.endColumn ≤ line.length
  wholeLine_iff : d.wholeLine = true ↔ d.source = ownSource ∧ d.code ∈ lineCodes

theorem Diagnostic.Fits.inSource {d : Diagnostic} {line : Line} {text : List Char}
    (h : d.Fits line) (hline : line ∈ Line.ofSource text) : d.InSource text := by
  obtain ⟨i, hi⟩ := List.mem_iff_getElem?.mp hline
  obtain ⟨hnumber, htext⟩ := Line.getElem?_ofSource hi
  have hlt : i < (Text.sourceLines text).length := (List.getElem?_eq_some_iff.mp htext).1
  -- Numbers of lines start at 1 and indices at 0.
  have hindex : d.line.toNat - 1 = i := by
    have := h.number
    omega
  refine ⟨?_, ?_, h.start_nonneg, h.start_le, ?_, h.wholeLine_iff⟩
  · have := h.number
    omega
  · have := h.number
    omega
  · intro written hwritten
    rw [hindex, htext] at hwritten
    cases hwritten
    exact h.end_le

theorem Outline.inSource_ofLines {State : Type} (search : ModuleSearch) (disk : Disk)
    (load : Path → State → ModuleReply × State) (origin : Origin) (text : List Char)
    (state : State) :
    ∀ d ∈ (Outline.ofLines search disk load origin (Line.ofSource text) state).1.diagnostics,
      d.InSource text := by
  intro d hd
  obtain ⟨line, hline, hfits⟩ :=
    Outline.ofLines_fit search disk load origin (Line.numbered_ofSource text) state d hd
  exact hfits.inSource hline

/-- Every finding of an analysis is in the source, and so is every finding of an outline that is
drawn up on the way, the text being that of the analysis or of a module. -/
theorem analyze_inSource (disk : Disk) (config : Config) :
    (∀ file text, ∀ d ∈ (analyze disk config file text).diagnostics, d.InSource text) ∧
    (∀ load : Path → Pass → ModuleReply × Pass, ∀ origin text pass,
      ∀ d ∈ (Outline.ofLines (config.modules disk).search disk load origin (Line.ofSource text)
        pass).1.diagnostics, d.InSource text) := by
  refine ⟨fun file text d hd => ?_, Outline.inSource_ofLines _ _⟩
  have houtline := congrArg Prod.fst
    (ModuleSource.outline_eq (s := config.modules disk) true file (Line.ofSource text) {})
  have htypes := analyze_typesIn disk config file text
  rw [analyze_diagnostics] at hd
  rcases List.mem_append.mp hd with hd | huse
  · rcases List.mem_append.mp hd with hread | htype
    · rw [houtline] at hread
      exact Outline.inSource_ofLines _ _ _ _ _ _ d hread
    · obtain ⟨line, hline, hfits⟩ := TypeCheck.diagnostics_fit htypes d htype
      exact hfits.inSource hline
  · obtain ⟨line, hline, hfits⟩ := References.diagnostics_fit _ _ d huse
    exact hfits.inSource hline

/-- A type behind a comment is found at its column in the line as written. -/
theorem analyze_inSource_commented :
    ∃ d ∈ (analyze .bare .bare none "/* one */var x Widget".toList).diagnostics,
      (d.startColumn, d.endColumn) = (15, 21) ∧ d.InSource "/* one */var x Widget".toList := by
  have hplaces : (analyze .bare .bare none "/* one */var x Widget".toList).diagnostics.map
      (fun d => (d.startColumn, d.endColumn)) = [(15, 21)] := by
    decide +kernel
  obtain ⟨d, hd, hplace⟩ := List.mem_map.mp (hplaces ▸ List.mem_singleton_self (15, 21))
  exact ⟨d, hd, hplace, (analyze_inSource .bare .bare).1 none _ d hd⟩

end ScriptLint
