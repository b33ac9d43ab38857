import ScriptLint.Proofs.Module.Anew
import ScriptLint.Proofs.Placement.Analysis

/-! What becomes of an include line, and the include lines in front of it. They fill the pass with
finished modules, and one that was begun on a cycle is finished without what it would have brought
in from there. So a module that a line asks for a part of has it or lacks it, whatever stands in
front, only if its own declarations decide that, or if it leads to no cycle. -/
namespace ScriptLint

/-- Whether what a module declares is enough to tell if it has what is asked for. Inner classes are
never brought in from elsewhere. -/
def Selection.SettledBy (b : Body ClassDecl) : Selection → Prop
  | .topClass name => ∃ c ∈ b.classes, c.name = name
  | .innerClass _ _ => True
  | .oneMacro name => ∃ m ∈ b.macros, m.name = name

theorem SymbolTable.topClass?_ne_none {t : SymbolTable} {file name : String}
    (h : ∃ c ∈ t.body.classes, c.name = name) : t.topClass? file name ≠ none := by
  have hsome : (t.body.classes.find? (·.name = name)).isSome := by
    simpa [List.find?_isSome] using h
  obtain ⟨c, hc⟩ := Option.isSome_iff_exists.mp hsome
  simp [topClass?, hc]

theorem SymbolTable.oneMacro?_ne_none {t : SymbolTable} {file name : String}
    (h : ∃ m ∈ t.body.macros, m.name = name) : t.oneMacro? file name ≠ none := by
  have hsome : (t.body.macros.find? (·.name = name)).isSome := by
    simpa [List.find?_isSome] using h
  obtain ⟨m, hm⟩ := Option.isSome_iff_exists.mp hsome
  simp [oneMacro?, hm]

/-- What the declarations of a module settle does not depend on what it brought in. -/
theorem Selection.SettledBy.select?_eq_none_iff {t t' : SymbolTable} {selection : Selection}
    (h : selection.SettledBy t.body) (hbody : t'.body = t.body) (file : String) :
    t'.select? file selection = none ↔ t.select? file selection = none := by
  cases selection with
  | topClass name =>
    have h' : ∃ c ∈ t'.body.classes, c.name = name := by rwa [hbody]
    exact iff_of_false (SymbolTable.topClass?_ne_none h') (SymbolTable.topClass?_ne_none h)
  | innerClass parent name =>
    rw [SymbolTable.select?, SymbolTable.select?, SymbolTable.innerClass?,
      SymbolTable.innerClass?, hbody]
  | oneMacro name =>
    have h' : ∃ m ∈ t'.body.macros, m.name = name := by rwa [hbody]
    exact iff_of_false (SymbolTable.oneMacro?_ne_none h') (SymbolTable.oneMacro?_ne_none h)

namespace ModuleReply

/-- The answer for a module is an outline that lacks what is asked for. -/
def Lacks (reply : ModuleReply) (r : Resolution) (selection : Selection) : Prop :=
  ∃ o, reply = .outline o ∧ o.table.select? r.file.toText selection = none

/-- What is found on an include line that gets the answer. -/
def findings (reply : ModuleReply) (line : Line) (path : Text.Token) (r : Resolution) :
    List Diagnostic :=
  (({ state := () } : Draft Unit).takeReply line path r reply).diagnostics

variable {line : Line} {path : Text.Token} {r : Resolution} {selection : Selection}

theorem line_of_mem_findings {reply : ModuleReply} {found : Diagnostic} (hpath : path.In line.code)
    (h : found ∈ reply.findings line path r) : found.line = line.number := by
  obtain ⟨added, hadded, hfits⟩ := Draft.adds_takeReply hpath ({ state := () } : Draft Unit) r reply
  rw [findings, hadded] at h
  exact (hfits found h).number

/-- In the text itself an answer adds only that the module lacks what is asked for. -/
theorem exists_missing_iff_lacks (reply : ModuleReply) (hselection : r.selection = some selection) :
    (∃ found ∈ reply.findings line path r,
      found.source = ownSource ∧ found.code = .symbolNotFoundInInclude) ↔
      reply.Lacks r selection := by
  have hlibrary : librarySource ≠ ownSource := by decide
  cases reply with
  | unreadable e =>
    refine iff_of_false ?_ (by simp [Lacks])
    rintro ⟨found, hmem, hsource, -⟩
    rw [List.mem_singleton.mp hmem] at hsource
    exact hlibrary hsource
  | inProgress => simp [findings, Draft.takeReply, Lacks]
  | outline o =>
    have hnot : ∀ found ∈ o.diagnostics.map (libraryDiagnostic line path r.file.toText),
        found.source ≠ ownSource := by
      intro found hmem
      obtain ⟨inner, -, rfl⟩ := List.mem_map.mp hmem
      exact hlibrary
    change (∃ found ∈ (({ state := () } : Draft Unit).takeOver line path r o).diagnostics, _) ↔ _
    rw [Draft.takeOver, hselection]
    dsimp only
    cases hgiven : o.table.select? r.file.toText selection with
    | none =>
      refine iff_of_true ⟨missingSymbol line path r selection, ?_, ?_⟩ ⟨o, rfl, hgiven⟩
      · exact List.mem_append_right _ (List.mem_singleton_self _)
      · exact ⟨Diagnostic.atOffset_source .., Diagnostic.atOffset_code ..⟩
    | some given =>
      refine iff_of_false ?_ (by simp [Lacks, hgiven])
      rintro ⟨found, hmem, hsource, -⟩
      exact hnot found (by simpa using hmem) hsource

end ModuleReply

namespace Draft

variable {State : Type} {line : Line} {path : Text.Token} {r : Resolution} {found : Diagnostic}

/-- What an answer adds does not depend on the draft. -/
theorem takeReply_diagnostics (d : Draft State) (reply : ModuleReply) :
    (d.takeReply line path r reply).diagnostics =
      d.diagnostics ++ reply.findings line path r := by
  cases reply with
  | unreadable e => rfl
  | inProgress => exact (List.append_nil _).symm
  | outline o =>
    change (d.takeOver line path r o).diagnostics =
      d.diagnostics ++ (Draft.takeOver ({ state := () } : Draft Unit) line path r o).diagnostics
    unfold takeOver
    cases r.selection with
    | none => simp
    | some selection =>
      dsimp only
      cases o.table.select? r.file.toText selection <;> simp

variable (search : ModuleSearch) (disk : Disk) (load : Path → State → ModuleReply × State)
  (origin : Origin)

/-- On an include line, all findings but those about braces come from the answer for the module. -/
theorem mem_readLine_iff_of_code (d : Draft State) (hb : line.isBlank = false)
    (hs : Statement.ofText line.code = .inclusion path)
    (hr : search.resolve? disk origin.directory path.text = some r)
    (hcode : found.code ≠ .unbalancedBraces) :
    found ∈ (d.readLine search disk load origin line).diagnostics ↔
      found ∈ d.diagnostics ∨ found ∈ (load r.file d.state).1.findings line path r := by
  have hbrace : found ∉ if (matchBraces d.unclosed line).2 then [excessBrace line] else [] := by
    split
    · rintro hmem
      rw [List.mem_singleton.mp hmem] at hcode
      exact hcode rfl
    · exact List.not_mem_nil
  rw [readLine_of_inclusion d search disk load origin hb hs,
    followInclude_of_eq_some _ search disk load hr, settle_state, takeReply_diagnostics,
    List.mem_append]
  change found ∈ (d.settle origin.file line).diagnostics ∨ _ ↔ _
  rw [settle_diagnostics, List.mem_append, or_iff_left hbrace]

/-- Nothing that was found is taken back. -/
theorem mem_readLines_of_mem (lines : List Line) (d : Draft State) (h : found ∈ d.diagnostics) :
    found ∈ (lines.foldl (readLine search disk load origin) d).diagnostics := by
  induction lines generalizing d with
  | nil => exact h
  | cons line lines ih =>
    obtain ⟨added, hadded, _⟩ := adds_readLine search disk load origin d line
    refine ih _ ?_
    rw [hadded]
    exact List.mem_append_left _ h

end Draft

/-- What an outline finds on an include line comes from the answer that the line gets, unless it is
about braces. The other lines have other numbers. -/
theorem Outline.mem_diagnostics_iff {State : Type} (search : ModuleSearch) (disk : Disk)
    (load : Path → State → ModuleReply × State) (origin : Origin) (state : State)
    {before after : List Line} {line : Line} {path : Text.Token} {r : Resolution}
    (hnumbers : (before ++ line :: after).Pairwise (·.number < ·.number))
    (hb : line.isBlank = false) (hs : Statement.ofText line.code = .inclusion path)
    (hr : search.resolve? disk origin.directory path.text = some r) {found : Diagnostic}
    (hcode : found.code ≠ .unbalancedBraces) :
    (found ∈ (Outline.ofLines search disk load origin (before ++ line :: after)
        state).1.diagnostics ∧ found.line = line.number) ↔
      found ∈ (load r.file (before.foldl (Draft.readLine search disk load origin)
        { state := state }).state).1.findings line path r := by
  let front := before.foldl (Draft.readLine search disk load origin) { state := state }
  have hline : found ∈ (front.readLine search disk load origin line).diagnostics ↔
      found ∈ front.diagnostics ∨ found ∈ (load r.file front.state).1.findings line path r :=
    Draft.mem_readLine_iff_of_code search disk load origin front hb hs hr hcode
  have hpath : path.In line.code := by
    have htokens := Statement.tokensIn_ofText line.code
    rwa [hs] at htokens
  rw [Outline.ofLines, Draft.finish_diagnostics, List.foldl_append, List.foldl_cons]
  obtain ⟨_, hafter, hcross⟩ := List.pairwise_append.mp hnumbers
  obtain ⟨hbehind, _⟩ := List.pairwise_cons.mp hafter
  constructor
  · rintro ⟨hmem, hnumber⟩
    have hread : found ∈ (after.foldl (Draft.readLine search disk load origin)
        (front.readLine search disk load origin line)).diagnostics := by
      refine (List.mem_append.mp hmem).resolve_right fun hbrace => ?_
      obtain ⟨later, -, n, -, rfl⟩ := exists_of_mem_unclosedDiagnostics hbrace
      exact hcode rfl
    -- What fits another line has the number of that line.
    rcases Draft.readLines_fit search disk load origin after _ found hread with
      hhere | ⟨later, hlater, hfits⟩
    · rcases hline.mp hhere with hfront | hreply
      · rcases Draft.readLines_fit search disk load origin before _ found hfront with
          hnone | ⟨earlier, hearlier, hfits⟩
        · exact (List.not_mem_nil hnone).elim
        · have hlt := hcross earlier hearlier line List.mem_cons_self
          have heq := hfits.number
          omega
      · exact hreply
    · have hlt := hbehind later hlater
      have heq := hfits.number
      omega
  · intro hreply
    refine ⟨List.mem_append_left _ ?_, ModuleReply.line_of_mem_findings hpath hreply⟩
    exact Draft.mem_readLines_of_mem search disk load origin after _ (hline.mpr (Or.inr hreply))

namespace ModuleSource

variable {s : ModuleSource}

/-- The outline of the text says on the line of the given number, in the text itself or as found in
a library, that a module lacks what is asked for. -/
def ReportsMissing (s : ModuleSource) (file : Option String) (lines : List Line) (number : Int)
    (source : String) : Prop :=
  ∃ found ∈ (s.outline true file lines {}).1.diagnostics,
    found.line = number ∧ found.source = source ∧ found.code = .symbolNotFoundInInclude

/-- What is known behind some lines of a text, when only the text itself is in progress. -/
theorem faithful_readLines (isRoot : Bool) (file : Option String) (before : List Line) :
    s.Faithful (s.rootProgress file) (s.rootProgress file)
      (before.foldl (Draft.readLine s.search s.disk s.answer (s.rootOrigin isRoot file))
        { state := s.rootPass file }).state := by
  refine Draft.readLines_keeps (fun r _ known hknown => ?_) (faithful_rootPass file)
  exact (answersAnew (List.Subset.refl _) r.file known hknown fun p hp => Or.inl hp).2

/-- An include line reports what the answer lacks that it gets behind the lines in front of it. This
is a faithful answer, whatever these lines are. -/
theorem exists_answersAnew {file : Option String} {before after : List Line} {line : Line}
    {path : Text.Token} {r : Resolution} (source : String)
    (hnumbers : (before ++ line :: after).Pairwise (·.number < ·.number))
    (hb : line.isBlank = false) (hs : Statement.ofText line.code = .inclusion path)
    (hr : s.search.resolve? s.disk (s.rootDirectory file).toText path.text = some r) :
    ∃ reply, s.AnswersAnew (s.rootProgress file) (s.rootProgress file) r.file reply ∧
      (s.ReportsMissing file (before ++ line :: after) line.number source ↔
        ∃ found ∈ reply.findings line path r,
          found.source = source ∧ found.code = .symbolNotFoundInInclude) := by
  let known := (before.foldl (Draft.readLine s.search s.disk s.answer (s.rootOrigin true file))
    { state := s.rootPass file }).state
  have hanswer := answersAnew (List.Subset.refl _) r.file known
    (faithful_readLines true file before) fun p hp => Or.inl hp
  refine ⟨(s.answer r.file known).1, hanswer.1, ?_⟩
  have hmem : ∀ found : Diagnostic, found.code = .symbolNotFoundInInclude →
      ((found ∈ (s.outline true file (before ++ line :: after) {}).1.diagnostics ∧
        found.line = line.number) ↔ found ∈ (s.answer r.file known).1.findings line path r) := by
    intro found hcode
    have hbraces : found.code ≠ .unbalancedBraces := by
      rw [hcode]
      decide
    rw [outline_eq_rootPass]
    exact Outline.mem_diagnostics_iff s.search s.disk s.answer (s.rootOrigin true file)
      (s.rootPass file) hnumbers hb hs hr hbraces
  constructor
  · rintro ⟨found, hfound, hnumber, hsource, hcode⟩
    exact ⟨found, (hmem found hcode).mp ⟨hfound, hnumber⟩, hsource, hcode⟩
  · rintro ⟨found, hfound, hsource, hcode⟩
    obtain ⟨hfound, hnumber⟩ := (hmem found hcode).mpr hfound
    exact ⟨found, hfound, hnumber, hsource, hcode⟩

/-- Two faithful answers lack the same if the declarations of the module settle that. -/
theorem AnswersAnew.lacks_iff {barred inProgress : List Path} {r : Resolution}
    {selection : Selection} {reply reply' : ModuleReply} {moduleLines : List Line}
    (h : s.AnswersAnew barred inProgress r.file reply)
    (h' : s.AnswersAnew barred inProgress r.file reply')
    (hlines : s.moduleLines? r.file = some moduleLines)
    (hsettled : selection.SettledBy (declaredBody (some r.file.toText) moduleLines)) :
    reply.Lacks r selection ↔ reply'.Lacks r selection := by
  by_cases hin : r.file ∈ inProgress
  · rw [h.waits hin, h'.waits hin]
  · obtain ⟨o, rfl, hbody⟩ := h.outline hin moduleLines hlines
    obtain ⟨o', rfl, hbody'⟩ := h'.outline hin moduleLines hlines
    rw [← hbody] at hsettled
    have hsame := hsettled.select?_eq_none_iff (hbody'.trans hbody.symm) r.file.toText
    simp [ModuleReply.Lacks, hsame]

/-- Whether an include line for a part of a module is told that the module lacks it does not depend
on the lines in front of it, if the declarations of the module settle that, or if it leads to no
cycle but over the text itself. In the latter case this also goes for what is found in a library. -/
theorem reportsMissing_iff_of_sublist {file : Option String} {text : List Char}
    {before before' after : List Line} {line : Line} {r : Resolution} {selection : Selection}
    {moduleLines : List Line} {source : String}
    (hlines : Line.ofSource text = before ++ line :: after) (hsub : before'.Sublist before)
    (hr : line.resolution? s.search s.disk (s.rootDirectory file).toText = some r)
    (hselection : r.selection = some selection) (hread : s.moduleLines? r.file = some moduleLines)
    (hsettled : source = ownSource ∧
        selection.SettledBy (declaredBody (some r.file.toText) moduleLines) ∨
      s.CycleFree (s.rootProgress file) r.file) :
    s.ReportsMissing file (before ++ line :: after) line.number source ↔
      s.ReportsMissing file (before' ++ line :: after) line.number source := by
  have hnumbers : (before ++ line :: after).Pairwise (·.number < ·.number) :=
    hlines ▸ Line.pairwise_number_ofSource text
  have hnumbers' : (before' ++ line :: after).Pairwise (·.number < ·.number) :=
    hnumbers.sublist (hsub.append_right _)
  obtain ⟨path, hb, hs, hresolve⟩ := Line.exists_of_resolution?_eq_some hr
  obtain ⟨reply, hanswer, hreports⟩ := exists_answersAnew source hnumbers hb hs hresolve
  obtain ⟨reply', hanswer', hreports'⟩ := exists_answersAnew source hnumbers' hb hs hresolve
  rw [hreports, hreports']
  rcases hsettled with ⟨rfl, hsettled⟩ | hfree
  · rw [ModuleReply.exists_missing_iff_lacks reply hselection,
      ModuleReply.exists_missing_iff_lacks reply' hselection]
    exact hanswer.lacks_iff hanswer' hread hsettled
  · -- Both answers are the one that reading the module anew gives.
    rw [hanswer.anew hfree, hanswer'.anew hfree]

/-- A line that asks a module for a class that comes from a third module. -/
def passedOnLine : Line := ⟨2, "include a.C".toList, false⟩

theorem reportsMissing_sharedModule :
    ∃ r moduleLines,
      (Line.ofSource "include b\ninclude a.C".toList =
          [⟨1, "include b".toList, false⟩] ++ passedOnLine :: [] ∧
        passedOnLine.resolution? sharedModule.search sharedModule.disk
          (sharedModule.rootDirectory (some "main.pgy")).toText = some r ∧
        r.selection = some (.topClass "C") ∧ sharedModule.moduleLines? r.file = some moduleLines ∧
        sharedModule.CycleFree (sharedModule.rootProgress (some "main.pgy")) r.file) ∧
      (sharedModule.ReportsMissing (some "main.pgy")
          ([⟨1, "include b".toList, false⟩] ++ passedOnLine :: []) passedOnLine.number
          librarySource ↔
        sharedModule.ReportsMissing (some "main.pgy")
          ([] ++ passedOnLine :: []) passedOnLine.number librarySource) := by
  have hlines : Line.ofSource "include b\ninclude a.C".toList =
      [⟨1, "include b".toList, false⟩] ++ passedOnLine :: [] := by rfl
  have hask : ((passedOnLine.resolution? sharedModule.search sharedModule.disk
      (sharedModule.rootDirectory (some "main.pgy")).toText).any fun r =>
        r.selection = some (.topClass "C") ∧ (sharedModule.moduleLines? r.file).isSome) = true := by
    decide +kernel
  obtain ⟨r, hr, hboth⟩ := (Option.any_eq_true _ _).mp hask
  obtain ⟨hselection, hsome⟩ := of_decide_eq_true hboth
  obtain ⟨moduleLines, hread⟩ := Option.isSome_iff_exists.mp hsome
  have hfree : sharedModule.CycleFree (sharedModule.rootProgress (some "main.pgy")) r.file :=
    cycleFree_of_rank sharedRank (fun _ _ h => sharedRank_lt h) r.file
  exact ⟨r, moduleLines, ⟨hlines, hr, hselection, hread, hfree⟩,
    reportsMissing_iff_of_sublist hlines (List.nil_sublist _) hr hselection hread (Or.inr hfree)⟩

/-- A text that includes one of two modules that include each other, and then from the other one the
class that comes from the first. -/
def mutualLines : List Line :=
  Line.ofSource "include a\ninclude b.A".toList

/-- The first include line enters the cycle at one module, and the other is finished without what it
would have brought in; without that line it has the class. -/
theorem reportsMissing_mutualModules :
    (∃ line ∈ mutualLines[1]?, ∃ r ∈ line.resolution? mutualModules.search mutualModules.disk
        (mutualModules.rootDirectory (some "main.pgy")).toText,
      r.selection = some (.topClass "A") ∧ (mutualModules.moduleLines? r.file).isSome) ∧
    mutualModules.ReportsMissing (some "main.pgy") mutualLines 2 ownSource ∧
    ¬mutualModules.ReportsMissing (some "main.pgy") (mutualLines.drop 1) 2 ownSource := by
  unfold ReportsMissing
  decide +kernel

end ModuleSource

end ScriptLint
