import ScriptLint.Proofs.Literals.Findings
import ScriptLint.Proofs.Placement.Analysis
import ScriptLint.Proofs.Text.Pieces

/-! Literals and the analysis. Two texts whose lines differ between quotes, and there only where no
check looks, have one and the same analysis. Where a check does look at what a literal holds, a
single letter of it can be what a finding hangs on. -/
namespace ScriptLint

/-- The lines differ in ordinary characters of literals, if at all, and these literals do not take
part in what is read of a line as it is. -/
def Line.Interchangeable (a b : Line) : Prop :=
  a.SameOutside b ∧ (a.text ≠ b.text → a.Inert b)

namespace Line

theorem lineFeed_notMem {text : List Char} {line : Line} (h : line ∈ ofSource text) :
    '\n' ∉ line.text := by
  obtain ⟨i, hi⟩ := List.mem_iff_getElem?.mp h
  exact Text.sep_notMem_of_mem_pieces (List.mem_of_getElem? (getElem?_ofSource hi).2)

theorem Twin.agree_of_text_eq {a b : Line} (h : a.Twin b) (htext : a.text = b.text) :
    a.Agree b := by
  obtain ⟨n, text, inComment⟩ := a
  obtain ⟨_, _, _⟩ := b
  obtain rfl : n = _ := h.number
  obtain rfl : text = _ := htext
  obtain rfl : inComment = _ := h.start
  exact {
    twin := h
    isBlank := rfl
    mask := rfl
    maskContents := rfl
    statement := rfl
    declares := rfl
    opens := fun _ => rfl
    body := fun _ => ⟨Iff.rfl, rfl⟩
    region := ⟨rfl, rfl, rfl⟩ }

theorem forall₂_agree_ofSource {text text' : List Char}
    (h : List.Forall₂ Interchangeable (ofSource text) (ofSource text')) :
    List.Forall₂ Agree (ofSource text) (ofSource text') := by
  have htwin := forall₂_twin_ofSource (h.imp fun a b hab => hab.1)
  refine List.forall₂_iff_zip.mpr ⟨h.length_eq, fun {a b} hmem => ?_⟩
  obtain ⟨ha, hb⟩ := List.of_mem_zip hmem
  have hab := List.forall₂_zip htwin hmem
  by_cases htext : a.text = b.text
  · exact hab.agree_of_text_eq htext
  · have hinert := (List.forall₂_zip h hmem).2 htext
    exact hab.agree hinert (lineFeed_notMem ha) (lineFeed_notMem hb)

end Line

section Agree

variable {State : Type} {lines lines' : List Line} (h : List.Forall₂ Line.Agree lines lines')
include h

theorem Draft.readLines_of_agree (search : ModuleSearch) (disk : Disk)
    (load : Path → State → ModuleReply × State) (origin : Origin) (d : Draft State) :
    lines.foldl (readLine search disk load origin) d =
      lines'.foldl (readLine search disk load origin) d := by
  induction h generalizing d with
  | nil => rfl
  | cons hab _ ih => rw [List.foldl_cons, List.foldl_cons, readLine_of_agree hab, ih]

theorem Draft.finish_of_agree (origin : Origin) (d : Draft State) :
    d.finish origin lines = d.finish origin lines' := by
  have hbraces : (unclosedDiagnostics lines d.unclosed).map id =
      (unclosedDiagnostics lines' d.unclosed).map id := by
    refine map_unclosedDiagnostics_eq h fun n a b hab => ?_
    have hbrace : unclosedBrace a = unclosedBrace b := hab.onLine _ _
    rw [hbrace]
  rw [List.map_id, List.map_id] at hbraces
  exact finish_congr origin d hbraces

theorem Outline.ofLines_of_agree (search : ModuleSearch) (disk : Disk)
    (load : Path → State → ModuleReply × State) (origin : Origin) (state : State) :
    Outline.ofLines search disk load origin lines state =
      Outline.ofLines search disk load origin lines' state := by
  rw [ofLines, ofLines, Draft.readLines_of_agree h, Draft.finish_of_agree h]

theorem ModuleSource.outline_of_agree (s : ModuleSource) (isRoot : Bool) (file : Option String)
    (pass : Pass) : s.outline isRoot file lines pass = s.outline isRoot file lines' pass := by
  unfold outline
  simp only [Outline.ofLines_of_agree h]

theorem References.diagnostics_of_agree (t : SymbolTable) :
    diagnostics lines t = diagnostics lines' t := by
  have hpass : ∀ find : Line → List Diagnostic, (∀ a b, Line.Agree a b → find a = find b) →
      (lines.filter fun line => !line.isBlank).flatMap find =
        (lines'.filter fun line => !line.isBlank).flatMap find := by
    intro find hfind
    induction h with
    | nil => rfl
    | cons hab _ ih =>
      rw [List.filter_cons, List.filter_cons, hab.isBlank]
      split
      · rw [List.flatMap_cons, List.flatMap_cons, hfind _ _ hab, ih]
      · exact ih
  unfold diagnostics
  dsimp only
  rw [hpass _ fun a b hab => hab.macroDiagnostics t,
    hpass _ fun a b hab => hab.lineWordDiagnostics t _,
    hpass _ fun a b hab => hab.lineCallDiagnostics t]

end Agree

theorem TypeCheck.diagnostics_of_agree {text text' : List Char} {t : SymbolTable}
    (h : List.Forall₂ Line.Agree (Line.ofSource text) (Line.ofSource text'))
    (htext : t.TypesIn (Line.ofSource text)) (htext' : t.TypesIn (Line.ofSource text')) :
    diagnostics (Line.ofSource text) t = diagnostics (Line.ofSource text') t := by
  refine List.filterMap_congr fun u hu => ?_
  have huse : u ∈ t.typeUses := (List.mem_filter.mp hu).1
  obtain ⟨a, ha, hnumber, hplace⟩ := htext u huse
  obtain ⟨b, hb, hnumber', hplace'⟩ := htext' u huse
  have hat : Line.at? (Line.ofSource text) u.line = some a := hnumber ▸ Line.at?_ofSource ha
  have hat' : Line.at? (Line.ofSource text') u.line = some b := hnumber' ▸ Line.at?_ofSource hb
  obtain ⟨b', hb', hab⟩ := Text.exists_of_rel (Line.at?_rel h u.line) hat
  obtain rfl : b = b' := Option.some.inj (hat'.symm.trans hb')
  rw [hat, hat', Option.map_some, Option.map_some, TypeUse.diagnostic_of_agree hab hplace hplace']

/-- What stands between quotes has no influence on an analysis, wherever no check looks at it. -/
theorem analyze_congr_of_interchangeable (disk : Disk) (config : Config) (file : Option String)
    {text text' : List Char}
    (h : List.Forall₂ Line.Interchangeable (Line.ofSource text) (Line.ofSource text')) :
    analyze disk config file text = analyze disk config file text' := by
  have hlines := Line.forall₂_agree_ofSource h
  have houtline := (config.modules disk).outline_of_agree hlines true file {}
  have htable : (analyze disk config file text).table = (analyze disk config file text').table :=
    congrArg (·.1.table) houtline
  have htypesIn : ∀ text : List Char,
      (analyze disk config file text).table.TypesIn (Line.ofSource text) := by
    intro text
    rw [analyze_table, ModuleSource.outline_eq]
    exact Outline.typesIn_ofLines _ _ _ _ _ _
  have htypes := TypeCheck.diagnostics_of_agree hlines (htypesIn text) (htable ▸ htypesIn text')
  have huses := References.diagnostics_of_agree hlines (analyze disk config file text).table
  have hfound : (analyze disk config file text).diagnostics =
      (analyze disk config file text').diagnostics := by
    rw [analyze_diagnostics, analyze_diagnostics, ← htable, htypes, huses, houtline]
  calc analyze disk config file text
    _ = ⟨(analyze disk config file text).table.file, (analyze disk config file text).table,
        (analyze disk config file text).diagnostics⟩ := rfl
    _ = ⟨(analyze disk config file text').table.file, (analyze disk config file text').table,
        (analyze disk config file text').diagnostics⟩ := by rw [htable, hfound]
    _ = analyze disk config file text' := rfl

/-- Brackets and braces in literals are as good as any other character. -/
theorem analyze_interchangeable_listing :
    let one := "if (x == \"a \x7d (\") \x7b\nprint(\"one\", y)\n\x7d".toList
    let other := "if (x == \"\x7b ) b\") \x7b\nprint(\"two\", y)\n\x7d".toList
    List.Forall₂ Line.Interchangeable (Line.ofSource one) (Line.ofSource other) ∧
      analyze .bare .bare none one = analyze .bare .bare none other ∧
      (analyze .bare .bare none one).diagnostics.map (·.code) =
        [.undefinedVariable, .undefinedVariable] := by
  intro one other
  have hlines : List.Forall₂ Line.Interchangeable (Line.ofSource one) (Line.ofSource other) := by
    refine .cons ⟨by decide +kernel, fun _ => ?_⟩ (.cons ⟨by decide +kernel, fun _ => ?_⟩
      (.cons ⟨by decide +kernel, fun hne => absurd rfl hne⟩ .nil))
    · exact ⟨by decide +kernel, by decide +kernel, by decide +kernel, by decide +kernel,
        by decide +kernel, by decide +kernel⟩
    · exact ⟨by decide +kernel, by decide +kernel, by decide +kernel, by decide +kernel,
        by decide +kernel, by decide +kernel⟩
  exact ⟨hlines, analyze_congr_of_interchangeable .bare .bare none hlines, by decide +kernel⟩

/-- A letter of a literal decides whether there is a call in the external form, of which only the
arguments are read. -/
theorem analyze_external_literal :
    let one := "print('(\"lib\" use.f(zzz))')".toList
    let other := "print('(\"lib\" usE.f(zzz))')".toList
    List.Forall₂ Line.SameOutside (Line.ofSource one) (Line.ofSource other) ∧
      (∀ line ∈ Line.ofSource one, (Statement.ofText line.code).hasParameters = false) ∧
      (analyze .bare .bare none one).diagnostics.map (·.code) = [.undefinedVariable] ∧
      (analyze .bare .bare none other).diagnostics.map (·.code) = [] := by
  intro one other
  exact ⟨.cons (by decide +kernel) .nil, by decide +kernel, by decide +kernel, by decide +kernel⟩

end ScriptLint
