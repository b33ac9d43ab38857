import ScriptLint.Proofs.Module.Codes

/-! Which part of an analysis a finding comes from. Its code says so, also where it was made in a
module and is passed on to the text: modules are only drawn up, and what is said of them keeps its
code. So what one part found can be singled out among all findings. -/
namespace ScriptLint

/-- All findings have codes of the part, whatever text they are about. -/
def CodesOf (check : Check) (found : List Diagnostic) : Prop :=
  ∀ d ∈ found, d.code.check = check

section Lists

variable {check other : Check} {found : List Diagnostic}

theorem AllOf.codesOf (h : AllOf check found) : CodesOf check found :=
  fun d hd => (h d hd).code

/-- A code that another part has picks nothing out of what was found. -/
theorem CodesOf.filter_of_ne (h : CodesOf check found) (hne : check ≠ other) :
    found.filter (·.code.check = other) = [] := by
  apply List.filter_eq_nil_iff.mpr
  intro d hd
  rw [h d hd, decide_eq_true_eq]
  exact hne

theorem CodesOf.filter_self (h : CodesOf check found) :
    found.filter (·.code.check = check) = found := by
  apply List.filter_eq_self.mpr
  intro d hd
  exact decide_eq_true (h d hd)

end Lists

/-- What an answer tells of a module comes from drawing it up. -/
def ModuleReply.Told (reply : ModuleReply) : Prop :=
  ∀ o, reply = .outline o → CodesOf .outline o.diagnostics

theorem holdsOfModules_outline : HoldsOfModules (·.check = .outline) :=
  ⟨rfl, rfl, rfl, rfl, rfl⟩

namespace ModuleSource

variable (s : ModuleSource)

/-- What is known of finished modules comes from drawing them up. -/
def Told (pass : Pass) : Prop :=
  ∀ entry ∈ pass.finished, CodesOf .outline entry.2.diagnostics

/-- Every answer keeps this and gives no more. -/
theorem Told.answer {pass : Pass} (h : Told pass) (path : Path) :
    Told (s.answer path pass).2 ∧ (s.answer path pass).1.Told :=
  s.codesWith_load holdsOfModules_outline h s.depth path

theorem codesOf_outline (isRoot : Bool) (file : Option String) (lines : List Line) :
    CodesOf .outline (s.outline isRoot file lines {}).1.diagnostics := by
  have hstart : Told (s.rootPass file) := by
    unfold rootPass
    cases s.rootPath file <;> exact fun _ h => (List.not_mem_nil h).elim
  have hheads : ∀ code ∈ headCodes, code.check = .outline := by decide
  rw [outline_eq_rootPass]
  exact Outline.codesWith_ofLines holdsOfModules_outline (fun _ => hheads) (P := Told)
    (fun path _ h => h.answer s path) lines hstart

end ModuleSource

section Analysis

variable (disk : Disk) (config : Config) (file : Option String) (text : List Char)

/-- The findings of an analysis that have codes of the part. -/
def Analysis.ofCheck (a : Analysis) (check : Check) : List Diagnostic :=
  a.diagnostics.filter (·.code.check = check)

/-- What a part of an analysis finds in the lines that it looks at. -/
def foundBy : Check → List Diagnostic :=
  let lines := Line.ofSource text
  let coded := lines.filter fun line => !line.isBlank
  let t := (analyze disk config file text).table
  fun
    | .outline => ((config.modules disk).outline true file lines {}).1.diagnostics
    | .types => TypeCheck.diagnostics lines t
    | .macros => coded.flatMap (References.macroDiagnostics t)
    | .words => coded.flatMap (References.lineWordDiagnostics t (References.variableNames t))
    | .calls => coded.flatMap (References.lineCallDiagnostics t)

theorem codesOf_foundBy (check : Check) : CodesOf check (foundBy disk config file text check) := by
  cases check with
  | outline => exact (config.modules disk).codesOf_outline true file (Line.ofSource text)
  | types => exact (allOf_typeCheck _ _).codesOf
  | macros => exact (References.allOf_macros _ _).codesOf
  | words => exact (References.allOf_words _ _ _).codesOf
  | calls => exact (References.allOf_calls _ _).codesOf

/-- The findings with codes of a part are what this part finds. -/
theorem analyze_ofCheck (check : Check) :
    (analyze disk config file text).ofCheck check = foundBy disk config file text check := by
  have hparts : (analyze disk config file text).diagnostics =
      foundBy disk config file text .outline ++ foundBy disk config file text .types ++
        (foundBy disk config file text .macros ++ foundBy disk config file text .words ++
          foundBy disk config file text .calls) := rfl
  have hfilter : ∀ part, (foundBy disk config file text part).filter (·.code.check = check) =
      if part = check then foundBy disk config file text part else [] := by
    intro part
    have hcodes := codesOf_foundBy disk config file text part
    split
    · next heq => exact heq ▸ hcodes.filter_self
    · next hne => exact hcodes.filter_of_ne hne
  rw [Analysis.ofCheck, hparts]
  simp only [List.filter_append, hfilter]
  cases check <;> simp

/-- What only an outline can be found to have is found while the outline is drawn up. -/
theorem analyze_filter_outline {p : Diagnostic → Bool}
    (h : ∀ d, p d = true → d.code.check = .outline) :
    (analyze disk config file text).diagnostics.filter p =
      ((config.modules disk).outline true file (Line.ofSource text) {}).1.diagnostics.filter p := by
  change _ = (foundBy disk config file text .outline).filter p
  rw [← analyze_ofCheck, Analysis.ofCheck, List.filter_filter]
  refine List.filter_congr fun d _ => ?_
  cases hd : p d with
  | false => rfl
  | true => simp [h d hd]

theorem analyze_ofCheck_types :
    (analyze disk config file text).ofCheck .types =
      TypeCheck.diagnostics (Line.ofSource text) (analyze disk config file text).table :=
  analyze_ofCheck disk config file text .types

theorem analyze_ofCheck_calls :
    (analyze disk config file text).ofCheck .calls =
      ((Line.ofSource text).filter fun line => !line.isBlank).flatMap
        (References.lineCallDiagnostics (analyze disk config file text).table) :=
  analyze_ofCheck disk config file text .calls

end Analysis

end ScriptLint
