import ScriptLint.Proofs.Placement.Analysis

/-! What the parts of an analysis find in the lines of the text. A finding has the code of the part
that made it, and is about the text itself. -/
namespace ScriptLint

/-- The parts of an analysis: drawing up the text, and the checks of what it uses. -/
inductive Check where
  | outline | types | macros | words | calls
deriving DecidableEq

/-- The part that has findings of the code. -/
def DiagnosticCode.check : DiagnosticCode → Check
  | .unresolvedInclude | .symbolNotFoundInInclude | .fileAccessError | .malformedDeclaration
  | .missingBrace | .unbalancedBraces | .accessModifierMisuse => .outline
  | .unknownType => .types
  | .undefinedMacro | .macroArityMismatch => .macros
  | .undefinedClass | .undefinedVariable => .words
  | .undefinedFunction | .functionInfo => .calls

theorem DiagnosticCode.check_eq_types_iff {code : DiagnosticCode} :
    code.check = .types ↔ code = .unknownType := by
  cases code <;> decide

theorem DiagnosticCode.check_eq_calls_iff {code : DiagnosticCode} :
    code.check = .calls ↔ code = .functionInfo ∨ code = .undefinedFunction := by
  cases code <;> decide

/-- The finding is about the text itself, and the part has findings of its code. -/
structure Diagnostic.OwnOf (d : Diagnostic) (check : Check) : Prop where
  source : d.source = ownSource
  code : d.code.check = check

theorem Diagnostic.ownOf_atOffset (code : DiagnosticCode) (message : String)
    (fallback : Option String) (line : Line) (offset length : Int) :
    (atOffset code message fallback line offset length).OwnOf code.check where
  source := atOffset_source ..
  code := congrArg DiagnosticCode.check (atOffset_code ..)

section Lists

variable {P : Diagnostic → Prop} {found more : List Diagnostic}

theorem forall_mem_ite {p : Prop} [Decidable p] (h : ∀ d ∈ found, P d) (hmore : ∀ d ∈ more, P d) :
    ∀ d ∈ if p then found else more, P d := by
  split
  · exact h
  · exact hmore

theorem forall_mem_of_unless {p : Prop} [Decidable p] (h : ∀ d ∈ found, P d) :
    ∀ d ∈ if p then [] else found, P d :=
  forall_mem_ite (List.forall_mem_nil _) h

/-- What a list is mapped to is what one of its members is, if those before and behind it are mapped
to nothing. -/
theorem flatMap_eq_of_mem {α β : Type} {R : α → α → Prop} {l : List α} (hl : l.Pairwise R) {x : α}
    (hx : x ∈ l) {f : α → List β} (h : ∀ y ∈ l, R x y ∨ R y x → f y = []) : l.flatMap f = f x := by
  obtain ⟨before, after, rfl⟩ := List.append_of_mem hx
  obtain ⟨-, hafter, hbefore⟩ := List.pairwise_append.mp hl
  have hleft : before.flatMap f = [] := by
    refine List.flatMap_eq_nil_iff.mpr fun y hy => ?_
    exact h y (List.mem_append_left _ hy) (Or.inr (hbefore y hy x List.mem_cons_self))
  have hright : after.flatMap f = [] := by
    refine List.flatMap_eq_nil_iff.mpr fun y hy => ?_
    exact h y (List.mem_append_right _ (List.mem_cons_of_mem _ hy))
      (Or.inl (List.rel_of_pairwise_cons hafter hy))
  rw [List.flatMap_append, List.flatMap_cons, hleft, hright, List.nil_append, List.append_nil]

end Lists

/-- All findings are about the text itself and come from the part. -/
def AllOf (check : Check) (found : List Diagnostic) : Prop :=
  ∀ d ∈ found, d.OwnOf check

theorem allOf_singleton {check : Check} {d : Diagnostic} (h : d.OwnOf check) : AllOf check [d] :=
  List.forall_mem_singleton.mpr h

section Lines

variable (line : Line) (t : SymbolTable)

theorem allOf_headDiagnostics (statement : Statement) :
    AllOf .outline (headDiagnostics line statement) := by
  cases statement with
  | functionHead head =>
    refine List.forall_mem_append.mpr ⟨?_, forall_mem_of_unless (allOf_singleton ⟨rfl, rfl⟩)⟩
    cases head.access with
    | none => exact List.forall_mem_nil _
    | some modifier =>
      exact allOf_singleton ⟨Diagnostic.atOffset_source .., (Diagnostic.ownOf_atOffset ..).code⟩
  | classHead _ | macroHead _ _ | conditional =>
    exact forall_mem_of_unless (allOf_singleton ⟨rfl, rfl⟩)
  | _ => exact List.forall_mem_nil _

theorem allOf_malformedDiagnostics (statement : Statement) :
    AllOf .outline (malformedDiagnostics line statement) := by
  cases statement with
  | malformed kind => exact allOf_singleton ⟨rfl, rfl⟩
  | _ => exact List.forall_mem_nil _

theorem allOf_typeCheck (lines : List Line) : AllOf .types (TypeCheck.diagnostics lines t) := by
  intro d hd
  obtain ⟨u, -, hu⟩ := List.mem_filterMap.mp hd
  obtain ⟨line, -, rfl⟩ := Option.map_eq_some_iff.mp hu
  exact Diagnostic.ownOf_atOffset ..

namespace References

variable (lines : List Line)

theorem allOf_macros : AllOf .macros (lines.flatMap (macroDiagnostics t)) := by
  refine List.forall_mem_flatMap.mpr fun line _ => ?_
  refine List.forall_mem_flatMap.mpr fun (offset, call) _ => ?_
  show AllOf .macros (macroCallDiagnostics t line (Literal.maskContents line.code) offset call)
  unfold macroCallDiagnostics
  split
  · exact allOf_singleton (Diagnostic.ownOf_atOffset ..)
  · split
    · exact List.forall_mem_nil _
    · refine forall_mem_of_unless (allOf_singleton ?_)
      exact ⟨Diagnostic.atOffset_source .., (Diagnostic.ownOf_atOffset ..).code⟩

theorem allOf_words (names : List String) :
    AllOf .words (lines.flatMap (lineWordDiagnostics t names)) := by
  refine List.forall_mem_flatMap.mpr fun line _ => ?_
  refine forall_mem_of_unless (List.forall_mem_flatMap.mpr fun (_, word) _ => ?_)
  -- A word is looked up among the classes or among the variables, or not at all.
  refine forall_mem_of_unless (forall_mem_ite ?_ (forall_mem_ite ?_ (List.forall_mem_nil _)))
  · exact forall_mem_of_unless (allOf_singleton (Diagnostic.ownOf_atOffset ..))
  · exact forall_mem_of_unless (allOf_singleton (Diagnostic.ownOf_atOffset ..))

theorem allOf_calls : AllOf .calls (lines.flatMap (lineCallDiagnostics t)) := by
  refine List.forall_mem_flatMap.mpr fun line _ => ?_
  refine List.forall_mem_flatMap.mpr fun (_, name) _ => ?_
  unfold callDiagnostics
  refine forall_mem_of_unless ?_
  split
  · exact allOf_singleton ⟨Diagnostic.atOffset_source .., (Diagnostic.ownOf_atOffset ..).code⟩
  · exact forall_mem_of_unless (allOf_singleton (Diagnostic.ownOf_atOffset ..))

end References

end Lines

end ScriptLint
