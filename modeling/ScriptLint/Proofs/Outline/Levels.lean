import ScriptLint.Proofs.Outline.Declared
import ScriptLint.Proofs.Symbol.Walk

/-! Where declarations come from: each function and each variable in the body that a text declares,
at any depth, is what one line of the text says. -/
namespace ScriptLint

/-- The function and variable declarations directly in a body satisfy the given predicates. -/
structure Body.Satisfies (F : FunctionDecl → Prop) (V : VariableDecl → Prop)
    (b : Body ClassDecl) : Prop where
  functions : ∀ f ∈ b.functions, F f
  vars : ∀ v ∈ b.vars, V v

/-- The declarations of a draft, at all levels, satisfy the given predicates. -/
structure Draft.Satisfies {State : Type} (F : FunctionDecl → Prop) (V : VariableDecl → Prop)
    (d : Draft State) : Prop where
  body : ∀ level ∈ d.body.levels, level.Satisfies F V
  openClasses : ∀ c ∈ d.openClasses, ∀ level ∈ c.body.levels, level.Satisfies F V

namespace Draft

variable {State : Type} {F : FunctionDecl → Prop} {V : VariableDecl → Prop} {d : Draft State}

theorem satisfies_empty : ∀ level ∈ ({} : Body ClassDecl).levels, level.Satisfies F V := by
  intro level hlevel
  rw [Body.levels, ClassDecl.walk_nil, List.map_nil, List.mem_singleton] at hlevel
  subst hlevel
  exact ⟨fun _ h => (List.not_mem_nil h).elim, fun _ h => (List.not_mem_nil h).elim⟩

theorem Satisfies.modifyBody {f : Body ClassDecl → Body ClassDecl} (h : d.Satisfies F V)
    (hf : ∀ b : Body ClassDecl, (∀ level ∈ b.levels, level.Satisfies F V) →
      ∀ level ∈ (f b).levels, level.Satisfies F V) :
    (d.modifyBody f).Satisfies F V := by
  unfold Draft.modifyBody
  split
  · next hnil => exact ⟨hf _ h.body, by simp [hnil]⟩
  · next c cs hcons =>
    refine ⟨h.body, ?_⟩
    have hclasses := h.openClasses
    rw [hcons] at hclasses
    obtain ⟨hc, hcs⟩ := List.forall_mem_cons.mp hclasses
    exact List.forall_mem_cons.mpr ⟨hf _ hc, hcs⟩

theorem satisfies_addClass {c : ClassDecl} (hc : ∀ level ∈ c.body.levels, level.Satisfies F V)
    (b : Body ClassDecl) (hb : ∀ level ∈ b.levels, level.Satisfies F V) :
    ∀ level ∈ (b.addClass c).levels, level.Satisfies F V := by
  have hown := hb b (List.mem_cons_self ..)
  exact Body.forall_levels_addClass hb hc ⟨hown.functions, hown.vars⟩

/-- The class that open classes become has the declarations of them all. -/
theorem satisfies_closeAll? {file : Option String} {classes : List OpenClass} {made : ClassDecl}
    (h : ∀ c ∈ classes, ∀ level ∈ c.body.levels, level.Satisfies F V)
    (hmade : OpenClass.closeAll? file classes = some made) :
    ∀ level ∈ made.body.levels, level.Satisfies F V := by
  -- From the innermost class out, the class made so far becomes a member of the next.
  have hfold : ∀ (classes : List OpenClass) (inner : Option ClassDecl),
      (∀ c ∈ classes, ∀ level ∈ c.body.levels, level.Satisfies F V) →
      (∀ c ∈ inner, ∀ level ∈ c.body.levels, level.Satisfies F V) →
      ∀ made ∈ classes.foldl (fun inner c => some (OpenClass.close file inner c)) inner,
        ∀ level ∈ made.body.levels, level.Satisfies F V := by
    intro classes
    induction classes with
    | nil => exact fun inner _ hinner => hinner
    | cons c cs ih =>
      intro inner hclasses hinner
      obtain ⟨hc, hcs⟩ := List.forall_mem_cons.mp hclasses
      refine ih _ hcs ?_
      rintro made ⟨⟩
      cases inner with
      | none => exact hc
      | some i => exact satisfies_addClass (hinner i rfl) c.body hc
  exact hfold classes none h (fun c hc => (Option.not_mem_none c hc).elim) made hmade

theorem Satisfies.closeBelow (h : d.Satisfies F V) (file : Option String) (depth : Nat) :
    (d.closeBelow file depth).Satisfies F V := by
  unfold Draft.closeBelow
  dsimp only
  split
  · exact h
  · next made hmade =>
    have hclosed := satisfies_closeAll?
      (fun c hc => h.openClasses c ((List.takeWhile_sublist _).subset hc)) hmade
    have hstaying : ({ d with
        openClasses := d.openClasses.dropWhile (depth < ·.depth) } : Draft State).Satisfies F V :=
      ⟨h.body, fun c hc => h.openClasses c ((List.dropWhile_sublist _).subset hc)⟩
    exact hstaying.modifyBody (satisfies_addClass hclosed)

end Draft

/-- A line says nothing that breaks the given predicates. -/
structure Line.Satisfies (file : Option String) (F : FunctionDecl → Prop)
    (V : VariableDecl → Prop) (line : Line) : Prop where
  functions : ∀ head scope, Statement.ofText line.code = .functionHead head →
    F (head.toDecl file scope line.number)
  vars : ∀ access name type scope, Statement.ofText line.code = .variableDecl access name type →
    V ⟨name.text, type.text, line.number, scope, type.offset⟩

namespace Draft

variable {State : Type} {F : FunctionDecl → Prop} {V : VariableDecl → Prop} {d : Draft State}

theorem Satisfies.declare {file : Option String} {line : Line} (h : d.Satisfies F V)
    (hline : line.Satisfies file F V) (before : Nat) :
    (d.declare file before line.number (Statement.ofText line.code)).Satisfies F V := by
  -- A class whose brace stays open is opened; all else is added to the body that is open.
  by_cases hopens : ∃ name, Statement.ofText line.code = .classHead name ∧
      before < d.unclosed.length
  · obtain ⟨name, hname, hlt⟩ := hopens
    rw [hname, declare_of_opens d file hlt]
    exact ⟨h.body, List.forall_mem_cons.mpr ⟨satisfies_empty, h.openClasses⟩⟩
  · rw [declare_of_not_opens d file fun name hname hlt => hopens ⟨name, hname, hlt⟩]
    refine h.modifyBody fun b hb => ?_
    have hown := hb b (List.mem_cons_self ..)
    cases hs : Statement.ofText line.code with
    | classHead name => exact satisfies_addClass satisfies_empty b hb
    | functionHead head =>
      refine Body.forall_levels_of_classes_eq hb rfl ⟨fun f hf => ?_, hown.vars⟩
      rcases List.mem_append.mp hf with hf | hf
      · exact hown.functions f hf
      · rw [List.mem_singleton.mp hf]
        exact hline.functions head d.owner? hs
    | variableDecl access name type =>
      refine Body.forall_levels_of_classes_eq hb rfl ⟨hown.functions, fun v hv => ?_⟩
      rcases List.mem_append.mp hv with hv | hv
      · exact hown.vars v hv
      · rw [List.mem_singleton.mp hv]
        exact hline.vars access name type (d.owner?.getD globalScope) hs
    | macroHead name params =>
      exact Body.forall_levels_of_classes_eq hb rfl ⟨hown.functions, hown.vars⟩
    | _ => exact hb

theorem Satisfies.declareLine {file : Option String} {d : Draft Unit} {line : Line}
    (h : d.Satisfies F V) (hline : line.isBlank = false → line.Satisfies file F V) :
    (d.declareLine file line).Satisfies F V := by
  unfold Draft.declareLine
  cases hb : line.isBlank
  · -- Counting braces changes no declaration, and closing classes keeps them.
    have hclose := Satisfies.closeBelow
      (d := { d with unclosed := (matchBraces d.unclosed line).1 }) ⟨h.body, h.openClasses⟩ file
      (matchBraces d.unclosed line).1.length
    have hsettle : (d.settle file line).Satisfies F V := ⟨hclose.body, hclose.openClasses⟩
    have hdeclare := hsettle.declare (hline hb) d.unclosed.length
    exact ⟨hdeclare.body, hdeclare.openClasses⟩
  · exact h

end Draft

/-- What every line says satisfies the given predicates, so all that a text declares does. -/
theorem satisfies_declaredBody {file : Option String} {F : FunctionDecl → Prop}
    {V : VariableDecl → Prop} {lines : List Line}
    (h : ∀ line ∈ lines, line.isBlank = false → line.Satisfies file F V) :
    ∀ level ∈ (declaredBody file lines).levels, level.Satisfies F V := by
  have hfold : ∀ (lines : List Line) (d : Draft Unit), d.Satisfies F V →
      (∀ line ∈ lines, line.isBlank = false → line.Satisfies file F V) →
      (lines.foldl (Draft.declareLine file) d).Satisfies F V := by
    intro lines
    induction lines with
    | nil => exact fun d hd _ => hd
    | cons line lines ih =>
      intro d hd hlines
      obtain ⟨hline, hmore⟩ := List.forall_mem_cons.mp hlines
      exact ih _ (hd.declareLine hline) hmore
  -- The classes that are open at the end are closed there.
  have hd := hfold lines { state := () }
    ⟨Draft.satisfies_empty, fun _ hc => (List.not_mem_nil hc).elim⟩ h
  unfold declaredBody Draft.closedBody
  cases hclose : OpenClass.closeAll? file
      (lines.foldl (Draft.declareLine file) { state := () }).openClasses with
  | none => exact hd.body
  | some made =>
    exact Draft.satisfies_addClass (Draft.satisfies_closeAll? hd.openClasses hclose) _ hd.body

/-- A function that a text declares, at the top level or in a class, belongs to no imported
class. -/
theorem owner_of_mem_declaredBody {file : Option String} {lines : List Line}
    {level : Body ClassDecl} {f : FunctionDecl} (hlevel : level ∈ (declaredBody file lines).levels)
    (h : f ∈ level.functions) : f.owner = none := by
  have hall : ∀ level ∈ (declaredBody file lines).levels,
      level.Satisfies (fun f => f.owner = none) (fun _ => True) :=
    satisfies_declaredBody fun _ _ _ => ⟨fun _ _ _ => rfl, fun _ _ _ _ _ => trivial⟩
  exact (hall level hlevel).functions f h

end ScriptLint
