import ScriptLint.Proofs.Outline.Declared
import ScriptLint.Proofs.Symbol.Walk

/-! Where each declaration of a text ends up. A class is put together from the inside when its body
ends, but what matters for its members is only which class was the innermost open one on their line:
closing classes moves nothing, and opening one is the same as adding it with nothing inside. So the
members of a text, each with the class around it, are those that its lines declare one after the
other. -/
namespace ScriptLint

/-- What names a class in its text. -/
structure ClassHead where
  name : String
  line : Int
deriving DecidableEq

def ClassDecl.head (c : ClassDecl) : ClassHead := ⟨c.name, c.line⟩

def OpenClass.head (c : OpenClass) : ClassHead := ⟨c.name, c.line⟩

/-- A member of a body. Of a class only its head counts here, since its own members have a body of
their own. -/
inductive Member where
  | ofClass (head : ClassHead)
  | ofFunction (f : FunctionDecl)
  | ofVariable (v : VariableDecl)
  | ofMacro (m : MacroDecl)

namespace Member

/-- The line that declares the member. -/
def line : Member → Int
  | ofClass head => head.line
  | ofFunction f => f.line
  | ofVariable v => v.line
  | ofMacro m => m.line

/-- The kind of declaration that the member comes from. -/
def kind : Member → DeclarationKind
  | ofClass _ => .classDecl
  | ofFunction _ => .functionDecl
  | ofVariable _ => .variableDecl
  | ofMacro _ => .macroDecl

/-- The scope and the file that a member names are the class around it and the file of the text. -/
def Fits (owner : Option ClassHead) (file : Option String) : Member → Prop
  | ofClass _ => True
  | ofFunction f => f.scope = owner.map (·.name) ∧ f.file = file
  | ofVariable v => v.scope = (owner.map (·.name)).getD globalScope
  | ofMacro m => m.file = file

end Member

namespace Body

/-- The members directly in a body. -/
def members (b : Body ClassDecl) : List Member :=
  b.classes.map (fun c => .ofClass c.head) ++ b.functions.map .ofFunction ++
    b.vars.map .ofVariable ++ b.macros.map .ofMacro

/-- The members of a body and of all classes inside it, each with the class around it. `owner` is
the class of the body itself. -/
def placed (owner : Option ClassHead) (b : Body ClassDecl) : List (Option ClassHead × Member) :=
  b.members.map (owner, ·) ++
    (ClassDecl.walk b.classes).flatMap fun c => c.body.members.map (some c.head, ·)

/-- If two bodies are in the relation as the inside of a class, then so are the bodies around it. -/
def GoesOutwards (file : Option String)
    (R : Option ClassHead → Body ClassDecl → Body ClassDecl → Prop) : Prop :=
  ∀ (owner : Option ClassHead) (b : Body ClassDecl) (head : ClassHead)
    (inner inner' : Body ClassDecl), R (some head) inner inner' →
      R owner (b.addClass ⟨head.name, head.line, file, inner⟩)
        (b.addClass ⟨head.name, head.line, file, inner'⟩)

/-- The heads of the classes inside a body, in the order of the walk. -/
def heads (b : Body ClassDecl) : List ClassHead :=
  (ClassDecl.walk b.classes).map (·.head)

theorem mem_members_of_functions {b : Body ClassDecl} {f : FunctionDecl} (h : f ∈ b.functions) :
    .ofFunction f ∈ b.members := by
  simp [members, h]

theorem mem_members_of_vars {b : Body ClassDecl} {v : VariableDecl} (h : v ∈ b.vars) :
    .ofVariable v ∈ b.members := by
  simp [members, h]

theorem mem_members_of_macros {b : Body ClassDecl} {m : MacroDecl} (h : m ∈ b.macros) :
    .ofMacro m ∈ b.members := by
  simp [members, h]

theorem placed_empty (owner : Option ClassHead) : ({} : Body ClassDecl).placed owner = [] := by
  simp [placed, members]

theorem heads_addClass (b : Body ClassDecl) (c : ClassDecl) :
    (b.addClass c).heads = b.heads ++ c.head :: c.body.heads := by
  simp [heads, addClass, ClassDecl.walk_append, ClassDecl.walk_cons]

theorem perm_members_addClass (b : Body ClassDecl) (c : ClassDecl) :
    (b.addClass c).members.Perm (.ofClass c.head :: b.members) := by
  simp only [members, addClass, List.map_append, List.map_cons, List.map_nil, List.append_assoc,
    List.singleton_append]
  exact List.perm_middle

theorem perm_members_addFunction (b : Body ClassDecl) (f : FunctionDecl) :
    (b.addFunction f).members.Perm (.ofFunction f :: b.members) := by
  simp only [members, addFunction, List.map_append, List.map_cons, List.map_nil,
    List.append_assoc, List.singleton_append]
  exact (List.perm_middle.append_left _).trans List.perm_middle

theorem perm_members_addVariable (b : Body ClassDecl) (v : VariableDecl) :
    (b.addVariable v).members.Perm (.ofVariable v :: b.members) := by
  simp only [members, addVariable, List.map_append, List.map_cons, List.map_nil,
    List.append_assoc, List.singleton_append]
  exact (((List.perm_middle.append_left _).trans List.perm_middle).append_left _).trans
    List.perm_middle

theorem perm_members_addMacro (b : Body ClassDecl) (m : MacroDecl) :
    (b.addMacro m).members.Perm (.ofMacro m :: b.members) := by
  simp only [members, addMacro, List.map_append, List.map_cons, List.map_nil]
  rw [← List.append_assoc]
  exact List.perm_append_singleton _ _

/-- What is added to a body, and is no class, has no members of its own. -/
theorem perm_placed_of_members {b b' : Body ClassDecl} {m : Member}
    (hclasses : b'.classes = b.classes) (h : b'.members.Perm (m :: b.members))
    (owner : Option ClassHead) : (b'.placed owner).Perm ((owner, m) :: b.placed owner) := by
  unfold placed
  rw [hclasses]
  exact (h.map fun m => (owner, m)).append_right _

/-- A class brings its own members with it. -/
theorem perm_placed_addClass (owner : Option ClassHead) (b : Body ClassDecl) (c : ClassDecl) :
    ((b.addClass c).placed owner).Perm
      ((owner, .ofClass c.head) :: (b.placed owner ++ c.body.placed (some c.head))) := by
  have hwalk : ClassDecl.walk (b.addClass c).classes =
      ClassDecl.walk b.classes ++ c :: ClassDecl.walk c.body.classes := by
    simp [addClass, ClassDecl.walk_append, ClassDecl.walk_cons]
  have hmembers := (perm_members_addClass b c).map fun m => (owner, m)
  rw [List.map_cons] at hmembers
  unfold placed
  rw [hwalk, List.flatMap_append, List.flatMap_cons, List.append_assoc]
  exact hmembers.append_right _

end Body

namespace Statement

/-- What a statement declares, if it is a declaration that is well formed. -/
def declares? : Statement → Option DeclarationKind
  | .classHead _ => some .classDecl
  | .functionHead _ => some .functionDecl
  | .macroHead _ _ => some .macroDecl
  | .variableDecl _ _ _ => some .variableDecl
  | .inclusion _ | .malformed _ | .conditional | .other => none

/-- The member that a statement makes, `owner` being the class around it. -/
def members (owner file : Option String) (line : Int) : Statement → List Member
  | .classHead name => [.ofClass ⟨name.text, line⟩]
  | .functionHead head => [.ofFunction (head.toDecl file owner line)]
  | .macroHead name params =>
    [.ofMacro { name := name.text, params := params, line := line, file := file }]
  | .variableDecl _ name type =>
    [.ofVariable
      { name := name.text
        type := type.text
        line := line
        scope := owner.getD globalScope
        typeOffset := type.offset }]
  | _ => []

/-- The head of the class that a statement opens. -/
def classHead? (line : Int) : Statement → Option ClassHead
  | .classHead name => some ⟨name.text, line⟩
  | _ => none

variable (owner file : Option String) (line : Int) (statement : Statement) (b : Body ClassDecl)

theorem heads_addTo :
    (statement.addTo owner file line b).heads =
      b.heads ++ (statement.classHead? line).toList := by
  cases statement with
  | classHead name =>
    have hempty : ({} : Body ClassDecl).heads = [] := by simp [Body.heads]
    exact (Body.heads_addClass b ⟨name.text, line, file, {}⟩).trans (by rw [hempty]; rfl)
  | _ => exact (List.append_nil _).symm

theorem perm_placed_addTo (around : Option ClassHead) :
    ((statement.addTo owner file line b).placed around).Perm
      ((statement.members owner file line).map (around, ·) ++ b.placed around) := by
  cases statement with
  | classHead name =>
    have h := Body.perm_placed_addClass around b ⟨name.text, line, file, {}⟩
    rwa [Body.placed_empty, List.append_nil] at h
  | functionHead head =>
    have hmembers := Body.perm_members_addFunction b (head.toDecl file owner line)
    exact Body.perm_placed_of_members (by rfl) hmembers around
  | macroHead name params =>
    have hmembers := Body.perm_members_addMacro b ⟨name.text, params, line, file⟩
    exact Body.perm_placed_of_members (by rfl) hmembers around
  | variableDecl access name type =>
    have hmembers := Body.perm_members_addVariable b
      ⟨name.text, type.text, line, owner.getD globalScope, type.offset⟩
    exact Body.perm_placed_of_members (by rfl) hmembers around
  | _ => exact List.Perm.refl _

end Statement

/-- The top level when open classes end, the innermost of them with one more class in it. -/
def OpenClass.closeOnto (file : Option String) (body : Body ClassDecl) (classes : List OpenClass)
    (inner : Option ClassDecl) : Body ClassDecl :=
  (classes.foldl (fun inner c => some (c.close file inner)) inner).elim body body.addClass

namespace Draft

variable {State : Type} (d : Draft State) (file : Option String)

/-- The innermost class that is open. -/
def innermost? : Option ClassHead :=
  d.openClasses.head?.map (·.head)

theorem owner?_eq : d.owner? = d.innermost?.map (·.name) := by
  unfold owner? innermost?
  rw [Option.map_map]
  rfl

theorem closedBody_addClass (c : ClassDecl) :
    (d.modifyBody (·.addClass c)).closedBody file =
      OpenClass.closeOnto file d.body d.openClasses (some c) := by
  obtain ⟨_, _ | _, _, _, _, _, _⟩ := d <;> rfl

/-- Classes that end early are put together as they would be at the end. -/
theorem closedBody_closeBelow (depth : Nat) :
    (d.closeBelow file depth).closedBody file = d.closedBody file := by
  have hsplit := List.takeWhile_append_dropWhile (p := fun c : OpenClass => depth < c.depth)
    (l := d.openClasses)
  have hbody : d.closedBody file = OpenClass.closeOnto file d.body
      (d.openClasses.dropWhile (depth < ·.depth))
      (OpenClass.closeAll? file (d.openClasses.takeWhile (depth < ·.depth))) := by
    unfold closedBody OpenClass.closeOnto OpenClass.closeAll?
    rw [← List.foldl_append, hsplit]
  unfold closeBelow
  dsimp only
  split
  · rfl
  · next c hc => rw [closedBody_addClass, hbody, hc]

theorem closedBody_settle (line : Line) :
    (d.settle file line).closedBody file = d.closedBody file :=
  closedBody_closeBelow { d with unclosed := (matchBraces d.unclosed line).1 } file _

/-- To open a class comes to the same as to add it with nothing inside. -/
theorem closedBody_declare (before : Nat) (line : Int) (statement : Statement) :
    (d.declare file before line statement).closedBody file =
      (d.modifyBody (statement.addTo d.owner? file line)).closedBody file := by
  by_cases h : ∃ name, statement = .classHead name ∧ before < d.unclosed.length
  · obtain ⟨name, rfl, hlt⟩ := h
    rw [declare_of_opens d file hlt]
    exact (closedBody_addClass d file ⟨name.text, line, file, {}⟩).symm
  · rw [declare_of_not_opens d file fun name hname hlt => h ⟨name, hname, hlt⟩]

/-- A change of the innermost body that is open changes the top level, put together, in a way that
goes outwards. -/
theorem closedBody_modifyBody {R : Option ClassHead → Body ClassDecl → Body ClassDecl → Prop}
    (hR : Body.GoesOutwards file R) {f : Body ClassDecl → Body ClassDecl}
    (hf : ∀ b : Body ClassDecl, R d.innermost? b (f b)) :
    R none (d.closedBody file) ((d.modifyBody f).closedBody file) := by
  -- The classes are closed from the innermost one on, each within the next.
  have houtwards : ∀ (classes : List OpenClass) (body : Body ClassDecl) (head : ClassHead)
      (inner inner' : Body ClassDecl), R (some head) inner inner' →
      R none (OpenClass.closeOnto file body classes (some ⟨head.name, head.line, file, inner⟩))
        (OpenClass.closeOnto file body classes (some ⟨head.name, head.line, file, inner'⟩)) := by
    intro classes
    induction classes with
    | nil => exact fun body head inner inner' h => hR none body head inner inner' h
    | cons c cs ih =>
      intro body head inner inner' h
      exact ih body c.head _ _ (hR (some c.head) c.body head inner inner' h)
  obtain ⟨unclosed, _ | ⟨c, cs⟩, body, includes, imports, diagnostics, state⟩ := d
  · exact hf body
  · exact houtwards cs body c.head c.body (f c.body) (hf c.body)

theorem heads_closedBody_modifyBody {f : Body ClassDecl → Body ClassDecl} {new : List ClassHead}
    (hf : ∀ b : Body ClassDecl, (f b).heads = b.heads ++ new) :
    ((d.modifyBody f).closedBody file).heads = (d.closedBody file).heads ++ new := by
  have hR : Body.GoesOutwards file fun _ b b' => b'.heads = b.heads ++ new := by
    intro owner b head inner inner' h
    rw [Body.heads_addClass, Body.heads_addClass, h, List.append_assoc, List.cons_append]
    rfl
  exact d.closedBody_modifyBody file hR hf

theorem perm_placed_closedBody_modifyBody {f : Body ClassDecl → Body ClassDecl}
    {new : List (Option ClassHead × Member)}
    (hf : ∀ b : Body ClassDecl, ((f b).placed d.innermost?).Perm (new ++ b.placed d.innermost?)) :
    (((d.modifyBody f).closedBody file).placed none).Perm
      (new ++ (d.closedBody file).placed none) := by
  have hR : Body.GoesOutwards file fun owner b b' =>
      (b'.placed owner).Perm (new ++ b.placed owner) := by
    intro owner b head inner inner' h
    have hnew := Body.perm_placed_addClass owner b ⟨head.name, head.line, file, inner'⟩
    have hold := Body.perm_placed_addClass owner b ⟨head.name, head.line, file, inner⟩
    -- What is new in the class comes behind the members of the body around it.
    have hmove : (b.placed owner ++ (new ++ inner.placed (some head))).Perm
        (new ++ (b.placed owner ++ inner.placed (some head))) := by
      rw [← List.append_assoc, ← List.append_assoc]
      exact List.perm_append_comm.append_right _
    have hinner := ((h.append_left (b.placed owner)).trans hmove).cons
      (owner, Member.ofClass head)
    exact (hnew.trans hinner).trans
      (List.perm_middle.symm.trans (hold.symm.append_left new))
  exact d.closedBody_modifyBody file hR hf

end Draft

namespace Line

/-- What a line declares. A blank line declares nothing. -/
def declares? (line : Line) : Option DeclarationKind :=
  if line.isBlank then none else (Statement.ofText line.code).declares?

/-- The member that a line makes, `owner` being the class around it. -/
def members (owner : Option ClassHead) (file : Option String) (line : Line) : List Member :=
  if line.isBlank then []
  else (Statement.ofText line.code).members (owner.map (·.name)) file line.number

/-- The head of the class that a line declares. -/
def classHead? (line : Line) : Option ClassHead :=
  if line.isBlank then none else (Statement.ofText line.code).classHead? line.number

/-- A line makes one member if it declares something, and none otherwise. -/
theorem members_cases (owner : Option ClassHead) (file : Option String) (line : Line) :
    (line.members owner file = [] ∧ line.declares? = none) ∨
      ∃ m, line.members owner file = [m] ∧ m.line = line.number ∧ m.Fits owner file ∧
        line.declares? = some m.kind := by
  unfold members declares?
  cases line.isBlank
  · cases Statement.ofText line.code with
    | classHead name => exact Or.inr ⟨_, rfl, rfl, trivial, rfl⟩
    | functionHead head => exact Or.inr ⟨_, rfl, rfl, ⟨rfl, rfl⟩, rfl⟩
    | macroHead name params => exact Or.inr ⟨_, rfl, rfl, rfl, rfl⟩
    | variableDecl access name type => exact Or.inr ⟨_, rfl, rfl, rfl, rfl⟩
    | _ => exact Or.inl ⟨rfl, rfl⟩
  · exact Or.inl ⟨rfl, rfl⟩

end Line

namespace Draft

variable (d : Draft Unit) (file : Option String) (line : Line) (lines : List Line)

/-- The class that a line belongs to: the innermost one that is open when its braces are counted. -/
def ownerOn : Option ClassHead :=
  (d.settle file line).innermost?

/-- The members that lines declare, each with the class that its line belongs to. -/
def placements : Draft Unit → List Line → List (Option ClassHead × Member)
  | _, [] => []
  | d, line :: lines =>
    (line.members (d.ownerOn file line) file).map (d.ownerOn file line, ·) ++
      placements (d.declareLine file line) lines

theorem placements_append (before after : List Line) :
    placements file d (before ++ after) =
      placements file d before ++ placements file (before.foldl (declareLine file) d) after := by
  induction before generalizing d with
  | nil => rfl
  | cons line before ih =>
    rw [List.cons_append, placements, placements, ih, List.foldl_cons, List.append_assoc]

variable {d file lines} in
/-- Each member comes from a line, and names the class that this line belongs to. -/
theorem exists_line_of_mem_placements {placed : Option ClassHead × Member}
    (h : placed ∈ placements file d lines) :
    ∃ line ∈ lines, placed.2.line = line.number ∧ placed.2.Fits placed.1 file := by
  induction lines generalizing d with
  | nil => exact (List.not_mem_nil h).elim
  | cons line lines ih =>
    rw [placements] at h
    rcases List.mem_append.mp h with h | h
    · obtain ⟨m, hm, rfl⟩ := List.mem_map.mp h
      rcases line.members_cases (d.ownerOn file line) file with ⟨hnone, -⟩ |
        ⟨made, hmade, hline, hfits, -⟩
      · rw [hnone] at hm
        exact (List.not_mem_nil hm).elim
      · rw [hmade] at hm
        obtain rfl := List.mem_singleton.mp hm
        exact ⟨line, List.mem_cons_self, hline, hfits⟩
    · obtain ⟨other, hother, hfacts⟩ := ih h
      exact ⟨other, List.mem_cons_of_mem _ hother, hfacts⟩

theorem closedBody_declareLine (h : line.isBlank = false) :
    (d.declareLine file line).closedBody file =
      ((d.settle file line).modifyBody ((Statement.ofText line.code).addTo
        ((d.ownerOn file line).map (·.name)) file line.number)).closedBody file := by
  have hdeclare := closedBody_declare (d.settle file line) file d.unclosed.length line.number
    (Statement.ofText line.code)
  rw [owner?_eq] at hdeclare
  unfold declareLine
  rw [h]
  exact hdeclare

theorem perm_placed_declareLine :
    (((d.declareLine file line).closedBody file).placed none).Perm
      ((line.members (d.ownerOn file line) file).map (d.ownerOn file line, ·) ++
        (d.closedBody file).placed none) := by
  cases h : line.isBlank
  · rw [closedBody_declareLine d file line h, ← closedBody_settle d file line]
    unfold Line.members
    rw [h]
    exact perm_placed_closedBody_modifyBody _ file fun b =>
      Statement.perm_placed_addTo _ file line.number _ b _
  · unfold declareLine Line.members
    rw [h]
    exact List.Perm.refl _

theorem heads_declareLine :
    ((d.declareLine file line).closedBody file).heads =
      (d.closedBody file).heads ++ line.classHead?.toList := by
  cases h : line.isBlank
  · rw [closedBody_declareLine d file line h, ← closedBody_settle d file line]
    unfold Line.classHead?
    rw [h]
    exact heads_closedBody_modifyBody _ file fun b =>
      Statement.heads_addTo _ file line.number _ b
  · unfold declareLine Line.classHead?
    rw [h]
    exact (List.append_nil _).symm

theorem perm_placed_declareLines :
    (((lines.foldl (declareLine file) d).closedBody file).placed none).Perm
      (placements file d lines ++ (d.closedBody file).placed none) := by
  induction lines generalizing d with
  | nil => exact List.Perm.refl _
  | cons line lines ih =>
    have hline := perm_placed_declareLine d file line
    have hmore := ih (d.declareLine file line)
    rw [List.foldl_cons, placements]
    -- The members of the first line are added first, and come first among the placements.
    refine hmore.trans ((hline.append_left _).trans ?_)
    rw [← List.append_assoc]
    exact List.perm_append_comm.append_right _

theorem heads_declareLines :
    ((lines.foldl (declareLine file) d).closedBody file).heads =
      (d.closedBody file).heads ++ lines.filterMap Line.classHead? := by
  induction lines generalizing d with
  | nil => exact (List.append_nil _).symm
  | cons line lines ih =>
    rw [List.foldl_cons, ih, heads_declareLine, List.append_assoc]
    cases h : line.classHead? <;> simp [h]

end Draft

variable (file : Option String) (lines : List Line)

/-- The members of a text are those that its lines declare, in the classes that these belong to. -/
theorem perm_placed_declaredBody :
    ((declaredBody file lines).placed none).Perm
      (Draft.placements file { state := () } lines) := by
  have h := Draft.perm_placed_declareLines { state := () } file lines
  have hempty : (Draft.closedBody file ({ state := () } : Draft Unit)).placed none = [] :=
    Body.placed_empty none
  rwa [hempty, List.append_nil] at h

/-- The classes of a text are walked in the order of their lines. -/
theorem heads_declaredBody :
    (declaredBody file lines).heads = lines.filterMap Line.classHead? := by
  have h := Draft.heads_declareLines { state := () } file lines
  have hempty : (Draft.closedBody file ({ state := () } : Draft Unit)).heads = [] := by
    simp [Draft.closedBody, OpenClass.closeAll?, Body.heads]
  rwa [hempty, List.nil_append] at h

variable {file lines} in
theorem fits_of_mem_placed {placed : Option ClassHead × Member}
    (h : placed ∈ (declaredBody file lines).placed none) : placed.2.Fits placed.1 file := by
  have hplaced := (perm_placed_declaredBody file lines).mem_iff.mp h
  obtain ⟨_, _, _, hfits⟩ := Draft.exists_line_of_mem_placements hplaced
  exact hfits

theorem Draft.filter_placements_eq_nil {d : Draft Unit} {number : Int}
    (h : ∀ line ∈ lines, line.number ≠ number) :
    (placements file d lines).filter (·.2.line = number) = [] := by
  refine List.filter_eq_nil_iff.mpr fun placed hplaced => ?_
  obtain ⟨line, hline, heq, -⟩ := exists_line_of_mem_placements hplaced
  simpa [heq] using h line hline

/-- If lines are numbered in order, what one of them declares is found by its number, in the class
that the line belongs to. -/
theorem placed_of_line {before after : List Line} {line : Line}
    (hlines : lines = before ++ line :: after) (hnumbers : lines.Pairwise (·.number < ·.number)) :
    let owner := (before.foldl (Draft.declareLine file) { state := () }).ownerOn file line
    ((declaredBody file lines).placed none).filter (·.2.line = line.number) =
      (line.members owner file).map (owner, ·) := by
  intro owner
  have hperm := (perm_placed_declaredBody file lines).filter (·.2.line = line.number)
  subst hlines
  obtain ⟨-, hline, hbefore⟩ := List.pairwise_append.mp hnumbers
  -- The lines in front of this one have smaller numbers, and those behind it greater ones.
  rw [Draft.placements_append, Draft.placements, List.filter_append, List.filter_append,
    Draft.filter_placements_eq_nil file before fun l hl =>
      Int.ne_of_lt (hbefore l hl line List.mem_cons_self),
    Draft.filter_placements_eq_nil file after fun l hl =>
      Int.ne_of_gt ((List.pairwise_cons.mp hline).1 l hl),
    List.nil_append, List.append_nil] at hperm
  rcases line.members_cases owner file with ⟨hnone, -⟩ | ⟨m, hm, hnumber, -, -⟩
  · rw [hnone] at hperm ⊢
    exact hperm.eq_nil
  · rw [hm] at hperm ⊢
    have hkept : ([m].map (owner, ·)).filter (·.2.line = line.number) = [(owner, m)] := by
      simp [hnumber]
    rw [hkept] at hperm
    exact hperm.eq_singleton

end ScriptLint
