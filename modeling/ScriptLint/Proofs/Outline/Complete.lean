import ScriptLint.Proofs.Module.Order
import ScriptLint.Proofs.Outline.Members
import ScriptLint.Proofs.Symbol.Table

/-! Nothing that a text declares is lost, held twice or moved before what an earlier line declares,
however its braces are laid out. A declaration is known here by its line, since a line declares one
thing at most. -/
namespace ScriptLint

/-- The include that a line adds: none if it is no include line or its path names no module. -/
def Line.include? (search : ModuleSearch) (disk : Disk) (directory : String) (line : Line) :
    Option Include :=
  if line.isBlank then none
  else
    match Statement.ofText line.code with
    | .inclusion path =>
      (search.resolve? disk directory path.text).map (·.toInclude path.text line.number)
    | _ => none

/-- The numbers of the lines that declare something of a kind. -/
def linesDeclaring (kind : DeclarationKind) (lines : List Line) : List Int :=
  (lines.filter (·.declares? = some kind)).map (·.number)

/-- A symbol table has one declaration for each line that declares something, in the order of the
lines, and has no others. -/
structure SymbolTable.DeclaresAll (t : SymbolTable) (lines : List Line) : Prop where
  functions : t.allFunctions.map (·.line) = linesDeclaring .functionDecl lines
  vars : t.allVariables.map (·.line) = linesDeclaring .variableDecl lines
  macros : t.allMacros.map (·.line) = linesDeclaring .macroDecl lines
  classes : t.allClasses.map (·.line) = linesDeclaring .classDecl lines

/-- Functions and variables name the class whose member they are as their scope. -/
structure SymbolTable.Scoped (t : SymbolTable) : Prop where
  functions : ∀ f ∈ t.body.functions, f.scope = none
  vars : ∀ v ∈ t.body.vars, v.scope = globalScope
  methods : ∀ c ∈ t.allClasses, ∀ f ∈ c.body.functions, f.scope = some c.name
  fields : ∀ c ∈ t.allClasses, ∀ v ∈ c.body.vars, v.scope = c.name

namespace Draft

variable (file : Option String) (d : Draft Unit) (lines : List Line)

/-- What is read off the members of a kind, whatever class is around them, is read off the lines
that declare the kind. -/
theorem map_placements_of_kind {β : Type} {read : Member → β} {readLine : Line → β}
    (h : ∀ owner line, ∀ m ∈ line.members owner file, read m = readLine line)
    (kind : DeclarationKind) :
    ((placements file d lines).filter (·.2.kind = kind)).map (fun placed => read placed.2) =
      (lines.filter (·.declares? = some kind)).map readLine := by
  induction lines generalizing d with
  | nil => rfl
  | cons line lines ih =>
    rw [placements, List.filter_append, List.map_append, ih (d.declareLine file line),
      List.filter_cons]
    -- The line has one member of the kind that it declares, and no other.
    rcases line.members_cases (d.ownerOn file line) file with ⟨hnone, hkind⟩ |
      ⟨m, hm, -, -, hkind⟩
    · simp [hnone, hkind]
    · have hread : read m = readLine line := h (d.ownerOn file line) line m (by simp [hm])
      by_cases heq : m.kind = kind <;> simp [hm, hkind, heq, hread]

end Draft

namespace Body

variable (b : Body ClassDecl)

/-- Without their classes, the members of a body and of all classes inside it are those of its
levels. -/
theorem map_snd_placed (owner : Option ClassHead) :
    (b.placed owner).map (·.2) = b.levels.flatMap members := by
  have hpair : ∀ (owner : Option ClassHead) (ms : List Member),
      (ms.map (owner, ·)).map (·.2) = ms := by
    intro owner ms
    rw [List.map_map]
    exact List.map_id ms
  unfold placed levels
  rw [List.map_append, List.flatMap_cons, hpair, List.map_flatMap, List.flatMap_map]
  simp only [hpair]

/-- All members of one kind. `part` are those of a body, and `make` the members that they are. -/
theorem map_placed_of_kind {α β : Type} {part : Body ClassDecl → List α} {make : α → Member}
    {kind : DeclarationKind}
    (hpart : ∀ b : Body ClassDecl, b.members.filter (·.kind = kind) = (part b).map make)
    (read : Member → β) :
    ((b.placed none).filter (·.2.kind = kind)).map (fun placed => read placed.2) =
      (b.levels.flatMap part).map fun x => read (make x) := by
  calc ((b.placed none).filter (·.2.kind = kind)).map (fun placed => read placed.2)
      = (((b.placed none).map (·.2)).filter (·.kind = kind)).map read := by
        rw [List.filter_map, List.map_map]
        rfl
    _ = ((b.levels.flatMap members).filter (·.kind = kind)).map read := by
        rw [map_snd_placed]
    _ = (b.levels.flatMap fun level => (part level).map make).map read := by
        rw [List.filter_flatMap]
        simp only [hpart]
    _ = (b.levels.flatMap part).map fun x => read (make x) := by
        rw [← List.map_flatMap, List.map_map]
        rfl

theorem functions_eq : b.members.filter (·.kind = .functionDecl) = b.functions.map .ofFunction := by
  simp [members, Member.kind, List.filter_map, Function.comp_def]

theorem vars_eq : b.members.filter (·.kind = .variableDecl) = b.vars.map .ofVariable := by
  simp [members, Member.kind, List.filter_map, Function.comp_def]

theorem macros_eq : b.members.filter (·.kind = .macroDecl) = b.macros.map .ofMacro := by
  simp [members, Member.kind, List.filter_map, Function.comp_def]

end Body

/-- What is sorted by line is in the order of what can be read off it, if the lines are. -/
theorem map_mergeSort_eq {α β : Type} (line : α → Int) {read : α → β} (lineOf : β → Int)
    (hline : ∀ x, lineOf (read x) = line x) {l : List α} {items : List β}
    (h : (l.map read).Perm items) (hitems : items.Pairwise (lineOf · < lineOf ·)) :
    (l.mergeSort fun a b => line a ≤ line b).map read = items := by
  let sorted := l.mergeSort fun a b => line a ≤ line b
  have hsorted : (sorted.map read).Pairwise (lineOf · ≤ lineOf ·) := by
    refine List.pairwise_map.mpr ((pairwise_mergeSort_line line l).imp fun hab => ?_)
    rwa [hline, hline]
  have hperm : (sorted.map read).Perm items := ((List.mergeSort_perm l _).map read).trans h
  have hnodup : (items.map lineOf).Nodup := (List.pairwise_map.mpr hitems).imp Int.ne_of_lt
  -- Two items of one line are the same.
  have hantisymm : ∀ a b, a ∈ sorted.map read → b ∈ items → lineOf a ≤ lineOf b →
      lineOf b ≤ lineOf a → a = b := by
    intro a b ha hb hab hba
    exact List.inj_on_of_nodup_map hnodup (hperm.mem_iff.mp ha) hb (Int.le_antisymm hab hba)
  exact hperm.eq_of_pairwise hantisymm hsorted (hitems.imp fun hab => Int.le_of_lt hab)

/-- The lines of the classes that lines declare. -/
theorem lines_classHeads (lines : List Line) :
    (lines.filterMap Line.classHead?).map (·.line) = linesDeclaring .classDecl lines := by
  have hline : ∀ line : Line, line.classHead?.toList.map (·.line) =
      if line.declares? = some .classDecl then [line.number] else [] := by
    intro line
    unfold Line.classHead? Line.declares?
    cases line.isBlank
    · cases Statement.ofText line.code <;> rfl
    · rfl
  induction lines with
  | nil => rfl
  | cons line lines ih =>
    have hfirst : (line :: lines).filterMap Line.classHead? =
        line.classHead?.toList ++ lines.filterMap Line.classHead? := by
      cases h : line.classHead? <;> simp [h]
    unfold linesDeclaring at ih ⊢
    rw [hfirst, List.map_append, hline, ih, List.filter_cons]
    by_cases hkind : line.declares? = some .classDecl <;> simp [hkind]

section Table

variable {file : Option String} {lines : List Line} {t : SymbolTable}
  (hbody : t.body = declaredBody file lines)
include hbody

/-- What is read off all declarations of a kind is read off the lines that make them. -/
theorem SymbolTable.perm_of_kind {α β : Type} {part : Body ClassDecl → List α}
    {make : α → Member} {kind : DeclarationKind}
    (hpart : ∀ b : Body ClassDecl, b.members.filter (·.kind = kind) = (part b).map make)
    {read : Member → β} {readLine : Line → β}
    (hread : ∀ owner line, ∀ m ∈ line.members owner file, read m = readLine line) :
    ((t.bodies.flatMap part).map fun x => read (make x)).Perm
      ((lines.filter (·.declares? = some kind)).map readLine) := by
  have hlevels : t.bodies = t.body.levels := rfl
  rw [hlevels, ← Body.map_placed_of_kind t.body hpart, hbody,
    ← Draft.map_placements_of_kind file { state := () } lines hread kind]
  exact ((perm_placed_declaredBody file lines).filter _).map _

theorem SymbolTable.perm_lines_of_kind {α : Type} {part : Body ClassDecl → List α}
    {make : α → Member} {kind : DeclarationKind}
    (hpart : ∀ b : Body ClassDecl, b.members.filter (·.kind = kind) = (part b).map make) :
    ((t.bodies.flatMap part).map fun x => (make x).line).Perm (linesDeclaring kind lines) := by
  apply perm_of_kind hbody hpart
  intro owner line m hm
  rcases line.members_cases owner file with ⟨hnone, -⟩ | ⟨made, hmade, hline, -⟩
  · rw [hnone] at hm
    exact (List.not_mem_nil hm).elim
  · rw [hmade] at hm
    rw [List.mem_singleton.mp hm, hline]

/-- What lines declare is there, in the order of the lines if these are numbered in order. -/
theorem SymbolTable.declaresAll (h : lines.Pairwise (·.number < ·.number)) :
    t.DeclaresAll lines := by
  have hnumbers : ∀ kind, (linesDeclaring kind lines).Pairwise (· < ·) :=
    fun kind => List.pairwise_map.mpr (h.filter _)
  have hclasses : t.allClasses.map (·.line) = linesDeclaring .classDecl lines := by
    rw [← lines_classHeads, ← heads_declaredBody file lines, ← hbody, Body.heads, List.map_map]
    rfl
  exact
    { functions := map_mergeSort_eq _ id (fun _ => rfl)
        (perm_lines_of_kind hbody Body.functions_eq) (hnumbers _)
      vars := map_mergeSort_eq _ id (fun _ => rfl)
        (perm_lines_of_kind hbody Body.vars_eq) (hnumbers _)
      macros := map_mergeSort_eq _ id (fun _ => rfl)
        (perm_lines_of_kind hbody Body.macros_eq) (hnumbers _)
      classes := hclasses }

theorem SymbolTable.scoped : t.Scoped := by
  have hall : ∀ placed ∈ t.body.placed none, placed.2.Fits placed.1 file := by
    rw [hbody]
    exact fun placed hplaced => fits_of_mem_placed hplaced
  -- A member is either at the top level or in a class, and its place says which.
  have htop : ∀ m ∈ t.body.members, m.Fits none file := by
    intro m hm
    exact hall (none, m) (List.mem_append_left _ (List.mem_map_of_mem hm))
  have hinner : ∀ c ∈ t.allClasses, ∀ m ∈ c.body.members, m.Fits (some c.head) file := by
    intro c hc m hm
    refine hall (some c.head, m) (List.mem_append_right _ (List.mem_flatMap.mpr ⟨c, hc, ?_⟩))
    exact List.mem_map_of_mem hm
  exact
    { functions := fun f hf => (htop _ (Body.mem_members_of_functions hf)).1
      vars := fun v hv => htop _ (Body.mem_members_of_vars hv)
      methods := fun c hc f hf => (hinner c hc _ (Body.mem_members_of_functions hf)).1
      fields := fun c hc v hv => hinner c hc _ (Body.mem_members_of_vars hv) }

end Table

section Includes

variable {State : Type} (search : ModuleSearch) (disk : Disk)
  (load : Path → State → ModuleReply × State) (origin : Origin)

theorem Line.include?_of_ne_inclusion {directory : String} {line : Line}
    (hs : ∀ path, Statement.ofText line.code ≠ .inclusion path) :
    line.include? search disk directory = none := by
  unfold include?
  split
  · rfl
  · split
    · next path hp => exact absurd hp (hs path)
    · rfl

namespace Draft

theorem takeReply_includes (d : Draft State) (line : Line) (path : Text.Token) (r : Resolution)
    (reply : ModuleReply) : (d.takeReply line path r reply).includes = d.includes := by
  cases reply with
  | unreadable e => rfl
  | inProgress => rfl
  | outline o =>
    change (d.takeOver line path r o).includes = d.includes
    unfold takeOver
    cases r.selection with
    | none => rfl
    | some selection => cases h : o.table.select? r.file.toText selection <;> simp [h]

theorem readLine_includes (d : Draft State) (line : Line) :
    (d.readLine search disk load origin line).includes =
      d.includes ++ (line.include? search disk origin.directory).toList := by
  rcases line.isBlank_or_inclusion_or with h | ⟨h, ⟨path, hs⟩ | hs⟩
  · rw [readLine_of_isBlank d search disk load origin h]
    simp [Line.include?, h]
  · rw [readLine_of_inclusion d search disk load origin h hs]
    have hadded : line.include? search disk origin.directory =
        (search.resolve? disk origin.directory path.text).map
          (·.toInclude path.text line.number) := by
      simp [Line.include?, h, hs]
    cases hr : search.resolve? disk origin.directory path.text with
    | none =>
      rw [followInclude_of_eq_none _ search disk load hr, hadded, hr]
      simp
    | some r =>
      rw [followInclude_of_eq_some _ search disk load hr, takeReply_includes, hadded, hr]
      simp
  · rw [readLine_of_ne_inclusion d search disk load origin h hs,
      Line.include?_of_ne_inclusion search disk hs]
    simp

theorem readLines_includes (d : Draft State) (lines : List Line) :
    (lines.foldl (readLine search disk load origin) d).includes =
      d.includes ++ lines.filterMap (Line.include? search disk origin.directory) := by
  induction lines generalizing d with
  | nil => exact (List.append_nil _).symm
  | cons line lines ih =>
    rw [List.foldl_cons, ih, readLine_includes, List.append_assoc]
    cases h : line.include? search disk origin.directory <;> simp [h]

theorem finish_includes (d : Draft State) (lines : List Line) :
    (d.finish origin lines).1.table.includes = d.includes := by
  unfold finish
  dsimp only
  split <;> rfl

end Draft

/-- The includes of an outline are those that its lines add, in their order. -/
theorem Outline.ofLines_includes (lines : List Line) (state : State) :
    (Outline.ofLines search disk load origin lines state).1.table.includes =
      lines.filterMap (Line.include? search disk origin.directory) := by
  have h := Draft.readLines_includes search disk load origin { state := state } lines
  rw [List.nil_append] at h
  rw [ofLines, Draft.finish_includes, h]

variable {search disk} in
theorem Line.line_of_include? {directory : String} {line : Line} {i : Include}
    (h : line.include? search disk directory = some i) : i.line = line.number := by
  unfold include? at h
  split at h
  · cases h
  · split at h
    · obtain ⟨r, -, rfl⟩ := Option.map_eq_some_iff.mp h
      rfl
    · cases h

end Includes

/-- The symbol table of a text has everything that its lines declare, once and in their order,
under the class that it names as its scope, and the includes of its lines in their order. -/
theorem ModuleSource.outline_complete (s : ModuleSource) (isRoot : Bool) (file : Option String)
    (text : List Char) (pass : Pass) :
    let lines := Line.ofSource text
    let t := (s.outline isRoot file lines pass).1.table
    t.DeclaresAll lines ∧ (∀ kind, (linesDeclaring kind lines).Pairwise (· < ·)) ∧ t.Scoped ∧
      t.includes =
        lines.filterMap (Line.include? s.search s.disk (s.rootDirectory file).toText) ∧
      t.includes.Pairwise (·.line < ·.line) := by
  have hnumbers := Line.pairwise_number_ofSource text
  dsimp only
  rw [outline_eq]
  have hbody := Outline.ofLines_body s.search s.disk s.answer
    ⟨(s.rootPath file).elim file fun p => some p.toText, (s.rootDirectory file).toText, isRoot⟩
    (Line.ofSource text) ((s.rootPath file).elim pass fun p => pass.visit p.toText)
  refine ⟨SymbolTable.declaresAll hbody hnumbers, ?_, SymbolTable.scoped hbody,
    Outline.ofLines_includes .., ?_⟩
  · exact fun kind => List.pairwise_map.mpr (hnumbers.filter _)
  · rw [Outline.ofLines_includes]
    refine hnumbers.filterMap _ ?_
    intro line line' hlt i hi i' hi'
    rw [Line.line_of_include? hi, Line.line_of_include? hi']
    exact hlt

end ScriptLint
