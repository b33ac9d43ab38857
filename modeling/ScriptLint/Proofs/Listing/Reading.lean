import ScriptLint.Proofs.Listing.Lines
import ScriptLint.Proofs.Module.Reach

/-! Reading a listing gives the declarations that it prints. What is preserved from line to line is
that the body of each open class rests on the braces that are open, so that a closing brace ends the
class it was printed for and the braces of functions and macros end none. -/
namespace ScriptLint

/-- The declarations of one body and then those of another. -/
def Body.append (a b : Body ClassDecl) : Body ClassDecl where
  classes := a.classes ++ b.classes
  functions := a.functions ++ b.functions
  vars := a.vars ++ b.vars
  macros := a.macros ++ b.macros

namespace Draft

variable {State : Type} (d : Draft State)

/-- The innermost open class rests on braces that are open. -/
def Rests (unclosed : List Int) : Prop :=
  ∀ c ∈ d.openClasses.head?, c.depth ≤ unclosed.length

theorem modifyBody_modifyBody (f g : Body ClassDecl → Body ClassDecl) :
    (d.modifyBody f).modifyBody g = d.modifyBody fun b => g (f b) := by
  obtain ⟨_, _ | _, _, _, _, _, _⟩ := d <;> rfl

theorem modifyBody_owner? (f : Body ClassDecl → Body ClassDecl) :
    (d.modifyBody f).owner? = d.owner? := by
  obtain ⟨_, _ | _, _, _, _, _, _⟩ := d <;> rfl

theorem rests_modifyBody {f : Body ClassDecl → Body ClassDecl} {unclosed : List Int} :
    (d.modifyBody f).Rests unclosed ↔ d.Rests unclosed := by
  obtain ⟨_, _ | _, _, _, _, _, _⟩ := d <;> simp [Rests, modifyBody]

theorem Rests.modifyBody {d : Draft State} (h : d.Rests d.unclosed)
    (f : Body ClassDecl → Body ClassDecl) : (d.modifyBody f).Rests (d.modifyBody f).unclosed := by
  rw [modifyBody_unclosed]
  exact (rests_modifyBody d).mpr h

theorem modifyBody_with_unclosed (f : Body ClassDecl → Body ClassDecl) (unclosed : List Int) :
    { d with unclosed := unclosed }.modifyBody f =
      { d.modifyBody f with unclosed := unclosed } := by
  obtain ⟨_, _ | _, _, _, _, _, _⟩ := d <;> rfl

theorem report_nil : d.report [] = d := by
  simp [report]

variable {d} {file : Option String} {line : Line} {unclosed : List Int}

/-- No class ends on a line behind which all of them still rest on open braces. -/
theorem settle_of_rests (hbraces : matchBraces d.unclosed line = (unclosed, false))
    (h : d.Rests unclosed) : d.settle file line = { d with unclosed := unclosed } := by
  have hstay : ¬∃ c ∈ d.openClasses.head?, unclosed.length < c.depth :=
    fun ⟨c, hc, hlt⟩ => absurd (h c hc) (Nat.not_le.mpr hlt)
  have hclosed : d.openClasses.takeWhile (unclosed.length < ·.depth) = [] := by
    cases hopen : d.openClasses with
    | nil => rfl
    | cons c cs =>
      refine List.takeWhile_cons_of_neg fun hlt => hstay ⟨c, by simp [hopen], ?_⟩
      simpa using hlt
  rw [settle, hbraces]
  simp only [closeBelow, hclosed, OpenClass.closeAll?, List.foldl_nil, Bool.false_eq_true,
    ↓reduceIte, report_nil]

/-- A class ends on the line that closes the brace on which its body rests. -/
theorem settle_of_closes {c : OpenClass} {cs : List OpenClass}
    (hbraces : matchBraces d.unclosed line = (unclosed, false)) (hopen : d.openClasses = c :: cs)
    (hc : unclosed.length < c.depth) (h : { d with openClasses := cs }.Rests unclosed) :
    d.settle file line = { d with unclosed := unclosed, openClasses := cs }.modifyBody
      (·.addClass (c.close file none)) := by
  have hstay : cs.takeWhile (unclosed.length < ·.depth) = [] ∧
      cs.dropWhile (unclosed.length < ·.depth) = cs := by
    cases cs with
    | nil => exact ⟨rfl, rfl⟩
    | cons inner cs =>
      have hle : ¬unclosed.length < inner.depth := Nat.not_lt.mpr (h inner rfl)
      exact ⟨List.takeWhile_cons_of_neg (by simpa using hle),
        List.dropWhile_cons_of_neg (by simpa using hle)⟩
  have htake : (c :: cs).takeWhile (unclosed.length < ·.depth) = [c] := by
    rw [List.takeWhile_cons_of_pos (by simpa using hc), hstay.1]
  have hdrop : (c :: cs).dropWhile (unclosed.length < ·.depth) = cs := by
    rw [List.dropWhile_cons_of_pos (by simpa using hc), hstay.2]
  rw [settle, hbraces]
  simp only [closeBelow, hopen, htake, hdrop, OpenClass.closeAll?, List.foldl_cons,
    List.foldl_nil, Bool.false_eq_true, ↓reduceIte, report_nil]

end Draft

namespace Layout

open Draft

variable (l : Layout) {State : Type} (search : ModuleSearch) (disk : Disk)
  (load : Path → State → ModuleReply × State) (origin : Origin)

theorem readLine_of_states {line : Line} {statement : Statement} (h : States line statement)
    (d : Draft State) :
    d.readLine search disk load origin line =
      (d.settle origin.file line).declare origin.file d.unclosed.length line.number statement := by
  have hnot : ∀ path, Statement.ofText line.code ≠ .inclusion path := by
    rw [h.ofText]
    exact h.notInclusion
  rw [readLine_of_ne_inclusion d search disk load origin h.isBlank hnot, h.ofText, h.wellFormed,
    h.complete, ite_self, List.append_nil, report_nil]

/-- A closing brace on a line of its own, when no class ends there, closes a brace. -/
theorem readLine_close {d : Draft State} {line : Int} {unclosed : List Int}
    (hopen : d.unclosed = line :: unclosed) (h : d.Rests unclosed) (n : Nat) :
    d.readLine search disk load origin ⟨n, l.indent n ++ ['\x7d'], false⟩ =
      { d with unclosed := unclosed } := by
  have hbraces : matchBraces d.unclosed ⟨n, l.indent n ++ ['\x7d'], false⟩ =
      (unclosed, false) := by
    rw [hopen, matchBraces_indent isPlain_close]
    rfl
  rw [readLine_of_states search disk load origin (states_close l n), settle_of_rests hbraces h]
  rfl

/-- A head with an empty body adds its declaration, on however many lines the body stands. -/
theorem readLines_withBody {n : Nat} {head : List Char} {statement : Statement}
    (hhead : ∀ c ∈ head, isHeadChar c = true)
    (hstates : ∀ tail ∈ tails.tail, States ⟨n, l.indent n ++ (head ++ tail), false⟩ statement)
    (hclass : ∀ name, statement ≠ .classHead name) {d : Draft State} (h : d.Rests d.unclosed) :
    (Line.numbered n (l.withBody n head)).foldl (readLine search disk load origin) d =
      d.modifyBody (statement.addTo d.owner? origin.file n) := by
  unfold withBody
  split
  · -- The body is closed where it is opened, so the open braces stay as they are.
    have hbraces : matchBraces d.unclosed
        ⟨n, l.indent n ++ (head ++ [' ', '{', ' ', '}']), false⟩ = (d.unclosed, false) := by
      rw [matchBraces_line hhead (by decide)]
      rfl
    rw [Line.numbered, List.foldl_cons, Line.numbered, List.foldl_nil,
      readLine_of_states search disk load origin (hstates _ (by decide)),
      settle_of_rests hbraces h,
      declare_of_not_opens _ _ fun name hname => absurd hname (hclass name)]
  · -- The brace of the body is open for one line, and no class rests on it.
    have hbraces : matchBraces d.unclosed ⟨n, l.indent n ++ (head ++ [' ', '{']), false⟩ =
        ((n : Int) :: d.unclosed, false) := by
      rw [matchBraces_line hhead (by decide)]
      rfl
    have hopened : d.Rests ((n : Int) :: d.unclosed) := fun c hc => Nat.le_succ_of_le (h c hc)
    have hdeclared : ({ d with unclosed := (n : Int) :: d.unclosed }.modifyBody
        (statement.addTo d.owner? origin.file n)).Rests d.unclosed :=
      (rests_modifyBody { d with unclosed := (n : Int) :: d.unclosed }).mpr h
    rw [Line.numbered, List.foldl_cons, Line.numbered, List.foldl_cons, Line.numbered,
      List.foldl_nil, readLine_of_states search disk load origin (hstates _ (by decide)),
      settle_of_rests hbraces hopened,
      declare_of_not_opens _ _ fun name hname => absurd hname (hclass name)]
    refine (readLine_close l search disk load origin (modifyBody_unclosed _ _) hdeclared _).trans ?_
    rw [← modifyBody_with_unclosed]

/-- The lines of a class add the class, with what the lines inside it add to a class that has just
been opened. -/
theorem readLines_class (n last : Nat) (name : Identifier) {innerLines : List Line}
    {members : Body ClassDecl} {d : Draft State} (h : d.Rests d.unclosed)
    (hinner : ∀ opened : Draft State, opened.Rests opened.unclosed →
      opened.owner? = some name.text →
      innerLines.foldl (readLine search disk load origin) opened =
        opened.modifyBody (·.append members)) :
    (⟨n, l.indent n ++ (classHead name ++ [' ', '{']), false⟩ :: (innerLines ++
        [⟨last, l.indent last ++ ['}'], false⟩])).foldl (readLine search disk load origin) d =
      d.modifyBody (·.addClass ⟨name.text, n, origin.file, members⟩) := by
  -- Behind the head the class is open, and it rests on the brace of the head.
  let opened : Draft State :=
    { d with
      unclosed := (n : Int) :: d.unclosed
      openClasses := ⟨name.text, n, d.unclosed.length + 1, {}⟩ :: d.openClasses }
  have hhead : d.readLine search disk load origin
      ⟨n, l.indent n ++ (classHead name ++ [' ', '{']), false⟩ = opened := by
    have hbraces : matchBraces d.unclosed ⟨n, l.indent n ++ (classHead name ++ [' ', '{']), false⟩ =
        ((n : Int) :: d.unclosed, false) := by
      rw [matchBraces_line (isHeadChar_classHead name) (by decide)]
      rfl
    have hrests : d.Rests ((n : Int) :: d.unclosed) := fun c hc => Nat.le_succ_of_le (h c hc)
    rw [readLine_of_states search disk load origin (states_classHead l n name),
      settle_of_rests hbraces hrests, declare_of_opens _ _ (Nat.lt_succ_self d.unclosed.length)]
    rfl
  have hopened : opened.Rests opened.unclosed := by
    intro c hc
    cases hc
    exact Nat.le_refl _
  have hmembers : Body.append {} members = members := by simp [Body.append]
  have hclose : (opened.modifyBody (·.append members)).readLine search disk load origin
      ⟨last, l.indent last ++ ['}'], false⟩ =
        d.modifyBody (·.addClass ⟨name.text, n, origin.file, members⟩) := by
    have hbraces : matchBraces (opened.modifyBody (·.append members)).unclosed
        ⟨last, l.indent last ++ ['}'], false⟩ = (d.unclosed, false) := by
      rw [matchBraces_indent isPlain_close]
      rfl
    rw [readLine_of_states search disk load origin (states_close l last),
      settle_of_closes hbraces rfl (Nat.lt_succ_self d.unclosed.length) h]
    simp only [OpenClass.close, hmembers]
    rfl
  rw [List.foldl_cons, hhead, List.foldl_append, hinner opened hopened rfl, List.foldl_cons,
    List.foldl_nil, hclose]

theorem modifyBody_append {d : Draft State} {f : Body ClassDecl → Body ClassDecl}
    {rest all : Body ClassDecl} (h : ∀ b, (f b).append rest = b.append all) :
    (d.modifyBody f).modifyBody (·.append rest) = d.modifyBody (·.append all) := by
  rw [modifyBody_modifyBody]
  exact congrArg d.modifyBody (funext h)

/-- Reading the lines of declarations adds them to the body that is open, and changes nothing
else. -/
theorem readLines_lines (declarations : Declarations) (n : Nat) {d : Draft State}
    (h : d.Rests d.unclosed) :
    (Line.numbered n (l.lines n declarations)).foldl (readLine search disk load origin) d =
      d.modifyBody (·.append (l.body origin.file d.owner? n declarations)) := by
  -- Inside a class the draft is another one, so the induction is over all drafts.
  induction declarations generalizing n d with
  | done =>
    have hbody : ∀ b : Body ClassDecl, b.append {} = b := by simp [Body.append]
    simp only [lines, Line.numbered, List.foldl_nil, body, hbody]
    exact (modifyBody_id d).symm
  | classDecl name inner more ihinner ihmore =>
    have hlines : Line.numbered n (l.lines n (.classDecl name inner more)) =
        (⟨n, l.indent n ++ (classHead name ++ [' ', '{']), false⟩ ::
          (Line.numbered (n + 1) (l.lines (n + 1) inner) ++
            [⟨(n + 1 + (l.lines (n + 1) inner).length : Nat),
              l.indent (n + 1 + (l.lines (n + 1) inner).length) ++ ['}'], false⟩])) ++
        Line.numbered (n + 1 + (l.lines (n + 1) inner).length + 1)
          (l.lines (n + 1 + (l.lines (n + 1) inner).length + 1) more) := by
      simp [lines, Line.numbered, Line.numbered_append]
    have hinner : ∀ opened : Draft State, opened.Rests opened.unclosed →
        opened.owner? = some name.text →
        (Line.numbered (n + 1) (l.lines (n + 1) inner)).foldl (readLine search disk load origin)
          opened = opened.modifyBody
            (·.append (l.body origin.file (some name.text) (n + 1) inner)) :=
      fun opened hopened howner => howner ▸ ihinner (n + 1) hopened
    have hown := readLines_class l search disk load origin n
      (n + 1 + (l.lines (n + 1) inner).length) name h hinner
    rw [hlines, List.foldl_append, hown, ihmore _ (h.modifyBody _), modifyBody_owner?]
    refine modifyBody_append fun b => ?_
    simp [Body.append, Body.addClass, body]
  | functionDecl name params returnType more ih =>
    have hown := readLines_withBody l search disk load origin
      (isHeadChar_functionHead name params returnType)
      (fun tail htail => states_functionHead l n name params returnType htail)
      (fun _ => Statement.noConfusion) h
    rw [lines, Line.numbered_append, List.foldl_append, hown, ih _ (h.modifyBody _),
      modifyBody_owner?]
    refine modifyBody_append fun b => ?_
    simp [Body.append, Body.addFunction, Statement.addTo, FunctionHead.toDecl, body, functionOf]
  | macroDecl name params more ih =>
    have hown := readLines_withBody l search disk load origin (isHeadChar_macroHead name params)
      (fun tail htail => states_macroHead l n name params htail)
      (fun _ => Statement.noConfusion) h
    rw [lines, Line.numbered_append, List.foldl_append, hown, ih _ (h.modifyBody _),
      modifyBody_owner?]
    refine modifyBody_append fun b => ?_
    simp [Body.append, Body.addMacro, Statement.addTo, body, macroOf]
  | variableDecl name type more ih =>
    have hbraces : matchBraces d.unclosed
        ⟨n, l.indent n ++ (variableStart name ++ type.chars), false⟩ = (d.unclosed, false) := by
      have hchars := isHeadChar_variable name type
      have hopen : '{' ∉ variableStart name ++ type.chars :=
        fun hc => absurd (hchars _ hc) (by decide)
      have hclose : '}' ∉ variableStart name ++ type.chars :=
        fun hc => absurd (hchars _ hc) (by decide)
      rw [matchBraces_indent (isPlain_variable l n name type),
        foldl_matchBrace_of_notMem hopen hclose]
    rw [lines, Line.numbered, List.foldl_cons,
      readLine_of_states search disk load origin (states_variable l n name type),
      settle_of_rests hbraces h, declare_of_not_opens _ _ fun _ => Statement.noConfusion]
    refine (ih (n + 1) (h.modifyBody _)).trans ?_
    rw [modifyBody_owner?]
    refine modifyBody_append fun b => ?_
    simp [Body.append, Body.addVariable, Statement.addTo, body, variableOf]

section Text

/-- The line can be found again in a text: it holds nothing but code and ends in no carriage
return. -/
structure Separable (line : List Char) : Prop where
  isPlain : ∀ c ∈ line, Text.isPlain c = true
  noReturn : line.getLast? ≠ some '\r'

theorem getLast?_indent {n : Nat} {text : List Char} (hne : text ≠ []) (hreturn : '\r' ∉ text) :
    (l.indent n ++ text).getLast? ≠ some '\r' := by
  rw [List.getLast?_append, List.getLast?_eq_some_getLast hne, Option.some_or]
  exact fun h => hreturn (Option.some.inj h ▸ List.getLast_mem hne)

theorem separable_head {head : List Char} (tail : List Char) (n : Nat) (hne : head ≠ [])
    (hhead : ∀ c ∈ head, isHeadChar c = true) (htail : tail ∈ tails) :
    Separable (l.indent n ++ (head ++ tail)) := by
  refine ⟨isPlain_line hhead htail, l.getLast?_indent (by simp [hne]) ?_⟩
  have hreturn : '\r' ∉ tail := (by decide : ∀ t ∈ tails, '\r' ∉ t) tail htail
  exact fun h => (List.mem_append.mp h).elim (fun h => absurd (hhead _ h) (by decide)) hreturn

theorem separable_close (n : Nat) : Separable (l.indent n ++ ['}']) :=
  ⟨isPlain_close, l.getLast?_indent (by decide) (by decide)⟩

theorem separable_withBody {head : List Char} (n : Nat) (hne : head ≠ [])
    (hhead : ∀ c ∈ head, isHeadChar c = true) : ∀ line ∈ l.withBody n head, Separable line := by
  unfold withBody
  split
  · exact List.forall_mem_singleton.mpr (l.separable_head _ n hne hhead (by decide))
  · exact List.forall_mem_cons.mpr ⟨l.separable_head _ n hne hhead (by decide),
      List.forall_mem_singleton.mpr (l.separable_close (n + 1))⟩

theorem separable_lines (declarations : Declarations) (n : Nat) :
    ∀ line ∈ l.lines n declarations, Separable line := by
  induction declarations generalizing n with
  | done => simp [lines]
  | classDecl name inner more ihinner ihmore =>
    have hhead := l.separable_head [' ', '{'] n (by simp [classHead])
      (isHeadChar_classHead name) (by decide)
    exact List.forall_mem_cons.mpr ⟨hhead, List.forall_mem_append.mpr ⟨ihinner _,
      List.forall_mem_cons.mpr ⟨l.separable_close _, ihmore _⟩⟩⟩
  | functionDecl name params returnType more ih =>
    have hown := l.separable_withBody n (by simp [functionHead, functionStart])
      (isHeadChar_functionHead name params returnType)
    exact List.forall_mem_append.mpr ⟨hown, ih _⟩
  | macroDecl name params more ih =>
    have hown := l.separable_withBody n (by simp [macroHead]) (isHeadChar_macroHead name params)
    exact List.forall_mem_append.mpr ⟨hown, ih _⟩
  | variableDecl name type more ih =>
    have hown := l.separable_head [] n (by simp [variableStart])
      (isHeadChar_variable name type) (by decide)
    rw [List.append_nil] at hown
    exact List.forall_mem_cons.mpr ⟨hown, ih _⟩

/-- The lines of the text of a listing are the printed ones, and then maybe an empty one. -/
theorem ofSource_text (declarations : Declarations) :
    ∃ last, last ∈ [[], [[]]] ∧ Line.ofSource (l.text declarations) =
      Line.numbered 1 (l.lines 1 declarations ++ last) := by
  have hempty : Separable [] := ⟨by simp, by simp⟩
  -- A line feed behind the last line is one in front of an empty line.
  have hall : ∀ last ∈ [[], [[]]], ∀ line ∈ l.lines 1 declarations ++ last, Separable line := by
    simp only [List.mem_cons, List.not_mem_nil, or_false]
    rintro last (rfl | rfl)
    · simpa using l.separable_lines declarations 1
    · exact List.forall_mem_append.mpr ⟨l.separable_lines declarations 1,
        List.forall_mem_singleton.mpr hempty⟩
  have hjoined : ∀ last ∈ [[], [[]]], l.lines 1 declarations ++ last ≠ [] →
      Line.ofSource (['\n'].intercalate (l.lines 1 declarations ++ last)) =
        Line.numbered 1 (l.lines 1 declarations ++ last) := by
    intro last hlast hne
    rw [Line.ofSource, Text.sourceLines_intercalate hne
      (fun line h => Text.lineFeed_notMem_of_plain (hall last hlast line h).isPlain)
      (fun line h => (hall last hlast line h).noReturn)]
    exact Line.ofSource_go_of_plain (fun line h => (hall last hlast line h).isPlain) 1
  unfold text
  cases l.endsLastLine with
  | true => exact ⟨[[]], by simp, hjoined [[]] (by simp) (by simp)⟩
  | false =>
    -- Even a text without any characters has a line, which is empty.
    by_cases hne : l.lines 1 declarations = []
    · exact ⟨[[]], by simp, by rw [hne]; rfl⟩
    · exact ⟨[], by simp, hjoined [] (by simp) (by simpa using hne)⟩

end Text

/-- The outline of a listing, wherever its modules would come from. -/
theorem ofLines_text (declarations : Declarations) (state : State) :
    Outline.ofLines search disk load origin (Line.ofSource (l.text declarations)) state =
      (⟨⟨origin.file, l.body origin.file none 1 declarations, [], {}⟩, []⟩, state) := by
  obtain ⟨last, hlast, hlines⟩ := l.ofSource_text declarations
  have hskip : ∀ d : Draft State,
      (Line.numbered (1 + (l.lines 1 declarations).length) last).foldl
        (readLine search disk load origin) d = d := by
    intro d
    rcases List.mem_cons.mp hlast with rfl | hlast
    · rfl
    · rw [List.mem_singleton.mp hlast, Line.numbered, List.foldl_cons, Line.numbered,
        List.foldl_nil, readLine_of_isBlank d search disk load origin rfl]
  have hread := readLines_lines l search disk load origin declarations 1
    (d := { state := state }) (by simp [Rests])
  have hbody : ∀ b : Body ClassDecl, Body.append {} b = b := by simp [Body.append]
  rw [Outline.ofLines, hlines, Line.numbered_append, List.foldl_append, hread, hskip]
  simp only [modifyBody, hbody, finish, OpenClass.closeAll?, List.foldl_nil]
  rfl

end Layout

/-- Reading undoes printing. The outline of the text of a listing declares what was printed, each
declaration in the list of its kind where it was printed, and finds nothing. -/
theorem ModuleSource.outline_listing (s : ModuleSource) (isRoot : Bool) (file : Option String)
    (pass : Pass) (l : Layout) (declarations : Declarations) :
    let name := (s.rootPath file).elim file fun path => some path.toText
    (s.outline isRoot file (Line.ofSource (l.text declarations)) pass).1 =
      ⟨⟨name, l.body name none 1 declarations, [], {}⟩, []⟩ := by
  intro name
  rw [s.outline_eq, l.ofLines_text]

end ScriptLint
