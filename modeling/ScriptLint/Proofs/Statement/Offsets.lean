import ScriptLint.Proofs.Statement.Tokens

/-! Offsets of what a statement says. A name, a type, an access modifier and a path are each found
in the text at the offset that comes with them, and so are the types of parameters, although they
are read from a part of the text; these stand one behind the other, and before the type that the
function returns. -/
namespace ScriptLint

open Text (Cursor Token)

namespace Grammar

variable {c d : Cursor}

/-- The types of parameters stand one behind the other, and within the text they are read from. -/
theorem pairwise_parameters (text : List Char) (base : Int) :
    ((parameters text base).map (·.offset)).Pairwise (· < ·) := by
  have hplace : ∀ c found next, parameter? c = some (found, next) →
      c.offset ≤ found.2.offset ∧ found.2.offset < next.offset := by
    intro c found next hread
    simp only [parameter?, Option.bind_eq_bind, Option.bind_eq_some_iff] at hread
    obtain ⟨⟨name, c₁⟩, hname, c₂, hblanks, ⟨type, c₃⟩, htype, heq⟩ := hread
    cases heq
    have hreach := (Cursor.reads_of_name? hname).reaches.trans (Cursor.reaches_of_blanks? hblanks)
    have hreads := Cursor.reads_of_typeName? htype
    have hle := hreach.offset_le
    have hstart := hreads.offset_eq
    have hlength := hreads.offset_add_length
    have hpos := hreads.length_pos
    dsimp only
    omega
  unfold parameters
  rw [List.map_map, List.pairwise_map]
  refine (Text.pairwise_occurrences (fun found => found.2.offset) hplace text).imp ?_
  rintro ⟨_, _, type⟩ ⟨_, _, later⟩ hlt
  have hlt : type.offset < later.offset := hlt
  show base + type.offset < base + later.offset
  omega

theorem parameters_lt {text : List Char} {base : Nat} :
    ∀ p ∈ parameters text base, p.offset < base + text.length := by
  intro p hp
  -- The base may be any, so the text is put behind that many characters.
  have hpart : text <+: (List.replicate base ' ' ++ text).drop base := by simp
  obtain ⟨token, hin, -, hoffset⟩ := parameters_hasAt hpart p hp
  have hle := hin.add_le
  have hpos := hin.length_pos
  rw [List.length_append, List.length_replicate] at hle
  omega

/-- The types of a function stand one behind the other, that it returns being the last. -/
theorem functionHead?_ordered {head : FunctionHead}
    (h : functionHead? c = some (.functionHead head)) :
    (head.params.map (·.offset)).Pairwise (· < ·) ∧
      ∀ p ∈ head.params, p.offset < head.returnType.offset := by
  simp only [functionHead?, Option.bind_eq_bind, Option.bind_eq_some_iff] at h
  obtain ⟨c₁, -, c₂, -, ⟨name, c₃⟩, -, c₄, -, ⟨params, c₅⟩, hparams, c₆, harrow,
    ⟨returnType, c₇⟩, htype, heq⟩ := h
  cases heq
  refine ⟨pairwise_parameters params c₄.offset, ?_⟩
  -- A parameter ends before the bracket that closes the list, and the arrow stands behind that.
  intro p hp
  have hlt : p.offset < c₄.offset + params.length := parameters_lt p hp
  have hclose : c₅.offset = c₄.offset + (params.length + 1) := by
    simp only [Cursor.upTo?, Option.ite_none_right_eq_some, Option.some.injEq, Prod.mk.injEq]
      at hparams
    obtain ⟨-, rfl, rfl⟩ := hparams
    rfl
  have hreach : c₅.offset ≤ c₆.skipBlanks.offset :=
    ((Cursor.reaches_of_skipBlanks_word? harrow).trans (Cursor.reaches_skipBlanks c₆)).offset_le
  have hstart := (Cursor.reads_of_typeName? htype).offset_eq
  dsimp only
  omega

/-- The base of the offsets is added to each of them, and to nothing else. -/
theorem parameters_eq_map (text : List Char) (base : Int) :
    parameters text base =
      (parameters text 0).map fun p => { p with offset := base + p.offset } := by
  unfold parameters
  rw [List.map_map]
  apply List.map_congr_left
  intro found hfound
  simp

/-- The types of parameters stand in the text that they are read from, whatever the base. -/
theorem parameters_hasAt_sub (text : List Char) (base : Int) :
    ∀ p ∈ parameters text base, Text.HasAt text p.type (p.offset - base) := by
  intro p hp
  rw [parameters_eq_map] at hp
  obtain ⟨q, hq, rfl⟩ := List.mem_map.mp hp
  have hprefix : text <+: text.drop 0 := List.prefix_refl text
  have hat : Text.HasAt text q.type q.offset := parameters_hasAt hprefix q hq
  dsimp only
  rwa [Int.add_comm, Int.add_sub_cancel]

end Grammar

namespace Statement

/-- The name that the statement declares. -/
def name? : Statement → Option Token
  | .classHead name | .macroHead name _ | .variableDecl _ name _ => some name
  | .functionHead head => some head.name
  | _ => none

/-- The type of the variable, or the one that the function returns. -/
def type? : Statement → Option Token
  | .variableDecl _ _ type => some type
  | .functionHead head => some head.returnType
  | _ => none

/-- The access modifier that is written in front. -/
def access? : Statement → Option Token
  | .variableDecl access _ _ => access
  | .functionHead head => head.access
  | _ => none

/-- The path of the module that is included. -/
def path? : Statement → Option Token
  | .inclusion path => some path
  | _ => none

/-- The typed parameters of the function. -/
def params : Statement → List Parameter
  | .functionHead head => head.params
  | _ => []

/-- What the statement says stands in the text where the offsets say. -/
structure Placed (s : Statement) (text : List Char) : Prop where
  name : ∀ t ∈ s.name?, t.In text
  type : ∀ t ∈ s.type?, t.In text
  access : ∀ t ∈ s.access?, t.In text
  path : ∀ t ∈ s.path?, t.In text
  params : ∀ p ∈ s.params, Text.HasAt text p.type p.offset
  ordered : (s.params.map (·.offset)).Pairwise (· < ·)
  before : ∀ p ∈ s.params, ∃ t ∈ s.type?, p.offset < t.offset

variable {s : Statement} {text : List Char}

/-- What has no parameters has only its tokens to place. -/
theorem Placed.of_params_eq_nil (hparams : s.params = []) (hname : ∀ t ∈ s.name?, t.In text)
    (htype : ∀ t ∈ s.type?, t.In text) (haccess : ∀ t ∈ s.access?, t.In text)
    (hpath : ∀ t ∈ s.path?, t.In text) : s.Placed text where
  name := hname
  type := htype
  access := haccess
  path := hpath
  params := by simp [hparams]
  ordered := by simp [hparams]
  before := by simp [hparams]

/-- Whatever a text says, it is found there by its offsets; and the types of parameters are found in
any text that they are read from. -/
theorem placed_ofText (text : List Char) :
    (ofText text).Placed text ∧
      ∀ (part : List Char) (base : Int), ∀ p ∈ Grammar.parameters part base,
        Text.HasAt part p.type (p.offset - base) := by
  refine ⟨?_, Grammar.parameters_hasAt_sub⟩
  have hnone : ∀ t ∈ (none : Option Token), t.In text := fun _ ht => nomatch ht
  have hsome : ∀ {t : Token}, t.In text → ∀ u ∈ some t, u.In text :=
    fun h u hu => Option.mem_some.mp hu ▸ h
  have htokens := tokensIn_ofText text
  cases hs : ofText text with
  | functionHead head =>
    rw [hs] at htokens
    obtain ⟨hordered, hbefore⟩ := Grammar.functionHead?_ordered (functionHead?_of_ofText hs)
    exact
      { name := hsome htokens.name
        type := hsome htokens.returnType
        access := htokens.access
        path := hnone
        params := htokens.params
        ordered := hordered
        before := fun p hp => ⟨head.returnType, rfl, hbefore p hp⟩ }
  | variableDecl access name type =>
    rw [hs] at htokens
    obtain ⟨haccess, hname, htype⟩ := htokens
    exact .of_params_eq_nil rfl (hsome hname) (hsome htype) haccess hnone
  | inclusion path =>
    rw [hs] at htokens
    exact .of_params_eq_nil rfl hnone hnone hnone (hsome htokens)
  | classHead name | macroHead name params =>
    rw [hs] at htokens
    exact .of_params_eq_nil rfl (hsome htokens) hnone hnone hnone
  | malformed kind | conditional | other =>
    exact .of_params_eq_nil rfl hnone hnone hnone hnone

/-- The second parameter stands behind a sign that belongs to none. What the line has in front of
its brackets moves the offset, in the list of the parameters alone it is less by as much. -/
theorem placed_ofText_method :
    let text := "private def f( a  int, 1 b T[]) -> A[] \x7b".toList
    let part := " a  int, 1 b T[]".toList
    ((ofText text).params.map (·.offset) = [18, 27] ∧
      (ofText text).type?.map (·.offset) = some 35 ∧
      (⟨"b", "T[]", 27⟩ : Parameter) ∈ Grammar.parameters part 14) ∧
    (ofText text).Placed text ∧ Text.HasAt part "T[]" (27 - 14) := by
  intro text part
  have hall : Grammar.parameters part 14 = [⟨"a", "int", 18⟩, ⟨"b", "T[]", 27⟩] := rfl
  have hmem : (⟨"b", "T[]", 27⟩ : Parameter) ∈ Grammar.parameters part 14 := by simp [hall]
  obtain ⟨hplaced, hparams⟩ := placed_ofText text
  exact ⟨⟨by decide +kernel, by decide +kernel, hmem⟩, hplaced, hparams part 14 _ hmem⟩

end Statement

end ScriptLint
