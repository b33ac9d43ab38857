import ScriptLint.Proofs.Path.Text

/-! Paths that are joined, and what lies below a directory. A part that is made of names alone leads
further down from wherever the directory leads, since nothing in it leads up again. -/
namespace ScriptLint

namespace Path

/-- The path goes on behind the directory, by one name or more. -/
structure Below (p directory : Path) : Prop where
  doubled : p.doubled = directory.doubled
  names : ∃ more, more ≠ [] ∧ p.names = directory.names ++ more

/-- What lies below the directory around a path lies below every directory that has the path. -/
theorem Below.of_parent {p q directory : Path} (h : p.Below q.parent) (hq : q.Below directory) :
    p.Below directory := by
  obtain ⟨more, hmore, hnames⟩ := hq.names
  obtain ⟨further, hfurther, hdown⟩ := h.names
  refine ⟨h.doubled.trans hq.doubled, more.dropLast ++ further, by simp [hfurther], ?_⟩
  calc p.names = q.names.dropLast ++ further := hdown
    _ = (directory.names ++ more).dropLast ++ further := by rw [hnames]
    _ = directory.names ++ (more.dropLast ++ further) := by
      rw [List.dropLast_append_of_ne_nil hmore, List.append_assoc]

theorem components_append_slash (front back : String) :
    components (front ++ "/" ++ back) = components front ++ components back := by
  have hlist : (front ++ "/" ++ back).toList = front.toList ++ '/' :: back.toList := by simp
  rw [components, hlist, Text.pieces_append_sep_cons, List.map_append]
  rfl

theorem components_empty : components "" = [""] := rfl

theorem components_of_notMem {text : String} (h : '/' ∉ text.toList) :
    components text = [text] := by
  rw [components, Text.pieces_of_notMem h]
  simp

/-- A text that starts with a slash has an empty component in front. -/
theorem head?_ne_slash_of_components {text : String} (h : "" ∉ components text) :
    text.toList.head? ≠ some '/' := by
  intro hhead
  apply h
  obtain ⟨more, hmore⟩ := List.head?_eq_some_iff.mp hhead
  rw [components, hmore, Text.pieces_sep_cons]
  exact List.mem_cons_self

theorem exists_eq_append_slash {text : String} (h : text.toList.getLast? = some '/') :
    ∃ front, text = front ++ "/" := by
  obtain ⟨front, hfront⟩ := List.getLast?_eq_some_iff.mp h
  refine ⟨String.ofList front, String.toList_inj.mp ?_⟩
  rw [hfront, String.toList_append, String.toList_ofList]
  rfl

/-- Joining puts one slash between the two texts, unless the first one is empty or ends with one. -/
theorem joinPath_cases (directory : String) {part : String} (h : part.toList.head? ≠ some '/') :
    (directory = "" ∧ joinPath directory part = part) ∨
      (∃ front, directory = front ++ "/" ∧ joinPath directory part = front ++ "/" ++ part) ∨
      directory ≠ "" ∧ directory.toList.getLast? ≠ some '/' ∧
        joinPath directory part = directory ++ "/" ++ part := by
  unfold joinPath
  rw [if_neg h]
  by_cases hempty : directory = ""
  · exact .inl ⟨hempty, by simp [hempty]⟩
  · by_cases hlast : directory.toList.getLast? = some '/'
    · rw [if_pos (.inr hlast)]
      obtain ⟨front, hfront⟩ := exists_eq_append_slash hlast
      exact .inr (.inl ⟨front, hfront, congrArg (· ++ part) hfront⟩)
    · rw [if_neg (by simp [hempty, hlast])]
      exact .inr (.inr ⟨hempty, hlast, rfl⟩)

theorem leadingSlashes_joinPath (directory : String) {part : String}
    (h : part.toList.head? ≠ some '/') :
    leadingSlashes (joinPath directory part) = leadingSlashes directory := by
  have hpart : part.toList.takeWhile (· == '/') = [] := by
    cases hlist : part.toList with
    | nil => rfl
    | cons c cs =>
      apply List.takeWhile_cons_of_neg
      simpa [hlist] using h
  rcases joinPath_cases directory h with ⟨rfl, hjoin⟩ | ⟨front, rfl, hjoin⟩ | ⟨hne, hlast, hjoin⟩
  · rw [hjoin, leadingSlashes, hpart]
    rfl
  · rw [hjoin, leadingSlashes, leadingSlashes, String.toList_append, List.takeWhile_append, hpart]
    split <;> simp_all
  · -- Some character of the directory is no slash, so the count ends before its last one.
    have hall : (directory.toList.takeWhile (· == '/')).length ≠ directory.toList.length := by
      intro hlength
      have heq := (List.takeWhile_prefix (l := directory.toList) (· == '/')).eq_of_length hlength
      obtain ⟨c, hc⟩ := Option.isSome_iff_exists.mp
        (List.getLast?_isSome.mpr (mt String.toList_eq_nil_iff.mp hne))
      have hslash := List.all_eq_true.mp (heq ▸ List.all_takeWhile) c (List.mem_of_getLast? hc)
      exact hlast (hc.trans (congrArg some (beq_iff_eq.mp hslash)))
    rw [hjoin, leadingSlashes, leadingSlashes, String.toList_append, String.toList_append,
      List.append_assoc, List.takeWhile_append, if_neg hall]

/-- A part made of names is entered behind the directory. -/
theorem resolve_joinPath (base : Path) (directory : String) {part : String}
    (hnames : ∀ name ∈ components part, IsEntryName name) :
    (base.resolve (joinPath directory part)).doubled = (base.resolve directory).doubled ∧
      (base.resolve (joinPath directory part)).names =
        (base.resolve directory).names ++ components part := by
  have hhead : part.toList.head? ≠ some '/' :=
    head?_ne_slash_of_components fun hempty => (hnames _ hempty).1 rfl
  -- Empty components change nothing, so the directory is left where it was reached.
  have henter : ∀ start : Path, (components (joinPath directory part)).foldl enter start =
      (components part).foldl enter ((components directory).foldl enter start) := by
    intro start
    rcases joinPath_cases directory hhead with ⟨rfl, hjoin⟩ | ⟨front, rfl, hjoin⟩ | ⟨-, -, hjoin⟩
    · rw [hjoin, components_empty, List.foldl_cons, List.foldl_nil, enter_empty]
    · have hfront : components (front ++ "/") = components front ++ [""] := by
        simpa [components_empty] using components_append_slash front ""
      rw [hjoin, hfront, components_append_slash, List.foldl_append, List.foldl_append,
        List.foldl_cons, List.foldl_nil, enter_empty]
    · rw [hjoin, components_append_slash, List.foldl_append]
  unfold resolve
  rw [leadingSlashes_joinPath directory hhead, henter]
  exact foldl_enter_names _ _ hnames

theorem resolve_joinPath_below (base : Path) (directory : String) {part : String}
    (hnames : ∀ name ∈ components part, IsEntryName name) :
    (base.resolve (joinPath directory part)).Below (base.resolve directory) := by
  obtain ⟨hdoubled, hdown⟩ := resolve_joinPath base directory hnames
  refine ⟨hdoubled, components part, ?_, hdown⟩
  rw [components, ne_eq, List.map_eq_nil_iff]
  exact Text.pieces_ne_nil _ _

end Path

end ScriptLint
