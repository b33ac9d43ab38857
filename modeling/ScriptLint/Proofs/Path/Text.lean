import ScriptLint.Path.Basic
import ScriptLint.Proofs.Text.Pieces

/-! The text of a normal path tells the path: its components are the names behind the slashes that
start it. -/
namespace ScriptLint.Path

theorem toList_toText (p : Path) :
    p.toText.toList = (if p.doubled then ['/', '/'] else ['/']) ++
      ['/'].intercalate (p.names.map String.toList) := by
  cases h : p.doubled <;> simp [toText, h, String.toList_intercalate]

theorem toText_ne_empty (p : Path) : p.toText ≠ "" := by
  intro h
  have hlist := congrArg String.toList h
  rw [toList_toText] at hlist
  cases hp : p.doubled <;> simp [hp] at hlist

theorem slash_not_mem_of_mem_names {p : Path} {name : String} (h : name ∈ p.names) :
    '/' ∉ name.toList :=
  (p.isEntryName_of_mem name h).2.2.2

theorem pieces_intercalate_names (p : Path) :
    Text.pieces '/' (['/'].intercalate (p.names.map String.toList)) =
      if p.names = [] then [[]] else p.names.map String.toList := by
  split
  · next h => simp [h, Text.pieces]
  · next h =>
    apply Text.pieces_intercalate
    · intro part hpart
      obtain ⟨name, hname, rfl⟩ := List.mem_map.mp hpart
      exact slash_not_mem_of_mem_names hname
    · simpa using h

/-- The components of a normal path: an empty one for each slash at its start, and its names. -/
theorem components_toText (p : Path) :
    components p.toText = (if p.doubled then ["", ""] else [""]) ++
      if p.names = [] then [""] else p.names := by
  have hofList : ∀ names : List String, (names.map String.toList).map String.ofList = names := by
    intro names
    rw [List.map_map]
    exact List.map_id'' (fun name => String.ofList_toList) names
  unfold components
  rw [toList_toText]
  cases p.doubled
  · simp only [Bool.false_eq_true, ↓reduceIte, List.cons_append, List.nil_append,
      Text.pieces_sep_cons, pieces_intercalate_names]
    split <;> simp [hofList]
  · simp only [↓reduceIte, List.cons_append, List.nil_append,
      Text.pieces_sep_cons, pieces_intercalate_names]
    split <;> simp [hofList]

theorem ne_empty_of_mem_names {p : Path} {name : String} (h : name ∈ p.names) : name ≠ "" :=
  (p.isEntryName_of_mem name h).1

theorem filter_components_toText (p : Path) :
    (components p.toText).filter (· ≠ "") = p.names := by
  have hnames : p.names.filter (· ≠ "") = p.names :=
    List.filter_eq_self.mpr fun name hname => by simpa using ne_empty_of_mem_names hname
  have hslashes : (if p.doubled then ["", ""] else [""]).filter (· ≠ "") = [] := by
    cases p.doubled <;> rfl
  rw [components_toText, List.filter_append, hslashes, List.nil_append]
  split
  · next h => rw [h]; rfl
  · exact hnames

/-- The text of a normal path is the text of no other. -/
theorem toText_injective : Function.Injective toText := by
  intro p q h
  -- The names are the components that are not empty; the slashes are counted by the length.
  have hnames : p.names = q.names := by
    rw [← filter_components_toText p, h, filter_components_toText]
  have hdoubled : p.doubled = q.doubled := by
    have hlist := congrArg String.toList h
    rw [toList_toText, toList_toText, hnames] at hlist
    have hlength := congrArg List.length (List.append_cancel_right hlist)
    cases hp : p.doubled <;> cases hq : q.doubled <;> simp [hp, hq] at hlength ⊢
  cases p
  cases q
  cases hnames
  cases hdoubled
  rfl

theorem enter_empty (p : Path) : p.enter "" = p := by
  have hname : ¬IsEntryName "" := fun h => h.1 rfl
  rw [enter, dif_neg hname, if_neg (by decide)]

theorem foldl_enter_names (start : Path) (names : List String)
    (h : ∀ name ∈ names, IsEntryName name) :
    (names.foldl enter start).doubled = start.doubled ∧
      (names.foldl enter start).names = start.names ++ names := by
  induction names generalizing start with
  | nil => exact ⟨rfl, (List.append_nil _).symm⟩
  | cons name names ih =>
    have hname := h name List.mem_cons_self
    have henter : start.enter name = start.child name hname := by rw [enter, dif_pos hname]
    obtain ⟨hdoubled, hnames⟩ := ih (start.child name hname) fun n hn =>
      h n (List.mem_cons_of_mem name hn)
    rw [List.foldl_cons, henter]
    exact ⟨hdoubled, by rw [hnames]; simp [child]⟩

theorem leadingSlashes_toText (p : Path) :
    leadingSlashes p.toText = if p.doubled then 2 else 1 := by
  have hnames : (['/'].intercalate (p.names.map String.toList)).takeWhile (· == '/') = [] := by
    match hp : p.names with
    | [] => rfl
    | name :: names =>
      have hmem : name ∈ p.names := by rw [hp]; exact List.mem_cons_self
      -- A name is not empty and has no slash, so what follows the root starts with something else.
      obtain ⟨c, cs, hlist⟩ := List.exists_cons_of_ne_nil
        (mt String.toList_eq_nil_iff.mp (ne_empty_of_mem_names hmem))
      have hc : c ≠ '/' := by
        intro hc
        apply slash_not_mem_of_mem_names hmem
        rw [hlist, hc]
        exact List.mem_cons_self
      cases names <;> simp [hlist, hc, List.intercalate]
  rw [leadingSlashes, toList_toText]
  cases p.doubled <;> simp [hnames]

/-- The text of a normal path leads to that path from everywhere. -/
theorem resolve_toText (base p : Path) : base.resolve p.toText = p := by
  have hentries (start : Path) :
      ((if p.names = [] then [""] else p.names).foldl enter start).doubled = start.doubled ∧
        ((if p.names = [] then [""] else p.names).foldl enter start).names =
          start.names ++ p.names := by
    split
    · next h => simp [enter_empty, h]
    · exact foldl_enter_names start p.names p.isEntryName_of_mem
  have heq : ∀ q : Path, q.doubled = p.doubled ∧ q.names = p.names → q = p := by
    rintro ⟨doubled, names, hq⟩ ⟨rfl, rfl⟩
    rfl
  apply heq
  rw [resolve, components_toText, leadingSlashes_toText, List.foldl_append]
  cases p.doubled
  · simpa [enter_empty] using hentries {}
  · simpa [enter_empty] using hentries { doubled := true }

theorem mem_of_mem_components {text component : String} {c : Char} (h : component ∈ components text)
    (hc : c ∈ component.toList) : c ∈ text.toList := by
  obtain ⟨piece, hpiece, rfl⟩ := List.mem_map.mp h
  rw [String.toList_ofList] at hc
  exact Text.mem_of_mem_pieces hpiece hc

theorem exists_mem_names_of_mem_toText {p : Path} {c : Char} (hc : c ∈ p.toText.toList)
    (hslash : c ≠ '/') : ∃ name ∈ p.names, c ∈ name.toList := by
  obtain ⟨piece, hpiece, hin⟩ := Text.exists_mem_pieces hc hslash
  refine ⟨String.ofList piece, ?_, by rwa [String.toList_ofList]⟩
  rw [← filter_components_toText, List.mem_filter]
  refine ⟨List.mem_map_of_mem hpiece, ?_⟩
  -- The components that are left out are empty, and this one holds the character.
  have hne : String.ofList piece ≠ "" := by
    intro hempty
    rw [String.ofList_eq_empty_iff] at hempty
    rw [hempty] at hin
    exact List.not_mem_nil hin
  exact decide_eq_true hne

theorem mem_names_enter {p : Path} {component name : String}
    (h : name ∈ (p.enter component).names) : name ∈ p.names ∨ name = component := by
  unfold enter at h
  split at h
  · rcases List.mem_append.mp h with h | h
    · exact .inl h
    · exact .inr (List.mem_singleton.mp h)
  · split at h
    · exact .inl ((List.dropLast_sublist _).subset h)
    · exact .inl h

theorem mem_names_foldl_enter {start : Path} {parts : List String} {name : String}
    (h : name ∈ (parts.foldl enter start).names) : name ∈ start.names ∨ name ∈ parts := by
  induction parts generalizing start with
  | nil => exact .inl h
  | cons part parts ih =>
    rcases ih h with h | h
    · rcases mem_names_enter h with h | rfl
      · exact .inl h
      · exact .inr List.mem_cons_self
    · exact .inr (List.mem_cons_of_mem part h)

/-- An absolute text leads to names that are among its own components. -/
theorem mem_components_of_mem_resolve {base : Path} {text name : String}
    (habsolute : leadingSlashes text ≠ 0) (h : name ∈ (base.resolve text).names) :
    name ∈ components text := by
  rw [resolve] at h
  rcases mem_names_foldl_enter h with h | h
  · split at h
    · next hzero => exact absurd hzero habsolute
    · exact (List.not_mem_nil h).elim
    · exact (List.not_mem_nil h).elim
  · exact h

end ScriptLint.Path
