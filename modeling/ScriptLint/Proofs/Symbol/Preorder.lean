import ScriptLint.Proofs.Symbol.Walk

/-! Classes with classes inside them form a forest. The walk keeps a stack of the classes that still
wait, and gives the pre-order that recursion over the forest gives. A class is known here by its
address, since two classes of a forest may well be the same in everything. -/
namespace ScriptLint

namespace ClassDecl

mutual

/-- A class and then what is inside it. -/
def preorder : ClassDecl → List ClassDecl
  | ⟨name, line, file, ⟨classes, functions, vars, macros⟩⟩ =>
    ⟨name, line, file, ⟨classes, functions, vars, macros⟩⟩ :: preorderAll classes

/-- The classes of a forest, one tree after the other. -/
def preorderAll : List ClassDecl → List ClassDecl
  | [] => []
  | c :: cs => c.preorder ++ preorderAll cs

end

mutual

/-- The sum of a size over the bodies of a class and of all classes inside it. -/
def tally (size : Body ClassDecl → Nat) : ClassDecl → Nat
  | ⟨_, _, _, ⟨classes, functions, vars, macros⟩⟩ =>
    size ⟨classes, functions, vars, macros⟩ + tallyAll size classes

/-- The sum of a size over the bodies of a forest. -/
def tallyAll (size : Body ClassDecl → Nat) : List ClassDecl → Nat
  | [] => 0
  | c :: cs => c.tally size + tallyAll size cs

end

theorem preorder_eq (c : ClassDecl) : c.preorder = c :: preorderAll c.body.classes := by
  obtain ⟨name, line, file, classes, functions, vars, macros⟩ := c
  rw [preorder]

theorem tally_eq (size : Body ClassDecl → Nat) (c : ClassDecl) :
    c.tally size = size c.body + tallyAll size c.body.classes := by
  obtain ⟨name, line, file, classes, functions, vars, macros⟩ := c
  rw [tally]

/-- The class at an address: the index of a tree, then one for each class on the way down to it. -/
def at? : List Nat → List ClassDecl → Option ClassDecl
  | [], _ => none
  | [i], forest => forest[i]?
  | i :: j :: inner, forest => forest[i]?.bind fun c => at? (j :: inner) c.body.classes

/-- What holds of no classes, and of a class and more if it holds of the classes inside and of the
others, holds of every forest. -/
@[elab_as_elim]
theorem forest_induction {motive : List ClassDecl → Prop} (nil : motive [])
    (cons : ∀ c cs, motive c.body.classes → motive cs → motive (c :: cs))
    (forest : List ClassDecl) : motive forest :=
  -- The classes inside the first are no tail of the list, so it is their number that decreases.
  match forest with
  | [] => nil
  | c :: cs =>
    cons c cs (forest_induction nil cons c.body.classes) (forest_induction nil cons cs)
termination_by countAll forest
decreasing_by all_goals rw [countAll, count_eq]; omega

theorem walk_eq_preorderAll (forest : List ClassDecl) : walk forest = preorderAll forest := by
  induction forest using forest_induction with
  | nil => rw [walk_nil, preorderAll]
  | cons c cs ihInner ih => rw [walk_cons, ihInner, ih, preorderAll, preorder_eq]

theorem length_walk (forest : List ClassDecl) : (walk forest).length = countAll forest := by
  induction forest using forest_induction with
  | nil => rw [walk_nil, countAll, List.length_nil]
  | cons c cs ihInner ih =>
    rw [walk_cons, List.length_append, List.length_cons, ihInner, ih, countAll, count_eq]
    omega

theorem length_flatMap_walk {α : Type} (part : Body ClassDecl → List α)
    (forest : List ClassDecl) :
    ((walk forest).flatMap fun c => part c.body).length =
      tallyAll (fun b => (part b).length) forest := by
  induction forest using forest_induction with
  | nil => rw [walk_nil, tallyAll, List.flatMap_nil, List.length_nil]
  | cons c cs ihInner ih =>
    rw [walk_cons, List.flatMap_append, List.length_append, List.flatMap_cons, List.length_append,
      ihInner, ih, tallyAll, tally_eq]

section Addresses

variable (c : ClassDecl) (cs : List ClassDecl)

theorem at?_cons_first : at? [0] (c :: cs) = some c := by
  rw [at?, List.getElem?_cons_zero]

theorem at?_cons_inner {address : List Nat} (h : address ≠ []) :
    at? (0 :: address) (c :: cs) = at? address c.body.classes := by
  cases address with
  | nil => exact absurd rfl h
  | cons i inner => rw [at?, List.getElem?_cons_zero, Option.bind_some]

theorem at?_cons_later (i : Nat) (inner : List Nat) :
    at? ((i + 1) :: inner) (c :: cs) = at? (i :: inner) cs := by
  cases inner with
  | nil => rw [at?, at?, List.getElem?_cons_succ]
  | cons j inner => rw [at?, at?, List.getElem?_cons_succ]

end Addresses

/-- The addresses of a forest, each once and in lexicographic order, and the classes there. So a
class is visited before what is inside it, and all that before the classes that follow. -/
structure Enumerates (visited forest : List ClassDecl) (addresses : List (List Nat)) : Prop where
  ordered : addresses.Pairwise (· < ·)
  complete : ∀ address, address ∈ addresses ↔ (at? address forest).isSome = true
  visited : addresses.map (at? · forest) = visited.map some

namespace Enumerates

variable {c : ClassDecl} {cs visited forest rest : List ClassDecl}
  {addresses inner later : List (List Nat)}

theorem nil : Enumerates [] [] [] :=
  { ordered := List.Pairwise.nil
    complete := by
      intro address
      match address with
      | [] => simp [at?]
      | [i] => simp [at?]
      | i :: j :: inner => simp [at?]
    visited := rfl }

theorem ne_nil (h : Enumerates visited forest addresses) {address : List Nat}
    (ha : address ∈ addresses) : address ≠ [] := by
  intro hnil
  have hsome := (h.complete address).mp ha
  rw [hnil, at?] at hsome
  cases hsome

/-- The classes that are visited are those that have an address. -/
theorem mem_iff (h : Enumerates visited forest addresses) {c : ClassDecl} :
    c ∈ visited ↔ ∃ address, at? address forest = some c := by
  calc c ∈ visited
      ↔ some c ∈ addresses.map (at? · forest) := by
        rw [h.visited]
        simp
    _ ↔ ∃ address ∈ addresses, at? address forest = some c := List.mem_map
    _ ↔ ∃ address, at? address forest = some c := by
        constructor
        · rintro ⟨address, -, heq⟩
          exact ⟨address, heq⟩
        · rintro ⟨address, heq⟩
          exact ⟨address, (h.complete address).mpr (heq ▸ rfl), heq⟩

section Tree

/-! The addresses of one tree: its root has the index 0, and the others begin with it. -/

theorem mem_tree {address : List Nat} : address ∈ [0] :: inner.map (0 :: ·) ↔
    ∃ tail, address = 0 :: tail ∧ (tail = [] ∨ tail ∈ inner) := by
  rw [List.mem_cons, List.mem_map]
  constructor
  · rintro (rfl | ⟨tail, htail, rfl⟩)
    · exact ⟨[], rfl, Or.inl rfl⟩
    · exact ⟨tail, rfl, Or.inr htail⟩
  · rintro ⟨tail, rfl, rfl | htail⟩
    · exact Or.inl rfl
    · exact Or.inr ⟨tail, htail, rfl⟩

variable (h : Enumerates visited c.body.classes inner)
include h

theorem ordered_tree : ([0] :: inner.map (0 :: ·)).Pairwise (· < ·) := by
  refine List.pairwise_cons.mpr ⟨?_, List.pairwise_map.mpr ?_⟩
  -- The address of the root is a proper prefix of those inside it.
  · intro address ha
    obtain ⟨tail, htail, rfl⟩ := List.mem_map.mp ha
    obtain ⟨j, more, rfl⟩ := List.exists_cons_of_ne_nil (h.ne_nil htail)
    exact List.cons_lt_cons_iff.mpr (Or.inr ⟨rfl, List.nil_lt_cons j more⟩)
  · apply h.ordered.imp
    intro a b hab
    exact List.cons_lt_cons_iff.mpr (Or.inr ⟨rfl, hab⟩)

theorem visited_tree :
    ([0] :: inner.map (0 :: ·)).map (at? · (c :: cs)) = (c :: visited).map some := by
  rw [List.map_cons, List.map_cons, at?_cons_first, ← h.visited, List.map_map]
  congr 1
  apply List.map_congr_left
  intro address ha
  exact at?_cons_inner c cs (h.ne_nil ha)

end Tree

section Later

/-! The addresses of the trees after the first: their first index is one larger than without it. -/

variable (h : Enumerates rest cs later)
include h

theorem mem_later {address : List Nat} : address ∈ later.map (List.modifyHead (· + 1)) ↔
    ∃ i tail, address = (i + 1) :: tail ∧ i :: tail ∈ later := by
  rw [List.mem_map]
  constructor
  · rintro ⟨shifted, hmem, rfl⟩
    obtain ⟨i, tail, rfl⟩ := List.exists_cons_of_ne_nil (h.ne_nil hmem)
    exact ⟨i, tail, rfl, hmem⟩
  · rintro ⟨i, tail, rfl, hmem⟩
    exact ⟨i :: tail, hmem, rfl⟩

theorem ordered_later : (later.map (List.modifyHead (· + 1))).Pairwise (· < ·) := by
  apply List.pairwise_map.mpr
  apply h.ordered.imp_of_mem
  intro a b ha hb hab
  obtain ⟨i, tail, rfl⟩ := List.exists_cons_of_ne_nil (h.ne_nil ha)
  obtain ⟨j, tail', rfl⟩ := List.exists_cons_of_ne_nil (h.ne_nil hb)
  apply List.cons_lt_cons_iff.mpr
  rcases List.cons_lt_cons_iff.mp hab with hlt | ⟨rfl, hlt⟩
  · exact Or.inl (Nat.succ_lt_succ hlt)
  · exact Or.inr ⟨rfl, hlt⟩

theorem visited_later :
    (later.map (List.modifyHead (· + 1))).map (at? · (c :: cs)) = rest.map some := by
  rw [← h.visited, List.map_map]
  apply List.map_congr_left
  intro address ha
  obtain ⟨i, tail, rfl⟩ := List.exists_cons_of_ne_nil (h.ne_nil ha)
  exact at?_cons_later c cs i tail

end Later

/-- One more tree in front of a forest. -/
theorem cons (hinner : Enumerates visited c.body.classes inner)
    (hlater : Enumerates rest cs later) :
    Enumerates (c :: visited ++ rest) (c :: cs)
      (([0] :: inner.map (0 :: ·)) ++ later.map (List.modifyHead (· + 1))) := by
  constructor
  case ordered =>
    refine List.pairwise_append.mpr ⟨hinner.ordered_tree, hlater.ordered_later, ?_⟩
    -- The first index is 0 in the new tree and larger in the others.
    intro a ha b hb
    obtain ⟨tail, rfl, -⟩ := mem_tree.mp ha
    obtain ⟨j, tail', rfl, -⟩ := hlater.mem_later.mp hb
    exact List.cons_lt_cons_iff.mpr (Or.inl (Nat.succ_pos j))
  case complete =>
    intro address
    rw [List.mem_append, mem_tree, hlater.mem_later]
    -- The first index says whether the address is in the new tree, where it is the root or inside.
    match address with
    | [] => simp [at?]
    | [0] => simp [at?]
    | 0 :: j :: tail =>
      rw [at?_cons_inner c cs (List.cons_ne_nil j tail), ← hinner.complete]
      simp
    | (i + 1) :: tail =>
      rw [at?_cons_later, ← hlater.complete]
      constructor
      · rintro (⟨_, heq, -⟩ | ⟨_, _, heq, hmem⟩)
        · cases heq
        · cases heq
          exact hmem
      · exact fun hmem => Or.inr ⟨i, tail, rfl, hmem⟩
  case visited =>
    rw [List.map_append, List.map_append, hinner.visited_tree, hlater.visited_later]

end Enumerates

/-- The walk visits every class of a forest, at every depth, and each once. -/
theorem exists_enumerates_walk (forest : List ClassDecl) :
    ∃ addresses, Enumerates (walk forest) forest addresses := by
  induction forest using forest_induction with
  | nil =>
    rw [walk_nil]
    exact ⟨[], Enumerates.nil⟩
  | cons c cs ihInner ih =>
    obtain ⟨inner, hinner⟩ := ihInner
    obtain ⟨later, hlater⟩ := ih
    rw [walk_cons]
    exact ⟨_, hinner.cons hlater⟩

end ClassDecl

end ScriptLint
