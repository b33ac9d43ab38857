import Mathlib.Data.List.Induction
import Mathlib.Data.List.Nodup
import ScriptLint.Workspace

/-! Entries with keys. Setting an entry changes what is found under its own key alone, and a new key
comes behind the others; so an entry keeps its place, and no key is there twice. -/
namespace ScriptLint

variable {α : Type} (entries : List (String × α)) (key other : String) (value : α)

theorem lookup_cons_eq_ite (entry : String × α) :
    (entry :: entries).lookup other =
      if other = entry.1 then some entry.2 else entries.lookup other := by
  obtain ⟨k, a⟩ := entry
  rw [List.lookup_cons]
  by_cases h : other = k
  · simp [h]
  · simp [beq_false_of_ne h, h]

theorem any_key_iff : (entries.any (·.1 = key)) = true ↔ key ∈ entries.map (·.1) := by
  simp

theorem isSome_lookup_iff : (entries.lookup key).isSome ↔ key ∈ entries.map (·.1) := by
  rw [List.lookup_isSome_iff, List.mem_map]
  constructor
  · rintro ⟨entry, hentry, hkey⟩
    exact ⟨entry, hentry, (beq_iff_eq.mp hkey).symm⟩
  · rintro ⟨entry, hentry, hkey⟩
    exact ⟨entry, hentry, beq_iff_eq.mpr hkey.symm⟩

theorem lookup_replaced :
    (entries.map fun entry => if entry.1 = key then (key, value) else entry).lookup other =
      if other = key then (entries.lookup key).map fun _ => value else entries.lookup other := by
  induction entries with
  | nil => simp
  | cons entry entries ih =>
    rw [List.map_cons]
    by_cases hentry : entry.1 = key
    · rw [if_pos hentry]
      simp only [lookup_cons_eq_ite, ih, hentry, ↓reduceIte]
      by_cases hother : other = key <;> simp [hother]
    · rw [if_neg hentry]
      simp only [lookup_cons_eq_ite, ih, Ne.symm hentry, ↓reduceIte]
      by_cases hother : other = key <;> simp [hother, Ne.symm hentry]

theorem lookup_setEntry :
    (setEntry entries key value).lookup other =
      if other = key then some value else entries.lookup other := by
  unfold setEntry
  split
  · next h =>
    have hsome := (isSome_lookup_iff entries key).mpr ((any_key_iff entries key).mp h)
    obtain ⟨a, ha⟩ := Option.isSome_iff_exists.mp hsome
    rw [lookup_replaced, ha]
    rfl
  · next h =>
    have hnone : entries.lookup key = none := by
      rw [← Option.not_isSome_iff_eq_none, isSome_lookup_iff, ← any_key_iff]
      exact h
    rw [List.lookup_append, lookup_cons_eq_ite]
    by_cases hother : other = key
    · simp [hother, hnone]
    · simp [hother]

theorem lookup_removeEntry :
    (removeEntry entries key).lookup other =
      if other = key then none else entries.lookup other := by
  unfold removeEntry
  induction entries with
  | nil => simp
  | cons entry entries ih =>
    rw [List.filter_cons]
    by_cases hentry : entry.1 = key
    · rw [if_neg (by simp [hentry]), ih, lookup_cons_eq_ite]
      by_cases hother : other = key <;> simp [hentry, hother]
    · rw [if_pos (by simp [hentry]), lookup_cons_eq_ite, lookup_cons_eq_ite, ih]
      by_cases hother : other = key
      · simp [hother, Ne.symm hentry]
      · simp [hother]

theorem keys_setEntry :
    (setEntry entries key value).map (·.1) =
      if key ∈ entries.map (·.1) then entries.map (·.1) else entries.map (·.1) ++ [key] := by
  unfold setEntry
  by_cases h : key ∈ entries.map (·.1)
  · rw [if_pos ((any_key_iff entries key).mpr h), if_pos h, List.map_map]
    refine List.map_congr_left fun entry _ => ?_
    by_cases hentry : entry.1 = key <;> simp [hentry]
  · rw [if_neg fun hany => h ((any_key_iff entries key).mp hany), if_neg h, List.map_append]
    rfl

/-- A key that is there keeps its place, and a new one comes behind the others. -/
theorem keys_prefix_setEntry :
    entries.map (·.1) <+: (setEntry entries key value).map (·.1) := by
  rw [keys_setEntry]
  split
  · exact List.prefix_refl _
  · exact List.prefix_append _ _

theorem keys_removeEntry :
    (removeEntry entries key).map (·.1) = (entries.map (·.1)).filter (· ≠ key) := by
  rw [removeEntry, List.filter_map]
  rfl

theorem mem_keys_setEntry :
    other ∈ (setEntry entries key value).map (·.1) ↔
      other = key ∨ other ∈ entries.map (·.1) := by
  rw [keys_setEntry]
  split
  · next h => exact ⟨Or.inr, fun hor => hor.elim (fun heq => heq ▸ h) id⟩
  · rw [List.mem_append, List.mem_singleton, or_comm]

theorem nodup_keys_setEntry (h : (entries.map (·.1)).Nodup) :
    ((setEntry entries key value).map (·.1)).Nodup := by
  rw [keys_setEntry]
  split
  · exact h
  · next hnew => exact h.append (List.nodup_singleton key) (by simpa using hnew)

/-- Setting the value of a key leaves its entry where it is. -/
theorem setEntry_middle {front back : List (String × α)} {old : α}
    (h : ((front ++ (key, old) :: back).map (·.1)).Nodup) :
    setEntry (front ++ (key, old) :: back) key value = front ++ (key, value) :: back := by
  rw [List.map_append, List.map_cons, List.nodup_middle, List.nodup_cons, List.mem_append] at h
  have hother (part : List (String × α)) (hpart : key ∉ part.map (·.1)) :
      (part.map fun entry => if entry.1 = key then (key, value) else entry) = part := by
    rw [List.map_congr_left (g := id), List.map_id]
    intro entry hentry
    have hne : entry.1 ≠ key := fun hkey => hpart (hkey ▸ List.mem_map_of_mem hentry)
    exact if_neg hne
  rw [setEntry, if_pos ((any_key_iff _ key).mpr (by simp)), List.map_append, List.map_cons,
    hother front fun hmem => h.1 (.inl hmem), hother back fun hmem => h.1 (.inr hmem)]
  simp

theorem removeEntry_setEntry :
    removeEntry (setEntry entries key value) key = removeEntry entries key := by
  unfold setEntry
  split
  · -- The entries that are kept are not those that were replaced.
    rw [removeEntry, removeEntry, List.filter_map]
    have hkeys : (fun entry : String × α => decide (entry.1 ≠ key)) ∘
        (fun entry => if entry.1 = key then (key, value) else entry) =
          fun entry => decide (entry.1 ≠ key) := by
      funext entry
      by_cases hentry : entry.1 = key <;> simp [hentry]
    rw [hkeys, List.map_congr_left (g := id), List.map_id]
    intro entry hentry
    exact if_neg (of_decide_eq_true (List.mem_filter.mp hentry).2)
  · rw [removeEntry, List.filter_append]
    simp [removeEntry]

/-- The entries after updates. An update gives a key a new value, or takes its entry away. -/
def replay (entries : List (String × α)) (updates : List (String × Option α)) :
    List (String × α) :=
  updates.foldl
    (fun entries update => update.2.elim (removeEntry entries update.1) (setEntry entries update.1))
    entries

/-- The value that a key has by the latest update of it. -/
def latest? (updates : List (String × Option α)) (key : String) : Option α :=
  (updates.reverse.lookup key).join

theorem replay_append (updates more : List (String × Option α)) :
    replay entries (updates ++ more) = replay (replay entries updates) more :=
  List.foldl_append

/-- The latest update of a key decides what is found under it, and without one it is what was found
before. -/
theorem lookup_replay (updates : List (String × Option α)) :
    (replay entries updates).lookup key =
      (updates.reverse.lookup key).getD (entries.lookup key) := by
  induction updates using List.reverseRecOn with
  | nil => rfl
  | append_singleton updates update ih =>
    obtain ⟨other, change⟩ := update
    rw [replay_append, List.reverse_append, List.reverse_singleton, List.singleton_append,
      lookup_cons_eq_ite, apply_ite (Option.getD · _), ← ih]
    cases change with
    | none => exact lookup_removeEntry _ _ _
    | some value => exact lookup_setEntry _ _ _ _

theorem lookup_replay_nil (updates : List (String × Option α)) :
    (replay [] updates).lookup key = latest? updates key := by
  rw [lookup_replay, latest?]
  cases updates.reverse.lookup key <;> rfl

end ScriptLint
