/-!
# Association lists

A finite map as a list of pairs in which no key stands twice.  `assign` keeps the order in which
the keys first came.
-/

namespace CodeSurvey

/-- Sets the value of a key: a key that is present keeps its place, another goes to the end. -/
def assign {α : Type} (key : String) (value : α) : List (String × α) → List (String × α)
  | [] => [(key, value)]
  | (k, v) :: rest => if k = key then (key, value) :: rest else (k, v) :: assign key value rest

theorem lookup_assign_self {α : Type} (key : String) (value : α) (l : List (String × α)) :
    (assign key value l).lookup key = some value := by
  induction l with
  | nil => simp [assign]
  | cons p l ih =>
    obtain ⟨k, v⟩ := p
    by_cases hk : k = key
    · simp [assign, hk]
    · have h : (key == k) = false := by simpa using fun e => hk e.symm
      simp only [assign, hk, if_false, List.lookup_cons, h, ih]

theorem lookup_assign_of_ne {α : Type} {key other : String} (h : other ≠ key) (value : α)
    (l : List (String × α)) : (assign key value l).lookup other = l.lookup other := by
  have h' : (other == key) = false := by simpa using h
  induction l with
  | nil => simp [assign, List.lookup_cons, h']
  | cons p l ih =>
    obtain ⟨k, v⟩ := p
    by_cases hk : k = key
    · simp [assign, hk, List.lookup_cons, h']
    · simp only [assign, hk, if_false, List.lookup_cons, ih]

theorem keys_assign {α : Type} (key : String) (value : α) (l : List (String × α)) :
    (assign key value l).map (·.1) =
      if key ∈ l.map (·.1) then l.map (·.1) else l.map (·.1) ++ [key] := by
  induction l with
  | nil => simp [assign]
  | cons p l ih =>
    obtain ⟨k, v⟩ := p
    by_cases hk : k = key
    · simp [assign, hk]
    · simp only [assign, hk, if_false, List.map_cons, ih, List.mem_cons, Ne.symm hk, false_or]
      split <;> rfl

/-- A key that is not present goes to the end. -/
theorem assign_of_not_mem_keys {α : Type} {key : String} {l : List (String × α)}
    (h : key ∉ l.map (·.1)) (value : α) : assign key value l = l ++ [(key, value)] := by
  induction l with
  | nil => rfl
  | cons p l ih =>
    obtain ⟨k, v⟩ := p
    rw [List.map_cons, List.mem_cons, not_or] at h
    rw [assign, if_neg (Ne.symm h.1), ih h.2, List.cons_append]

theorem foldl_assign_append {α β : Type} (key : β → String) (value : β → α) {l : List β}
    {start : List (String × α)} (h : (start.map (·.1) ++ l.map key).Nodup) :
    l.foldl (fun m b => assign (key b) (value b) m) start =
      start ++ l.map fun b => (key b, value b) := by
  induction l generalizing start with
  | nil => simp
  | cons b l ih =>
    have hnew : key b ∉ start.map (·.1) := fun hmem =>
      (List.nodup_append.1 h).2.2 _ hmem _ (by simp) rfl
    rw [List.foldl_cons, assign_of_not_mem_keys hnew, ih (by simpa using h)]
    simp

/-- Keys that are set one after the other, none of them twice, stand in this order. -/
theorem foldl_assign_of_nodup {α β : Type} (key : β → String) (value : β → α) {l : List β}
    (h : (l.map key).Nodup) :
    l.foldl (fun m b => assign (key b) (value b) m) [] = l.map fun b => (key b, value b) :=
  foldl_assign_append key value h

section Lookup

variable {κ α : Type} [BEq κ] [LawfulBEq κ]

theorem lookup_eq_none_iff_not_mem_keys (key : κ) (l : List (κ × α)) :
    l.lookup key = none ↔ key ∉ l.map (·.1) := by
  simp only [List.lookup_eq_none_iff, List.mem_map, not_exists, not_and]
  constructor
  · rintro h p hp rfl
    simpa using h p hp
  · intro h p hp
    simpa using fun e => h p hp e.symm

theorem isSome_lookup_iff_mem_keys (key : κ) (l : List (κ × α)) :
    (l.lookup key).isSome ↔ key ∈ l.map (·.1) := by
  simp only [List.lookup_isSome_iff, List.mem_map, beq_iff_eq]
  exact exists_congr fun p => and_congr_right fun _ => eq_comm

/-- Where no key stands twice, a pair in the list is the one that is found. -/
theorem lookup_eq_some_iff_mem {key : κ} {value : α} {l : List (κ × α)}
    (h : (l.map (·.1)).Nodup) : l.lookup key = some value ↔ (key, value) ∈ l := by
  induction l with
  | nil => simp
  | cons p l ih =>
    obtain ⟨k, v⟩ := p
    rw [List.map_cons, List.nodup_cons] at h
    rw [List.lookup_cons, List.mem_cons, ← ih h.2]
    by_cases hk : key = k
    · subst hk
      have hnone : l.lookup key = none := (lookup_eq_none_iff_not_mem_keys key l).2 h.1
      simp [hnone, eq_comm]
    · have hk' : (key == k) = false := by simpa using hk
      simp [hk, hk']

end Lookup

end CodeSurvey
