/-!
# Parley.Table — names and values in the order of their first writing

A table is a list of names with values in which no name occurs twice.  Writing a known name keeps
its place, writing a new one puts it at the end.
-/

namespace Parley

/-- Names with values, the oldest first. -/
abbrev Table (κ α : Type) := List (κ × α)

namespace Table

variable {κ α : Type} [DecidableEq κ]

def get? (table : Table κ α) (name : κ) : Option α :=
  match table with
  | [] => none
  | (key, value) :: rest => if key = name then some value else get? rest name

def has (table : Table κ α) (name : κ) : Bool := (table.get? name).isSome

/-- A known name keeps its place, a new one goes to the end. -/
def put (table : Table κ α) (name : κ) (value : α) : Table κ α :=
  match table with
  | [] => [(name, value)]
  | (key, old) :: rest =>
    if key = name then (key, value) :: rest else (key, old) :: put rest name value

def erase (table : Table κ α) (name : κ) : Table κ α :=
  table.filter fun entry => entry.1 ≠ name

/-- Later entries win, at the place of the first of their name. -/
def mergeAll (table extra : Table κ α) : Table κ α :=
  extra.foldl (fun table entry => table.put entry.1 entry.2) table

def ofPairs (pairs : List (κ × α)) : Table κ α := mergeAll [] pairs

def names (table : Table κ α) : List κ := table.map Prod.fst
def values (table : Table κ α) : List α := table.map Prod.snd

@[simp] theorem get?_nil (name : κ) : get? ([] : Table κ α) name = none := rfl

theorem get?_put_self (table : Table κ α) (name : κ) (value : α) :
    (table.put name value).get? name = some value := by
  induction table with
  | nil => simp [put, get?]
  | cons entry rest ih =>
    by_cases h : entry.1 = name <;> simp [put, get?, h, ih]

theorem get?_put_of_ne (table : Table κ α) {name other : κ} (value : α)
    (h : other ≠ name) : (table.put name value).get? other = table.get? other := by
  induction table with
  | nil => simp [put, get?, Ne.symm h]
  | cons entry rest ih =>
    by_cases hk : entry.1 = name
    · have ho : entry.1 ≠ other := by rw [hk]; exact Ne.symm h
      simp [put, get?, hk, Ne.symm h]
    · by_cases ho : entry.1 = other
      · simp [put, get?, ho, h]
      · simp [put, get?, hk, ho, ih]

theorem get?_erase_self (table : Table κ α) (name : κ) :
    (table.erase name).get? name = none := by
  induction table with
  | nil => rfl
  | cons entry rest ih =>
    by_cases h : entry.1 = name
    · simpa [erase, h] using ih
    · simpa [erase, get?, h] using ih

theorem get?_erase_of_ne (table : Table κ α) {name other : κ} (h : other ≠ name) :
    (table.erase name).get? other = table.get? other := by
  induction table with
  | nil => rfl
  | cons entry rest ih =>
    by_cases hk : entry.1 = name
    · have ho : entry.1 ≠ other := by rw [hk]; exact Ne.symm h
      simpa [erase, get?, hk, Ne.symm h] using ih
    · by_cases ho : entry.1 = other
      · simp [erase, get?, ho, h]
      · simpa [erase, get?, hk, ho] using ih

theorem mem_of_get? {table : Table κ α} {name : κ} {value : α}
    (h : table.get? name = some value) : (name, value) ∈ table := by
  induction table with
  | nil => simp at h
  | cons entry rest ih =>
    by_cases hk : entry.1 = name
    · simp only [get?, hk, if_true, Option.some.injEq] at h
      subst hk h
      exact List.mem_cons_self
    · simp only [get?, hk, if_false] at h
      exact List.mem_cons_of_mem _ (ih h)

theorem mem_values_of_get? {table : Table κ α} {name : κ} {value : α}
    (h : table.get? name = some value) : value ∈ table.values :=
  List.mem_map_of_mem (f := Prod.snd) (mem_of_get? h)

theorem get?_map {β : Type} (f : α → β) (table : Table κ α) (name : κ) :
    get? (table.map fun entry => (entry.1, f entry.2)) name = (table.get? name).map f := by
  induction table with
  | nil => rfl
  | cons entry rest ih =>
    by_cases h : entry.1 = name <;> simp [get?, h, ih]

theorem get?_append (table more : Table κ α) (name : κ) :
    get? (table ++ more) name = (table.get? name).or (get? more name) := by
  induction table with
  | nil => rfl
  | cons entry rest ih =>
    by_cases h : entry.1 = name <;> simp [get?, h, ih]

/-- A new name goes to the end. -/
theorem put_of_not_has {table : Table κ α} {name : κ} (value : α) (h : table.has name = false) :
    table.put name value = table ++ [(name, value)] := by
  induction table with
  | nil => rfl
  | cons entry rest ih =>
    by_cases hk : entry.1 = name
    · simp [has, get?, hk] at h
    · have hrest : has rest name = false := by simpa [has, get?, hk] using h
      simp [put, hk, ih hrest]

theorem has_eq_false_iff {table : Table κ α} {name : κ} :
    table.has name = false ↔ name ∉ table.names := by
  induction table with
  | nil => simp [has, names]
  | cons entry rest ih =>
    by_cases hk : entry.1 = name
    · simp [has, get?, names, hk]
    · have hrest : has (entry :: rest) name = has rest name := by simp [has, get?, hk]
      rw [hrest, ih]
      simp [names, Ne.symm hk]

theorem has_iff {table : Table κ α} {name : κ} : table.has name = true ↔ name ∈ table.names := by
  rw [← Bool.not_eq_false, has_eq_false_iff, Classical.not_not]

/-- In a table with different names, every entry is the one of its name. -/
theorem get?_of_mem {table : Table κ α} {name : κ} {value : α} (hnodup : table.names.Nodup)
    (h : (name, value) ∈ table) : table.get? name = some value := by
  induction table with
  | nil => exact absurd h List.not_mem_nil
  | cons entry rest ih =>
    obtain ⟨hnew, hrest⟩ := List.nodup_cons.mp hnodup
    rcases List.mem_cons.mp h with rfl | h
    · simp [get?]
    · have hne : entry.1 ≠ name := fun heq => hnew (heq ▸ List.mem_map_of_mem h)
      rw [get?, if_neg hne]
      exact ih hrest h

/-! ### What is put and erased -/

section Keeps

variable {table : Table κ α} {name : κ} {value : α} {P : α → Prop}

theorem mem_names_put {other : κ} (h : other ∈ (table.put name value).names) :
    other = name ∨ other ∈ table.names := by
  induction table with
  | nil => exact .inl (List.mem_singleton.mp h)
  | cons entry rest ih =>
    by_cases hk : entry.1 = name
    · rw [put, if_pos hk] at h
      exact .inr h
    · rw [put, if_neg hk] at h
      rcases List.mem_cons.mp h with h | h
      · exact .inr (h ▸ List.mem_cons_self)
      · exact (ih h).imp_right (List.mem_cons_of_mem _)

theorem nodup_put (h : table.names.Nodup) : (table.put name value).names.Nodup := by
  induction table with
  | nil => exact List.nodup_cons.mpr ⟨List.not_mem_nil, List.nodup_nil⟩
  | cons entry rest ih =>
    obtain ⟨hnew, hrest⟩ := List.nodup_cons.mp h
    by_cases hk : entry.1 = name
    · rw [put, if_pos hk]
      exact h
    · rw [put, if_neg hk]
      refine List.nodup_cons.mpr ⟨fun hmem => ?_, ih hrest⟩
      rcases mem_names_put hmem with hsame | hmem
      · exact hk hsame
      · exact hnew hmem

theorem nodup_erase (h : table.names.Nodup) : (table.erase name).names.Nodup :=
  h.sublist (List.filter_sublist.map _)

/-- What is true of all values stays so when one is put that it is true of. -/
theorem forall_values_put (h : ∀ a ∈ table.values, P a) (hvalue : P value) :
    ∀ a ∈ (table.put name value).values, P a := by
  induction table with
  | nil => exact fun a ha => List.mem_singleton.mp ha ▸ hvalue
  | cons entry rest ih =>
    obtain ⟨hold, hrest⟩ := List.forall_mem_cons.mp h
    by_cases hk : entry.1 = name
    · rw [put, if_pos hk]
      exact List.forall_mem_cons.mpr ⟨hvalue, hrest⟩
    · rw [put, if_neg hk]
      exact List.forall_mem_cons.mpr ⟨hold, ih hrest⟩

theorem forall_values_erase (h : ∀ a ∈ table.values, P a) :
    ∀ a ∈ (table.erase name).values, P a :=
  fun a ha => h a ((List.filter_sublist.map Prod.snd).subset ha)

end Keeps

end Table

end Parley
