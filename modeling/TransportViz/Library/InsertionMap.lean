import Mathlib.Data.List.Nodup

/-!
# Maps kept in the order of first insertion

Storing under a key that is there replaces the value and leaves the entry at its place; a new key is
appended. A map built from entries whose keys all differ is the list of these entries.
-/

universe u v w x y

structure InsertionMap (κ : Type u) (ν : Type v) where
  entries : List (κ × ν)
  nodup : (entries.map Prod.fst).Nodup

namespace InsertionMap

variable {κ : Type u} {ν : Type v} [DecidableEq κ]

def setEntries (key : κ) (value : ν) : List (κ × ν) → List (κ × ν)
  | [] => [(key, value)]
  | (head, old) :: rest =>
      if head = key then (head, value) :: rest else (head, old) :: setEntries key value rest

theorem map_fst_setEntries (key : κ) (value : ν) (entries : List (κ × ν)) :
    (setEntries key value entries).map Prod.fst =
      if key ∈ entries.map Prod.fst then entries.map Prod.fst
      else entries.map Prod.fst ++ [key] := by
  induction entries with
  | nil => rfl
  | cons e rest ih =>
    rw [setEntries]
    by_cases hkey : e.1 = key
    · simp [hkey]
    · rw [if_neg hkey, List.map_cons, ih]
      by_cases hmem : key ∈ rest.map Prod.fst <;> simp [hmem, Ne.symm hkey]

theorem nodup_setEntries (key : κ) (value : ν) {entries : List (κ × ν)}
    (h : (entries.map Prod.fst).Nodup) : ((setEntries key value entries).map Prod.fst).Nodup := by
  rw [map_fst_setEntries]
  split_ifs with hmem
  · exact h
  · rw [← List.concat_eq_append]
    exact h.concat hmem

def empty : InsertionMap κ ν := ⟨[], List.nodup_nil⟩

def set (map : InsertionMap κ ν) (key : κ) (value : ν) : InsertionMap κ ν :=
  ⟨setEntries key value map.entries, nodup_setEntries key value map.nodup⟩

def get? (map : InsertionMap κ ν) (key : κ) : Option ν := map.entries.lookup key

/-- Rewrite every value where it stands. -/
def mapValues (f : ν → ν) (map : InsertionMap κ ν) : InsertionMap κ ν where
  entries := map.entries.map fun e ↦ (e.1, f e.2)
  nodup := by
    rw [List.map_map]
    exact map.nodup

def ofList (entries : List (κ × ν)) : InsertionMap κ ν :=
  entries.foldl (fun map e ↦ map.set e.1 e.2) empty

def erase (map : InsertionMap κ ν) (key : κ) : InsertionMap κ ν where
  entries := map.entries.filter fun e ↦ e.1 ≠ key
  nodup := map.nodup.sublist (List.filter_sublist.map Prod.fst)

/-- Rewrite or drop every value. -/
def filterMap (f : ν → Option ν) (map : InsertionMap κ ν) : InsertionMap κ ν where
  entries := map.entries.filterMap fun e ↦ (f e.2).map fun value ↦ (e.1, value)
  nodup := by
    have hsub : ((map.entries.filterMap fun e ↦ (f e.2).map fun value ↦ (e.1, value)).map
        Prod.fst).Sublist (map.entries.map Prod.fst) := by
      induction map.entries with
      | nil => exact .slnil
      | cons e rest ih =>
        cases hvalue : f e.2 with
        | none => simpa [hvalue] using ih.cons e.1
        | some value => simpa [hvalue] using ih.cons_cons e.1
    exact map.nodup.sublist hsub

@[simp]
theorem get?_empty (key : κ) : (empty : InsertionMap κ ν).get? key = none := rfl

@[simp]
theorem get?_set (map : InsertionMap κ ν) (key other : κ) (value : ν) :
    (map.set key value).get? other = if other = key then some value else map.get? other := by
  simp only [get?, set]
  induction map.entries with
  | nil =>
    by_cases hother : other = key
    · simp [setEntries, hother]
    · simp [setEntries, hother, List.lookup_cons, beq_false_of_ne hother]
  | cons e rest ih =>
    obtain ⟨head, old⟩ := e
    rw [setEntries]
    by_cases hkey : head = key
    · subst hkey
      by_cases hother : other = head
      · simp [hother]
      · simp [hother, List.lookup_cons, beq_false_of_ne hother]
    · rw [if_neg hkey, List.lookup_cons, List.lookup_cons, ih]
      by_cases hother : other = head
      · simp [hother, hkey]
      · simp [beq_false_of_ne hother]

@[simp]
theorem get?_mapValues (f : ν → ν) (map : InsertionMap κ ν) (key : κ) :
    (map.mapValues f).get? key = (map.get? key).map f := by
  simp only [get?, mapValues]
  induction map.entries with
  | nil => rfl
  | cons e rest ih =>
    rw [List.map_cons, List.lookup_cons, List.lookup_cons, ih]
    cases key == e.1 <;> rfl

theorem mem_entries_iff (map : InsertionMap κ ν) (key : κ) (value : ν) :
    (key, value) ∈ map.entries ↔ map.get? key = some value := by
  obtain ⟨entries, hnodup⟩ := map
  simp only [get?]
  induction entries with
  | nil => simp
  | cons e rest ih =>
    rw [List.map_cons, List.nodup_cons] at hnodup
    rw [List.mem_cons, List.lookup_cons, ih hnodup.2]
    by_cases hkey : key = e.1
    · subst hkey
      have hnone : List.lookup e.1 rest ≠ some value := fun h ↦
        hnodup.1 (List.mem_map.mpr ⟨_, (ih hnodup.2).mpr h, rfl⟩)
      simp [hnone, Prod.ext_iff, eq_comm]
    · simp [beq_false_of_ne hkey, Prod.ext_iff, hkey]

theorem mem_keys_iff (map : InsertionMap κ ν) (key : κ) :
    key ∈ map.entries.map Prod.fst ↔ (map.get? key).isSome := by
  rw [List.mem_map, Option.isSome_iff_exists]
  constructor
  · rintro ⟨e, he, rfl⟩
    exact ⟨e.2, (mem_entries_iff map e.1 e.2).mp he⟩
  · rintro ⟨value, hvalue⟩
    exact ⟨(key, value), (mem_entries_iff map key value).mpr hvalue, rfl⟩

@[simp]
theorem get?_erase (map : InsertionMap κ ν) (key other : κ) :
    (map.erase key).get? other = if other = key then none else map.get? other := by
  apply Option.ext
  intro value
  rw [← mem_entries_iff, erase, List.mem_filter, mem_entries_iff]
  by_cases hkey : other = key <;> simp [hkey]

@[simp]
theorem get?_filterMap (f : ν → Option ν) (map : InsertionMap κ ν) (key : κ) :
    (map.filterMap f).get? key = (map.get? key).bind f := by
  apply Option.ext
  intro value
  rw [← mem_entries_iff, Option.bind_eq_some_iff]
  simp only [filterMap, List.mem_filterMap, Option.map_eq_some_iff, Prod.mk.injEq]
  constructor
  · rintro ⟨e, he, _, hvalue, rfl, rfl⟩
    exact ⟨e.2, (mem_entries_iff _ _ _).mp he, hvalue⟩
  · rintro ⟨old, hold, hvalue⟩
    exact ⟨(key, old), (mem_entries_iff _ _ _).mpr hold, value, hvalue, rfl, rfl⟩

theorem setEntries_of_notMem {key : κ} {entries : List (κ × ν)} (h : key ∉ entries.map Prod.fst)
    (value : ν) : setEntries key value entries = entries ++ [(key, value)] := by
  induction entries with
  | nil => rfl
  | cons e rest ih =>
    rw [List.map_cons, List.mem_cons, not_or] at h
    rw [setEntries, if_neg (Ne.symm h.1), ih h.2, List.cons_append]

/-- Entries whose keys differ are stored one after the other. -/
theorem entries_ofList (entries : List (κ × ν)) (h : (entries.map Prod.fst).Nodup) :
    (ofList entries).entries = entries := by
  have hfold (rest : List (κ × ν)) (map : InsertionMap κ ν)
      (hnodup : ((map.entries ++ rest).map Prod.fst).Nodup) :
      (rest.foldl (fun map e ↦ map.set e.1 e.2) map).entries = map.entries ++ rest := by
    induction rest generalizing map with
    | nil => simp
    | cons e rest ih =>
      have hnew : e.1 ∉ map.entries.map Prod.fst := by
        rw [List.map_append, List.map_cons, List.nodup_append] at hnodup
        exact fun hmem ↦ hnodup.2.2 _ hmem _ (List.mem_cons_self ..) rfl
      have hset : (map.set e.1 e.2).entries = map.entries ++ [e] := setEntries_of_notMem hnew e.2
      rw [List.foldl_cons, ih _ (by simpa [hset] using hnodup), hset, List.append_assoc,
        List.singleton_append]
  exact hfold entries empty h

/-! ## Loops over a map -/

section Loops

variable {α : Type w} {β : Type x} {μ : Type y}

/-- Erasing many keys. -/
theorem get?_foldl_erase (input : List α) (key : α → κ) (map : InsertionMap κ ν) (other : κ) :
    (input.foldl (fun map a ↦ map.erase (key a)) map).get? other =
      if other ∈ input.map key then none else map.get? other := by
  induction input generalizing map with
  | nil => simp
  | cons a rest ih =>
    rw [List.foldl_cons, ih, get?_erase]
    by_cases hhead : other = key a <;> by_cases hrest : other ∈ rest.map key <;>
      simp [hhead, hrest]

/-- Storing under many keys, seen through a reading that tells the values of one key no different. -/
theorem map_get?_foldl_set (input : List α) (key : α → κ) (value : α → ν) (read : ν → β) (b : β)
    (map : InsertionMap κ ν) (other : κ) (h : ∀ a ∈ input, key a = other → read (value a) = b) :
    ((input.foldl (fun map a ↦ map.set (key a) (value a)) map).get? other).map read =
      if other ∈ input.map key then some b else (map.get? other).map read := by
  induction input generalizing map with
  | nil => simp
  | cons a rest ih =>
    rw [List.foldl_cons, ih _ fun c hc ↦ h c (List.mem_cons_of_mem a hc), get?_set]
    by_cases hhead : other = key a
    · simp [hhead, h a (List.mem_cons_self ..) hhead.symm]
    · by_cases hrest : other ∈ rest.map key <;> simp [hhead, hrest]

theorem get?_foldl_set_cases (input : List α) (key : α → κ) (value : α → ν)
    (map : InsertionMap κ ν) {other : κ} {found : ν}
    (h : (input.foldl (fun map a ↦ map.set (key a) (value a)) map).get? other = some found) :
    (∃ a ∈ input, key a = other ∧ value a = found) ∨ map.get? other = some found := by
  induction input generalizing map with
  | nil => exact .inr h
  | cons a rest ih =>
    rcases ih _ h with ⟨c, hc, hfound⟩ | hset
    · exact .inl ⟨c, List.mem_cons_of_mem a hc, hfound⟩
    · rw [get?_set] at hset
      by_cases hkey : other = key a
      · rw [if_pos hkey] at hset
        exact .inl ⟨a, List.mem_cons_self .., hkey.symm, Option.some.inj hset⟩
      · rw [if_neg hkey] at hset
        exact .inr hset

/-- Storing the entries of one map in another. -/
theorem get?_foldl_entries (source : InsertionMap κ μ) (value : μ → ν) (map : InsertionMap κ ν)
    (key : κ) :
    (source.entries.foldl (fun map e ↦ map.set e.1 (value e.2)) map).get? key =
      ((source.get? key).map value).or (map.get? key) := by
  obtain ⟨entries, hnodup⟩ := source
  simp only [get?]
  induction entries generalizing map with
  | nil => simp
  | cons e rest ih =>
    rw [List.map_cons, List.nodup_cons] at hnodup
    rw [List.foldl_cons, ih _ hnodup.2, List.lookup_cons]
    have hset := get?_set map e.1 key (value e.2)
    simp only [get?] at hset
    rw [hset]
    by_cases hkey : key = e.1
    · have hnone : List.lookup key rest = none := by
        rw [List.lookup_eq_none_iff]
        intro entry hentry
        have hne : key ≠ entry.1 := fun heq ↦
          hnodup.1 (List.mem_map.mpr ⟨entry, hentry, heq.symm.trans hkey⟩)
        simpa using hne
      simp [hkey, hkey ▸ hnone]
    · simp [hkey, beq_false_of_ne hkey]

end Loops

end InsertionMap
