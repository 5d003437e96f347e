import Mathlib.Data.Finset.Card
import Mathlib.Data.List.Sort
import Mathlib.Data.List.Nodup
import Mathlib.Order.Defs.LinearOrder

/-!
# Maps kept in key order

A map is its association list, strictly increasing in the key, so iteration order is part of the
value. `alter` is the one update: it rewrites the value stored under a key, or stores a first value
in its place. `set` overwrites. Two maps with the same lookups are equal, a fold of updates groups
its inputs by key, and a map built by overwriting loses an input exactly when two inputs share a
key.
-/

universe u v w

/-- An association list whose keys are strictly increasing. -/
structure OrderedMap (κ : Type u) (ν : Type v) [LinearOrder κ] where
  entries : List (κ × ν)
  sorted : entries.Pairwise fun a b ↦ a.1 < b.1

namespace OrderedMap

variable {κ : Type u} {ν : Type v} {α : Type w} [LinearOrder κ]

/-- Rewrite or store the value under `key`, keeping the keys in order. -/
def alterEntries (key : κ) (f : Option ν → ν) : List (κ × ν) → List (κ × ν)
  | [] => [(key, f none)]
  | (head, value) :: rest =>
      if key < head then (key, f none) :: (head, value) :: rest
      else if key = head then (head, f (some value)) :: rest
      else (head, value) :: alterEntries key f rest

theorem fst_mem_alterEntries (key : κ) (f : Option ν → ν) (entries : List (κ × ν))
    (entry : κ × ν) (h : entry ∈ alterEntries key f entries) :
    entry.1 = key ∨ entry.1 ∈ entries.map Prod.fst := by
  induction entries with
  | nil => simp_all [alterEntries]
  | cons head rest ih =>
    simp only [alterEntries] at h
    split_ifs at h with hlt heq
    · simp only [List.mem_cons] at h
      rcases h with rfl | rfl | h
      · exact .inl rfl
      · exact .inr (by simp)
      · exact .inr (List.mem_map_of_mem (List.mem_cons_of_mem _ h))
    · simp only [List.mem_cons] at h
      rcases h with rfl | h
      · exact .inl heq.symm
      · exact .inr (List.mem_map_of_mem (List.mem_cons_of_mem _ h))
    · simp only [List.mem_cons] at h
      rcases h with rfl | h
      · exact .inr (by simp)
      · rcases ih h with h | h
        · exact .inl h
        · exact .inr (by simpa using .inr (by simpa using h))

theorem sorted_alterEntries (key : κ) (f : Option ν → ν) (entries : List (κ × ν))
    (h : entries.Pairwise fun a b ↦ a.1 < b.1) :
    (alterEntries key f entries).Pairwise fun a b ↦ a.1 < b.1 := by
  induction entries with
  | nil => simp [alterEntries]
  | cons head rest ih =>
    obtain ⟨hhead, hrest⟩ := List.pairwise_cons.mp h
    simp only [alterEntries]
    split_ifs with hlt heq
    · refine List.pairwise_cons.mpr ⟨fun entry hentry ↦ ?_, h⟩
      rcases List.mem_cons.mp hentry with rfl | hentry
      · exact hlt
      · exact hlt.trans (hhead entry hentry)
    · exact List.pairwise_cons.mpr ⟨hhead, hrest⟩
    · refine List.pairwise_cons.mpr ⟨fun entry hentry ↦ ?_, ih hrest⟩
      rcases fst_mem_alterEntries key f rest entry hentry with hkey | hkey
      · rw [hkey]
        exact lt_of_le_of_ne (not_lt.mp hlt) (Ne.symm heq)
      · obtain ⟨other, hother, heq'⟩ := List.mem_map.mp hkey
        rw [← heq']
        exact hhead other hother

def empty : OrderedMap κ ν := ⟨[], List.Pairwise.nil⟩

/-- Rewrite the value under `key`; a missing key starts from `none`. -/
def alter (map : OrderedMap κ ν) (key : κ) (f : Option ν → ν) : OrderedMap κ ν :=
  ⟨alterEntries key f map.entries, sorted_alterEntries key f map.entries map.sorted⟩

/-- Store `value` under `key`, replacing what was there. -/
def set (map : OrderedMap κ ν) (key : κ) (value : ν) : OrderedMap κ ν :=
  map.alter key fun _ ↦ value

def find? (map : OrderedMap κ ν) (key : κ) : Option ν := map.entries.lookup key

def contains (map : OrderedMap κ ν) (key : κ) : Bool := (map.find? key).isSome

def keys (map : OrderedMap κ ν) : List κ := map.entries.map Prod.fst

def values (map : OrderedMap κ ν) : List ν := map.entries.map Prod.snd

def size (map : OrderedMap κ ν) : ℕ := map.entries.length

def ofList (entries : List (κ × ν)) : OrderedMap κ ν :=
  entries.foldl (fun map entry ↦ map.set entry.1 entry.2) empty

@[simp]
theorem find?_empty (key : κ) : (empty : OrderedMap κ ν).find? key = none := rfl

theorem lookup_cons_eq_ite (key head : κ) (value : ν) (rest : List (κ × ν)) :
    List.lookup key ((head, value) :: rest) =
      if key = head then some value else List.lookup key rest := by
  by_cases h : key = head
  · simp [h]
  · simp [List.lookup_cons, h, beq_eq_false_iff_ne.mpr h]

theorem lookup_eq_none_of_lt (key : κ) (entries : List (κ × ν))
    (h : ∀ entry ∈ entries, key < entry.1) : entries.lookup key = none := by
  rw [List.lookup_eq_none_iff]
  intro entry hentry
  simpa using (h entry hentry).ne

theorem lookup_alterEntries (key other : κ) (f : Option ν → ν) (entries : List (κ × ν))
    (h : entries.Pairwise fun a b ↦ a.1 < b.1) :
    (alterEntries key f entries).lookup other =
      if other = key then some (f (entries.lookup key)) else entries.lookup other := by
  induction entries with
  | nil => simp [alterEntries, lookup_cons_eq_ite]
  | cons head rest ih =>
    obtain ⟨hhead, hrest⟩ := List.pairwise_cons.mp h
    obtain ⟨headKey, value⟩ := head
    rw [alterEntries]
    by_cases hlt : key < headKey
    · have hnone : List.lookup key ((headKey, value) :: rest) = none := by
        refine lookup_eq_none_of_lt key _ fun entry hentry ↦ ?_
        rcases List.mem_cons.mp hentry with rfl | hentry
        · exact hlt
        · exact hlt.trans (hhead entry hentry)
      rw [if_pos hlt, hnone, lookup_cons_eq_ite]
    rw [if_neg hlt]
    by_cases heq : key = headKey
    · subst heq
      rw [if_pos rfl, lookup_cons_eq_ite, lookup_cons_eq_ite, lookup_cons_eq_ite, if_pos rfl]
      by_cases ho : other = key
      · rw [if_pos ho, if_pos ho]
      · rw [if_neg ho, if_neg ho, if_neg ho]
    · rw [if_neg heq, lookup_cons_eq_ite, ih hrest, lookup_cons_eq_ite, lookup_cons_eq_ite,
        if_neg heq]
      by_cases ho : other = key
      · rw [if_pos ho, if_pos ho, if_neg (ho ▸ heq)]
      · rw [if_neg ho, if_neg ho]

@[simp]
theorem find?_alter (map : OrderedMap κ ν) (key other : κ) (f : Option ν → ν) :
    (map.alter key f).find? other =
      if other = key then some (f (map.find? key)) else map.find? other :=
  lookup_alterEntries key other f map.entries map.sorted

@[simp]
theorem find?_set (map : OrderedMap κ ν) (key other : κ) (value : ν) :
    (map.set key value).find? other = if other = key then some value else map.find? other :=
  find?_alter map key other _

theorem mem_entries_iff (map : OrderedMap κ ν) (key : κ) (value : ν) :
    (key, value) ∈ map.entries ↔ map.find? key = some value := by
  obtain ⟨entries, hsorted⟩ := map
  simp only [find?]
  induction entries with
  | nil => simp
  | cons head rest ih =>
    obtain ⟨hhead, hrest⟩ := List.pairwise_cons.mp hsorted
    obtain ⟨headKey, headValue⟩ := head
    rw [lookup_cons_eq_ite, List.mem_cons, ih hrest]
    by_cases hkey : key = headKey
    · subst hkey
      have hnone := lookup_eq_none_of_lt key rest hhead
      simp [hnone, eq_comm]
    · simp [hkey]

theorem mem_keys_iff (map : OrderedMap κ ν) (key : κ) :
    key ∈ map.keys ↔ ∃ value, map.find? key = some value := by
  simp only [keys, List.mem_map, Prod.exists, ← mem_entries_iff]
  constructor
  · rintro ⟨_, value, hmem, rfl⟩
    exact ⟨value, hmem⟩
  · rintro ⟨value, hmem⟩
    exact ⟨key, value, hmem, rfl⟩

theorem nodup_keys (map : OrderedMap κ ν) : map.keys.Nodup := by
  rw [keys, List.Nodup, List.pairwise_map]
  exact map.sorted.imp fun hlt ↦ hlt.ne

/-- The values stand in the order of the keys. -/
theorem values_eq_map_keys (map : OrderedMap κ ν) (default : ν) :
    map.values = map.keys.map fun key ↦ (map.find? key).getD default := by
  rw [values, keys, List.map_map]
  apply List.map_congr_left
  intro entry hentry
  have hfind := (map.mem_entries_iff entry.1 entry.2).mp hentry
  rw [Function.comp_apply, hfind, Option.getD_some]

/-- A map is its lookups: the order of the entries leaves no choice. -/
theorem ext_find? {first second : OrderedMap κ ν} (h : ∀ key, first.find? key = second.find? key) :
    first = second := by
  have hperm : first.entries.Perm second.entries := by
    refine (List.perm_ext_iff_of_nodup ?_ ?_).mpr fun entry ↦ ?_
    · exact List.Nodup.of_map _ first.nodup_keys
    · exact List.Nodup.of_map _ second.nodup_keys
    · rw [mem_entries_iff, mem_entries_iff, h]
  have hentries : first.entries = second.entries :=
    hperm.eq_of_pairwise (fun a b _ _ hab hba ↦ absurd hba (asymm hab)) first.sorted second.sorted
  cases first
  cases second
  simpa using hentries

/-! ## Folds of updates -/

/-- A fold of updates groups its inputs: a key sees exactly the inputs that carry it, in order. -/
theorem find?_foldl_alter (input : List α) (key : α → κ) (step : α → Option ν → ν)
    (map : OrderedMap κ ν) (other : κ) :
    (input.foldl (fun map item ↦ map.alter (key item) (step item)) map).find? other =
      (input.filter fun item ↦ key item = other).foldl
        (fun value item ↦ some (step item value)) (map.find? other) := by
  induction input generalizing map with
  | nil => rfl
  | cons item rest ih =>
    rw [List.foldl_cons, ih, find?_alter, List.filter_cons]
    by_cases hkey : key item = other
    · simp [hkey]
    · simp [hkey, Ne.symm hkey]

/-- What every update keeps holds of every value in the end. -/
theorem forall_foldl_alter (P : κ → ν → Prop) (input : List α) (key : α → κ)
    (step : α → Option ν → ν) (map : OrderedMap κ ν)
    (hmap : ∀ other value, map.find? other = some value → P other value)
    (hstep : ∀ item ∈ input, ∀ old, (∀ value, old = some value → P (key item) value) →
      P (key item) (step item old)) (other : κ) (value : ν)
    (h : (input.foldl (fun map item ↦ map.alter (key item) (step item)) map).find? other = some value) :
    P other value := by
  induction input generalizing map with
  | nil => exact hmap other value h
  | cons item rest ih =>
    refine ih (map.alter (key item) (step item)) ?_ (fun a ha ↦ hstep a (List.mem_cons_of_mem item ha)) h
    intro k v hv
    rw [find?_alter] at hv
    split_ifs at hv with hkey
    · rw [hkey, ← Option.some.inj hv]
      exact hstep item (List.mem_cons_self ..) _ (hmap (key item))
    · exact hmap k v hv

theorem mem_keys_foldl_alter (input : List α) (key : α → κ) (step : α → Option ν → ν)
    (map : OrderedMap κ ν) (other : κ) :
    other ∈ (input.foldl (fun map item ↦ map.alter (key item) (step item)) map).keys ↔
      other ∈ input.map key ∨ other ∈ map.keys := by
  induction input generalizing map with
  | nil => simp
  | cons item rest ih =>
    rw [List.foldl_cons, ih, List.map_cons, List.mem_cons, mem_keys_iff, mem_keys_iff, find?_alter]
    by_cases hkey : other = key item <;> simp [hkey]

theorem length_alterEntries (key : κ) (f : Option ν → ν) (entries : List (κ × ν))
    (h : entries.Pairwise fun a b ↦ a.1 < b.1) :
    (alterEntries key f entries).length =
      if key ∈ entries.map Prod.fst then entries.length else entries.length + 1 := by
  induction entries with
  | nil => simp [alterEntries]
  | cons head rest ih =>
    obtain ⟨hhead, hrest⟩ := List.pairwise_cons.mp h
    rw [alterEntries, List.map_cons]
    by_cases hlt : key < head.1
    · have hnotin : key ∉ head.1 :: rest.map Prod.fst := by
        intro hmem
        rcases List.mem_cons.mp hmem with heq | hmem
        · exact hlt.ne heq
        · obtain ⟨entry, hentry, rfl⟩ := List.mem_map.mp hmem
          exact lt_asymm hlt (hhead entry hentry)
      rw [if_pos hlt, if_neg hnotin, List.length_cons]
    rw [if_neg hlt]
    by_cases heq : key = head.1
    · simp [heq]
    · rw [if_neg heq, List.length_cons, ih hrest]
      by_cases hmem : key ∈ rest.map Prod.fst <;> simp [hmem, heq]

theorem size_set (map : OrderedMap κ ν) (key : κ) (value : ν) :
    (map.set key value).size = if key ∈ map.keys then map.size else map.size + 1 :=
  length_alterEntries key _ map.entries map.sorted

theorem mem_keys_set (map : OrderedMap κ ν) (key other : κ) (value : ν) :
    other ∈ (map.set key value).keys ↔ other = key ∨ other ∈ map.keys := by
  rw [mem_keys_iff, mem_keys_iff, find?_set]
  by_cases h : other = key <;> simp [h]

theorem mem_keys_foldl_set (entries : List (κ × ν)) (map : OrderedMap κ ν) (key : κ) :
    key ∈ (entries.foldl (fun map entry ↦ map.set entry.1 entry.2) map).keys ↔
      key ∈ entries.map Prod.fst ∨ key ∈ map.keys := by
  induction entries generalizing map with
  | nil => simp
  | cons entry rest ih =>
    rw [List.foldl_cons, ih, mem_keys_set, List.map_cons, List.mem_cons]
    tauto

theorem mem_keys_ofList (entries : List (κ × ν)) (key : κ) :
    key ∈ (ofList entries).keys ↔ key ∈ entries.map Prod.fst := by
  rw [ofList, mem_keys_foldl_set]
  simp [keys, empty]

theorem size_foldl_set_le (entries : List (κ × ν)) (map : OrderedMap κ ν) :
    (entries.foldl (fun map entry ↦ map.set entry.1 entry.2) map).size ≤
      map.size + entries.length := by
  induction entries generalizing map with
  | nil => simp
  | cons entry rest ih =>
    have hstep := ih (map.set entry.1 entry.2)
    have hset := size_set map entry.1 entry.2
    rw [List.foldl_cons, List.length_cons]
    split_ifs at hset <;> omega

theorem size_foldl_set_eq_iff (entries : List (κ × ν)) (map : OrderedMap κ ν) :
    (entries.foldl (fun map entry ↦ map.set entry.1 entry.2) map).size =
        map.size + entries.length ↔
      (entries.map Prod.fst).Nodup ∧ ∀ key ∈ entries.map Prod.fst, key ∉ map.keys := by
  induction entries generalizing map with
  | nil => simp
  | cons entry rest ih =>
    have hstep := ih (map.set entry.1 entry.2)
    have hle := size_foldl_set_le rest (map.set entry.1 entry.2)
    have hset := size_set map entry.1 entry.2
    rw [List.foldl_cons, List.length_cons, List.map_cons, List.nodup_cons]
    by_cases hmem : entry.1 ∈ map.keys
    · rw [if_pos hmem] at hset
      constructor
      · intro h
        omega
      · rintro ⟨-, hfresh⟩
        exact absurd hmem (hfresh _ (List.mem_cons_self ..))
    · rw [if_neg hmem] at hset
      rw [show map.size + (rest.length + 1) = (map.set entry.1 entry.2).size + rest.length by omega,
        hstep]
      simp only [mem_keys_set, not_or, List.mem_cons, forall_eq_or_imp]
      constructor
      · rintro ⟨hnodup, hfresh⟩
        exact ⟨⟨fun hin ↦ (hfresh _ hin).1 rfl, hnodup⟩, hmem, fun key hkey ↦ (hfresh key hkey).2⟩
      · rintro ⟨⟨hnotin, hnodup⟩, -, hfresh⟩
        exact ⟨hnodup, fun key hkey ↦ ⟨fun heq ↦ hnotin (heq ▸ hkey), hfresh key hkey⟩⟩

/-- Overwriting keeps every input exactly when no two inputs share a key. -/
theorem size_ofList_eq_length_iff (entries : List (κ × ν)) :
    (ofList entries).size = entries.length ↔ (entries.map Prod.fst).Nodup := by
  have h := size_foldl_set_eq_iff entries (empty : OrderedMap κ ν)
  simpa [ofList, size, empty, keys] using h

theorem find?_foldl_set_of_notMem (entries : List (κ × ν)) (map : OrderedMap κ ν) (key : κ)
    (h : key ∉ entries.map Prod.fst) :
    (entries.foldl (fun map entry ↦ map.set entry.1 entry.2) map).find? key = map.find? key := by
  induction entries generalizing map with
  | nil => rfl
  | cons entry rest ih =>
    simp only [List.map_cons, List.mem_cons, not_or] at h
    rw [List.foldl_cons, ih _ h.2, find?_set, if_neg h.1]

theorem find?_foldl_set_of_mem (entries : List (κ × ν)) (map : OrderedMap κ ν)
    (h : (entries.map Prod.fst).Nodup) (entry : κ × ν) (hmem : entry ∈ entries) :
    (entries.foldl (fun map entry ↦ map.set entry.1 entry.2) map).find? entry.1 = some entry.2 := by
  induction entries generalizing map with
  | nil => simp at hmem
  | cons head rest ih =>
    rw [List.map_cons, List.nodup_cons] at h
    rw [List.foldl_cons]
    rcases List.mem_cons.mp hmem with rfl | hmem
    · rw [find?_foldl_set_of_notMem _ _ _ h.1, find?_set, if_pos rfl]
    · exact ih _ h.2 hmem

/-- Without shared keys, building a map is sorting its inputs. -/
theorem entries_ofList_perm (entries : List (κ × ν)) (h : (entries.map Prod.fst).Nodup) :
    (ofList entries).entries.Perm entries := by
  have hnodup : (ofList entries).entries.Nodup := List.Nodup.of_map _ (ofList entries).nodup_keys
  have hsub : entries ⊆ (ofList entries).entries := by
    intro entry hentry
    exact (mem_entries_iff _ _ _).mpr (find?_foldl_set_of_mem entries empty h entry hentry)
  have hlength : (ofList entries).entries.length = entries.length :=
    (size_ofList_eq_length_iff entries).mpr h
  exact ((List.subperm_of_subset (List.Nodup.of_map _ h) hsub).perm_of_length_le
    hlength.le).symm

/-- Such a map lists its inputs in key order. -/
theorem entries_ofList_eq_insertionSort (entries : List (κ × ν))
    (h : (entries.map Prod.fst).Nodup) :
    (ofList entries).entries = entries.insertionSort fun a b ↦ a.1 ≤ b.1 := by
  have htotal : Std.Total fun a b : κ × ν ↦ a.1 ≤ b.1 := ⟨fun a b ↦ le_total a.1 b.1⟩
  have htrans : IsTrans (κ × ν) fun a b ↦ a.1 ≤ b.1 := ⟨fun _ _ _ ↦ le_trans⟩
  have hperm := (entries_ofList_perm entries h).trans
    (List.perm_insertionSort (fun a b ↦ a.1 ≤ b.1) entries).symm
  refine hperm.eq_of_pairwise (fun a b ha hb hab hba ↦ ?_)
    ((ofList entries).sorted.imp fun hlt ↦ hlt.le) (List.pairwise_insertionSort _ entries)
  exact List.inj_on_of_nodup_map (ofList entries).nodup_keys ha (hperm.mem_iff.mpr hb)
    (le_antisymm hab hba)

/-- A map is the map of its entries. -/
theorem ofList_entries (map : OrderedMap κ ν) : ofList map.entries = map := by
  have hsorted : map.entries.Pairwise fun a b ↦ a.1 ≤ b.1 := map.sorted.imp le_of_lt
  have hentries := entries_ofList_eq_insertionSort map.entries map.nodup_keys
  rw [hsorted.insertionSort_eq] at hentries
  exact ext_find? fun key ↦ by rw [find?, find?, hentries]

/-- A map whose keys are spelled differently finds the same. -/
theorem find?_ofList_mapKeys {κ' : Type*} [LinearOrder κ'] {f : κ → κ'}
    (hf : Function.Injective f) (map : OrderedMap κ ν) (key : κ) :
    (ofList (map.entries.map fun e ↦ (f e.1, e.2))).find? (f key) = map.find? key := by
  have hnodup : ((map.entries.map fun e ↦ (f e.1, e.2)).map Prod.fst).Nodup := by
    have hkeys : ((map.entries.map Prod.fst).map f).Nodup := map.nodup_keys.map hf
    rwa [List.map_map] at hkeys ⊢
  apply Option.ext
  intro value
  rw [← mem_entries_iff, (entries_ofList_perm _ hnodup).mem_iff, List.mem_map, ← mem_entries_iff]
  constructor
  · intro ⟨e, he, heq⟩
    rw [Prod.mk.injEq] at heq
    rwa [← hf heq.1, ← heq.2]
  · intro h
    exact ⟨(key, value), h, rfl⟩

/-- The keys of a map whose values satisfy `p` are as many as these values. -/
theorem card_keys_filter (map : OrderedMap κ ν) (p : ν → Bool) :
    (((map.entries.filter fun e ↦ p e.2).map Prod.fst).toFinset).card = map.values.countP p := by
  have hnodup : ((map.entries.filter fun e ↦ p e.2).map Prod.fst).Nodup :=
    map.nodup_keys.sublist (List.filter_sublist.map Prod.fst)
  rw [List.toFinset_card_of_nodup hnodup, List.length_map, ← List.countP_eq_length_filter,
    values, List.countP_map]
  rfl

/-! ## Leaving keys out -/

/-- The entries whose key satisfies `p`. -/
def restrict (map : OrderedMap κ ν) (p : κ → Prop) [DecidablePred p] : OrderedMap κ ν :=
  ⟨map.entries.filter fun e ↦ p e.1, map.sorted.filter _⟩

@[simp]
theorem find?_restrict (map : OrderedMap κ ν) (p : κ → Prop) [DecidablePred p] (key : κ) :
    (map.restrict p).find? key = if p key then map.find? key else none := by
  apply Option.ext
  intro value
  rw [← mem_entries_iff, restrict, List.mem_filter, mem_entries_iff]
  by_cases hkey : p key <;> simp [hkey]

def erase (map : OrderedMap κ ν) (key : κ) : OrderedMap κ ν :=
  ⟨map.entries.filter fun e ↦ e.1 ≠ key, map.sorted.filter _⟩

@[simp]
theorem find?_erase (map : OrderedMap κ ν) (key other : κ) :
    (map.erase key).find? other = if other = key then none else map.find? other := by
  apply Option.ext
  intro value
  rw [← mem_entries_iff, erase, List.mem_filter, mem_entries_iff]
  by_cases hkey : other = key <;> simp [hkey]

theorem find?_foldl_erase (keys : List κ) (map : OrderedMap κ ν) (key : κ) :
    (keys.foldl erase map).find? key = if key ∈ keys then none else map.find? key := by
  induction keys generalizing map with
  | nil => simp
  | cons head rest ih =>
    rw [List.foldl_cons, ih, find?_erase]
    by_cases hhead : key = head <;> by_cases hrest : key ∈ rest <;> simp [hhead, hrest]

/-- Storing one value under many keys. -/
theorem find?_foldl_set_const (input : List α) (key : α → κ) (value : ν) (map : OrderedMap κ ν)
    (other : κ) :
    (input.foldl (fun map a ↦ map.set (key a) value) map).find? other =
      if other ∈ input.map key then some value else map.find? other := by
  induction input generalizing map with
  | nil => simp
  | cons a rest ih =>
    rw [List.foldl_cons, ih, find?_set]
    by_cases hhead : other = key a
    · simp [hhead]
    · by_cases hrest : other ∈ rest.map key <;> simp [hhead, hrest]

/-- Rewriting under many keys, seen through a reading to which the old values make no difference. -/
theorem map_find?_foldl_alter {β : Type*} (input : List α) (key : α → κ)
    (step : α → Option ν → ν) (read : ν → β) (b : β) (map : OrderedMap κ ν) (other : κ)
    (h : ∀ a ∈ input, key a = other → ∀ old, read (step a old) = b) :
    ((input.foldl (fun map a ↦ map.alter (key a) (step a)) map).find? other).map read =
      if other ∈ input.map key then some b else (map.find? other).map read := by
  induction input generalizing map with
  | nil => simp
  | cons a rest ih =>
    rw [List.foldl_cons, ih _ fun c hc ↦ h c (List.mem_cons_of_mem a hc), find?_alter]
    by_cases hhead : other = key a
    · simp [hhead, h a (List.mem_cons_self ..) hhead.symm]
    · by_cases hrest : other ∈ rest.map key <;> simp [hhead, hrest]

/-! ## Rewriting or dropping every value -/

section FilterMap

variable {μ : Type w}

/-- Rewrite every value; the keys whose value becomes `none` are erased. -/
def filterMap (map : OrderedMap κ ν) (f : ν → Option μ) : OrderedMap κ μ where
  entries := map.entries.filterMap fun e ↦ (f e.2).map fun value ↦ (e.1, value)
  sorted := by
    refine List.pairwise_filterMap.mpr (map.sorted.imp fun {a b} hlt x hx y hy ↦ ?_)
    obtain ⟨_, -, rfl⟩ := Option.map_eq_some_iff.mp hx
    obtain ⟨_, -, rfl⟩ := Option.map_eq_some_iff.mp hy
    exact hlt

@[simp]
theorem find?_filterMap (map : OrderedMap κ ν) (f : ν → Option μ) (key : κ) :
    (map.filterMap f).find? key = (map.find? key).bind f := by
  refine Option.ext fun value ↦ ?_
  rw [← mem_entries_iff, Option.bind_eq_some_iff]
  simp only [filterMap, List.mem_filterMap, Option.map_eq_some_iff, Prod.mk.injEq]
  constructor
  · rintro ⟨e, he, _, hvalue, rfl, rfl⟩
    exact ⟨e.2, (mem_entries_iff _ _ _).mp he, hvalue⟩
  · rintro ⟨old, hold, hvalue⟩
    exact ⟨(key, old), (mem_entries_iff _ _ _).mpr hold, value, hvalue, rfl, rfl⟩

/-- Rewrite every value. -/
def mapValues (map : OrderedMap κ ν) (f : ν → μ) : OrderedMap κ μ where
  entries := map.entries.map fun e ↦ (e.1, f e.2)
  sorted := List.pairwise_map.mpr map.sorted

theorem mapValues_mapValues {ρ : Type*} (map : OrderedMap κ ν) (f : ν → μ) (g : μ → ρ) :
    (map.mapValues f).mapValues g = map.mapValues fun v ↦ g (f v) := by
  simp [mapValues]

@[simp]
theorem find?_mapValues (map : OrderedMap κ ν) (f : ν → μ) (key : κ) :
    (map.mapValues f).find? key = (map.find? key).map f := by
  refine Option.ext fun value ↦ ?_
  rw [← mem_entries_iff, Option.map_eq_some_iff]
  simp only [mapValues, List.mem_map, Prod.mk.injEq]
  constructor
  · rintro ⟨e, he, rfl, hvalue⟩
    exact ⟨e.2, (mem_entries_iff _ _ _).mp he, hvalue⟩
  · rintro ⟨old, hold, hvalue⟩
    exact ⟨(key, old), (mem_entries_iff _ _ _).mpr hold, rfl, hvalue⟩

theorem ofList_mapValues (map : OrderedMap κ ν) (f : ν → μ) :
    ofList (map.entries.map fun e ↦ (e.1, f e.2)) = map.mapValues f :=
  ofList_entries (map.mapValues f)

end FilterMap

section Related

variable {μ : Type w} (relation : κ → ν → μ → Prop)

theorem forall₂_alterEntries {entries : List (κ × ν)} {entries' : List (κ × μ)}
    (h : List.Forall₂ (fun e e' ↦ e.1 = e'.1 ∧ relation e.1 e.2 e'.2) entries entries') (key : κ)
    (value : ν) (value' : μ) (hvalue : relation key value value') :
    List.Forall₂ (fun e e' ↦ e.1 = e'.1 ∧ relation e.1 e.2 e'.2)
      (alterEntries key (fun _ ↦ value) entries) (alterEntries key (fun _ ↦ value') entries') := by
  induction h with
  | nil => exact .cons ⟨rfl, hvalue⟩ .nil
  | @cons e e' rest rest' hhead hrest ih =>
    obtain ⟨head, old⟩ := e
    obtain ⟨head', old'⟩ := e'
    obtain ⟨rfl, hold⟩ := hhead
    simp only [alterEntries]
    split_ifs with hlt heq
    · exact .cons ⟨rfl, hvalue⟩ (.cons ⟨rfl, hold⟩ hrest)
    · exact .cons ⟨rfl, heq ▸ hvalue⟩ hrest
    · exact .cons ⟨rfl, hold⟩ ih

/-- Maps built from related inputs are related entry by entry. -/
theorem forall₂_entries_ofList {entries : List (κ × ν)} {entries' : List (κ × μ)}
    (h : List.Forall₂ (fun e e' ↦ e.1 = e'.1 ∧ relation e.1 e.2 e'.2) entries entries') :
    List.Forall₂ (fun e e' ↦ e.1 = e'.1 ∧ relation e.1 e.2 e'.2) (ofList entries).entries
      (ofList entries').entries := by
  unfold ofList
  generalize hmap : (empty : OrderedMap κ ν) = map
  generalize hmap' : (empty : OrderedMap κ μ) = map'
  have hempty : List.Forall₂ (fun e e' ↦ e.1 = e'.1 ∧ relation e.1 e.2 e'.2) map.entries
      map'.entries := by
    rw [← hmap, ← hmap']
    exact .nil
  clear hmap hmap'
  induction h generalizing map map' with
  | nil => exact hempty
  | @cons e e' rest rest' hhead _ ih =>
    obtain ⟨key, value⟩ := e
    obtain ⟨key', value'⟩ := e'
    obtain ⟨rfl, hvalue⟩ := hhead
    exact ih _ _ (forall₂_alterEntries relation hempty key value value' hvalue)

end Related

theorem alter_eq_set_of_notMem (map : OrderedMap κ ν) (key : κ) (f : Option ν → ν)
    (h : key ∉ map.keys) : map.alter key f = map.set key (f none) := by
  refine ext_find? fun other ↦ ?_
  rw [find?_alter, find?_set]
  split_ifs with heq
  · rw [mem_keys_iff, not_exists] at h
    have hnone : map.find? key = none := Option.eq_none_iff_forall_ne_some.mpr h
    rw [hnone]
  · rfl

/-- Rewriting keys that are all different is storing. -/
theorem foldl_alter_eq_ofList (input : List α) (key : α → κ) (step : α → Option ν → ν)
    (h : (input.map key).Nodup) :
    input.foldl (fun map a ↦ map.alter (key a) (step a)) empty =
      ofList (input.map fun a ↦ (key a, step a none)) := by
  have hfold (map : OrderedMap κ ν) (hfresh : ∀ a ∈ input, key a ∉ map.keys) :
      input.foldl (fun map a ↦ map.alter (key a) (step a)) map =
        (input.map fun a ↦ (key a, step a none)).foldl (fun map e ↦ map.set e.1 e.2) map := by
    induction input generalizing map with
    | nil => rfl
    | cons a rest ih =>
      rw [List.map_cons, List.nodup_cons] at h
      rw [List.foldl_cons, List.map_cons, List.foldl_cons,
        alter_eq_set_of_notMem _ _ _ (hfresh a (List.mem_cons_self ..))]
      refine ih h.2 _ fun b hb hmem ↦ ?_
      rcases (mem_keys_set _ _ _ _).mp hmem with heq | hmem
      · exact h.1 (heq ▸ List.mem_map_of_mem hb)
      · exact hfresh b (List.mem_cons_of_mem a hb) hmem
  exact hfold empty (by simp [empty, keys])

end OrderedMap
