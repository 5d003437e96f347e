import Mathlib.Data.Finset.Sort
import TransportViz.Library.OrderedMap

/-!
# Maps to finite sets

Pairs are grouped by their first component, and the groups are gone through to count how many of them hold
a value. A value is held by as many groups as there are different keys that it is paired with.
-/

namespace TransportViz.Multimap

variable {κ ν : Type*}

/-! ## Folds -/

theorem foldl_insert [DecidableEq ν] (pairs : List (κ × ν)) (values : Finset ν) :
    pairs.foldl (fun values pair ↦ some (insert pair.2 (values.getD ∅))) (some values) =
      some ((pairs.map Prod.snd).toFinset ∪ values) := by
  induction pairs generalizing values with
  | nil => simp
  | cons pair rest ih =>
    rw [List.foldl_cons, ih, List.map_cons, List.toFinset_cons, Finset.insert_union, Option.getD_some,
      Finset.union_insert]

theorem foldl_count (input : List ν) (count : Option ℕ) :
    (input.foldl (fun count _ ↦ some (count.getD 0 + 1)) count).getD 0 = count.getD 0 + input.length := by
  induction input generalizing count with
  | nil => rfl
  | cons value rest ih =>
    rw [List.foldl_cons, ih, Option.getD_some, List.length_cons]
    omega

/-! ## Groups -/

variable [LinearOrder κ] [LinearOrder ν]

/-- The values paired with each key. -/
def group (pairs : List (κ × ν)) : OrderedMap κ (Finset ν) :=
  pairs.foldl (fun map pair ↦ map.alter pair.1 fun values ↦ insert pair.2 (values.getD ∅)) .empty

/-- The values of a set, the least first. -/
def inOrder (values : Finset ν) : List ν := values.sort (· ≤ ·)

/-- How many groups hold each value. -/
def tally (groups : OrderedMap κ (Finset ν)) : OrderedMap ν ℕ :=
  (groups.values.flatMap inOrder).foldl
    (fun counts value ↦ counts.alter value fun count ↦ count.getD 0 + 1) .empty

omit [LinearOrder κ] in
@[simp]
theorem mem_inOrder (values : Finset ν) (value : ν) : value ∈ inOrder values ↔ value ∈ values :=
  Finset.mem_sort _

omit [LinearOrder κ] in
@[simp]
theorem length_inOrder (values : Finset ν) : (inOrder values).length = values.card :=
  Finset.length_sort _

omit [LinearOrder κ] in
theorem pairwise_inOrder (values : Finset ν) : (inOrder values).Pairwise (· < ·) :=
  (Finset.sortedLT_sort values).pairwise

theorem find?_group (pairs : List (κ × ν)) (key : κ) :
    (group pairs).find? key = if key ∈ pairs.map Prod.fst then
      some ((pairs.filter fun pair ↦ pair.1 = key).map Prod.snd).toFinset else none := by
  rw [group, OrderedMap.find?_foldl_alter pairs Prod.fst, OrderedMap.find?_empty]
  cases hmine : pairs.filter fun pair ↦ pair.1 = key with
  | nil =>
    have hnot : key ∉ pairs.map Prod.fst := by
      intro hmem
      obtain ⟨pair, hpair, hkey⟩ := List.mem_map.mp hmem
      have hin : pair ∈ pairs.filter fun pair ↦ pair.1 = key :=
        List.mem_filter.mpr ⟨hpair, decide_eq_true hkey⟩
      rw [hmine] at hin
      exact List.not_mem_nil hin
    rw [if_neg hnot, List.foldl_nil]
  | cons pair rest =>
    have hin : pair ∈ pairs.filter fun pair ↦ pair.1 = key := hmine ▸ List.mem_cons_self ..
    obtain ⟨hpair, hkey⟩ := List.mem_filter.mp hin
    rw [if_pos (List.mem_map.mpr ⟨pair, hpair, of_decide_eq_true hkey⟩), List.foldl_cons, foldl_insert,
      List.map_cons, List.toFinset_cons, Option.getD_none, Finset.union_insert, Finset.union_empty]

theorem mem_getD_find?_group {pairs : List (κ × ν)} {key : κ} {value : ν} :
    value ∈ ((group pairs).find? key).getD ∅ ↔ (key, value) ∈ pairs := by
  rw [find?_group]
  split_ifs with hkey
  · simp [List.mem_map, List.mem_filter]
  · rw [Option.getD_none, iff_false_left (Finset.notMem_empty value)]
    exact fun hmem ↦ hkey (List.mem_map_of_mem hmem)

theorem mem_of_find?_group {pairs : List (κ × ν)} {key : κ} {values : Finset ν}
    (h : (group pairs).find? key = some values) {value : ν} : value ∈ values ↔ (key, value) ∈ pairs := by
  rw [← mem_getD_find?_group, h, Option.getD_some]

theorem find?_tally (groups : OrderedMap κ (Finset ν)) (value : ν) :
    ((tally groups).find? value).getD 0 = groups.values.countP fun values ↦ value ∈ values := by
  rw [tally, OrderedMap.find?_foldl_alter _ (fun value ↦ value) (fun _ count ↦ count.getD 0 + 1),
    OrderedMap.find?_empty, foldl_count, Option.getD_none, Nat.zero_add,
    ← List.countP_eq_length_filter, List.countP_flatMap]
  induction groups.values with
  | nil => rfl
  | cons values rest ih =>
    have hcount : (inOrder values).countP (fun other ↦ other = value) =
        if value ∈ values then 1 else 0 := by
      have hnodup := (Finset.sort_nodup values (· ≤ ·)).count (a := value)
      change (inOrder values).count value = if value ∈ inOrder values then 1 else 0 at hnodup
      simp only [mem_inOrder] at hnodup
      rw [← hnodup, List.count_eq_countP]
      exact List.countP_congr fun other _ ↦ by simp
    rw [List.map_cons, List.sum_cons, ih, List.countP_cons, Function.comp_apply, hcount]
    simp only [decide_eq_true_eq]
    omega

/-- The tally of grouped pairs counts the keys. -/
theorem find?_tally_group (pairs : List (κ × ν)) (value : ν) :
    ((tally (group pairs)).find? value).getD 0 =
      ((pairs.filter fun pair ↦ pair.2 = value).map Prod.fst).toFinset.card := by
  rw [find?_tally, ← OrderedMap.card_keys_filter]
  congr 1
  ext key
  rw [List.mem_toFinset, List.mem_toFinset, List.mem_map, List.mem_map]
  constructor
  · intro ⟨entry, hentry, hkey⟩
    obtain ⟨hmem, hvalue⟩ := List.mem_filter.mp hentry
    have hfind := (OrderedMap.mem_entries_iff _ entry.1 entry.2).mp hmem
    have hpair := (mem_of_find?_group hfind).mp (of_decide_eq_true hvalue)
    exact ⟨(entry.1, value), List.mem_filter.mpr ⟨hpair, decide_eq_true rfl⟩, hkey⟩
  · intro ⟨pair, hpair, hkey⟩
    obtain ⟨hmem, hvalue⟩ := List.mem_filter.mp hpair
    have hfind := find?_group pairs key
    rw [if_pos (hkey ▸ List.mem_map_of_mem hmem)] at hfind
    refine ⟨(key, _), List.mem_filter.mpr ⟨(OrderedMap.mem_entries_iff _ _ _).mpr hfind, ?_⟩, rfl⟩
    apply decide_eq_true
    rw [mem_of_find?_group hfind, ← hkey, ← of_decide_eq_true hvalue]
    exact hmem

end TransportViz.Multimap
