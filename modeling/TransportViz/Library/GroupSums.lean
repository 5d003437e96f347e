import Mathlib.Algebra.BigOperators.Group.List.Basic
import Mathlib.Algebra.GroupWithZero.Nat
import Mathlib.Data.List.Count
import Mathlib.Data.List.ProdSigma
import TransportViz.Library.OrderedMap

/-!
# Sums over groups

Entries are grouped by a key, and something is added up group by group. As long as the keys are distinct
and cover the entries, this is the sum over the entries themselves; a product of two counts in each
group counts the combinations that share a key. Looking up distinct keys in a map and adding up what is
found is the sum over the entries of the map that carry one of them.
-/

namespace TransportViz.GroupSums

variable {α β κ : Type*} [DecidableEq κ]

/-- An entry is in one group. -/
theorem sum_ite_key {keys : List κ} (hkeys : keys.Nodup) {key : κ} (hmem : key ∈ keys) (n : ℕ) :
    (keys.map fun k ↦ if key = k then n else 0).sum = n := by
  induction keys with
  | nil => simp at hmem
  | cons k rest ih =>
    obtain ⟨hnot, hrest⟩ := List.nodup_cons.mp hkeys
    rw [List.map_cons, List.sum_cons]
    rcases List.mem_cons.mp hmem with hhead | htail
    · have hzero : (rest.map fun k ↦ if key = k then n else 0) = rest.map fun _ ↦ 0 := by
        apply List.map_congr_left
        intro other hother
        rw [if_neg]
        intro heq
        exact hnot (hhead ▸ heq ▸ hother)
      rw [if_pos hhead, hzero]
      simp
    · have hne : key ≠ k := fun heq ↦ hnot (heq ▸ htail)
      rw [if_neg hne, ih hrest htail, zero_add]

/-- Adding up group by group. -/
theorem sum_groups {keys : List κ} (hkeys : keys.Nodup) (key : α → κ) (f : α → ℕ) (entries : List α)
    (hcover : ∀ a ∈ entries, key a ∈ keys) :
    (keys.map fun k ↦ ((entries.filter fun a ↦ key a = k).map f).sum).sum = (entries.map f).sum := by
  induction entries with
  | nil => simp
  | cons a rest ih =>
    have hrest := ih fun b hb ↦ hcover b (List.mem_cons_of_mem a hb)
    have hsplit (k : κ) : (((a :: rest).filter fun b ↦ key b = k).map f).sum =
        (if key a = k then f a else 0) + ((rest.filter fun b ↦ key b = k).map f).sum := by
      rw [List.filter_cons]
      by_cases hkey : key a = k
      · simp [hkey]
      · simp [hkey]
    simp only [hsplit]
    rw [List.sum_map_add, sum_ite_key hkeys (hcover a (List.mem_cons_self ..)), hrest, List.map_cons,
      List.sum_cons]

/-- The combinations of two lists that satisfy a condition, counted row by row. -/
theorem countP_product (first : List α) (second : List β) (p : α × β → Bool) :
    (first.product second).countP p = (first.map fun a ↦ second.countP fun b ↦ p (a, b)).sum := by
  induction first with
  | nil => rfl
  | cons a rest ih =>
    have hcons : (a :: rest).product second = second.map (Prod.mk a) ++ rest.product second := rfl
    rw [hcons, List.countP_append, List.countP_map, ih, List.map_cons, List.sum_cons]
    rfl

/-- The combinations within the groups are the combinations that share a key. -/
theorem sum_countP_groups {keys : List κ} (hkeys : keys.Nodup) (key : α → κ) (key' : β → κ)
    (first : List α) (second : List β) (hcover : ∀ a ∈ first, key a ∈ keys) (p : α × β → Bool) :
    (keys.map fun k ↦ ((first.filter fun a ↦ key a = k).product
        (second.filter fun b ↦ key' b = k)).countP p).sum =
      (first.product second).countP fun ends ↦ key' ends.2 = key ends.1 && p ends := by
  rw [countP_product, ← sum_groups hkeys key _ first hcover]
  congr 1
  apply List.map_congr_left
  intro k _
  rw [countP_product]
  congr 1
  apply List.map_congr_left
  intro a ha
  have hkey := of_decide_eq_true (List.mem_filter.mp ha).2
  rw [List.countP_filter]
  simp only [hkey, Bool.and_comm]

/-- The products of the groups' counts count the combinations that share a key. -/
theorem sum_count_mul_count {keys : List κ} (hkeys : keys.Nodup) (key : α → κ) (key' : β → κ)
    (first : List α) (second : List β) (hcover : ∀ a ∈ first, key a ∈ keys) :
    (keys.map fun k ↦
        (first.countP fun a ↦ key a = k) * second.countP fun b ↦ key' b = k).sum =
      (first.product second).countP fun ends ↦ key' ends.2 = key ends.1 := by
  have hcount (k : κ) : ((first.filter fun a ↦ key a = k).product
      (second.filter fun b ↦ key' b = k)).countP (fun _ ↦ true) =
        (first.countP fun a ↦ key a = k) * second.countP fun b ↦ key' b = k := by
    rw [List.countP_true, List.countP_eq_length_filter, List.countP_eq_length_filter]
    exact List.length_product _ _
  have hgroups := sum_countP_groups hkeys key key' first second hcover fun _ ↦ true
  simp only [hcount, Bool.and_true] at hgroups
  exact hgroups

/-- Distinct keys looked up in a map add up to the entries that carry one of them. -/
theorem sum_find? {ι : Type*} [LinearOrder ι] (map : OrderedMap ι ℕ) {keys : List ι}
    (hkeys : keys.Nodup) :
    (keys.filterMap map.find?).sum =
      ((map.entries.filter fun entry ↦ entry.1 ∈ keys).map Prod.snd).sum := by
  have hperm : (keys.filterMap fun key ↦ (map.find? key).map (Prod.mk key)).Perm
      (map.entries.filter fun entry ↦ entry.1 ∈ keys) := by
    apply (List.perm_ext_iff_of_nodup ?_ ?_).mpr
    · intro entry
      simp only [List.mem_filterMap, Option.map_eq_some_iff, List.mem_filter, decide_eq_true_eq]
      constructor
      · intro ⟨key, hkey, value, hvalue, heq⟩
        rw [← heq]
        exact ⟨(map.mem_entries_iff key value).mpr hvalue, hkey⟩
      · intro ⟨hentry, hkey⟩
        exact ⟨entry.1, hkey, entry.2, (map.mem_entries_iff _ _).mp hentry, rfl⟩
    · apply hkeys.filterMap
      intro first second entry hfirst hsecond
      obtain ⟨_, -, hfirst'⟩ := Option.map_eq_some_iff.mp hfirst
      obtain ⟨_, -, hsecond'⟩ := Option.map_eq_some_iff.mp hsecond
      exact (congrArg Prod.fst hfirst').trans (congrArg Prod.fst hsecond').symm
    · exact (List.Nodup.of_map _ map.nodup_keys).filter _
  rw [← (hperm.map Prod.snd).sum_eq, List.map_filterMap]
  congr 1
  apply List.filterMap_congr
  intro key _
  rw [Option.map_map]
  exact (Option.map_id' ..).symm

end TransportViz.GroupSums
