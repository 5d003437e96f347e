import Mathlib.Data.List.Sort

/-!
# Places in a sorted list

The place of an element in the sorted list counts the smaller elements, so it is the same before and
after a renaming that keeps the order.
-/

universe u v

namespace Ranking

variable {α : Type u} {β : Type v} [LinearOrder α] [LinearOrder β]

/-- The place of `a` among the sorted elements of `l`. -/
def place (l : List α) (a : α) : ℕ := (l.insertionSort (· ≤ ·)).idxOf a

theorem idxOf_eq_countP_lt {l : List α} (hsorted : l.Pairwise (· < ·)) {a : α} (ha : a ∈ l) :
    l.idxOf a = l.countP (· < a) := by
  induction l with
  | nil => cases ha
  | cons head rest ih =>
    rw [List.pairwise_cons] at hsorted
    by_cases hhead : head = a
    · subst hhead
      have hnone : rest.countP (· < head) = 0 := by
        refine List.countP_eq_zero.mpr fun b hb ↦ ?_
        simpa using (hsorted.1 b hb).le
      simp [hnone]
    · have hrest : a ∈ rest := (List.mem_cons.mp ha).resolve_left (Ne.symm hhead)
      rw [List.idxOf_cons_ne rest hhead, ih hsorted.2 hrest,
        List.countP_cons_of_pos (by simpa using hsorted.1 a hrest)]

/-- The place of an element is the number of smaller ones. -/
theorem place_eq_countP_lt {l : List α} (hnodup : l.Nodup) {a : α} (ha : a ∈ l) :
    place l a = l.countP (· < a) := by
  have hperm := List.perm_insertionSort (· ≤ ·) l
  have hsorted : (l.insertionSort (· ≤ ·)).Pairwise (· < ·) := by
    refine ((List.pairwise_insertionSort (· ≤ ·) l).and
      (hperm.nodup_iff.mpr hnodup)).imp fun h ↦ lt_of_le_of_ne h.1 h.2
  rw [place, idxOf_eq_countP_lt hsorted (hperm.mem_iff.mpr ha)]
  exact hperm.countP_eq _

/-- Different elements have different places. -/
theorem place_inj {l : List α} {a b : α} (ha : a ∈ l) (h : place l a = place l b) : a = b :=
  (List.idxOf_inj ((List.mem_insertionSort (· ≤ ·)).mpr ha)).mp h

theorem idxOf?_eq_some {l : List α} {a : α} (ha : a ∈ l) : l.idxOf? a = some (l.idxOf a) := by
  obtain ⟨place, hplace⟩ := Option.isSome_iff_exists.mp (List.isSome_idxOf?.mpr ha)
  rw [hplace, List.idxOf_eq_getD_idxOf?, hplace, Option.getD_some]

theorem idxOf_map_of_injOn (f : α → β) {l : List α} {a : α} (h : ∀ b ∈ l, f b = f a → b = a) :
    (l.map f).idxOf (f a) = l.idxOf a := by
  induction l with
  | nil => rfl
  | cons head rest ih =>
    have hrest := ih fun b hb ↦ h b (List.mem_cons_of_mem head hb)
    by_cases hhead : head = a
    · simp [hhead]
    · have hf : f head ≠ f a := fun heq ↦ hhead (h head (List.mem_cons_self ..) heq)
      rw [List.map_cons, List.idxOf_cons_ne _ hf, List.idxOf_cons_ne _ hhead, hrest]

/-- A renaming that keeps the order keeps the places. -/
theorem place_map (f : α → β) {l : List α} {a : α} (hmono : ∀ b ∈ l, ∀ c ∈ l, b < c → f b < f c)
    (hinj : ∀ b ∈ l, f b = f a → b = a) : place (l.map f) (f a) = place l a := by
  have horder : ∀ b ∈ l, ∀ c ∈ l, b ≤ c ↔ f b ≤ f c := by
    intro b hb c hc
    constructor
    · intro hle
      rcases hle.lt_or_eq with hlt | rfl
      · exact (hmono b hb c hc hlt).le
      · exact le_rfl
    · intro hle
      by_contra hlt
      exact absurd (hmono c hc b hb (not_le.mp hlt)) (not_lt.mpr hle)
  rw [place, ← List.map_insertionSort (· ≤ ·) (· ≤ ·) f l horder]
  exact idxOf_map_of_injOn f fun b hb ↦ hinj b ((List.mem_insertionSort (· ≤ ·)).mp hb)

end Ranking
