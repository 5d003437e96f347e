import Mathlib.Data.List.Count
import Mathlib.Data.List.Perm.Basic

/-!
# Interleavings

Several sources send items into one run, and each item concerns some places of the state. Two runs that
mix the items differently have them in the same order place by place, and that is all that a place sees.
-/

universe u v

namespace Interleaving

variable {α : Type u} {κ : Type v}

/-- The items that concern a place come in the same order in both lists, for each place. -/
def SameOrder (concerns : κ → α → Bool) (items other : List α) : Prop :=
  ∀ k, items.filter (concerns k) = other.filter (concerns k)

section SameOrder

variable {concerns : κ → α → Bool} {items other : List α}

theorem SameOrder.refl (items : List α) : SameOrder concerns items items := fun _ ↦ rfl

theorem SameOrder.append {last last' : List α} (h : SameOrder concerns items other)
    (hlast : SameOrder concerns last last') :
    SameOrder concerns (items ++ last) (other ++ last') := by
  intro k
  rw [List.filter_append, List.filter_append, h k, hlast k]

/-- Neighbours that concern no place together may be swapped. -/
theorem SameOrder.swap (before after : List α) {a b : α}
    (h : ∀ k, ¬(concerns k a = true ∧ concerns k b = true)) :
    SameOrder concerns (before ++ a :: b :: after) (before ++ b :: a :: after) := by
  apply (SameOrder.refl before).append
  intro k
  simp only [List.filter_cons]
  cases ha : concerns k a with
  | false => rfl
  | true =>
    cases hb : concerns k b with
    | false => rfl
    | true => exact absurd ⟨ha, hb⟩ (h k)

variable {tag : α → Option κ}

/-- When an item concerns one place at most, both lists have the same items of any place. -/
theorem SameOrder.perm_filter [DecidableEq κ]
    (h : SameOrder (fun k a ↦ tag a = some k) items other) :
    (items.filter fun a ↦ (tag a).isSome).Perm (other.filter fun a ↦ (tag a).isSome) := by
  classical
  apply List.perm_iff_count.mpr
  intro a
  cases htag : tag a with
  | none =>
    rw [List.count_eq_zero_of_not_mem, List.count_eq_zero_of_not_mem]
    · simp [htag]
    · simp [htag]
  | some k =>
    calc (items.filter fun a ↦ (tag a).isSome).count a
        = items.count a := List.count_filter (by simp [htag])
      _ = (items.filter fun a ↦ tag a = some k).count a := (List.count_filter (by simp [htag])).symm
      _ = (other.filter fun a ↦ tag a = some k).count a := by rw [h k]
      _ = other.count a := List.count_filter (by simp [htag])
      _ = (other.filter fun a ↦ (tag a).isSome).count a := (List.count_filter (by simp [htag])).symm

theorem SameOrder.countP_eq [DecidableEq κ] (h : SameOrder (fun k a ↦ tag a = some k) items other) :
    items.countP (fun a ↦ (tag a).isSome) = other.countP fun a ↦ (tag a).isSome := by
  rw [List.countP_eq_length_filter, List.countP_eq_length_filter, h.perm_filter.length_eq]

/-- What only items of some place yield is the same up to the order. -/
theorem SameOrder.perm_filterMap [DecidableEq κ] {β : Type*} {f : α → Option β}
    (h : SameOrder (fun k a ↦ tag a = some k) items other)
    (hf : ∀ a b, f a = some b → (tag a).isSome = true) :
    (items.filterMap f).Perm (other.filterMap f) := by
  have hfilter (list : List α) :
      (list.filter fun a ↦ (tag a).isSome).filterMap f = list.filterMap f := by
    rw [List.filterMap_filter]
    apply List.filterMap_congr
    intro a _
    cases hfa : f a with
    | none => simp
    | some b => rw [if_pos (hf a b hfa)]
  rw [← hfilter items, ← hfilter other]
  exact h.perm_filter.filterMap f

end SameOrder

end Interleaving
