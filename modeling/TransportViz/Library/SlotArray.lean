import Mathlib.Data.List.Basic
import Mathlib.Order.Lattice

/-!
# Arrays of slots

An array of fixed length holds some values at its front and is absent in every slot behind them. It is
grown into a longer one, written at the first free slot, and shifted down in place: the slots that
become free are reset, so that what is written there later finds nothing left behind.
-/

universe u

namespace SlotArray

variable {α : Type u} (absent : α)

/-- A longer array with the same slots; the new ones hold `absent`. -/
def grow (n : ℕ) (slots : List α) : List α := slots ++ List.replicate (n - slots.length) absent

/-- Copies the slots from `start` to `stop` over the first ones. -/
def copyWithin (start stop : ℕ) (slots : List α) : List α :=
  (slots.take stop).drop start ++ slots.drop (min stop slots.length - start)

/-- Puts one value in every slot from `start` to `stop`. -/
def fill (value : α) (start stop : ℕ) (slots : List α) : List α :=
  slots.take start ++ List.replicate (min stop slots.length - start) value ++
    slots.drop (max start stop)

/-- The values, and `absent` behind them. -/
def padded (capacity : ℕ) (values : List α) : List α :=
  values ++ List.replicate (capacity - values.length) absent

variable {absent} {capacity : ℕ} {values : List α}

theorem length_padded (h : values.length ≤ capacity) :
    (padded absent capacity values).length = capacity := by
  rw [padded, List.length_append, List.length_replicate]
  omega

theorem getElem?_padded_of_lt {i : ℕ} (h : i < values.length) :
    (padded absent capacity values)[i]? = values[i]? :=
  List.getElem?_append_left h

theorem getElem?_padded_of_le {i : ℕ} (h : values.length ≤ i) (hcapacity : i < capacity) :
    (padded absent capacity values)[i]? = some absent := by
  rw [padded, List.getElem?_append_right h, List.getElem?_replicate, if_pos (by omega)]

/-- A free slot holds what is written when nothing is known. -/
theorem padded_concat_absent (h : values.length < capacity) :
    padded absent capacity (values ++ [absent]) = padded absent capacity values := by
  have hfree : capacity - values.length = capacity - (values.length + 1) + 1 := by omega
  rw [padded, padded, List.length_append, List.length_singleton, hfree, List.replicate_succ,
    List.append_assoc, List.singleton_append]

theorem set_padded_concat (value other : α) :
    (padded absent capacity (values ++ [other])).set values.length value =
      padded absent capacity (values ++ [value]) := by
  rw [padded, padded, List.length_append, List.length_append, List.length_singleton,
    List.append_assoc, List.append_assoc, List.set_append_right _ _ le_rfl, Nat.sub_self]
  rfl

theorem grow_padded {n : ℕ} (h : values.length ≤ capacity) (hn : capacity ≤ n) :
    grow absent n (padded absent capacity values) = padded absent n values := by
  have hfree : n - values.length = capacity - values.length + (n - capacity) := by omega
  rw [grow, length_padded h, padded, padded, List.append_assoc, ← List.replicate_add, ← hfree]

theorem fill_append (value : α) (front back : List α) {stop : ℕ} (hfront : front.length ≤ stop)
    (hstop : stop ≤ (front ++ back).length) :
    fill value front.length stop (front ++ back) =
      front ++ (List.replicate (stop - front.length) value ++ back.drop (stop - front.length)) := by
  rw [fill, List.take_left, min_eq_left hstop, max_eq_right hfront, List.append_assoc,
    List.drop_append, List.drop_eq_nil_of_le hfront, List.nil_append]

/-- Dropping the first values in place. -/
theorem fill_copyWithin_padded {n : ℕ} (h : values.length ≤ capacity) (hn : n ≤ values.length) :
    fill absent (values.length - n) values.length
        (copyWithin n values.length (padded absent capacity values)) =
      padded absent capacity (values.drop n) := by
  have hlength : (values.drop n).length = values.length - n := List.length_drop
  have htake : (padded absent capacity values).take values.length = values := by
    rw [padded, List.take_left]
  have hcopied : copyWithin n values.length (padded absent capacity values) =
      values.drop n ++ (padded absent capacity values).drop (values.length - n) := by
    rw [copyWithin, htake, length_padded h, min_eq_left h]
  have hstop : values.length ≤
      (values.drop n ++ (padded absent capacity values).drop (values.length - n)).length := by
    rw [List.length_append, List.length_drop, List.length_drop, length_padded h]
    omega
  have hback : (padded absent capacity values).drop (values.length - n + n) =
      List.replicate (capacity - values.length) absent := by
    rw [Nat.sub_add_cancel hn, padded, List.drop_left]
  have hfill := fill_append absent (values.drop n)
    ((padded absent capacity values).drop (values.length - n)) (hlength ▸ Nat.sub_le _ _) hstop
  rw [hlength, Nat.sub_sub_self hn, List.drop_drop, hback, ← List.replicate_add] at hfill
  rw [hcopied, hfill, padded, hlength]
  congr 2
  omega

end SlotArray
