import Mathlib.Algebra.Order.BigOperators.Group.List
import Mathlib.Data.Rat.Floor
import TransportViz.Replay.Aligned

/-!
# The bound of the history

`dropCount` removes a batch per round until what is left fits or is the newest frame alone. It stops
within its last batch of the smallest count that would do, so that the history loses less than a tenth
more than it has to.
-/

namespace TransportViz.Replay

/-! ## Specification -/

section Specification

variable (sizes : List ℚ) (limit : ℚ)

/-- The loop goes on with `n` frames dropped. -/
def Over (n : ℕ) : Prop := limit < (sizes.drop n).sum ∧ n < sizes.length - 1

/-- The counts at the starts of the rounds and at the end. -/
inductive Reached : ℕ → Prop where
  | start : Reached 0
  | round {n : ℕ} : Reached n → Over sizes limit n → Reached (n + dropStep sizes.length n)

/-- What is left after `n` frames fits, or is the newest frame. -/
def Suffices (n : ℕ) : Prop := (sizes.drop n).sum ≤ limit ∨ n = sizes.length - 1

instance : DecidablePred (Suffices sizes limit) := fun n ↦
  inferInstanceAs (Decidable ((sizes.drop n).sum ≤ limit ∨ n = sizes.length - 1))

/-- The step that takes the loop from `before` to its end drops little more than needed. -/
structure LastStep (before : ℕ) : Prop where
  reached : Reached sizes limit before
  exceeds : Over sizes limit before
  count_eq : dropCount sizes limit = before + dropStep sizes.length before
  step_le : dropStep sizes.length before ≤ max 1 ⌈((sizes.length - before : ℕ) : ℚ) / 10⌉₊
  least : ∃ m, IsLeast {n | Suffices sizes limit n} m ∧ m ≤ dropCount sizes limit ∧
    dropCount sizes limit - m < dropStep sizes.length before

/-- How `dropCount` bounds the history. -/
structure BoundKept : Prop where
  le_length : (dropCount sizes limit : ℤ) ≤ max 0 (sizes.length - 1)
  fits : (sizes.drop (dropCount sizes limit)).sum ≤ limit ∨
    (dropCount sizes limit : ℤ) = max 0 (sizes.length - 1)
  whole : sizes.sum ≤ limit → dropCount sizes limit = 0
  last : dropCount sizes limit ≠ 0 → ∃ before, LastStep sizes limit before

end Specification

/-! ## The rounds -/

section Rounds

variable {sizes : List ℚ} {limit : ℚ}

theorem Reached.le_length {n : ℕ} (h : Reached sizes limit n) : n ≤ sizes.length - 1 := by
  cases h with
  | start => exact Nat.zero_le _
  | round _ hover =>
    have hstep := dropStep_pos hover.2
    omega

/-- A count above zero is reached by a last round. -/
theorem Reached.exists_before {n : ℕ} (h : Reached sizes limit n) (hn : n ≠ 0) :
    ∃ before, Reached sizes limit before ∧ Over sizes limit before ∧
      n = before + dropStep sizes.length before := by
  cases h with
  | start => exact absurd rfl hn
  | round hreached hover => exact ⟨_, hreached, hover, rfl⟩

/-- The loop ends with a count it reaches and does not go on with. -/
theorem dropLoop_reached {bytes : ℚ} {n : ℕ} (hreached : Reached sizes limit n)
    (hbytes : bytes = (sizes.drop n).sum) :
    Reached sizes limit (dropLoop sizes limit bytes n) ∧
      ¬Over sizes limit (dropLoop sizes limit bytes n) := by
  induction bytes, n using dropLoop.induct sizes limit with
  | case1 bytes n hover step ih =>
    rw [dropLoop, if_pos hover]
    apply ih
    · exact hreached.round ⟨hbytes ▸ hover.1, hover.2⟩
    · have hsum := List.sum_take_add_sum_drop (sizes.drop n) step
      rw [List.drop_drop] at hsum
      rw [hbytes, ← hsum, add_sub_cancel_left]
  | case2 bytes n hdone =>
    rw [dropLoop, if_neg hdone]
    refine ⟨hreached, fun hover ↦ hdone ?_⟩
    exact ⟨hbytes ▸ hover.1, hover.2⟩

variable (sizes limit) in
theorem reached_dropCount : Reached sizes limit (dropCount sizes limit) :=
  (dropLoop_reached .start rfl).1

theorem not_over_dropCount : ¬Over sizes limit (dropCount sizes limit) :=
  (dropLoop_reached .start rfl).2

variable (sizes limit) in
theorem suffices_dropCount : Suffices sizes limit (dropCount sizes limit) := by
  have hle := (reached_dropCount sizes limit).le_length
  by_cases hfits : (sizes.drop (dropCount sizes limit)).sum ≤ limit
  · exact Or.inl hfits
  · right
    by_contra hne
    exact not_over_dropCount ⟨not_le.mp hfits, lt_of_le_of_ne hle hne⟩

theorem dropStep_le (length n : ℕ) :
    dropStep length n ≤ max 1 ⌈((length - n : ℕ) : ℚ) / 10⌉₊ := by
  have hceil : ((length - n : ℕ) : ℚ) / 10 ≤ (⌈((length - n : ℕ) : ℚ) / 10⌉₊ : ℚ) := Nat.le_ceil _
  rw [div_le_iff₀ (by norm_num)] at hceil
  have hnat : length - n ≤ ⌈((length - n : ℕ) : ℚ) / 10⌉₊ * 10 := by exact_mod_cast hceil
  simp only [dropStep]
  omega

/-- Frames that are dropped later leave no more bytes. -/
theorem sum_drop_antitone (hsizes : ∀ size ∈ sizes, 0 ≤ size) {m n : ℕ} (h : m ≤ n) :
    (sizes.drop n).sum ≤ (sizes.drop m).sum := by
  have hsum := List.sum_take_add_sum_drop (sizes.drop m) (n - m)
  rw [List.drop_drop, Nat.add_sub_cancel' h] at hsum
  rw [← hsum, le_add_iff_nonneg_left]
  apply List.sum_nonneg
  intro size hmem
  exact hsizes size (List.mem_of_mem_drop (List.mem_of_mem_take hmem))

/-- A count that suffices is beyond the start of every round. -/
theorem Over.lt_of_suffices (hsizes : ∀ size ∈ sizes, 0 ≤ size) {n m : ℕ}
    (hover : Over sizes limit n) (hm : Suffices sizes limit m) : n < m := by
  by_contra hle
  rw [not_lt] at hle
  rcases hm with hfits | hlast
  · exact absurd ((sum_drop_antitone hsizes hle).trans hfits) (not_le.mpr hover.1)
  · exact absurd hover.2 (by omega)

end Rounds

/-- The bound is kept, and little more is dropped than the bound asks for. -/
theorem boundKept (sizes : List ℚ) (limit : ℚ) (hsizes : ∀ size ∈ sizes, 0 ≤ size) :
    BoundKept sizes limit where
  le_length := by
    have hle := (reached_dropCount sizes limit).le_length
    omega
  fits := by
    rcases suffices_dropCount sizes limit with hfits | hlast
    · exact Or.inl hfits
    · right
      omega
  whole h := by
    rw [dropCount, dropLoop, if_neg (fun hover ↦ absurd h (not_le.mpr hover.1))]
  last h := by
    have hsuffices := suffices_dropCount sizes limit
    obtain ⟨before, hreached, hover, hcount⟩ := (reached_dropCount sizes limit).exists_before h
    refine ⟨before, hreached, hover, hcount, dropStep_le _ _, Nat.find ⟨_, hsuffices⟩,
      Nat.isLeast_find ⟨_, hsuffices⟩, Nat.find_min' _ hsuffices, ?_⟩
    have hlt := hover.lt_of_suffices hsizes (Nat.find_spec ⟨_, hsuffices⟩)
    have hstep := (dropStep_pos hover.2).1
    omega

theorem boundKept_tenFrames : BoundKept (List.replicate 10 10) 95 :=
  boundKept _ _ (by decide)

/-- A limit below zero is not kept by a history without frames. -/
theorem dropCount_nil_over :
    ¬∀ (sizes : List ℚ) (limit : ℚ), (∀ size ∈ sizes, 0 ≤ size) →
      (sizes.drop (dropCount sizes limit)).sum ≤ limit ∨
        (dropCount sizes limit : ℤ) = sizes.length - 1 := by
  intro h
  have hnil := h [] (-1) (by simp)
  rw [List.drop_nil, dropCount, dropLoop, if_neg (fun hover ↦ by simp at hover)] at hnil
  norm_num at hnil

end TransportViz.Replay
