import Mathlib.Algebra.BigOperators.Intervals

/-!
# Maximal runs

A run is a stretch of indices that all satisfy a predicate and each of which joins the one before it. What
the first index has whole, and every later one as a difference, sums up to what the last index has.
-/

universe u

namespace Runs

/-- The indices `a ≤ i < b` are a run, and no longer stretch below `n` is one. -/
structure MaximalRun (ok joins : ℕ → Prop) (n a b : ℕ) : Prop where
  lt : a < b
  le : b ≤ n
  holds : ∀ i, a ≤ i → i < b → ok i
  linked : ∀ i, a < i → i < b → joins i
  starts : 0 < a → ok (a - 1) → ¬joins a
  ends : b < n → ok b → ¬joins b

section Sums

variable {G : Type u} [AddCommGroup G] {f g : ℕ → G} {a b n : ℕ} {ok joins : ℕ → Prop}

theorem sum_Ico_eq_last (hab : a < b) (hfirst : f a = g a)
    (hstep : ∀ i, a < i → i < b → f i = g i - g (i - 1)) :
    ∑ i ∈ Finset.Ico a b, f i = g (b - 1) := by
  induction b, hab using Nat.le_induction with
  | base => simpa using hfirst
  | succ b hab ih =>
    have hrest := ih fun i hi hib ↦ hstep i hi (hib.trans_le b.le_succ)
    rw [Finset.sum_Ico_succ_top (Nat.le_of_succ_le hab), hrest, hstep b hab b.lt_succ_self,
      add_sub_cancel, Nat.add_sub_cancel]

theorem MaximalRun.sum_eq (h : MaximalRun ok joins n a b)
    (hfirst : ok a → (0 < a → ok (a - 1) → ¬joins a) → f a = g a)
    (hstep : ∀ i, a < i → i < b → ok (i - 1) → ok i → joins i → f i = g i - g (i - 1)) :
    ∑ i ∈ Finset.Ico a b, f i = g (b - 1) := by
  refine sum_Ico_eq_last h.lt (hfirst (h.holds a le_rfl h.lt) h.starts) fun i hi hib ↦ ?_
  exact hstep i hi hib (h.holds (i - 1) (by omega) (by omega)) (h.holds i hi.le hib) (h.linked i hi hib)

end Sums

end Runs
