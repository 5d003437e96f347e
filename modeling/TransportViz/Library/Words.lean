import Mathlib.Algebra.BigOperators.Group.List.Basic
import Mathlib.Algebra.GroupWithZero.Nat

/-!
# Unsigned words

The arithmetic of a 64-bit unsigned integer on natural numbers: a sum that does not fit is cut to its
last 64 bits, a difference that would be negative wraps round. Both are the plain operations as long as
the result fits.
-/

namespace TransportViz.Words

/-- One more than the largest word. -/
def modulus : ℕ := 2 ^ 64

def add (a b : ℕ) : ℕ := (a + b) % modulus

/-- Below zero the difference starts again at the largest word. -/
def sub (a b : ℕ) : ℕ := if b ≤ a then a - b else a + modulus - b

def sum (words : List ℕ) : ℕ := words.foldl add 0

@[simp]
theorem sum_nil : sum [] = 0 := rfl

theorem sub_eq {a b : ℕ} (h : b ≤ a) : sub a b = a - b := if_pos h

theorem add_mod_left (a b : ℕ) : add (a % modulus) b = (a + b) % modulus := Nat.mod_add_mod a modulus b

theorem foldl_add_mod (words : List ℕ) (start : ℕ) :
    words.foldl add (start % modulus) = (start + words.sum) % modulus := by
  induction words generalizing start with
  | nil => rfl
  | cons word rest ih => rw [List.foldl_cons, add_mod_left, ih, List.sum_cons, Nat.add_assoc]

/-- A sum of words is the sum, cut to 64 bits. -/
theorem sum_eq_mod (words : List ℕ) : sum words = words.sum % modulus := by
  have hfold := foldl_add_mod words 0
  rw [Nat.zero_mod, Nat.zero_add] at hfold
  exact hfold

theorem sum_lt (words : List ℕ) : sum words < modulus := by
  rw [sum_eq_mod]
  exact Nat.mod_lt _ (by decide)

theorem sum_eq {words : List ℕ} (h : words.sum < modulus) : sum words = words.sum := by
  rw [sum_eq_mod, Nat.mod_eq_of_lt h]

theorem sum_append (before words : List ℕ) : sum (before ++ words) = add (sum before) (sum words) := by
  rw [sum_eq_mod, sum_eq_mod, sum_eq_mod, List.sum_append, add, ← Nat.add_mod]

/-- A sum may go on from what has been added so far. -/
theorem foldl_add_sum (before words : List ℕ) :
    words.foldl add (sum before) = add (sum before) (sum words) := by
  rw [← sum_append, sum, sum, List.foldl_append]

theorem sum_concat (words : List ℕ) (word : ℕ) : sum (words ++ [word]) = add (sum words) word := by
  rw [sum, sum, List.foldl_append, List.foldl_cons, List.foldl_nil]

theorem add_sum_zero (words : List ℕ) : add (sum words) 0 = sum words := by
  rw [add, Nat.add_zero, Nat.mod_eq_of_lt (sum_lt words)]

/-- A sum that is not zero has a summand that is not; the other way round it may have wrapped. -/
theorem exists_pos_of_sum_pos {words : List ℕ} (h : 0 < sum words) : ∃ word ∈ words, 0 < word := by
  by_contra hnone
  have hzero : words.sum = 0 := List.sum_eq_zero fun word hword ↦
    Nat.eq_zero_of_not_pos fun hpos ↦ hnone ⟨word, hword, hpos⟩
  rw [sum_eq_mod, hzero, Nat.zero_mod] at h
  exact Nat.lt_irrefl 0 h

end TransportViz.Words
