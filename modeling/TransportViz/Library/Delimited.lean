import Mathlib.Data.List.Basic
import Mathlib.Data.String.Basic

/-!
# Reading a text back at a separator

Two texts joined by a separator determine their parts as soon as one side is known to be free of it.
`eq_of_append_cons_left` reads at the first separator, `eq_of_append_cons_right` at the last,
`eq_of_intercalate_eq` at all of them.
-/

universe u

namespace Delimited

variable {α : Type u}

/-- The part before the first element of another kind determines the split. -/
theorem eq_of_append_cons_first {P : α → Prop} {x y : α} {a b c d : List α} (ha : ∀ e ∈ a, P e)
    (hc : ∀ e ∈ c, P e) (hx : ¬P x) (hy : ¬P y) (h : a ++ x :: b = c ++ y :: d) :
    a = c ∧ x = y ∧ b = d := by
  induction a generalizing c with
  | nil =>
    cases c with
    | nil => simpa using h
    | cons head rest =>
      rw [List.nil_append, List.cons_append, List.cons.injEq] at h
      exact absurd (hc x (h.1 ▸ List.mem_cons_self)) hx
  | cons head rest ih =>
    cases c with
    | nil =>
      rw [List.nil_append, List.cons_append, List.cons.injEq] at h
      exact absurd (ha y (h.1 ▸ List.mem_cons_self)) hy
    | cons other more =>
      rw [List.cons_append, List.cons_append, List.cons.injEq] at h
      obtain ⟨hrest, hxy, hb⟩ := ih (fun e he ↦ ha e (List.mem_cons_of_mem _ he))
        (fun e he ↦ hc e (List.mem_cons_of_mem _ he)) h.2
      exact ⟨by rw [h.1, hrest], hxy, hb⟩

/-- The part before the first separator determines the split. -/
theorem eq_of_append_cons_left {sep : α} {a b c d : List α} (ha : sep ∉ a) (hc : sep ∉ c)
    (h : a ++ sep :: b = c ++ sep :: d) : a = c ∧ b = d := by
  obtain ⟨hac, -, hbd⟩ := eq_of_append_cons_first (P := (· ≠ sep)) (fun e he heq ↦ ha (heq ▸ he))
    (fun e he heq ↦ hc (heq ▸ he)) (not_not_intro rfl) (not_not_intro rfl) h
  exact ⟨hac, hbd⟩

/-- The part after the last separator determines the split. -/
theorem eq_of_append_cons_right {sep : α} {a b c d : List α} (hb : sep ∉ b) (hd : sep ∉ d)
    (h : a ++ sep :: b = c ++ sep :: d) : a = c ∧ b = d := by
  have hreverse : b.reverse ++ sep :: a.reverse = d.reverse ++ sep :: c.reverse := by
    simpa using congrArg List.reverse h
  obtain ⟨hbd, hac⟩ := eq_of_append_cons_left (by simpa using hb) (by simpa using hd) hreverse
  exact ⟨List.reverse_injective hac, List.reverse_injective hbd⟩

/-- A tail without the separator begins behind it. -/
theorem exists_middle {sep : α} {head rest before tail : List α} (hsep : sep ∉ tail)
    (h : head ++ sep :: rest = before ++ tail) : ∃ middle, rest = middle ++ tail := by
  rcases List.append_eq_append_iff.mp h with ⟨more, -, hrest⟩ | ⟨more, -, htail⟩
  · cases more with
    | nil =>
      rw [List.nil_append] at hrest
      exact absurd (hrest ▸ List.mem_cons_self) hsep
    | cons c middle => exact ⟨middle, (List.cons.inj hrest).2⟩
  · rw [htail] at hsep
    exact absurd (List.mem_append_right _ List.mem_cons_self) hsep

/-- Parts that are not empty and free of the separator are determined by the text they make. -/
theorem eq_of_intercalate_eq [DecidableEq α] {sep : α} {a b : List (List α)}
    (ha : ∀ part ∈ a, part ≠ [] ∧ sep ∉ part) (hb : ∀ part ∈ b, part ≠ [] ∧ sep ∉ part)
    (h : [sep].intercalate a = [sep].intercalate b) : a = b := by
  have hempty {parts : List (List α)} (hparts : ∀ part ∈ parts, part ≠ [] ∧ sep ∉ part)
      (htext : [sep].intercalate parts = []) : parts = [] := by
    by_contra hne
    have hsplit := List.splitOn_intercalate sep (fun part hpart ↦ (hparts part hpart).2) hne
    rw [htext, List.splitOn_nil] at hsplit
    exact (hparts [] (hsplit ▸ List.mem_singleton_self [])).1 rfl
  cases hnil : a with
  | nil =>
    rw [hnil, List.intercalate_nil] at h
    exact (hempty hb h.symm).symm
  | cons part rest =>
    have hne : a ≠ [] := by simp [hnil]
    have hne' : b ≠ [] := by
      rintro rfl
      exact hne (hempty ha h)
    rw [← hnil, ← List.splitOn_intercalate sep (fun part hpart ↦ (ha part hpart).2) hne, h]
    exact List.splitOn_intercalate sep (fun part hpart ↦ (hb part hpart).2) hne'

/-- Parts that are each ended by the separator leave an empty one behind. -/
theorem splitOn_flatMap_append [DecidableEq α] {sep : α} {parts : List (List α)}
    (h : ∀ part ∈ parts, sep ∉ part) :
    (parts.flatMap fun part ↦ part ++ [sep]).splitOn sep = parts ++ [[]] := by
  induction parts with
  | nil => rfl
  | cons part rest ih =>
    rw [List.flatMap_cons, List.append_assoc, List.singleton_append,
      List.splitOn_append_cons_self_of_not_mem (h part List.mem_cons_self),
      ih fun other hother ↦ h other (List.mem_cons_of_mem _ hother), List.cons_append]

theorem intercalate_append_singleton (sep : α) {parts : List (List α)} (h : parts ≠ []) :
    [sep].intercalate parts ++ [sep] = parts.flatMap fun part ↦ part ++ [sep] := by
  induction parts with
  | nil => exact absurd rfl h
  | cons part rest ih =>
    cases rest with
    | nil => simp
    | cons other more =>
      rw [List.flatMap_cons, ← ih (List.cons_ne_nil other more), List.intercalate_cons_cons]
      simp only [List.append_assoc]

/-- No part has a separator in it. -/
theorem notMem_of_mem_splitOn [DecidableEq α] {sep : α} {text part : List α}
    (h : part ∈ text.splitOn sep) :
    sep ∉ part := by
  induction text generalizing part with
  | nil =>
    rw [List.mem_singleton.mp h]
    exact List.not_mem_nil
  | cons c rest ih =>
    rw [List.splitOn_eq_splitOnP, List.splitOnP_cons_eq_if_modifyHead, ← List.splitOn_eq_splitOnP] at h
    split_ifs at h with hc
    · rcases List.mem_cons.mp h with rfl | hmem
      · exact List.not_mem_nil
      · exact ih hmem
    · cases hrest : rest.splitOn sep with
      | nil => exact absurd hrest (List.splitOn_ne_nil _ _)
      | cons first more =>
        rw [hrest] at h ih
        rcases List.mem_cons.mp h with rfl | hmem
        · rw [List.mem_cons, not_or]
          exact ⟨fun heq ↦ hc (beq_iff_eq.mpr heq.symm), ih List.mem_cons_self⟩
        · exact ih (List.mem_cons_of_mem _ hmem)

end Delimited
