import Mathlib.Data.List.Forall2
import Mathlib.Data.List.Pairwise
import Mathlib.Order.Lattice

/-!
# Buckets of a stream

A stream is summarized in buckets: an element opens a new bucket when its key is larger than that of
the last one, and is merged into the last one otherwise. `Filed` relates the buckets to the elements
they stand for. Dropping the old buckets from the front is dropping the old elements, provided that the
keys come in order, so that every element lies in the bucket of its own key.
-/

universe u v w

namespace Buckets

variable {α : Type u} {β : Type v} {κ : Type w} [LinearOrder κ]

/-- Opens a bucket for `key`, or merges into the last one. -/
def note (keyOf : β → κ) (key : κ) (fresh : β) (grow : β → β) (buckets : List β) : List β :=
  match buckets.getLast? with
  | none => [fresh]
  | some last => if keyOf last < key then buckets ++ [fresh] else buckets.dropLast ++ [grow last]

/-- The buckets stand for the elements, consecutive ones for each bucket. -/
def Filed (holds : β → List α → Prop) (buckets : List β) (elements : List α) : Prop :=
  ∃ chunks : List (List α), chunks.flatten = elements ∧ List.Forall₂ holds buckets chunks

omit [LinearOrder κ] in
/-- A part of the state that only some elements of a stream act on has seen those elements. -/
theorem foldl_seen {σ : Type*} (part : σ → β) (step : σ → α → σ) (acts : α → Bool) (act : β → α → β)
    (hstep : ∀ state a, part (step state a) = if acts a then act (part state) a else part state)
    (elements : List α) (state : σ) :
    part (elements.foldl step state) = (elements.filter acts).foldl act (part state) := by
  induction elements generalizing state with
  | nil => rfl
  | cons a rest ih =>
    rw [List.foldl_cons, ih, hstep, List.filter_cons]
    split_ifs <;> rfl

variable {holds : β → List α → Prop} {buckets : List β} {elements : List α}

theorem filed_nil (holds : β → List α → Prop) : Filed holds [] [] := ⟨[], rfl, .nil⟩

theorem filed_cons {bucket : β} {chunk : List α} (hhead : holds bucket chunk)
    (h : Filed holds buckets elements) : Filed holds (bucket :: buckets) (chunk ++ elements) := by
  obtain ⟨chunks, rfl, hforall⟩ := h
  exact ⟨chunk :: chunks, rfl, .cons hhead hforall⟩

theorem Filed.exists_cons {bucket : β} (h : Filed holds (bucket :: buckets) elements) :
    ∃ chunk rest, elements = chunk ++ rest ∧ holds bucket chunk ∧ Filed holds buckets rest := by
  obtain ⟨chunks, rfl, hforall⟩ := h
  cases hforall with
  | @cons _ chunk _ rest hhead hrest => exact ⟨chunk, rest.flatten, rfl, hhead, rest, rfl, hrest⟩

/-- One more element is filed in a new bucket or in the last one. -/
theorem Filed.note (h : Filed holds buckets elements) (keyOf : β → κ) (key : κ) (fresh : β)
    (grow : β → β) (a : α) (hfresh : holds fresh [a])
    (hgrow : ∀ bucket chunk, chunk ⊆ elements → holds bucket chunk → key ≤ keyOf bucket →
      holds (grow bucket) (chunk ++ [a])) :
    Filed holds (note keyOf key fresh grow buckets) (elements ++ [a]) := by
  induction buckets generalizing elements with
  | nil =>
    obtain ⟨chunks, rfl, hforall⟩ := h
    cases hforall
    exact ⟨[[a]], rfl, .cons hfresh .nil⟩
  | cons bucket rest ih =>
    obtain ⟨chunk, others, rfl, hbucket, hrest⟩ := h.exists_cons
    cases rest with
    | nil =>
      obtain ⟨chunks, rfl, hforall⟩ := hrest
      cases hforall
      simp only [Buckets.note, List.getLast?_singleton, List.flatten_nil, List.append_nil]
      split_ifs with hkey
      · exact ⟨[chunk, [a]], by simp, .cons hbucket (.cons hfresh .nil)⟩
      · have hgrown := hgrow bucket chunk (by simp) hbucket (not_lt.mp hkey)
        simpa using filed_cons hgrown (filed_nil holds)
    | cons next rest =>
      have hnote : Buckets.note keyOf key fresh grow (bucket :: next :: rest) =
          bucket :: Buckets.note keyOf key fresh grow (next :: rest) := by
        simp only [Buckets.note, List.getLast?_cons_cons, List.dropLast_cons_cons]
        cases hlast : (next :: rest).getLast? with
        | none => simp at hlast
        | some last =>
          simp only
          split_ifs <;> rfl
      rw [hnote, List.append_assoc]
      refine filed_cons hbucket (ih hrest fun b c hsub ↦ ?_)
      exact hgrow b c (List.Subset.trans hsub (List.subset_append_right _ _))

/-- The elements are filed one after the other. -/
theorem Filed.foldl_note (h : Filed holds buckets elements) (keyOf : β → κ) (key : α → κ)
    (fresh : α → β) (grow : α → β → β) (more : List α) (hfresh : ∀ a, holds (fresh a) [a])
    (hgrow : ∀ before a, before ++ [a] <+: elements ++ more → ∀ bucket chunk, chunk ⊆ before →
      holds bucket chunk → key a ≤ keyOf bucket → holds (grow a bucket) (chunk ++ [a])) :
    Filed holds
      (more.foldl (fun buckets a ↦ Buckets.note keyOf (key a) (fresh a) (grow a) buckets) buckets)
      (elements ++ more) := by
  induction more generalizing buckets elements with
  | nil => simpa using h
  | cons a rest ih =>
    have hassoc : elements ++ a :: rest = elements ++ [a] ++ rest := by simp
    rw [hassoc] at hgrow ⊢
    exact ih (h.note keyOf (key a) (fresh a) (grow a) a (hfresh a)
      fun bucket chunk ↦ hgrow elements a (List.prefix_append _ _) bucket chunk) hgrow

/-- An element that comes in order and opens no new bucket has the key of the last one. -/
theorem key_eq_of_le {key : α → κ} {before chunk : List α} {a : α} {last : κ}
    (hsorted : (before ++ [a]).Pairwise fun a b ↦ key a ≤ key b) (hsub : chunk ⊆ before)
    (hne : chunk ≠ []) (hkeys : ∀ b ∈ chunk, key b = last) (hle : key a ≤ last) : key a = last := by
  obtain ⟨first, hfirst⟩ := List.exists_mem_of_ne_nil chunk hne
  refine le_antisymm hle ?_
  rw [← hkeys first hfirst]
  exact (List.pairwise_append.mp hsorted).2.2 first (hsub hfirst) a (List.mem_singleton_self a)

/-- Keys that come in order keep the old elements in the old buckets. -/
theorem Filed.dropWhile (h : Filed holds buckets elements) (keyOf : β → κ) (key : α → κ)
    (hkeys : ∀ bucket chunk, holds bucket chunk → ∀ a ∈ chunk, key a = keyOf bucket)
    (hne : ∀ bucket chunk, holds bucket chunk → chunk ≠ [])
    (hsorted : elements.Pairwise fun a b ↦ key a ≤ key b) (oldest : κ) :
    Filed holds (buckets.dropWhile fun b ↦ keyOf b < oldest)
      (elements.filter fun a ↦ oldest ≤ key a) := by
  induction buckets generalizing elements with
  | nil =>
    obtain ⟨chunks, rfl, hforall⟩ := h
    cases hforall
    exact filed_nil holds
  | cons bucket rest ih =>
    have hfiled := h
    obtain ⟨chunk, others, rfl, hbucket, hrest⟩ := h.exists_cons
    obtain ⟨-, hothers, hacross⟩ := List.pairwise_append.mp hsorted
    by_cases hold : keyOf bucket < oldest
    · have hnone : chunk.filter (fun a ↦ oldest ≤ key a) = [] := by
        refine List.filter_eq_nil_iff.mpr fun a ha ↦ ?_
        simpa [hkeys bucket chunk hbucket a ha] using hold
      rw [List.dropWhile_cons_of_pos (by simpa using hold), List.filter_append, hnone,
        List.nil_append]
      exact ih hrest hothers
    · have hall : (chunk ++ others).filter (fun a ↦ oldest ≤ key a) = chunk ++ others := by
        refine List.filter_eq_self.mpr fun a ha ↦ decide_eq_true ?_
        obtain ⟨first, hfirst⟩ := List.exists_mem_of_ne_nil chunk (hne bucket chunk hbucket)
        have hle : oldest ≤ key first := hkeys bucket chunk hbucket first hfirst ▸ not_lt.mp hold
        rcases List.mem_append.mp ha with ha | ha
        · rwa [hkeys bucket chunk hbucket a ha, ← hkeys bucket chunk hbucket first hfirst]
        · exact hle.trans (hacross first hfirst a ha)
      rw [List.dropWhile_cons_of_neg (by simpa using hold), hall]
      exact hfiled

end Buckets
