import Mathlib.Data.List.Basic

/-!
# Texts with hidden stretches

An opening symbol hides what follows it up to the closing symbol, both of them included, or up to the end
of the text. What is left are groups, each of a leading symbol and the symbols behind it. A text is cut
before the group after the first `k`; nothing hidden before the cut is lost, and no group is split.
-/

universe u

namespace HiddenRuns

variable {α : Type u}

/-- The symbols that hide, that end what is hidden, and that begin a group. -/
structure Markers (α : Type u) where
  opens : α → Bool
  closes : α → Bool
  lead : α → Bool

variable (m : Markers α)

/-- Whether the text is hidden behind a symbol. -/
def Markers.step (hidden : Bool) (a : α) : Bool := (hidden || m.opens a) && !m.closes a

def Markers.after (hidden : Bool) (s : List α) : Bool := s.foldl m.step hidden

def Markers.visible : Bool → List α → List α
  | _, [] => []
  | hidden, a :: rest =>
      if hidden || m.opens a then visible (m.step hidden a) rest
      else a :: visible (m.step hidden a) rest

/-- Each leading symbol with what follows it up to the next one. -/
def Markers.groups : List α → List (List α)
  | [] => []
  | a :: rest =>
      if m.lead a then (a :: rest.takeWhile fun b ↦ !m.lead b) :: groups rest else groups rest

/-- The number of visible groups. -/
def Markers.width (hidden : Bool) (s : List α) : ℕ := (m.visible hidden s).countP m.lead

/-- The text is cut before a visible group, behind `k` of them. -/
structure Markers.Cut (hidden : Bool) (k : ℕ) (s kept rest : List α) : Prop where
  append : s = kept ++ rest
  shown : m.after hidden kept = false
  lead : ∃ a tail, rest = a :: tail ∧ m.lead a = true ∧ m.opens a = false
  width : m.width hidden kept = k

section Append

variable {m} {hidden : Bool}

theorem after_cons (a : α) (s : List α) : m.after hidden (a :: s) = m.after (m.step hidden a) s := rfl

theorem visible_append (s t : List α) :
    m.visible hidden (s ++ t) = m.visible hidden s ++ m.visible (m.after hidden s) t := by
  induction s generalizing hidden with
  | nil => rfl
  | cons a s ih =>
    rw [List.cons_append, Markers.visible, Markers.visible, ih, after_cons]
    split_ifs <;> rfl

theorem width_cons (a : α) (s : List α) : m.width hidden (a :: s) =
    (if !(hidden || m.opens a) && m.lead a then 1 else 0) + m.width (m.step hidden a) s := by
  rw [Markers.width, Markers.visible, Markers.width]
  split_ifs with hhides hlead hlead
  · simp [hhides] at hlead
  · rw [Nat.zero_add]
  · rw [List.countP_cons_of_pos (by simp_all), Nat.add_comm]
  · rw [List.countP_cons_of_neg (by simp_all), Nat.zero_add]

theorem length_groups (s : List α) : (m.groups s).length = s.countP m.lead := by
  induction s with
  | nil => rfl
  | cons a s ih =>
    rw [Markers.groups]
    split_ifs with h
    · rw [List.length_cons, ih, List.countP_cons_of_pos h]
    · rw [ih, List.countP_cons_of_neg h]

/-- A leading symbol ends the group before it. -/
theorem groups_append_cons (s : List α) {a : α} (t : List α) (h : m.lead a = true) :
    m.groups (s ++ a :: t) = m.groups s ++ m.groups (a :: t) := by
  induction s with
  | nil => rfl
  | cons b s ih =>
    have hgroup : (s ++ a :: t).takeWhile (fun c ↦ !m.lead c) = s.takeWhile fun c ↦ !m.lead c := by
      rw [List.takeWhile_append, List.takeWhile_cons_of_neg (by simp [h]), List.append_nil]
      split_ifs with hall
      · exact ((List.takeWhile_prefix _).eq_of_length hall).symm
      · rfl
    rw [List.cons_append, Markers.groups, Markers.groups, ih, hgroup]
    split_ifs <;> rfl

end Append

section Cuts

variable {m} {hidden : Bool} {k : ℕ} {s kept rest : List α}

/-- Before the cut stand the first `k` groups, whole. -/
theorem Markers.Cut.groups_eq (h : m.Cut hidden k s kept rest) :
    m.groups (m.visible hidden kept) = (m.groups (m.visible hidden s)).take k := by
  obtain ⟨a, tail, hrest, hlead, hopens⟩ := h.lead
  have hvisible : m.visible hidden s =
      m.visible hidden kept ++ a :: m.visible (m.step false a) tail := by
    rw [h.append, visible_append, h.shown, hrest, Markers.visible, Bool.false_or, hopens]
    rfl
  have hlength : (m.groups (m.visible hidden kept)).length = k := (length_groups _).trans h.width
  rw [hvisible, groups_append_cons _ _ hlead, List.take_left' hlength]

/-- What is put behind the cut shows as if it stood alone. -/
theorem Markers.Cut.visible_append (h : m.Cut hidden k s kept rest) (t : List α) :
    m.visible hidden (kept ++ t) = m.visible hidden kept ++ m.visible false t := by
  rw [HiddenRuns.visible_append, h.shown]

/-- A symbol before the cut. -/
theorem Markers.Cut.cons {a : α} (h : m.Cut (m.step hidden a) k s kept rest) :
    m.Cut hidden ((if !(hidden || m.opens a) && m.lead a then 1 else 0) + k)
      (a :: s) (a :: kept) rest where
  append := by rw [h.append, List.cons_append]
  shown := h.shown
  lead := h.lead
  width := by rw [width_cons, h.width]

end Cuts

end HiddenRuns
