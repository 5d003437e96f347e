import TransportViz.Diff.Presence
import TransportViz.Library.TimedCell
import TransportViz.Watch.State

/-!
# The highlight state is a timed cell for every pair

Under each key the two mark maps hold one timed cell that is told `+` and `~`, and the ghosts with
their map another, told the ghosts of a removed pair and cleared when the pair comes back.
-/

namespace TransportViz.Watch

open Diff TimedCell Web

/-! ## One frame, key by key -/

section Step

variable (ttl : OrderedMap Ident ℤ) (changes : Changes) (key : Ident)

theorem mem_expired_iff : key ∈ expired ttl ↔ ∃ left, ttl.find? key = some left ∧ left - 1 ≤ 0 := by
  simp only [expired, List.mem_map, List.mem_filter, decide_eq_true_eq]
  constructor
  · rintro ⟨e, ⟨hmem, hle⟩, rfl⟩
    exact ⟨e.2, (OrderedMap.mem_entries_iff _ _ _).mp hmem, hle⟩
  · rintro ⟨left, hfind, hle⟩
    exact ⟨(key, left), ⟨(OrderedMap.mem_entries_iff _ _ _).mpr hfind, hle⟩, rfl⟩

/-- What the frame tells the mark of a pair. -/
def markTold : Option (Action Char) :=
  if key ∈ changes.changed.map fun c ↦ identOf c.key then some (.set '~')
  else if key ∈ changes.added.map identOf then some (.set '+')
  else none

theorem markTold_ne_clear : markTold changes key ≠ some .clear := by
  unfold markTold
  split_ifs <;> simp

/-- What the frame tells the ghosts of a pair. -/
def ghostTold (previous : Snapshot) (opt : RenderOptions) : Option (Action (List GhostPair)) :=
  if key ∈ changes.added.map identOf then some .clear
  else if key ∈ changes.removed.map identOf then some (.set (ghostsOf previous [key] opt))
  else none

/-- The map of remaining frames holds those of the cell. -/
def HoldsTtl {ε : Type} (ttl : OrderedMap Ident ℤ) (key : Ident) (cell : Option (ε × ℕ)) : Prop :=
  ttl.find? key = cell.map fun held ↦ (held.2 : ℤ)

variable {ttl key} {ε : Type} {cell : Option (ε × ℕ)}

theorem HoldsTtl.aged (h : HoldsTtl ttl key cell) : HoldsTtl (aged ttl) key (age cell) := by
  unfold HoldsTtl at h ⊢
  rw [Watch.aged, OrderedMap.find?_filterMap, h]
  cases cell with
  | none => rfl
  | some held =>
    simp only [Option.map_some, Option.bind_some, age]
    by_cases hlast : 1 < held.2
    · rw [if_pos hlast, if_neg (by omega), Option.map_some]
      congr 1
      push_cast [hlast.le]
      rfl
    · rw [if_neg hlast, if_pos (by omega), Option.map_none]

/-- What goes with the expired keys is what the cells lose. -/
theorem HoldsTtl.map_age (h : HoldsTtl ttl key cell) :
    (age cell).map Prod.fst = if key ∈ expired ttl then none else cell.map Prod.fst := by
  have hexpired := mem_expired_iff ttl key
  rw [h] at hexpired
  cases cell with
  | none => simp [age]
  | some held =>
    simp only [Option.map_some, Option.some.injEq, exists_eq_left'] at hexpired
    by_cases hlast : 1 < held.2
    · rw [if_neg fun hmem ↦ by have := hexpired.mp hmem; omega]
      simp [age, hlast]
    · rw [if_pos (hexpired.mpr (by omega))]
      simp [age, hlast]

/-! ### Marks -/

structure HoldsMark (marks : OrderedMap Ident Char) (ttl : OrderedMap Ident ℤ) (key : Ident)
    (cell : Option (Char × ℕ)) : Prop where
  mark : marks.find? key = cell.map Prod.fst
  left : HoldsTtl ttl key cell

/-- A frame ticks the cell of every mark. -/
theorem HoldsMark.holdMarks {marks : OrderedMap Ident Char} {cell : Option (Char × ℕ)}
    (h : HoldsMark marks ttl key cell) (changes : Changes) :
    HoldsMark (holdMarks marks ttl changes).1 (holdMarks marks ttl changes).2 key
      (tick 3 cell (markTold changes key)) := by
  constructor
  · simp only [Watch.holdMarks, OrderedMap.find?_foldl_set_const, OrderedMap.find?_foldl_erase,
      markTold]
    by_cases hchanged : key ∈ changes.changed.map fun c ↦ identOf c.key
    · rw [if_pos hchanged, if_pos hchanged]
      rfl
    rw [if_neg hchanged, if_neg hchanged]
    by_cases hadded : key ∈ changes.added.map identOf
    · rw [if_pos hadded, if_pos hadded]
      rfl
    rw [if_neg hadded, if_neg hadded, h.mark]
    rw [tick, h.left.map_age]
    split_ifs <;> rfl
  · unfold HoldsTtl
    simp only [Watch.holdMarks, OrderedMap.find?_foldl_set_const, markTold]
    by_cases hchanged : key ∈ changes.changed.map fun c ↦ identOf c.key
    · rw [if_pos hchanged, if_pos hchanged]
      rfl
    rw [if_neg hchanged, if_neg hchanged]
    by_cases hadded : key ∈ changes.added.map identOf
    · rw [if_pos hadded, if_pos hadded]
      rfl
    rw [if_neg hadded, if_neg hadded]
    exact h.left.aged

/-! ### Ghosts -/

def ghostsAt (ghosts : List GhostPair) (key : Ident) : List GhostPair :=
  ghosts.filter fun g ↦ identOf g.key = key

theorem ghostsAt_dropGhost (ghosts : List GhostPair) (key other : Ident) :
    ghostsAt (dropGhost ghosts other) key = if key = other then [] else ghostsAt ghosts key := by
  unfold ghostsAt dropGhost
  rw [List.filter_filter]
  split_ifs with hkey
  · apply List.filter_eq_nil_iff.mpr
    intro g _
    simp [hkey]
  · apply List.filter_congr
    intro g _
    by_cases hg : identOf g.key = key
    · simp [hg, hkey]
    · simp [hg]

theorem ghostsAt_foldl_dropGhost (keys : List Ident) (ghosts : List GhostPair) (key : Ident) :
    ghostsAt (keys.foldl dropGhost ghosts) key =
      if key ∈ keys then [] else ghostsAt ghosts key := by
  induction keys generalizing ghosts with
  | nil => rfl
  | cons head rest ih =>
    rw [List.foldl_cons, ih, ghostsAt_dropGhost]
    by_cases hhead : key = head <;> by_cases hrest : key ∈ rest <;> simp [hhead, hrest]

/-- The ghosts of one pair among those of all removed ones. -/
theorem ghostsAt_ghostsOf (previous : Snapshot) (removed : List Ident) (opt : RenderOptions)
    (key : Ident) :
    ghostsAt (ghostsOf previous removed opt) key =
      if key ∈ removed then ghostsOf previous [key] opt else [] := by
  unfold ghostsAt ghostsOf
  rw [List.filter_flatMap]
  split_ifs with hremoved
  · congr 1
    funext t
    rw [List.filter_map, List.filter_filter]
    apply congrArg
    apply List.filter_congr
    intro p _
    by_cases hp : identOf (pairKey t p) = key <;> simp [ghostPair, hp, hremoved]
  · apply List.flatMap_eq_nil_iff.mpr
    intro t _
    rw [List.filter_map, List.filter_filter, List.map_eq_nil_iff]
    apply List.filter_eq_nil_iff.mpr
    intro p _
    by_cases hp : identOf (pairKey t p) = key <;> simp [ghostPair, hp, hremoved]

structure HoldsGhosts (ghosts : List GhostPair) (ttl : OrderedMap Ident ℤ) (key : Ident)
    (cell : Option (List GhostPair × ℕ)) : Prop where
  ghosts : ghostsAt ghosts key = (cell.map Prod.fst).getD []
  left : HoldsTtl ttl key cell

theorem ghostsAt_append (first second : List GhostPair) (key : Ident) :
    ghostsAt (first ++ second) key = ghostsAt first key ++ ghostsAt second key :=
  List.filter_append ..

theorem mem_map_key_iff (ghosts : List GhostPair) (key : Ident) :
    key ∈ ghosts.map (fun g ↦ identOf g.key) ↔ ghostsAt ghosts key ≠ [] := by
  rw [List.mem_map, ghostsAt, Ne, List.filter_eq_nil_iff]
  simp

/-- A frame ticks the cell of every pair's ghosts, when a removed pair has any. -/
theorem HoldsGhosts.holdGhosts {ghosts : List GhostPair} {cell : Option (List GhostPair × ℕ)}
    (h : HoldsGhosts ghosts ttl key cell) (changes : Changes) (previous : Snapshot)
    (opt : RenderOptions)
    (hgone : key ∈ changes.removed.map identOf → ghostsOf previous [key] opt ≠ []) :
    HoldsGhosts (holdGhosts ghosts ttl changes previous opt).1
      (holdGhosts ghosts ttl changes previous opt).2 key
      (tick 3 cell (ghostTold changes key previous opt)) := by
  have hgoneAt := ghostsAt_ghostsOf previous (changes.removed.map identOf) opt key
  constructor
  · have hlist : (Watch.holdGhosts ghosts ttl changes previous opt).1 =
        (changes.added.map identOf).foldl dropGhost
          ((changes.removed.map identOf).foldl dropGhost ((expired ttl).foldl dropGhost ghosts) ++
            ghostsOf previous (changes.removed.map identOf) opt) := by
      rw [List.foldl_map]
      rfl
    rw [hlist, ghostsAt_foldl_dropGhost, ghostsAt_append, ghostsAt_foldl_dropGhost,
      ghostsAt_foldl_dropGhost, hgoneAt, ghostTold]
    by_cases hadded : key ∈ changes.added.map identOf
    · rw [if_pos hadded, if_pos hadded]
      rfl
    rw [if_neg hadded, if_neg hadded]
    by_cases hremoved : key ∈ changes.removed.map identOf
    · rw [if_pos hremoved, if_pos hremoved, if_pos hremoved]
      rfl
    rw [if_neg hremoved, if_neg hremoved, if_neg hremoved, List.append_nil, tick, h.left.map_age,
      h.ghosts]
    split_ifs <;> rfl
  · have hlist : (Watch.holdGhosts ghosts ttl changes previous opt).2 =
        (changes.added.map identOf).foldl .erase
          ((ghostsOf previous (changes.removed.map identOf) opt).foldl
            (fun ttl g ↦ ttl.set (identOf g.key) kHoldFrames) (Watch.aged ttl)) := by
      rw [List.foldl_map]
      rfl
    unfold HoldsTtl
    rw [hlist, OrderedMap.find?_foldl_erase, OrderedMap.find?_foldl_set_const, ghostTold]
    by_cases hadded : key ∈ changes.added.map identOf
    · rw [if_pos hadded, if_pos hadded]
      rfl
    rw [if_neg hadded, if_neg hadded]
    by_cases hremoved : key ∈ changes.removed.map identOf
    · rw [if_pos hremoved, if_pos ((mem_map_key_iff _ _).mpr ?_)]
      · rfl
      · rw [hgoneAt, if_pos hremoved]
        exact hgone hremoved
    rw [if_neg hremoved, if_neg fun hmem ↦ (mem_map_key_iff _ _).mp hmem (by
      rw [hgoneAt, if_neg hremoved])]
    exact h.left.aged

end Step

end TransportViz.Watch
