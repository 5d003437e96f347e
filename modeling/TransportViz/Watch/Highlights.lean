import TransportViz.Watch.Cells

/-!
# Highlights follow the events

Over any run of the watch loop, a pair carries the mark of its last event for the hold frames, and a
removed pair has one ghost for as long, unless it comes back.
-/

namespace TransportViz.Watch

open Diff TimedCell Web

variable (frames : ℕ → Frame)

/-! ## The frames of a run -/

def AppearedAt (key : Ident) (n : ℕ) : Prop := key ∈ (changesAt frames n).added.map identOf

def ChangedAt (key : Ident) (n : ℕ) : Prop :=
  key ∈ (changesAt frames n).changed.map fun c ↦ identOf c.key

def RemovedAt (key : Ident) (n : ℕ) : Prop := key ∈ (changesAt frames n).removed.map identOf

variable {frames} {key : Ident} {n m : ℕ}

theorem appearedAt_succ_iff :
    AppearedAt frames key (n + 1) ↔
      key ∈ idents (frames (n + 1)).snap ∧ key ∉ idents (frames n).snap :=
  mem_added_pairStates_iff (frames n).snap (frames (n + 1)).snap key

theorem removedAt_succ_iff :
    RemovedAt frames key (n + 1) ↔
      key ∈ idents (frames n).snap ∧ key ∉ idents (frames (n + 1)).snap :=
  mem_removed_pairStates_iff (frames n).snap (frames (n + 1)).snap key

theorem mem_idents_of_changedAt_succ (h : ChangedAt frames key (n + 1)) :
    key ∈ idents (frames n).snap ∧ key ∈ idents (frames (n + 1)).snap :=
  mem_idents_of_mem_changed h

theorem not_removedAt_zero : ¬RemovedAt frames key 0 := List.not_mem_nil

theorem not_appearedAt_zero : ¬AppearedAt frames key 0 := List.not_mem_nil

theorem not_changedAt_zero : ¬ChangedAt frames key 0 := List.not_mem_nil

theorem not_appearedAt_of_changedAt (h : ChangedAt frames key n) : ¬AppearedAt frames key n := by
  cases n with
  | zero => exact not_appearedAt_zero
  | succ n =>
    intro happeared
    exact (appearedAt_succ_iff.mp happeared).2 (mem_idents_of_changedAt_succ h).1

/-- A pair that is gone stays away until it appears. -/
theorem notMem_idents_of_le (habsent : key ∉ idents (frames m).snap) (hle : m ≤ n)
    (hnever : ∀ i, m < i → i ≤ n → ¬AppearedAt frames key i) : key ∉ idents (frames n).snap := by
  induction n, hle using Nat.le_induction with
  | base => exact habsent
  | succ n hle ih =>
    intro hmem
    refine hnever (n + 1) (Nat.lt_succ_of_le hle) le_rfl (appearedAt_succ_iff.mpr ⟨hmem, ?_⟩)
    exact ih fun i hlt hi ↦ hnever i hlt (hi.trans n.le_succ)

theorem notMem_idents_of_removedAt (h : RemovedAt frames key n) :
    key ∉ idents (frames n).snap := by
  cases n with
  | zero => exact absurd h not_removedAt_zero
  | succ n => exact (removedAt_succ_iff.mp h).2

/-! ## The cells of a run -/

variable (frames key)

def markToldAt (n : ℕ) : Option (Action Char) := markTold (changesAt frames n) key

def ghostToldAt (n : ℕ) : Option (Action (List GhostPair)) :=
  ghostTold (changesAt frames n) key (stateAt frames n).lastSnapshot (frames n).opt

def markCell (n : ℕ) : Option (Char × ℕ) := run 3 (markToldAt frames key) n

def ghostCell (n : ℕ) : Option (List GhostPair × ℕ) := run 3 (ghostToldAt frames key) n

theorem holdsMark_renderedAt (n : ℕ) :
    HoldsMark (renderedAt frames n).deco.marks (renderedAt frames n).markTtl key
      (markCell frames key n) := by
  induction n with
  | zero =>
    have hempty : HoldsMark .empty .empty key none := ⟨rfl, rfl⟩
    exact hempty.holdMarks (changesAt frames 0)
  | succ n ih => exact ih.holdMarks (changesAt frames (n + 1))

/-- The ghosts of a pair are as many as the pairs that had its key. -/
theorem length_ghostsOf (snap : Snapshot) (opt : RenderOptions) :
    (ghostsOf snap [key] opt).length = (idents snap).count key := by
  simp only [ghostsOf, idents, realPairs, List.map_flatMap, List.length_flatMap,
    List.count_flatMap, List.mem_singleton, List.map_map]
  congr 1
  apply List.map_congr_left
  intro t _
  rw [Function.comp_apply, List.count, List.countP_map, List.length_map,
    ← List.countP_eq_length_filter]
  congr 1
  funext p
  exact (beq_eq_decide ..).symm

theorem ghostsOf_ne_nil (hremoved : RemovedAt frames key n) :
    ghostsOf (stateAt frames n).lastSnapshot [key] (frames n).opt ≠ [] := by
  cases n with
  | zero => exact absurd hremoved not_removedAt_zero
  | succ n =>
    have hmem := (removedAt_succ_iff.mp hremoved).1
    rw [← List.length_pos_iff, length_ghostsOf]
    exact List.count_pos_iff.mpr hmem

theorem holdsGhosts_renderedAt (n : ℕ) :
    HoldsGhosts (renderedAt frames n).deco.ghosts (renderedAt frames n).ghostTtl key
      (ghostCell frames key n) := by
  induction n with
  | zero =>
    have hempty : HoldsGhosts [] .empty key none := ⟨rfl, rfl⟩
    exact hempty.holdGhosts (changesAt frames 0) _ _ (ghostsOf_ne_nil frames key)
  | succ n ih =>
    exact ih.holdGhosts (changesAt frames (n + 1)) _ _ (ghostsOf_ne_nil frames key)

/-! ## The last event of a pair -/

/-- The event of frame `n` that gives a pair its mark. -/
def MarkEvent (sign : Char) (n : ℕ) : Prop :=
  sign = '+' ∧ AppearedAt frames key n ∨ sign = '~' ∧ ChangedAt frames key n

/-- The last such event up to frame `n` is that of frame `m`. -/
structure LastMarkEvent (sign : Char) (n m : ℕ) : Prop where
  le : m ≤ n
  event : MarkEvent frames key sign m
  last : ∀ i, m < i → i ≤ n → ∀ other, ¬MarkEvent frames key other i

/-- The pair was removed in one of the hold frames and has not come back since. -/
def GhostOwed (n : ℕ) : Prop :=
  ∃ m ≤ n, n - m < kHoldFrames.toNat ∧ RemovedAt frames key m ∧
    ∀ i, m < i → i ≤ n → ¬AppearedAt frames key i

variable {frames key}

theorem markToldAt_eq_some_iff (sign : Char) :
    markToldAt frames key n = some (.set sign) ↔ MarkEvent frames key sign n := by
  unfold markToldAt markTold MarkEvent
  by_cases hchanged : ChangedAt frames key n
  · have happeared := not_appearedAt_of_changedAt hchanged
    rw [if_pos (show key ∈ _ from hchanged)]
    simp [hchanged, happeared, eq_comm]
  · rw [if_neg (show key ∉ _ from hchanged)]
    by_cases happeared : AppearedAt frames key n
    · rw [if_pos (show key ∈ _ from happeared)]
      simp [hchanged, happeared, eq_comm]
    · rw [if_neg (show key ∉ _ from happeared)]
      simp [hchanged, happeared]

theorem markToldAt_eq_none_iff :
    markToldAt frames key n = none ↔ ∀ sign, ¬MarkEvent frames key sign n := by
  constructor
  · intro hnone sign hevent
    rw [(markToldAt_eq_some_iff sign).mpr hevent] at hnone
    cases hnone
  · intro hnever
    cases htold : markToldAt frames key n with
    | none => rfl
    | some action =>
      cases action with
      | set sign => exact absurd ((markToldAt_eq_some_iff sign).mp htold) (hnever sign)
      | clear => exact absurd htold (markTold_ne_clear _ _)

theorem lastTold_markToldAt_iff (sign : Char) :
    LastTold (markToldAt frames key) n m (.set sign) ↔ LastMarkEvent frames key sign n m := by
  constructor
  · intro h
    exact ⟨h.le, (markToldAt_eq_some_iff sign).mp h.told_eq, fun i hlt hle ↦
      markToldAt_eq_none_iff.mp (h.silent i hlt hle)⟩
  · intro h
    exact ⟨h.le, (markToldAt_eq_some_iff sign).mpr h.event, fun i hlt hle ↦
      markToldAt_eq_none_iff.mpr (h.last i hlt hle)⟩

/-- A pair bears the sign of its last event for the hold frames. -/
theorem find?_marks_eq_some_iff (sign : Char) :
    (renderedAt frames n).deco.marks.find? key = some sign ↔
      ∃ m, LastMarkEvent frames key sign n m ∧ n - m < kHoldFrames.toNat := by
  rw [(holdsMark_renderedAt frames key n).mark, Option.map_eq_some_iff]
  constructor
  · rintro ⟨⟨sign, ttl⟩, hcell, rfl⟩
    obtain ⟨m, hlast, hrecent, -⟩ := (run_eq_some_iff (by decide) sign ttl).mp hcell
    exact ⟨m, (lastTold_markToldAt_iff sign).mp hlast, hrecent⟩
  · rintro ⟨m, hlast, hrecent⟩
    refine ⟨(sign, 3 - (n - m)), ?_, rfl⟩
    exact (run_eq_some_iff (by decide) sign _).mpr
      ⟨m, (lastTold_markToldAt_iff sign).mpr hlast, hrecent, rfl⟩

theorem ghostToldAt_of_removedAt (h : RemovedAt frames key n) :
    ghostToldAt frames key n =
      some (.set (ghostsOf (stateAt frames n).lastSnapshot [key] (frames n).opt)) := by
  have happeared : ¬AppearedAt frames key n := by
    cases n with
    | zero => exact not_appearedAt_zero
    | succ n =>
      intro happeared
      exact (removedAt_succ_iff.mp h).2 (appearedAt_succ_iff.mp happeared).1
  unfold ghostToldAt ghostTold
  rw [if_neg (show key ∉ _ from happeared), if_pos (show key ∈ _ from h)]

theorem removedAt_of_ghostToldAt {ghosts : List GhostPair}
    (h : ghostToldAt frames key n = some (.set ghosts)) : RemovedAt frames key n := by
  unfold ghostToldAt ghostTold at h
  split_ifs at h with happeared hremoved
  · cases h
  · exact hremoved

theorem ghostToldAt_eq_none_iff :
    ghostToldAt frames key n = none ↔ ¬AppearedAt frames key n ∧ ¬RemovedAt frames key n := by
  unfold ghostToldAt ghostTold AppearedAt RemovedAt
  split_ifs with happeared hremoved <;> simp_all

/-- The ghost cell is taken exactly while a ghost is owed, by the frame that removed the pair. -/
theorem isSome_ghostCell_iff : (ghostCell frames key n).isSome ↔ GhostOwed frames key n := by
  constructor
  · intro hsome
    obtain ⟨⟨ghosts, ttl⟩, hcell⟩ := Option.isSome_iff_exists.mp hsome
    obtain ⟨m, hlast, hrecent, -⟩ := (run_eq_some_iff (by decide) ghosts ttl).mp hcell
    exact ⟨m, hlast.le, hrecent, removedAt_of_ghostToldAt hlast.told_eq, fun i hlt hle ↦
      (ghostToldAt_eq_none_iff.mp (hlast.silent i hlt hle)).1⟩
  · rintro ⟨m, hle, hrecent, hremoved, hnever⟩
    have hlast : LastTold (ghostToldAt frames key) n m
        (.set (ghostsOf (stateAt frames m).lastSnapshot [key] (frames m).opt)) := by
      refine ⟨hle, ghostToldAt_of_removedAt hremoved, fun i hlt hi ↦ ?_⟩
      refine ghostToldAt_eq_none_iff.mpr ⟨hnever i hlt hi, fun hagain ↦ ?_⟩
      -- what is gone is not removed once more
      cases i with
      | zero => exact not_removedAt_zero hagain
      | succ i =>
        have habsent := notMem_idents_of_le (notMem_idents_of_removedAt hremoved)
          (Nat.le_of_lt_succ hlt) fun j hlt' hj ↦ hnever j hlt' (by omega)
        exact habsent (removedAt_succ_iff.mp hagain).1
    have hcell := (run_eq_some_iff (by decide) _ _).mpr ⟨m, hlast, hrecent, rfl⟩
    exact Option.isSome_of_eq_some hcell

theorem not_ghostOwed_of_mem (h : key ∈ idents (frames n).snap) : ¬GhostOwed frames key n := by
  rintro ⟨m, hle, -, hremoved, hnever⟩
  exact notMem_idents_of_le (notMem_idents_of_removedAt hremoved) hle hnever h

/-! ## Every frame -/

/-- No frame shows two pairs of one key. -/
def DistinctKeys (frames : ℕ → Frame) : Prop := ∀ n, (idents (frames n).snap).Nodup

/-- What the highlights of frame `n` are. -/
structure Follows (frames : ℕ → Frame) (n : ℕ) : Prop where
  mark : ∀ key sign, (renderedAt frames n).deco.marks.find? key = some sign ↔
    ∃ m, LastMarkEvent frames key sign n m ∧ n - m < kHoldFrames.toNat
  signs : ∀ key sign, (renderedAt frames n).deco.marks.find? key = some sign →
    sign = '+' ∨ sign = '~'
  owed : ∀ key, GhostOwed frames key n →
    (ghostsAt (renderedAt frames n).deco.ghosts key).length = 1
  notOwed : ∀ key, ¬GhostOwed frames key n → ghostsAt (renderedAt frames n).deco.ghosts key = []
  present : ∀ key ∈ idents (frames n).snap, ghostsAt (renderedAt frames n).deco.ghosts key = []
  ghostKeys : ∀ key, key ∈ (renderedAt frames n).ghostTtl.keys ↔
    ∃ g ∈ (renderedAt frames n).deco.ghosts, identOf g.key = key
  markLeft : ∀ key ∈ (renderedAt frames n).deco.marks.keys,
    ∃ left, (renderedAt frames n).markTtl.find? key = some left ∧ 0 < left

theorem ghostsAt_eq_nil (h : ¬GhostOwed frames key n) :
    ghostsAt (renderedAt frames n).deco.ghosts key = [] := by
  rw [(holdsGhosts_renderedAt frames key n).ghosts]
  cases hcell : ghostCell frames key n with
  | none => rfl
  | some held => exact absurd (isSome_ghostCell_iff.mp (Option.isSome_of_eq_some hcell)) h

/-- A held ghost is the one of a pair that the frame before its removal showed. -/
theorem exists_removedAt_of_ghostCell {held : List GhostPair × ℕ}
    (h : ghostCell frames key n = some held) :
    ∃ m, RemovedAt frames key m ∧
      held.1 = ghostsOf (stateAt frames m).lastSnapshot [key] (frames m).opt := by
  obtain ⟨m, hlast, -⟩ := (run_eq_some_iff (by decide) held.1 held.2).mp h
  have hremoved := removedAt_of_ghostToldAt hlast.told_eq
  refine ⟨m, hremoved, ?_⟩
  have htold := hlast.told_eq.symm.trans (ghostToldAt_of_removedAt hremoved)
  simpa using htold

theorem length_ghostsAt (hdistinct : DistinctKeys frames) (h : GhostOwed frames key n) :
    (ghostsAt (renderedAt frames n).deco.ghosts key).length = 1 := by
  obtain ⟨held, hcell⟩ := Option.isSome_iff_exists.mp (isSome_ghostCell_iff.mpr h)
  obtain ⟨m, hremoved, heq⟩ := exists_removedAt_of_ghostCell hcell
  rw [(holdsGhosts_renderedAt frames key n).ghosts, hcell, Option.map_some, Option.getD_some, heq,
    length_ghostsOf]
  cases m with
  | zero => exact absurd hremoved not_removedAt_zero
  | succ m => exact List.count_eq_one_of_mem (hdistinct m) (removedAt_succ_iff.mp hremoved).1

/-- A pair has ghosts exactly while its cell is taken. -/
theorem ghostsAt_ne_nil_iff :
    ghostsAt (renderedAt frames n).deco.ghosts key ≠ [] ↔ (ghostCell frames key n).isSome := by
  rw [(holdsGhosts_renderedAt frames key n).ghosts]
  cases hcell : ghostCell frames key n with
  | none => simp
  | some held =>
    obtain ⟨m, hremoved, heq⟩ := exists_removedAt_of_ghostCell hcell
    have hne := ghostsOf_ne_nil frames key hremoved
    simp [heq, hne]

theorem mem_ghostTtl_iff :
    key ∈ (renderedAt frames n).ghostTtl.keys ↔
      ∃ g ∈ (renderedAt frames n).deco.ghosts, identOf g.key = key := by
  have hkeys := mem_map_key_iff (renderedAt frames n).deco.ghosts key
  rw [List.mem_map] at hkeys
  rw [hkeys, ghostsAt_ne_nil_iff, OrderedMap.mem_keys_iff, ← Option.isSome_iff_exists,
    (holdsGhosts_renderedAt frames key n).left, Option.isSome_map]

theorem exists_markTtl (h : key ∈ (renderedAt frames n).deco.marks.keys) :
    ∃ left, (renderedAt frames n).markTtl.find? key = some left ∧ 0 < left := by
  obtain ⟨sign, hsign⟩ := (OrderedMap.mem_keys_iff _ _).mp h
  rw [(holdsMark_renderedAt frames key n).mark] at hsign
  obtain ⟨held, hcell, -⟩ := Option.map_eq_some_iff.mp hsign
  refine ⟨held.2, ?_, ?_⟩
  · rw [(holdsMark_renderedAt frames key n).left, hcell]
    rfl
  · exact Int.natCast_pos.mpr (pos_of_run_eq_some (by decide) hcell)

/-- In every frame of every run the highlights follow the events. -/
theorem follows_renderedAt (frames : ℕ → Frame) (hdistinct : DistinctKeys frames) (n : ℕ) :
    Follows frames n where
  mark _ sign := find?_marks_eq_some_iff sign
  signs _ sign hsign := by
    obtain ⟨m, hlast, -⟩ := (find?_marks_eq_some_iff sign).mp hsign
    exact hlast.event.imp And.left And.left
  owed _ howed := length_ghostsAt hdistinct howed
  notOwed _ hnot := ghostsAt_eq_nil hnot
  present _ hmem := ghostsAt_eq_nil (not_ghostOwed_of_mem hmem)
  ghostKeys _ := mem_ghostTtl_iff
  markLeft _ hmem := exists_markTtl hmem

/-! ## A pair that is there for one frame -/

def talkingPair : Pair where
  writer := { guid := "01.0f|1", nodeName := "/talker", address := 0 }
  reader := { guid := "01.0f|2", nodeName := "/listener", address := 1 }

def blinking (n : ℕ) : Frame where
  snap := if n = 1 then { topics := [{ displayTopic := "/chatter", pairs := [talkingPair] }] } else {}
  opt := {}

theorem distinctKeys_blinking : DistinctKeys blinking := by
  intro n
  by_cases h : n = 1
  · subst h
    exact List.nodup_singleton _
  · simp [blinking, h, idents, realPairs]

theorem follows_blinking : DistinctKeys blinking ∧ Follows blinking 2 :=
  ⟨distinctKeys_blinking, follows_renderedAt blinking distinctKeys_blinking 2⟩

end TransportViz.Watch
