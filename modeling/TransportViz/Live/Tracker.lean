import Mathlib.Order.Interval.Finset.Nat
import Mathlib.Tactic.Ring
import TransportViz.Live.Delivery

/-!
# What the viewer makes of the ids

The ids the viewer reads from one server never go down: a new connection starts from the newest
document, which is not behind what was read before. So the only repeated document is the one a
reconnect sends again, and the gaps of the ids are the documents that were left out.
-/

namespace TransportViz.Live

variable {Doc : Type}

/-- The tracker once it was told the ids. -/
def tracked (ids : List ℕ) : StreamIds :=
  ids.foldl (fun t (id : ℕ) ↦ (trackId t (some (id : ℚ))).2) {}

/-- What the next id is called. -/
def kindAfter (ids : List ℕ) (id : ℕ) : Kind := (trackId (tracked ids) (some (id : ℚ))).1

/-- How many numbers between the first id and the last one are not among the ids. -/
def missed (ids : List ℕ) : ℕ :=
  match ids.head?, ids.getLast? with
  | some first, some last => ((Finset.Ioo first last).filter (· ∉ ids)).card
  | _, _ => 0

theorem tracked_append (ids : List ℕ) (id : ℕ) :
    tracked (ids ++ [id]) = (trackId (tracked ids) (some (id : ℚ))).2 := by
  simp only [tracked, List.foldl_append, List.foldl_cons, List.foldl_nil]

/-- A duplicate leaves the last id, and everything else moves it. -/
theorem last_trackId (t : StreamIds) (id : ℚ) : (trackId t (some id)).2.last = some id := by
  unfold trackId
  split
  · rename_i h
    cases h
  · rename_i x h
    cases h
    split
    · rfl
    · rename_i last hlast
      split_ifs with heq
      · rw [hlast, heq]
      · rfl
      · rfl

theorem trackId_append (ids : List ℕ) (last id : ℕ) :
    trackId (tracked (ids ++ [last])) (some (id : ℚ)) =
      if id = last then (.duplicate, tracked (ids ++ [last]))
      else if id < last then
        (.restart, { tracked (ids ++ [last]) with
          last := some (id : ℚ), restarts := (tracked (ids ++ [last])).restarts + 1 })
      else
        (.new, { tracked (ids ++ [last]) with
          last := some (id : ℚ)
          skipped := (tracked (ids ++ [last])).skipped + ((id : ℚ) - last - 1) }) := by
  have hlast : (tracked (ids ++ [last])).last = some (last : ℚ) := by
    rw [tracked_append, last_trackId]
  simp only [trackId, hlast, Nat.cast_inj, Nat.cast_lt]

@[simp]
theorem kindAfter_nil (id : ℕ) : kindAfter [] id = .new := rfl

theorem kindAfter_append (ids : List ℕ) (last id : ℕ) :
    kindAfter (ids ++ [last]) id =
      if id = last then .duplicate else if id < last then .restart else .new := by
  rw [kindAfter, trackId_append]
  split_ifs <;> rfl

theorem skipped_append (ids : List ℕ) (last id : ℕ) :
    (tracked (ids ++ [last] ++ [id])).skipped =
      (tracked (ids ++ [last])).skipped + ((id - last - 1 : ℕ) : ℚ) := by
  rw [tracked_append, trackId_append]
  split_ifs with heq hlt
  · simp [heq]
  · simp [Nat.sub_eq_zero_of_le hlt.le]
  · have hle : 1 ≤ id - last := by omega
    rw [Nat.cast_sub hle, Nat.cast_sub (by omega), Nat.cast_one]

theorem restarts_append (ids : List ℕ) (last id : ℕ) :
    (tracked (ids ++ [last] ++ [id])).restarts =
      (tracked (ids ++ [last])).restarts + if id < last then 1 else 0 := by
  rw [tracked_append, trackId_append]
  split_ifs with heq hlt hlt
  · omega
  · rfl
  · rfl
  · rfl

@[simp]
theorem missed_singleton (id : ℕ) : missed [id] = 0 := by simp [missed]

theorem le_last {ids : List ℕ} {last : ℕ} (h : (ids ++ [last]).Pairwise (· ≤ ·)) :
    ∀ id ∈ ids, id ≤ last :=
  fun id hid ↦ (List.pairwise_append.mp h).2.2 id hid last (List.mem_singleton_self last)

/-- What is missing up to a new id: what was missing before, and the numbers in between. -/
theorem filter_Ioo_append {ids : List ℕ} {first last id : ℕ} (hids : ∀ k ∈ ids, k ≤ last)
    (hfirst : first ≤ last) (hle : last ≤ id) :
    (Finset.Ioo first id).filter (· ∉ ids ++ [last] ++ [id]) =
      (Finset.Ioo first last).filter (· ∉ ids ++ [last]) ∪ Finset.Ioo last id := by
  ext k
  simp only [Finset.mem_filter, Finset.mem_union, Finset.mem_Ioo, List.mem_append,
    List.mem_singleton, not_or]
  constructor
  · intro ⟨hk, ⟨hnot, hne⟩, _⟩
    rcases lt_or_gt_of_ne hne with hlt | hgt
    · exact Or.inl ⟨⟨hk.1, hlt⟩, hnot, hne⟩
    · exact Or.inr ⟨hgt, hk.2⟩
  · intro hk
    rcases hk with ⟨hk, hnot, hne⟩ | hk
    · exact ⟨by omega, ⟨hnot, hne⟩, by omega⟩
    · exact ⟨by omega, ⟨fun hmem ↦ by have := hids k hmem; omega, by omega⟩, by omega⟩

/-- A higher id leaves out the numbers between it and the one before. -/
theorem missed_append {ids : List ℕ} {last id : ℕ}
    (h : (ids ++ [last] ++ [id]).Pairwise (· ≤ ·)) :
    missed (ids ++ [last] ++ [id]) = missed (ids ++ [last]) + (id - last - 1) := by
  have hids := le_last (List.pairwise_append.mp h).1
  have hle : last ≤ id := le_last h last (by simp)
  obtain ⟨first, hfirst⟩ : ∃ first, (ids ++ [last]).head? = some first :=
    ⟨_, List.head?_eq_some_head (by simp)⟩
  have hfirst_le : first ≤ last := by
    rcases List.mem_append.mp (List.mem_of_head? hfirst) with hmem | hmem
    · exact hids first hmem
    · exact (List.mem_singleton.mp hmem).le
  have hdisjoint : Disjoint ((Finset.Ioo first last).filter (· ∉ ids ++ [last]))
      (Finset.Ioo last id) := by
    rw [Finset.disjoint_left]
    intro k hk
    simp only [Finset.mem_filter, Finset.mem_Ioo] at hk ⊢
    omega
  have hhead : (ids ++ [last] ++ [id]).head? = some first := by
    rw [List.head?_append, hfirst, Option.some_or]
  simp only [missed, hhead, hfirst, List.getLast?_concat]
  rw [filter_Ioo_append hids hfirst_le hle, Finset.card_union_of_disjoint hdisjoint, Nat.card_Ioo]

/-- Among ids that never go down a repeated one is the last one again. -/
theorem kindAfter_of_rising {ids : List ℕ} {id : ℕ} (h : (ids ++ [id]).Pairwise (· ≤ ·)) :
    kindAfter ids id = if id ∈ ids then .duplicate else .new := by
  rcases List.eq_nil_or_concat' ids with rfl | ⟨before, last, rfl⟩
  · simp
  · have hle : last ≤ id := le_last h last (by simp)
    have hids := le_last (List.pairwise_append.mp h).1
    rw [kindAfter_append]
    by_cases heq : id = last
    · simp [heq]
    · have hnot : id ∉ before := fun hmem ↦ by have := hids id hmem; omega
      simp [heq, hnot, hle.not_gt]

theorem restarts_of_rising {ids : List ℕ} (h : ids.Pairwise (· ≤ ·)) :
    (tracked ids).restarts = 0 := by
  induction ids using List.reverseRecOn with
  | nil => rfl
  | append_singleton ids id ih =>
    rcases List.eq_nil_or_concat' ids with rfl | ⟨before, last, rfl⟩
    · rfl
    · have hle : last ≤ id := le_last h last (by simp)
      rw [restarts_append, ih (List.pairwise_append.mp h).1, if_neg hle.not_gt]

theorem skipped_of_rising {ids : List ℕ} (h : ids.Pairwise (· ≤ ·)) :
    (tracked ids).skipped = missed ids := by
  induction ids using List.reverseRecOn with
  | nil => rfl
  | append_singleton ids id ih =>
    rcases List.eq_nil_or_concat' ids with rfl | ⟨before, last, rfl⟩
    · simp [tracked, trackId]
    · rw [skipped_append, missed_append h, ih (List.pairwise_append.mp h).1, Nat.cast_add]

end TransportViz.Live
