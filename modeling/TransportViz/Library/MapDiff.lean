import TransportViz.Library.KeyedDiff
import TransportViz.Library.OrderedMap

/-!
# Comparing two ordered maps

The comparison of two maps lists every key at most once and in order: exactly the new keys, the keys
that are gone, and the keys whose values compare unequal. Exchanging the maps exchanges the report.
-/

universe u v

namespace KeyedDiff

variable {κ : Type u} {ν : Type v} [LinearOrder κ]

/-- The keys with the property, each once and in order. -/
structure ListsExactly (keys : List κ) (p : κ → Prop) : Prop where
  sorted : keys.Pairwise (· < ·)
  mem_iff : ∀ key, key ∈ keys ↔ p key

/-- The same report with the two sides exchanged. -/
def swap (d : KeyedDiff κ ν) : KeyedDiff κ ν where
  added := d.removed
  removed := d.added
  changed := d.changed.map fun e ↦ (e.1, e.2.2, e.2.1)

variable (prev cur : OrderedMap κ ν)

theorem mem_newEntries_iff (key : κ) (value : ν) :
    (key, value) ∈ newEntries prev.entries cur.entries ↔
      prev.find? key = none ∧ cur.find? key = some value := by
  rw [newEntries, List.mem_filter, OrderedMap.mem_entries_iff, Option.isNone_iff_eq_none, and_comm]
  rfl

theorem listsExactly_newEntries :
    ListsExactly ((newEntries prev.entries cur.entries).map Prod.fst) fun key ↦
      prev.find? key = none ∧ (cur.find? key).isSome where
  sorted := List.pairwise_map.mpr (cur.sorted.filter _)
  mem_iff key := by
    simp only [List.mem_map, Prod.exists, mem_newEntries_iff, Option.isSome_iff_exists]
    constructor
    · rintro ⟨_, value, ⟨hnone, hsome⟩, rfl⟩
      exact ⟨hnone, value, hsome⟩
    · rintro ⟨hnone, value, hsome⟩
      exact ⟨key, value, ⟨hnone, hsome⟩, rfl⟩

section Changed

variable (same : ν → ν → Bool)

theorem changedEntry_eq_some_iff (e : κ × ν) (change : κ × ν × ν) :
    changedEntry same prev.entries e = some change ↔
      change.1 = e.1 ∧ prev.find? e.1 = some change.2.1 ∧ change.2.2 = e.2 ∧
        same change.2.1 change.2.2 = false := by
  obtain ⟨key, old, value⟩ := change
  rw [OrderedMap.find?, changedEntry]
  cases hold : prev.entries.lookup e.1 with
  | none => simp
  | some found =>
    cases hsame : same found e.2 with
    | true =>
      simp only [hsame, if_true, reduceCtorEq, Option.some.injEq, false_iff, not_and,
        Bool.not_eq_false]
      rintro - rfl rfl
      exact hsame
    | false =>
      simp only [hsame, Bool.false_eq_true, if_false, Option.some.injEq, Prod.mk.injEq]
      constructor
      · rintro ⟨rfl, rfl, rfl⟩
        exact ⟨rfl, rfl, rfl, hsame⟩
      · rintro ⟨rfl, rfl, rfl, -⟩
        exact ⟨rfl, rfl, rfl⟩

theorem mem_changed_iff (key : κ) (old value : ν) :
    (key, old, value) ∈ (diff same prev.entries cur.entries).changed ↔
      prev.find? key = some old ∧ cur.find? key = some value ∧ same old value = false := by
  simp only [diff, List.mem_filterMap, Prod.exists, changedEntry_eq_some_iff,
    OrderedMap.mem_entries_iff]
  constructor
  · rintro ⟨_, _, hcur, rfl, hprev, rfl, hsame⟩
    exact ⟨hprev, hcur, hsame⟩
  · rintro ⟨hprev, hcur, hsame⟩
    exact ⟨key, value, hcur, rfl, hprev, rfl, hsame⟩

theorem sorted_changed :
    (diff same prev.entries cur.entries).changed.Pairwise fun a b ↦ a.1 < b.1 := by
  refine List.pairwise_filterMap.mpr (cur.sorted.imp fun {e f} hlt a ha b hb ↦ ?_)
  rw [((changedEntry_eq_some_iff prev same e a).mp ha).1,
    ((changedEntry_eq_some_iff prev same f b).mp hb).1]
  exact hlt

theorem listsExactly_changed :
    ListsExactly ((diff same prev.entries cur.entries).changed.map Prod.fst) fun key ↦
      ∃ old value, prev.find? key = some old ∧ cur.find? key = some value ∧
        same old value = false where
  sorted := List.pairwise_map.mpr (sorted_changed prev cur same)
  mem_iff key := by
    simp only [List.mem_map, Prod.exists, mem_changed_iff]
    constructor
    · rintro ⟨_, old, value, h, rfl⟩
      exact ⟨old, value, h⟩
    · rintro ⟨old, value, h⟩
      exact ⟨key, old, value, h, rfl⟩

/-- Exchanging the maps exchanges the report. -/
theorem diff_swap (hsymm : ∀ a b, same a b = same b a) :
    diff same cur.entries prev.entries = (diff same prev.entries cur.entries).swap := by
  have hsorted : ((diff same prev.entries cur.entries).changed.map fun e ↦
      (e.1, e.2.2, e.2.1)).Pairwise fun a b ↦ a.1 < b.1 :=
    List.pairwise_map.mpr (sorted_changed prev cur same)
  have hirrefl : Std.Irrefl fun a b : κ × ν × ν ↦ a.1 < b.1 := ⟨fun _ ↦ lt_irrefl _⟩
  have hantisymm : Std.Antisymm fun a b : κ × ν × ν ↦ a.1 < b.1 :=
    ⟨fun _ _ hab hba ↦ absurd hba (asymm hab)⟩
  have hchanged := (sorted_changed cur prev same).eq_of_mem_iff hsorted fun ⟨key, old, value⟩ ↦ by
    rw [mem_changed_iff, List.mem_map]
    constructor
    · rintro ⟨hcur, hprev, hsame⟩
      exact ⟨(key, value, old), (mem_changed_iff ..).mpr ⟨hprev, hcur, hsymm .. ▸ hsame⟩, rfl⟩
    · rintro ⟨⟨_, _, _⟩, hmem, heq⟩
      obtain ⟨rfl, rfl, rfl⟩ := Prod.mk.injEq .. ▸ heq
      obtain ⟨hprev, hcur, hsame⟩ := (mem_changed_iff ..).mp hmem
      exact ⟨hcur, hprev, hsymm .. ▸ hsame⟩
  rw [swap, ← hchanged]
  rfl

end Changed

end KeyedDiff
