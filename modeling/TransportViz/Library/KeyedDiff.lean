import Mathlib.Data.List.Forall2
import Mathlib.Data.Prod.Basic

/-!
# Comparing two keyed lists

`diff` reports the entries whose key is new, those whose key is gone, and those whose value is no
longer the same. It commutes with any injective change of the keys, and it cannot tell two lists apart
whose values are the same for the comparison.
-/

universe u v w x

structure KeyedDiff (κ : Type u) (ν : Type v) where
  added : List (κ × ν)
  removed : List (κ × ν)
  /-- Key, value before, value after. -/
  changed : List (κ × ν × ν)

namespace KeyedDiff

variable {κ : Type u} {ν : Type v} {ι : Type w} {μ : Type x} [DecidableEq κ] [DecidableEq ι]

/-- The entry of `cur` whose value is not the one `prev` has under its key. -/
def changedEntry (same : ν → ν → Bool) (prev : List (κ × ν)) (e : κ × ν) : Option (κ × ν × ν) :=
  match prev.lookup e.1 with
  | none => none
  | some old => if same old e.2 then none else some (e.1, old, e.2)

/-- The entries of `cur` without one of the same key in `prev`. -/
def newEntries (prev cur : List (κ × ν)) : List (κ × ν) :=
  cur.filter fun e ↦ (prev.lookup e.1).isNone

def diff (same : ν → ν → Bool) (prev cur : List (κ × ν)) : KeyedDiff κ ν where
  added := newEntries prev cur
  removed := newEntries cur prev
  changed := cur.filterMap (changedEntry same prev)

/-- A changed entry is one of the second list whose key the first has too. -/
theorem mem_keys_of_changedEntry {same : ν → ν → Bool} {prev : List (κ × ν)} {e : κ × ν}
    {change : κ × ν × ν} (h : changedEntry same prev e = some change) :
    change.1 = e.1 ∧ change.2.2 = e.2 ∧ e.1 ∈ prev.map Prod.fst := by
  unfold changedEntry at h
  split at h
  · cases h
  · next old hold =>
    obtain ⟨before, after, hsplit, -⟩ := List.lookup_eq_some_iff.mp hold
    rw [Option.ite_none_left_eq_some, Option.some.injEq] at h
    obtain ⟨-, rfl⟩ := h
    exact ⟨rfl, rfl, by simp [hsplit]⟩

/-- The same report under other keys and for other values. -/
def map (key : κ → ι) (value : ν → μ) (d : KeyedDiff κ ν) : KeyedDiff ι μ where
  added := d.added.map (Prod.map key value)
  removed := d.removed.map (Prod.map key value)
  changed := d.changed.map (Prod.map key (Prod.map value value))

/-- The two reports name the same keys. -/
structure SameKeys (d d' : KeyedDiff κ ν) : Prop where
  added : d.added.map Prod.fst = d'.added.map Prod.fst
  removed : d.removed.map Prod.fst = d'.removed.map Prod.fst
  changed : d.changed.map Prod.fst = d'.changed.map Prod.fst

section Map

variable (key : κ → ι) (value : ν → μ)

theorem lookup_map {entries : List (κ × ν)} {k : κ} (h : ∀ e ∈ entries, key e.1 = key k → e.1 = k) :
    (entries.map (Prod.map key value)).lookup (key k) = (entries.lookup k).map value := by
  induction entries with
  | nil => rfl
  | cons e rest ih =>
    have hrest := ih fun other hother ↦ h other (List.mem_cons_of_mem e hother)
    rw [List.map_cons, Prod.map_apply', List.lookup_cons, List.lookup_cons]
    by_cases heq : k = e.1
    · simp [heq]
    · have hkey : key k ≠ key e.1 := fun hsame ↦
        heq (h e (List.mem_cons_self ..) hsame.symm).symm
      rw [beq_false_of_ne heq, beq_false_of_ne hkey]
      exact hrest

theorem isNone_lookup_iff (entries : List (κ × ν)) (k : κ) :
    (entries.lookup k).isNone = true ↔ k ∉ entries.map Prod.fst := by
  rw [Option.isNone_iff_eq_none, List.lookup_eq_none_iff]
  simp only [bne_iff_ne, ne_eq, List.mem_map, not_exists, not_and]
  exact ⟨fun h e he heq ↦ h e he heq.symm, fun h e he heq ↦ h e he heq.symm⟩

theorem newEntries_map {prev cur : List (κ × ν)}
    (h : ∀ e ∈ prev, ∀ f ∈ cur, key e.1 = key f.1 → e.1 = f.1) :
    newEntries (prev.map (Prod.map key value)) (cur.map (Prod.map key value)) =
      (newEntries prev cur).map (Prod.map key value) := by
  unfold newEntries
  rw [List.filter_map]
  refine congrArg _ (List.filter_congr fun f hf ↦ ?_)
  simp only [Function.comp_apply, Prod.map_fst]
  rw [lookup_map key value fun e he ↦ h e he f hf, Option.isNone_map]

/-- Comparing commutes with a change of keys that keeps them apart and a change of values that the
comparison does not see. -/
theorem diff_map (same : ν → ν → Bool) (same' : μ → μ → Bool) {prev cur : List (κ × ν)}
    (hkey : ∀ e ∈ prev, ∀ f ∈ cur, key e.1 = key f.1 → e.1 = f.1)
    (hsame : ∀ e ∈ prev, ∀ f ∈ cur, same' (value e.2) (value f.2) = same e.2 f.2) :
    diff same' (prev.map (Prod.map key value)) (cur.map (Prod.map key value)) =
      (diff same prev cur).map key value := by
  have hchanged : (cur.map (Prod.map key value)).filterMap
        (changedEntry same' (prev.map (Prod.map key value))) =
      (cur.filterMap (changedEntry same prev)).map (Prod.map key (Prod.map value value)) := by
    rw [List.filterMap_map, List.map_filterMap]
    refine List.filterMap_congr fun f hf ↦ ?_
    simp only [Function.comp_apply, changedEntry, Prod.map_fst, Prod.map_snd]
    rw [lookup_map key value fun e he ↦ hkey e he f hf]
    cases hold : prev.lookup f.1 with
    | none => rfl
    | some old =>
      obtain ⟨before, after, hsplit, -⟩ := List.lookup_eq_some_iff.mp hold
      have hmem : (f.1, old) ∈ prev := by simp [hsplit]
      simp only [Option.map_some, hsame _ hmem f hf]
      cases same old f.2 <;> rfl
  unfold diff map
  rw [newEntries_map key value hkey,
    newEntries_map key value fun f hf e he h ↦ (hkey e he f hf h.symm).symm, hchanged]

end Map

section Same

variable {same : ν → ν → Bool} {prev prev' cur : List (κ × ν)}

/-- Entry by entry the same key, with values that compare alike. -/
def Alike (same : ν → ν → Bool) : List (κ × ν) → List (κ × ν) → Prop :=
  List.Forall₂ fun e e' ↦ e.1 = e'.1 ∧ same e.2 e'.2 = true ∧ ∀ value, same e.2 value = same e'.2 value

theorem lookup_alike (h : Alike same prev prev') (key : κ) :
    (prev.lookup key = none ∧ prev'.lookup key = none) ∨
      ∃ old old', prev.lookup key = some old ∧ prev'.lookup key = some old' ∧
        same old old' = true ∧ ∀ value, same old value = same old' value := by
  induction h with
  | nil => exact .inl ⟨rfl, rfl⟩
  | @cons e e' rest rest' hhead _ ih =>
    rw [List.lookup_cons, List.lookup_cons, ← hhead.1]
    by_cases hkey : key = e.1
    · refine .inr ⟨e.2, e'.2, ?_, ?_, hhead.2⟩ <;> simp [hkey]
    · rw [beq_false_of_ne hkey]
      exact ih

theorem map_fst_newEntries_alike (cur : List (κ × ν)) (h : Alike same prev prev') :
    newEntries prev' cur = newEntries prev cur ∧
      (newEntries cur prev').map Prod.fst = (newEntries cur prev).map Prod.fst := by
  constructor
  · refine List.filter_congr fun e _ ↦ ?_
    rcases lookup_alike h e.1 with ⟨hnone, hnone'⟩ | ⟨old, old', hold, hold', -⟩
    · rw [hnone, hnone']
    · rw [hold, hold']
      rfl
  · unfold newEntries
    induction h with
    | nil => rfl
    | @cons e e' rest rest' hhead _ ih =>
      rw [List.filter_cons, List.filter_cons, hhead.1]
      split_ifs
      · rw [List.map_cons, List.map_cons, ih, hhead.1]
      · exact ih

/-- Replacing the first list by one that compares alike changes no reported key. -/
theorem sameKeys_diff_alike (h : Alike same prev prev') :
    SameKeys (diff same prev' cur) (diff same prev cur) := by
  obtain ⟨hadded, hremoved⟩ := map_fst_newEntries_alike cur h
  refine ⟨congrArg _ hadded, hremoved, ?_⟩
  simp only [diff, List.map_filterMap]
  refine List.filterMap_congr fun e _ ↦ ?_
  unfold changedEntry
  rcases lookup_alike h e.1 with ⟨hnone, hnone'⟩ | ⟨old, old', hold, hold', -, halike⟩
  · rw [hnone, hnone']
  · rw [hold, hold']
    simp only [halike]
    cases same old' e.2 <;> rfl

theorem lookup_eq_some_of_mem {entries : List (κ × ν)} (hnodup : (entries.map Prod.fst).Nodup)
    {e : κ × ν} (he : e ∈ entries) : entries.lookup e.1 = some e.2 := by
  induction entries with
  | nil => cases he
  | cons head rest ih =>
    rw [List.map_cons, List.nodup_cons] at hnodup
    rw [List.lookup_cons]
    rcases List.mem_cons.mp he with rfl | hrest
    · simp
    · have hne : e.1 ≠ head.1 := fun heq ↦ hnodup.1 (heq ▸ List.mem_map_of_mem hrest)
      rw [beq_false_of_ne hne]
      exact ih hnodup.2 hrest

/-- Two lists that compare alike do not differ. -/
theorem diff_alike (h : Alike same prev prev') (hnodup : (prev.map Prod.fst).Nodup)
    (hnodup' : (prev'.map Prod.fst).Nodup) :
    (diff same prev prev').added = [] ∧ (diff same prev prev').removed = [] ∧
      (diff same prev prev').changed = [] := by
  refine ⟨List.filter_eq_nil_iff.mpr fun e' he' ↦ ?_, List.filter_eq_nil_iff.mpr fun e he ↦ ?_,
    List.filterMap_eq_nil_iff.mpr fun e' he' ↦ ?_⟩
  · have hmem := lookup_eq_some_of_mem hnodup' he'
    rcases lookup_alike h e'.1 with ⟨-, hnone⟩ | ⟨old, -, hold, -⟩
    · exact absurd (hmem.symm.trans hnone) (by simp)
    · simp [hold]
  · have hmem := lookup_eq_some_of_mem hnodup he
    rcases lookup_alike h e.1 with ⟨hnone, -⟩ | ⟨-, old', -, hold', -⟩
    · exact absurd (hmem.symm.trans hnone) (by simp)
    · simp [hold']
  · have hmem := lookup_eq_some_of_mem hnodup' he'
    unfold changedEntry
    rcases lookup_alike h e'.1 with ⟨-, hnone⟩ | ⟨old, old', hold, hold', hsame, -⟩
    · exact absurd (hmem.symm.trans hnone) (by simp)
    · obtain rfl := Option.some.inj (hmem.symm.trans hold')
      rw [hold]
      exact if_pos hsame

end Same

end KeyedDiff
