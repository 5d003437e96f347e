import TransportViz.Diff.Snapshots

/-!
# Which pairs a comparison names

The pairs that appeared are those of the second snapshot only, the pairs that are gone those of the
first only; a pair that changed is in both.
-/

namespace TransportViz.Diff

/-- The identities of the pairs that a snapshot shows. -/
def idents (snap : Snapshot) : List Ident := (realPairs snap).map fun e ↦ identOf e.1

/-- Whether the key stored with a state has the identity it is stored under. -/
def Keyed (states : KeyedStates) : Prop :=
  ∀ key value, states.find? key = some value → identOf value.1 = key

theorem foldl_pairStates (pairs : List (PairKey × PairState)) (states : KeyedStates)
    (hkeyed : Keyed states) :
    Keyed (pairs.foldl
        (fun out e ↦ out.alter (identOf e.1) fun old ↦ ((old.map Prod.fst).getD e.1, e.2)) states) ∧
      ∀ key, ((pairs.foldl
          (fun out e ↦ out.alter (identOf e.1) fun old ↦ ((old.map Prod.fst).getD e.1, e.2))
            states).find? key).isSome ↔
        key ∈ pairs.map (fun e ↦ identOf e.1) ∨ (states.find? key).isSome := by
  induction pairs generalizing states with
  | nil => exact ⟨hkeyed, fun key ↦ by simp⟩
  | cons e rest ih =>
    have hstep : Keyed
        (states.alter (identOf e.1) fun old ↦ ((old.map Prod.fst).getD e.1, e.2)) := by
      intro key value hvalue
      rw [OrderedMap.find?_alter] at hvalue
      by_cases hkey : key = identOf e.1
      · rw [if_pos hkey] at hvalue
        obtain rfl := Option.some.inj hvalue
        rw [hkey]
        cases hold : states.find? (identOf e.1) with
        | none => rfl
        | some old => exact hkeyed _ old hold
      · rw [if_neg hkey] at hvalue
        exact hkeyed key value hvalue
    obtain ⟨hrest, hfind⟩ := ih _ hstep
    refine ⟨hrest, fun key ↦ ?_⟩
    rw [List.foldl_cons, hfind, OrderedMap.find?_alter, List.map_cons, List.mem_cons]
    by_cases hkey : key = identOf e.1 <;> simp [hkey]

theorem keyed_pairStates (snap : Snapshot) : Keyed (pairStates snap) :=
  (foldl_pairStates (realPairs snap) .empty fun _ _ h ↦ by cases h).1

theorem isSome_find?_pairStates (snap : Snapshot) (key : Ident) :
    ((pairStates snap).find? key).isSome ↔ key ∈ idents snap := by
  have h := (foldl_pairStates (realPairs snap) .empty fun _ _ h ↦ by cases h).2 key
  simpa [pairStates, idents] using h

section Named

variable {previous current : KeyedStates}

theorem identOf_of_mem_entries {states : KeyedStates} (hkeyed : Keyed states)
    {e : Ident × PairKey × PairState} (he : e ∈ states.entries) : identOf e.2.1 = e.1 :=
  hkeyed e.1 e.2 ((OrderedMap.mem_entries_iff states e.1 e.2).mp he)

theorem mem_newEntries_iff (hcurrent : Keyed current) (key : Ident) :
    key ∈ ((KeyedDiff.newEntries previous.entries current.entries).map fun e ↦ e.2.1).map identOf ↔
      key ∈ current.keys ∧ key ∉ previous.keys := by
  rw [List.map_map, List.mem_map]
  simp only [KeyedDiff.newEntries, List.mem_filter, KeyedDiff.isNone_lookup_iff,
    Function.comp_apply]
  constructor
  · rintro ⟨e, ⟨hmem, hnew⟩, rfl⟩
    rw [identOf_of_mem_entries hcurrent hmem]
    exact ⟨List.mem_map_of_mem hmem, hnew⟩
  · rintro ⟨hmem, hnew⟩
    obtain ⟨e, he, rfl⟩ := List.mem_map.mp hmem
    exact ⟨e, ⟨he, hnew⟩, identOf_of_mem_entries hcurrent he⟩

theorem mem_added_iff (hcurrent : Keyed current) (key : Ident) :
    key ∈ (diff previous current).added.map identOf ↔
      key ∈ current.keys ∧ key ∉ previous.keys := mem_newEntries_iff hcurrent key

theorem mem_removed_iff (hprevious : Keyed previous) (key : Ident) :
    key ∈ (diff previous current).removed.map identOf ↔
      key ∈ previous.keys ∧ key ∉ current.keys := mem_newEntries_iff hprevious key

theorem mem_keys_of_mem_changed (hcurrent : Keyed current) {key : Ident}
    (h : key ∈ (diff previous current).changed.map fun c ↦ identOf c.key) :
    key ∈ previous.keys ∧ key ∈ current.keys := by
  obtain ⟨change, hchange, rfl⟩ := List.mem_map.mp h
  obtain ⟨e, he, rfl⟩ := List.mem_map.mp hchange
  obtain ⟨entry, hmem, hentry⟩ := List.mem_filterMap.mp he
  obtain ⟨-, hvalue, hprevious⟩ := KeyedDiff.mem_keys_of_changedEntry hentry
  have hident : identOf e.2.2.1 = entry.1 := by
    rw [hvalue]
    exact identOf_of_mem_entries hcurrent hmem
  rw [hident]
  exact ⟨hprevious, List.mem_map_of_mem hmem⟩

end Named

theorem mem_keys_pairStates_iff (snap : Snapshot) (key : Ident) :
    key ∈ (pairStates snap).keys ↔ key ∈ idents snap := by
  rw [OrderedMap.mem_keys_iff, ← Option.isSome_iff_exists, isSome_find?_pairStates]

theorem mem_added_pairStates_iff (before after : Snapshot) (key : Ident) :
    key ∈ (diff (pairStates before) (pairStates after)).added.map identOf ↔
      key ∈ idents after ∧ key ∉ idents before := by
  rw [mem_added_iff (keyed_pairStates after), mem_keys_pairStates_iff, mem_keys_pairStates_iff]

theorem mem_removed_pairStates_iff (before after : Snapshot) (key : Ident) :
    key ∈ (diff (pairStates before) (pairStates after)).removed.map identOf ↔
      key ∈ idents before ∧ key ∉ idents after := by
  rw [mem_removed_iff (keyed_pairStates before), mem_keys_pairStates_iff, mem_keys_pairStates_iff]

theorem mem_idents_of_mem_changed {before after : Snapshot} {key : Ident}
    (h : key ∈ (diff (pairStates before) (pairStates after)).changed.map fun c ↦ identOf c.key) :
    key ∈ idents before ∧ key ∈ idents after := by
  have hboth := mem_keys_of_mem_changed (keyed_pairStates after) h
  rwa [mem_keys_pairStates_iff, mem_keys_pairStates_iff] at hboth

end TransportViz.Diff
