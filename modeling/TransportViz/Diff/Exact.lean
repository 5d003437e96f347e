import TransportViz.Diff.Presence
import TransportViz.Library.MapDiff

/-!
# A comparison is an exact difference

The comparison of two maps of pair states lists, in key order, the keys that only one of them has and
those whose states differ. Removing, adding and replacing what it lists turns the first map into the
second, comparing the other way round exchanges its sides, and it is empty when the maps are equal.
-/

namespace TransportViz.Diff

open KeyedDiff (ListsExactly)

/-- A map from pair keys: every key is stored under its own identity. -/
structure PairMap where
  states : KeyedStates
  keyed : Keyed states

/-- The pairs of a snapshot, by GUID. -/
def pairMap (snap : Snapshot) : PairMap where
  states := pairStates snap
  keyed := keyed_pairStates snap

/-- The state of the pair with the identity. -/
def stateOf (states : KeyedStates) (ident : Ident) : Option PairState :=
  (states.find? ident).map Prod.snd

/-- Two maps are equal when they hold the same keys with equal states; the nodes a key carries do not
count. -/
def SameStates (a b : KeyedStates) : Prop := ∀ ident, stateOf a ident = stateOf b ident

/-- Store the state under the key: a key that is there already stays as it is. -/
def assign (states : KeyedStates) (key : PairKey) (state : PairState) : KeyedStates :=
  states.alter (identOf key) fun old ↦ ((old.map Prod.fst).getD key, state)

/-- Remove the removed pairs, add the added ones with the state they have in `b`, and replace the
states of the changed ones. -/
def applyChanges (c : Changes) (a b : KeyedStates) : KeyedStates :=
  let kept := (c.removed.map identOf).foldl OrderedMap.erase a
  let grown := c.added.foldl
    (fun states key ↦ assign states key ((stateOf b (identOf key)).getD {})) kept
  c.changed.foldl (fun states change ↦ assign states change.key change.after) grown

/-- The same change seen from the other side. -/
def swapChange (change : PairChange) : PairChange where
  key := change.beforeKey
  before := change.after
  after := change.before
  beforeKey := change.key

def swapChanges (c : Changes) : Changes :=
  { c with added := c.removed, removed := c.added, changed := c.changed.map swapChange }

/-- No pair appeared, disappeared or changed. -/
def isEmpty (c : Changes) : Bool := c.added.isEmpty && c.removed.isEmpty && c.changed.isEmpty

/-- What makes `c` the difference from `a` to `b`, and `reverse` the one from `b` to `a`. -/
structure ExactDiff (a b : KeyedStates) (c reverse : Changes) : Prop where
  added : ListsExactly (c.added.map identOf) fun ident ↦
    stateOf a ident = none ∧ (stateOf b ident).isSome
  removed : ListsExactly (c.removed.map identOf) fun ident ↦
    stateOf b ident = none ∧ (stateOf a ident).isSome
  changed : ListsExactly (c.changed.map fun change ↦ identOf change.key) fun ident ↦
    ∃ before after, stateOf a ident = some before ∧ stateOf b ident = some after ∧ before ≠ after
  told : ∀ change ∈ c.changed, identOf change.beforeKey = identOf change.key ∧
    stateOf a (identOf change.key) = some change.before ∧
      stateOf b (identOf change.key) = some change.after
  patched : SameStates (applyChanges c a b) b
  swapped : reverse = swapChanges c
  isEmpty_iff : isEmpty c = true ↔ SameStates a b

section Lists

variable {a b : KeyedStates}

theorem map_identOf_newEntries (hb : Keyed b) :
    ((KeyedDiff.newEntries a.entries b.entries).map fun e ↦ e.2.1).map identOf =
      (KeyedDiff.newEntries a.entries b.entries).map Prod.fst := by
  rw [List.map_map]
  exact List.map_congr_left fun e he ↦ identOf_of_mem_entries hb (List.mem_filter.mp he).1

theorem listsExactly_new (hb : Keyed b) :
    ListsExactly (((KeyedDiff.newEntries a.entries b.entries).map fun e ↦ e.2.1).map identOf)
      fun ident ↦ stateOf a ident = none ∧ (stateOf b ident).isSome := by
  have h := KeyedDiff.listsExactly_newEntries a b
  rw [map_identOf_newEntries hb]
  exact ⟨h.sorted, fun ident ↦ by simp [h.mem_iff, stateOf]⟩

theorem listsExactly_added (hb : Keyed b) :
    ListsExactly ((diff a b).added.map identOf) fun ident ↦
      stateOf a ident = none ∧ (stateOf b ident).isSome := listsExactly_new hb

theorem listsExactly_removed (ha : Keyed a) :
    ListsExactly ((diff a b).removed.map identOf) fun ident ↦
      stateOf b ident = none ∧ (stateOf a ident).isSome := listsExactly_new ha

theorem mem_diff_changed_iff (change : PairChange) :
    change ∈ (diff a b).changed ↔ ∃ ident,
      a.find? ident = some (change.beforeKey, change.before) ∧
        b.find? ident = some (change.key, change.after) ∧ change.before ≠ change.after := by
  simp only [diff, report, List.mem_map, Prod.exists, KeyedDiff.mem_changed_iff,
    decide_eq_false_iff_not]
  constructor
  · rintro ⟨ident, _, _, _, _, ⟨ha, hb, hne⟩, rfl⟩
    exact ⟨ident, ha, hb, hne⟩
  · rintro ⟨ident, ha, hb, hne⟩
    exact ⟨ident, _, _, _, _, ⟨ha, hb, hne⟩, rfl⟩

/-- A listed change tells the states that the two maps have under its key. -/
theorem told_of_mem_changed (ha : Keyed a) (hb : Keyed b) {change : PairChange}
    (h : change ∈ (diff a b).changed) :
    identOf change.beforeKey = identOf change.key ∧
      stateOf a (identOf change.key) = some change.before ∧
        stateOf b (identOf change.key) = some change.after := by
  obtain ⟨ident, hbefore, hafter, -⟩ := (mem_diff_changed_iff change).mp h
  have hkey := hb ident _ hafter
  rw [hkey, stateOf, stateOf, hbefore, hafter]
  exact ⟨ha ident _ hbefore, rfl, rfl⟩

theorem listsExactly_changed (hb : Keyed b) :
    ListsExactly ((diff a b).changed.map fun change ↦ identOf change.key) fun ident ↦
      ∃ before after, stateOf a ident = some before ∧ stateOf b ident = some after ∧
        before ≠ after where
  sorted := by
    have hident : (diff a b).changed.map (fun change ↦ identOf change.key) =
        (KeyedDiff.diff (fun s t ↦ decide (s.2 = t.2)) a.entries b.entries).changed.map
          Prod.fst := by
      rw [diff, report, List.map_map]
      refine List.map_congr_left fun e he ↦ hb e.1 e.2.2 ?_
      exact ((KeyedDiff.mem_changed_iff a b _ e.1 e.2.1 e.2.2).mp he).2.1
    rw [hident]
    exact (KeyedDiff.listsExactly_changed a b _).sorted
  mem_iff ident := by
    simp only [List.mem_map, mem_diff_changed_iff, stateOf, Option.map_eq_some_iff]
    constructor
    · rintro ⟨change, ⟨found, hbefore, hafter, hne⟩, rfl⟩
      obtain rfl := hb found _ hafter
      exact ⟨_, _, ⟨_, hbefore, rfl⟩, ⟨_, hafter, rfl⟩, hne⟩
    · rintro ⟨_, _, ⟨before, hbefore, rfl⟩, ⟨after, hafter, rfl⟩, hne⟩
      exact ⟨⟨after.1, before.2, after.2, before.1⟩, ⟨ident, hbefore, hafter, hne⟩,
        hb ident _ hafter⟩

end Lists

section Patch

variable {a b : KeyedStates}

theorem stateOf_foldl_assign {α : Type*} (input : List α) (key : α → PairKey)
    (value : α → PairState) (states : KeyedStates) (ident : Ident) (state : PairState)
    (h : ∀ x ∈ input, identOf (key x) = ident → value x = state) :
    stateOf (input.foldl (fun states x ↦ assign states (key x) (value x)) states) ident =
      if ident ∈ input.map fun x ↦ identOf (key x) then some state else stateOf states ident := by
  have hfold := OrderedMap.map_find?_foldl_alter input (fun x ↦ identOf (key x))
    (fun x old ↦ ((old.map Prod.fst).getD (key x), value x)) Prod.snd state states ident
    fun x hx hident _ ↦ h x hx hident
  exact hfold.trans (by congr)

/-- What the patched map holds under a key: the second map's state where the pair changed or was added,
nothing where it was removed, and the first map's state elsewhere. -/
theorem stateOf_applyChanges (ha : Keyed a) (hb : Keyed b) (ident : Ident) :
    stateOf (applyChanges (diff a b) a b) ident =
      if ident ∈ (diff a b).changed.map (fun change ↦ identOf change.key) then
        some ((stateOf b ident).getD {})
      else if ident ∈ (diff a b).added.map identOf then some ((stateOf b ident).getD {})
      else if ident ∈ (diff a b).removed.map identOf then none
      else stateOf a ident := by
  have hkept : stateOf ((((diff a b).removed.map identOf)).foldl OrderedMap.erase a) ident =
      if ident ∈ (diff a b).removed.map identOf then none else stateOf a ident := by
    rw [stateOf, OrderedMap.find?_foldl_erase]
    split_ifs <;> rfl
  have hafter (change : PairChange) (hmem : change ∈ (diff a b).changed)
      (hident : identOf change.key = ident) : change.after = (stateOf b ident).getD {} := by
    rw [← hident, (told_of_mem_changed ha hb hmem).2.2, Option.getD_some]
  rw [applyChanges, stateOf_foldl_assign _ _ _ _ _ _ hafter,
    stateOf_foldl_assign _ _ _ _ _ ((stateOf b ident).getD {}) fun _ _ h ↦ by rw [h], hkept]

/-- The patched map is the second one, whatever the two maps hold under a key. -/
theorem sameStates_applyChanges (ha : Keyed a) (hb : Keyed b) :
    SameStates (applyChanges (diff a b) a b) b := by
  intro ident
  classical
  simp only [stateOf_applyChanges ha hb, (listsExactly_changed hb).mem_iff ident,
    (listsExactly_added hb).mem_iff ident, (listsExactly_removed ha).mem_iff ident]
  cases hbefore : stateOf a ident with
  | none =>
    cases hafter : stateOf b ident with
    | none => simp
    | some after => simp
  | some before =>
    cases hafter : stateOf b ident with
    | none => simp
    | some after =>
      by_cases hsame : before = after
      · simp [hsame]
      · simp [hsame]

end Patch

/-! ## Both ways -/

theorem diff_swapChanges (a b : KeyedStates) : diff b a = swapChanges (diff a b) := by
  have h := KeyedDiff.diff_swap a b (fun s t : PairKey × PairState ↦ decide (s.2 = t.2))
    fun _ _ ↦ decide_eq_decide.mpr eq_comm
  rw [diff, h]
  simp [diff, report, swapChanges, KeyedDiff.swap, swapChange]

theorem isEmpty_diff_iff {a b : KeyedStates} (ha : Keyed a) (hb : Keyed b) :
    isEmpty (diff a b) = true ↔ SameStates a b := by
  have hempty : isEmpty (diff a b) = true ↔
      (diff a b).added = [] ∧ (diff a b).removed = [] ∧ (diff a b).changed = [] := by
    simp only [isEmpty, Bool.and_eq_true, List.isEmpty_iff, and_assoc]
  rw [hempty]
  constructor
  · rintro ⟨hnoAdded, hnoRemoved, hnoChanged⟩ ident
    have hpatched := sameStates_applyChanges ha hb ident
    rw [applyChanges, hnoAdded, hnoRemoved, hnoChanged] at hpatched
    exact hpatched
  · intro hsame
    refine ⟨List.eq_nil_iff_forall_not_mem.mpr fun key hkey ↦ ?_,
      List.eq_nil_iff_forall_not_mem.mpr fun key hkey ↦ ?_,
      List.eq_nil_iff_forall_not_mem.mpr fun change hchange ↦ ?_⟩
    · have h := ((listsExactly_added (a := a) hb).mem_iff _).mp (List.mem_map_of_mem hkey)
      rw [hsame (identOf key)] at h
      simp [h.1] at h
    · have h := ((listsExactly_removed (b := b) ha).mem_iff _).mp (List.mem_map_of_mem hkey)
      rw [hsame (identOf key)] at h
      simp [h.1] at h
    · obtain ⟨before, after, hbefore, hafter, hne⟩ :=
        ((listsExactly_changed (a := a) hb).mem_iff _).mp (List.mem_map_of_mem hchange)
      exact hne (Option.some.inj (hbefore.symm.trans ((hsame _).trans hafter)))

/-- The comparison of two maps is their exact difference. -/
theorem exactDiff_of_keyed {a b : KeyedStates} (ha : Keyed a) (hb : Keyed b) :
    ExactDiff a b (diff a b) (diff b a) where
  added := listsExactly_new hb
  removed := listsExactly_new ha
  changed := listsExactly_changed hb
  told _ h := told_of_mem_changed ha hb h
  patched := sameStates_applyChanges ha hb
  swapped := diff_swapChanges a b
  isEmpty_iff := isEmpty_diff_iff ha hb

/-- So are the comparison of two maps of pair states and that of two snapshots by GUID. -/
theorem exactDiff :
    (∀ a b : PairMap, ExactDiff a.states b.states (diff a.states b.states)
      (diff b.states a.states)) ∧
    ∀ before after : Snapshot, ExactDiff (pairMap before).states (pairMap after).states
      (diffSnapshots before after .guid) (diffSnapshots after before .guid) :=
  ⟨fun a b ↦ exactDiff_of_keyed a.keyed b.keyed,
    fun before after ↦ exactDiff_of_keyed (pairMap before).keyed (pairMap after).keyed⟩

end TransportViz.Diff
