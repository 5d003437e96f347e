import Mathlib.Data.Finset.Basic
import Mathlib.Data.List.Induction
import Mathlib.Data.List.Perm.Basic
import TransportViz.Library.OrderedMap

/-!
# Writing under keys

Items are written one after the other, each under a key, and an item that comes later replaces the one
before it. What stays is the last, so that the order of the items matters exactly where two of them
write different values under one key. The same holds when an item may also erase.
-/

universe u v w

namespace LastWrite

variable {α : Type u} {κ : Type v} {ν : Type w} [DecidableEq κ]

/-- The values that the items write under a key, in order. -/
def written (entry : α → Option (κ × ν)) (key : κ) (items : List α) : List ν :=
  items.filterMap fun a ↦ (entry a).bind fun e ↦ if e.1 = key then some e.2 else none

variable {entry : α → Option (κ × ν)} {key : κ} {items other : List α} {value : ν}

theorem mem_written_iff :
    value ∈ written entry key items ↔ ∃ a ∈ items, entry a = some (key, value) := by
  simp only [written, List.mem_filterMap, Option.bind_eq_some_iff, Option.ite_none_right_eq_some,
    Option.some.injEq]
  constructor
  · intro ⟨a, ha, e, he, hkey, hvalue⟩
    exact ⟨a, ha, by rw [he, ← hkey, ← hvalue]⟩
  · intro ⟨a, ha, he⟩
    exact ⟨a, ha, (key, value), he, rfl, rfl⟩

/-- When every item has an entry, the items of the key write. -/
theorem written_some (keyOf : α → κ) [DecidablePred fun a ↦ keyOf a = key] (valueOf : α → ν)
    (items : List α) :
    written (fun a ↦ some (keyOf a, valueOf a)) key items =
      (items.filter fun a ↦ keyOf a = key).map valueOf := by
  induction items with
  | nil => rfl
  | cons a rest ih =>
    simp only [written, List.filterMap_cons, Option.bind_some, List.filter_cons, decide_eq_true_eq] at ih ⊢
    split_ifs with h
    · rw [List.map_cons, ← ih]
    · exact ih

/-- When the items that write under the key are those of a kind, they all write. -/
theorem written_eq_map_filter {p : α → Bool} {valueOf : α → ν} {items : List α}
    (h : ∀ a, ((entry a).bind fun e ↦ if e.1 = key then some e.2 else none) =
      if p a then some (valueOf a) else none) :
    written entry key items = (items.filter p).map valueOf := by
  unfold written
  rw [List.filterMap_congr fun a _ ↦ h a]
  induction items with
  | nil => rfl
  | cons a rest ih =>
    rw [List.filterMap_cons, List.filter_cons, ih]
    split_ifs <;> rfl

/-- A key may be spelled differently, as long as different keys are. -/
theorem written_mapKey {κ' : Type*} [DecidableEq κ'] {f : κ → κ'} (hf : Function.Injective f)
    (key : κ) (items : List α) :
    written (fun a ↦ (entry a).map (Prod.map f id)) (f key) items = written entry key items := by
  apply List.filterMap_congr
  intro a _
  cases hentry : entry a with
  | none => simp [hentry]
  | some e => simp [hentry, hf.eq_iff]

/-- Only the items that may write under the key matter. -/
theorem written_filter {p : α → Bool} (h : ∀ a value, entry a = some (key, value) → p a = true)
    (items : List α) : written entry key (items.filter p) = written entry key items := by
  induction items with
  | nil => rfl
  | cons a rest ih =>
    rw [List.filter_cons]
    by_cases hp : p a = true
    · rw [if_pos hp]
      simp only [written, List.filterMap_cons] at ih ⊢
      rw [ih]
    · rw [if_neg hp, ih]
      have hnone : ((entry a).bind fun e ↦ if e.1 = key then some e.2 else none) = none := by
        cases hentry : entry a with
        | none => rfl
        | some e => exact if_neg fun hkey ↦ hp (h a e.2 (by rw [hentry, ← hkey]))
      simp only [written, List.filterMap_cons, hnone]

theorem written_append (first second : List α) :
    written entry key (first ++ second) = written entry key first ++ written entry key second :=
  List.filterMap_append

/-- An item writes the value under the key, and no later one writes there. -/
def Latest (entry : α → Option (κ × ν)) (items : List α) (key : κ) (value : ν) : Prop :=
  ∃ before a after, items = before ++ a :: after ∧ entry a = some (key, value) ∧
    ∀ later ∈ after, ∀ e, entry later = some e → e.1 ≠ key

/-- The last value is that of an item after which no other writes under the key. -/
theorem getLast?_written_eq_some_iff :
    (written entry key items).getLast? = some value ↔ Latest entry items key value := by
  constructor
  · intro h
    induction items using List.reverseRecOn with
    | nil => simp [written] at h
    | append_singleton items a ih =>
      rw [written_append] at h
      cases hentry : entry a with
      | none =>
        have hlast : (written entry key items).getLast? = some value := by
          simpa [written, hentry] using h
        obtain ⟨before, b, after, rfl, hb, hafter⟩ := ih hlast
        refine ⟨before, b, after ++ [a], by simp, hb, fun later hlater e he ↦ ?_⟩
        rcases List.mem_append.mp hlater with hlater | hlater
        · exact hafter later hlater e he
        · rw [List.mem_singleton.mp hlater, hentry] at he
          cases he
      | some e =>
        by_cases hkey : e.1 = key
        · have hvalue : e.2 = value := by simpa [written, hentry, hkey] using h
          exact ⟨items, a, [], rfl, by rw [hentry, ← hkey, ← hvalue], by simp⟩
        · have hlast : (written entry key items).getLast? = some value := by
            simpa [written, hentry, hkey] using h
          obtain ⟨before, b, after, rfl, hb, hafter⟩ := ih hlast
          refine ⟨before, b, after ++ [a], by simp, hb, fun later hlater other he ↦ ?_⟩
          rcases List.mem_append.mp hlater with hlater | hlater
          · exact hafter later hlater other he
          · rw [List.mem_singleton.mp hlater, hentry] at he
            cases he
            exact hkey
  · intro ⟨before, a, after, hitems, ha, hafter⟩
    have hnone : written entry key after = [] := by
      rw [written, List.filterMap_eq_nil_iff]
      intro later hlater
      cases he : entry later with
      | none => rfl
      | some e => exact if_neg (hafter later hlater e he)
    rw [hitems, ← List.singleton_append, written_append, written_append, hnone]
    simp [written, ha]

variable (entry key) in
theorem written_perm (h : other.Perm items) :
    (written entry key other).Perm (written entry key items) := h.filterMap _

/-- Every value that is written stays in some order. -/
theorem exists_perm_getLast? (h : value ∈ written entry key items) :
    ∃ other, other.Perm items ∧ (written entry key other).getLast? = some value := by
  obtain ⟨a, ha, hentry⟩ := mem_written_iff.mp h
  obtain ⟨before, after, rfl⟩ := List.append_of_mem ha
  refine ⟨before ++ after ++ [a], ?_, ?_⟩
  · rw [List.append_assoc]
    exact (List.perm_append_comm).append_left before
  · rw [written_append]
    simp [written, hentry]

theorem getLast?_eq_of_perm (h : other.Perm items)
    (hsame : ∀ v ∈ written entry key items, ∀ w ∈ written entry key items, v = w) :
    (written entry key other).getLast? = (written entry key items).getLast? := by
  have hperm := written_perm entry key h
  cases hlast : (written entry key items).getLast? with
  | none =>
    rw [List.getLast?_eq_none_iff] at hlast ⊢
    rw [hlast] at hperm
    exact hperm.eq_nil
  | some v =>
    cases hother : (written entry key other).getLast? with
    | none =>
      rw [List.getLast?_eq_none_iff] at hother
      rw [hother] at hperm
      rw [hperm.symm.eq_nil] at hlast
      simp at hlast
    | some w =>
      have hv := List.mem_of_getLast? hlast
      have hw := hperm.mem_iff.mp (List.mem_of_getLast? hother)
      rw [hsame w hw v hv]

/-- What stays under a key is the same in every order iff only one value is written. -/
theorem getLast?_perm_iff :
    (∀ other, other.Perm items →
      (written entry key other).getLast? = (written entry key items).getLast?) ↔
      ∀ v ∈ written entry key items, ∀ w ∈ written entry key items, v = w := by
  constructor
  · intro h v hv w hw
    obtain ⟨first, hfirst, hv⟩ := exists_perm_getLast? hv
    obtain ⟨second, hsecond, hw⟩ := exists_perm_getLast? hw
    rw [h first hfirst, ← h second hsecond, hw] at hv
    exact (Option.some.inj hv).symm
  · intro h other hperm
    exact getLast?_eq_of_perm hperm h

section Maps

variable {κ : Type v} [LinearOrder κ] {entry : α → Option (κ × ν)}

/-- An item that has an entry writes it. -/
def write (map : OrderedMap κ ν) : Option (κ × ν) → OrderedMap κ ν
  | some e => map.set e.1 e.2
  | none => map

@[simp]
theorem write_some (map : OrderedMap κ ν) (e : κ × ν) : write map (some e) = map.set e.1 e.2 := rfl

@[simp]
theorem write_none (map : OrderedMap κ ν) : write map none = map := rfl

/-- A map that is written to holds the last values. -/
theorem find?_foldl_write (items : List α) (map : OrderedMap κ ν) (key : κ) :
    (items.foldl (fun map a ↦ write map (entry a)) map).find? key =
      (written entry key items).getLast?.or (map.find? key) := by
  induction items using List.reverseRecOn with
  | nil => rfl
  | append_singleton items a ih =>
    rw [List.foldl_append, List.foldl_cons, List.foldl_nil, written_append]
    cases hentry : entry a with
    | none => simpa [written, hentry] using ih
    | some e =>
      rw [write_some, OrderedMap.find?_set, ih]
      by_cases hkey : key = e.1
      · simp [written, hentry, hkey]
      · simp [written, hentry, hkey, Ne.symm hkey]

/-- Every key gets a value of its own. -/
theorem find?_foldl_set (value : κ → ν) (keys : List κ) (map : OrderedMap κ ν) (key : κ) :
    (keys.foldl (fun map k ↦ map.set k (value k)) map).find? key =
      if key ∈ keys then some (value key) else map.find? key := by
  induction keys generalizing map with
  | nil => rfl
  | cons k rest ih =>
    rw [List.foldl_cons, ih, OrderedMap.find?_set]
    by_cases hrest : key ∈ rest
    · simp [hrest]
    · by_cases hhead : key = k <;> simp [hrest, hhead]

end Maps

/-! ## Writing and erasing -/

section Erasing

variable {κ : Type v} [LinearOrder κ] {entry : α → Option (κ × Option ν)}

/-- An item that is about a key stores a value there, or erases the one that is there. -/
def assign (map : OrderedMap κ ν) : Option (κ × Option ν) → OrderedMap κ ν
  | some (key, some value) => map.set key value
  | some (key, none) => map.erase key
  | none => map

theorem find?_assign (map : OrderedMap κ ν) (e : κ × Option ν) (key : κ) :
    (assign map (some e)).find? key = if key = e.1 then e.2 else map.find? key := by
  obtain ⟨other, value⟩ := e
  cases value with
  | none => exact map.find?_erase other key
  | some value => exact map.find?_set other key value

/-- A key has what the last item about it says. -/
theorem find?_foldl_assign (items : List α) (map : OrderedMap κ ν) (key : κ) :
    (items.foldl (fun map a ↦ assign map (entry a)) map).find? key =
      (written entry key items).getLast?.getD (map.find? key) := by
  induction items using List.reverseRecOn with
  | nil => rfl
  | append_singleton items a ih =>
    rw [List.foldl_append, List.foldl_cons, List.foldl_nil, written_append]
    cases hentry : entry a with
    | none => simpa [assign, written, hentry] using ih
    | some e =>
      rw [find?_assign, ih]
      by_cases hkey : key = e.1
      · simp [written, hentry, hkey]
      · simp [written, hentry, hkey, Ne.symm hkey]

/-- Items about different keys may trade places. -/
theorem foldl_assign_congr {items other : List α} (map : OrderedMap κ ν)
    (h : ∀ key, (written entry key items).getLast? = (written entry key other).getLast?) :
    items.foldl (fun map a ↦ assign map (entry a)) map =
      other.foldl (fun map a ↦ assign map (entry a)) map := by
  apply OrderedMap.ext_find?
  intro key
  rw [find?_foldl_assign, find?_foldl_assign, h key]

end Erasing

/-! ## Noting under a key -/

section Noting

variable {β : Type*} {κ : Type v} [LinearOrder κ] {entry : α → Option (κ × β)}

/-- An item that has an entry changes what is kept under its key. -/
def note (step : β → Option ν → ν) (map : OrderedMap κ ν) : Option (κ × β) → OrderedMap κ ν
  | some (key, b) => map.alter key (step b)
  | none => map

/-- A key keeps what its own items make of it, in their order. -/
theorem find?_foldl_note (step : β → Option ν → ν) (items : List α) (map : OrderedMap κ ν) (key : κ) :
    (items.foldl (fun map a ↦ note step map (entry a)) map).find? key =
      (written entry key items).foldl (fun slot b ↦ some (step b slot)) (map.find? key) := by
  induction items using List.reverseRecOn with
  | nil => rfl
  | append_singleton items a ih =>
    rw [List.foldl_append, List.foldl_cons, List.foldl_nil, written_append, List.foldl_append, ← ih]
    cases hentry : entry a with
    | none => simp [note, written, hentry]
    | some e =>
      obtain ⟨other, b⟩ := e
      rw [note, OrderedMap.find?_alter]
      by_cases hkey : key = other
      · simp [written, hentry, hkey]
      · simp [written, hentry, hkey, Ne.symm hkey]

end Noting

/-! ## Joining and leaving a set -/

section Toggling

variable {entry : α → Option (κ × Bool)}

/-- An item puts its key into the set, or takes it out. -/
def toggle (set : Finset κ) : Option (κ × Bool) → Finset κ
  | some (key, true) => insert key set
  | some (key, false) => set.erase key
  | none => set

/-- The set holds the keys that came in last. -/
theorem mem_foldl_toggle (items : List α) :
    key ∈ items.foldl (fun set a ↦ toggle set (entry a)) ∅ ↔ Latest entry items key true := by
  rw [← getLast?_written_eq_some_iff]
  induction items using List.reverseRecOn with
  | nil => simp [written]
  | append_singleton items a ih =>
    rw [List.foldl_append, List.foldl_cons, List.foldl_nil, written_append]
    cases hentry : entry a with
    | none => simpa [toggle, written, hentry] using ih
    | some e =>
      obtain ⟨other, joins⟩ := e
      by_cases hkey : other = key
      · cases joins <;> simp [toggle, written, hentry, hkey]
      · have hne : key ≠ other := Ne.symm hkey
        cases joins <;> simpa [toggle, written, hentry, hkey, hne] using ih

end Toggling

end LastWrite
