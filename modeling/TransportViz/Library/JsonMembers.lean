import TransportViz.Library.IntegerFields
import TransportViz.Library.JsonReader
import TransportViz.Library.JsonText

/-!
# The order of members

A library that keeps the members of an object in the order of their keys writes them in that order, and
so a document that was saved has lost the order it was built in. What a reader gets by asking for members
by their names does not depend on it.
-/

namespace JsonMembers

open Script (Value)
open JsonReader

/-! ## Members in the order of their keys -/

section Sorting

variable {α β : Type}

/-- Members of one name keep their order. -/
def byKey (members : List (String × α)) : List (String × α) :=
  members.insertionSort fun a b ↦ a.1 ≤ b.1

@[simp]
theorem byKey_nil : byKey ([] : List (String × α)) = [] := rfl

theorem byKey_cons (member : String × α) (rest : List (String × α)) :
    byKey (member :: rest) = (byKey rest).orderedInsert (fun a b ↦ a.1 ≤ b.1) member := rfl

theorem mem_byKey {members : List (String × α)} {member : String × α} :
    member ∈ byKey members ↔ member ∈ members := (List.perm_insertionSort _ members).mem_iff

theorem filter_orderedInsert (key : String) (member : String × α) (rest : List (String × α)) :
    (rest.orderedInsert (fun a b ↦ a.1 ≤ b.1) member).filter (fun a ↦ a.1 = key) =
      (member :: rest).filter fun a ↦ a.1 = key := by
  induction rest with
  | nil => rfl
  | cons head rest ih =>
    rw [List.orderedInsert_cons]
    split_ifs with hle
    · rfl
    · rw [List.filter_cons, ih, List.filter_cons, List.filter_cons, List.filter_cons]
      by_cases hhead : head.1 = key
      · -- the two have different names
        have hne : member.1 ≠ key := fun hmember ↦ hle (hmember.trans hhead.symm).le
        simp [hhead, hne]
      · simp [hhead]

theorem filter_byKey (key : String) (members : List (String × α)) :
    (byKey members).filter (fun a ↦ a.1 = key) = members.filter fun a ↦ a.1 = key := by
  induction members with
  | nil => rfl
  | cons member rest ih =>
    rw [byKey_cons, filter_orderedInsert, List.filter_cons, ih, List.filter_cons]

theorem lookup_eq_head? (key : String) (members : List (String × α)) :
    members.lookup key = ((members.filter fun a ↦ a.1 = key).head?).map Prod.snd := by
  induction members with
  | nil => rfl
  | cons member rest ih =>
    obtain ⟨name, a⟩ := member
    rw [OrderedMap.lookup_cons_eq_ite, List.filter_cons]
    by_cases hname : key = name
    · simp [hname]
    · simp [hname, Ne.symm hname, ih]

@[simp]
theorem lookup_byKey (key : String) (members : List (String × α)) :
    (byKey members).lookup key = members.lookup key := by
  rw [lookup_eq_head?, lookup_eq_head?, filter_byKey]

theorem find?_ofList (key : String) (members : List (String × α)) :
    (OrderedMap.ofList members).find? key =
      ((members.filter fun a ↦ a.1 = key).getLast?).map Prod.snd := by
  have hfold : ∀ map : OrderedMap String α,
      (members.foldl (fun map entry ↦ map.set entry.1 entry.2) map).find? key =
        (((members.filter fun a ↦ a.1 = key).getLast?).map Prod.snd).or (map.find? key) := by
    induction members with
    | nil => exact fun map ↦ rfl
    | cons member rest ih =>
      intro map
      rw [List.foldl_cons, ih, OrderedMap.find?_set, List.filter_cons]
      by_cases hname : member.1 = key
      · cases hlast : (rest.filter fun a ↦ a.1 = key).getLast? <;>
          simp [hname, List.getLast?_cons, hlast]
      · simp [hname, Ne.symm hname]
  rw [OrderedMap.ofList, hfold, OrderedMap.find?_empty, Option.or_none]

@[simp]
theorem ofList_byKey (members : List (String × α)) :
    OrderedMap.ofList (byKey members) = OrderedMap.ofList members :=
  OrderedMap.ext_find? fun key ↦ by rw [find?_ofList, find?_ofList, filter_byKey]

theorem ofList_map (f : α → β) (members : List (String × α)) :
    OrderedMap.ofList (members.map fun a ↦ (a.1, f a.2)) = (OrderedMap.ofList members).mapValues f := by
  refine OrderedMap.ext_find? fun key ↦ ?_
  rw [find?_ofList, OrderedMap.find?_mapValues, find?_ofList, List.filter_map, List.getLast?_map,
    Option.map_map, Option.map_map]
  rfl

theorem map_byKey (f : α → β) (members : List (String × α)) :
    (byKey members).map (fun a ↦ (a.1, f a.2)) = byKey (members.map fun a ↦ (a.1, f a.2)) := by
  have hinsert : ∀ (member : String × α) (rest : List (String × α)),
      (rest.orderedInsert (fun a b ↦ a.1 ≤ b.1) member).map (fun a ↦ (a.1, f a.2)) =
        (rest.map fun a ↦ (a.1, f a.2)).orderedInsert (fun a b ↦ a.1 ≤ b.1) (member.1, f member.2) := by
    intro member rest
    induction rest with
    | nil => rfl
    | cons head rest ih =>
      rw [List.orderedInsert_cons, List.map_cons, List.orderedInsert_cons]
      split_ifs
      · rfl
      · rw [List.map_cons, ih]
  induction members with
  | nil => rfl
  | cons member rest ih => rw [byKey_cons, hinsert, ih, List.map_cons, byKey_cons]

@[simp]
theorem byKey_byKey (members : List (String × α)) : byKey (byKey members) = byKey members := by
  have htotal : Std.Total fun a b : String × α ↦ a.1 ≤ b.1 := ⟨fun a b ↦ le_total a.1 b.1⟩
  have htrans : IsTrans (String × α) fun a b ↦ a.1 ≤ b.1 := ⟨fun _ _ _ ↦ le_trans⟩
  exact (List.pairwise_insertionSort _ members).insertionSort_eq

end Sorting

/-! ## Values -/

mutual

/-- The value as the library keeps it. -/
def ordered : Value → Value
  | .array elements => .array (orderedElements elements)
  | .object members => .object (byKey (orderedMembers members))
  | v => v

def orderedElements : List Value → List Value
  | [] => []
  | v :: rest => ordered v :: orderedElements rest

def orderedMembers : List (String × Value) → List (String × Value)
  | [] => []
  | (key, v) :: rest => (key, ordered v) :: orderedMembers rest

end

section Values

theorem orderedElements_eq (elements : List Value) :
    orderedElements elements = elements.map ordered := by
  induction elements with
  | nil => rw [orderedElements, List.map_nil]
  | cons v rest ih => rw [orderedElements, ih, List.map_cons]

theorem orderedMembers_eq (members : List (String × Value)) :
    orderedMembers members = members.map fun member ↦ (member.1, ordered member.2) := by
  induction members with
  | nil => rw [orderedMembers, List.map_nil]
  | cons member rest ih => rw [orderedMembers, ih, List.map_cons]

@[simp]
theorem ordered_array (elements : List Value) :
    ordered (.array elements) = .array (elements.map ordered) := by rw [ordered, orderedElements_eq]

@[simp]
theorem ordered_object (members : List (String × Value)) :
    ordered (.object members) =
      .object (byKey (members.map fun member ↦ (member.1, ordered member.2))) := by
  rw [ordered, orderedMembers_eq]

@[simp]
theorem ordered_undefined : ordered .undefined = .undefined := by rw [ordered]; all_goals exact nofun

@[simp]
theorem ordered_null : ordered .null = .null := by rw [ordered]; all_goals exact nofun

@[simp]
theorem ordered_bool (b : Bool) : ordered (.bool b) = .bool b := by rw [ordered]; all_goals exact nofun

@[simp]
theorem ordered_number (x : ℚ) : ordered (.number x) = .number x := by
  rw [ordered]; all_goals exact nofun

@[simp]
theorem ordered_string (s : String) : ordered (.string s) = .string s := by
  rw [ordered]; all_goals exact nofun

theorem all_byKey {α : Type} (members : List (String × α)) (p : String × α → Bool) :
    (byKey members).all p = members.all p := by
  rw [Bool.eq_iff_iff, List.all_eq_true, List.all_eq_true]
  exact forall_congr' fun member ↦ by rw [mem_byKey]

mutual

theorem defined_ordered : ∀ v : Value, JsonText.defined (ordered v) = JsonText.defined v
  | .array elements => by
      rw [ordered_array, JsonText.defined, JsonText.defined]
      exact definedElements_ordered elements
  | .object members => by
      rw [ordered_object, JsonText.defined, JsonText.defined, JsonText.definedMembers_eq, all_byKey,
        ← JsonText.definedMembers_eq]
      exact definedMembers_ordered members
  | .undefined | .null | .bool _ | .number _ | .string _ => by simp

theorem definedElements_ordered : ∀ elements : List Value,
    JsonText.definedElements (elements.map ordered) = JsonText.definedElements elements
  | [] => rfl
  | v :: rest => by
      rw [List.map_cons, JsonText.definedElements, JsonText.definedElements, defined_ordered v,
        definedElements_ordered rest]

theorem definedMembers_ordered : ∀ members : List (String × Value),
    JsonText.definedMembers (members.map fun member ↦ (member.1, ordered member.2)) =
      JsonText.definedMembers members
  | [] => rfl
  | (key, v) :: rest => by
      rw [List.map_cons, JsonText.definedMembers, JsonText.definedMembers, defined_ordered v,
        definedMembers_ordered rest]

end

mutual

theorem ordered_ordered : ∀ v : Value, ordered (ordered v) = ordered v
  | .array elements => by
      rw [ordered_array, ordered_array, orderedElements_orderedElements elements]
  | .object members => by
      rw [ordered_object, ordered_object, map_byKey, byKey_byKey, orderedMembers_orderedMembers members]
  | .undefined | .null | .bool _ | .number _ | .string _ => by simp

theorem orderedElements_orderedElements : ∀ elements : List Value,
    (elements.map ordered).map ordered = elements.map ordered
  | [] => rfl
  | v :: rest => by
      rw [List.map_cons, List.map_cons, ordered_ordered v, orderedElements_orderedElements rest]

theorem orderedMembers_orderedMembers : ∀ members : List (String × Value),
    (members.map fun member ↦ (member.1, ordered member.2)).map
        (fun member ↦ (member.1, ordered member.2)) =
      members.map fun member ↦ (member.1, ordered member.2)
  | [] => rfl
  | (key, v) :: rest => by
      rw [List.map_cons, List.map_cons, ordered_ordered v, orderedMembers_orderedMembers rest]

end

end Values

/-! ## Readings that succeed together -/

/-- Both readings fail, or both succeed with related results. -/
inductive Alike {α β : Type} (R : α → β → Prop) : Read α → Read β → Prop
  | ok {a : α} {b : β} (h : R a b) : Alike R (.ok a) (.ok b)
  | error (failure other : Failure) : Alike R (.error failure) (.error other)

section Readings

variable {α β γ δ : Type} {R : α → β → Prop} {S : γ → δ → Prop}

theorem Alike.refl (x : Read α) : Alike Eq x x := by
  cases x with
  | ok a => exact .ok rfl
  | error failure => exact .error failure failure

theorem Alike.bind {x : Read α} {y : Read β} {f : α → Read γ} {g : β → Read δ} (h : Alike R x y)
    (hnext : ∀ a b, R a b → Alike S (f a) (g b)) : Alike S (x >>= f) (y >>= g) := by
  cases h with
  | ok hab => exact hnext _ _ hab
  | error failure other => exact .error failure other

/-- The same beginning. -/
theorem Alike.bind_same (x : Read α) {f : α → Read γ} {g : α → Read δ}
    (hnext : ∀ a, Alike S (f a) (g a)) : Alike S (x >>= f) (x >>= g) :=
  (Alike.refl x).bind fun a _ hab ↦ hab ▸ hnext a

theorem Alike.within {x : Read α} {y : Read β} (h : Alike R x y) (context : String) :
    Alike R (within context x) (within context y) := by
  cases h with
  | ok hab => exact .ok hab
  | error failure other => cases failure <;> cases other <;> exact .error _ _

theorem Alike.eq_ok_iff {x y : Read α} (h : Alike Eq x y) (a : α) : x = .ok a ↔ y = .ok a := by
  cases h with
  | ok hab => rw [hab]
  | error failure other => exact ⟨nofun, nofun⟩

theorem mapM_of_forall₂ {read : α → Read β} {l : List α} {outs : List β}
    (h : List.Forall₂ (fun a b ↦ read a = .ok b) l outs) : l.mapM read = .ok outs := by
  induction h with
  | nil => rfl
  | cons hhead _ ih => rw [List.mapM_cons, hhead, ih]; rfl

theorem exists_mapM {read : α → Read β} {l : List α} (h : ∀ a ∈ l, ∃ b, read a = .ok b) :
    ∃ outs, l.mapM read = .ok outs := by
  induction l with
  | nil => exact ⟨[], rfl⟩
  | cons a rest ih =>
    obtain ⟨b, hb⟩ := h a List.mem_cons_self
    obtain ⟨outs, houts⟩ := ih fun c hc ↦ h c (List.mem_cons_of_mem a hc)
    exact ⟨b :: outs, by rw [List.mapM_cons, hb, houts]; rfl⟩

theorem forall_of_mapM {read : α → Read β} {l : List α} {outs : List β} (h : l.mapM read = .ok outs) :
    ∀ a ∈ l, ∃ b, read a = .ok b := by
  induction mapM_eq_ok h with
  | nil => exact nofun
  | cons hhead hrest ih => exact List.forall_mem_cons.mpr ⟨⟨_, hhead⟩, ih (mapM_of_forall₂ hrest)⟩

theorem forall₂_orderedInsert {r : String × α → String × β → Prop} (hkey : ∀ a b, r a b → b.1 = a.1)
    {entry : String × α} {out : String × β} (hentry : r entry out) {l : List (String × α)}
    {outs : List (String × β)} (h : List.Forall₂ r l outs) :
    List.Forall₂ r (l.orderedInsert (fun a b ↦ a.1 ≤ b.1) entry)
      (outs.orderedInsert (fun a b ↦ a.1 ≤ b.1) out) := by
  induction h with
  | nil => exact .cons hentry .nil
  | @cons head first rest firsts hhead hrest ih =>
    rw [List.orderedInsert_cons, List.orderedInsert_cons, hkey entry out hentry, hkey head first hhead]
    split_ifs
    · exact .cons hentry (.cons hhead hrest)
    · exact .cons hhead ih

theorem forall₂_byKey {r : String × α → String × β → Prop} (hkey : ∀ a b, r a b → b.1 = a.1)
    {l : List (String × α)} {outs : List (String × β)} (h : List.Forall₂ r l outs) :
    List.Forall₂ r (byKey l) (byKey outs) := by
  induction h with
  | nil => exact .nil
  | cons hhead _ ih => exact forall₂_orderedInsert hkey hhead ih

/-- Entries that are read in another order. -/
theorem alike_byKey {read : String × α → Read (String × β)}
    (hkey : ∀ entry out, read entry = .ok out → out.1 = entry.1) (l : List (String × α)) :
    Alike (fun outs other ↦ outs = byKey other) ((byKey l).mapM read) (l.mapM read) := by
  cases hl : l.mapM read with
  | ok outs =>
    rw [mapM_of_forall₂ (forall₂_byKey hkey (mapM_eq_ok hl))]
    exact .ok rfl
  | error failure =>
    cases hbyKey : (byKey l).mapM read with
    | error other => exact .error other failure
    | ok outs =>
      obtain ⟨outs, houts⟩ : ∃ outs, l.mapM read = .ok outs :=
        exists_mapM fun a ha ↦ forall_of_mapM hbyKey a (mem_byKey.mpr ha)
      exact absurd (hl.symm.trans houts) nofun

end Readings

/-! ## What a reader sees -/

section Readers

variable {α β : Type}

@[simp]
theorem isObject_ordered (v : Value) : isObject (ordered v) = isObject v := by
  cases v <;> simp [isObject]

@[simp]
theorem isInteger_ordered (v : Value) : isInteger (ordered v) = isInteger v := by
  cases v <;> simp [isInteger]

@[simp]
theorem number?_ordered (v : Value) : number? (ordered v) = number? v := by cases v <;> simp [number?]

@[simp]
theorem string_ordered (v : Value) : string (ordered v) = string v := by
  cases v <;> simp [string, typeError, typeName]

@[simp]
theorem bool_ordered (v : Value) : JsonReader.bool (ordered v) = JsonReader.bool v := by
  cases v <;> simp [JsonReader.bool, typeError, typeName]

@[simp]
theorem double_ordered (v : Value) : double (ordered v) = double v := by
  cases v <;> simp [double, typeError, typeName]

@[simp]
theorem arithmetic_ordered (v : Value) : arithmetic (ordered v) = arithmetic v := by
  cases v <;> simp [arithmetic, typeError, typeName]

@[simp]
theorem uint64_ordered (v : Value) : uint64 (ordered v) = uint64 v := by simp [uint64]

@[simp]
theorem unsignedLongLong_ordered (v : Value) : unsignedLongLong (ordered v) = unsignedLongLong v := by
  simp [unsignedLongLong]

@[simp]
theorem uint32_ordered (v : Value) : uint32 (ordered v) = uint32 v := by simp [uint32]

@[simp]
theorem int_ordered (v : Value) : int (ordered v) = int v := by simp [int]

@[simp]
theorem member?_ordered (j : Value) (key : String) :
    member? (ordered j) key = (member? j key).map ordered := by
  cases j with
  | object members =>
    rw [ordered_object, member?_object, lookup_byKey, member?_object, lookup_eq_head?, lookup_eq_head?,
      List.filter_map, List.head?_map, Option.map_map, Option.map_map]
    rfl
  | _ => simp [member?]

@[simp]
theorem atKey_ordered (j : Value) (key place : String) :
    atKey (ordered j) key place = ordered <$> atKey j key place := by
  rw [atKey, atKey, member?_ordered]
  cases member? j key <;> rfl

/-- A scalar member. -/
theorem valueOr_ordered {read : Value → Read α} (hread : ∀ v, read (ordered v) = read v) (j : Value)
    (key : String) (fallback : α) :
    valueOr read (ordered j) key fallback = valueOr read j key fallback := by
  cases j with
  | object members =>
    have hmember := member?_ordered (.object members) key
    rw [ordered_object, member?_object, member?_object] at hmember
    rw [ordered_object, valueOr_object, valueOr_object, hmember]
    cases members.lookup key with
    | none => rfl
    | some v => exact hread v
  | _ => simp [valueOr, typeName]

theorem valueOr_json_ordered (j : Value) (key : String) (fallback : Value) :
    valueOr json (ordered j) key (ordered fallback) = ordered <$> valueOr json j key fallback := by
  cases j with
  | object members =>
    have hmember := member?_ordered (.object members) key
    rw [ordered_object, member?_object, member?_object] at hmember
    rw [ordered_object, valueOr_object, valueOr_object, hmember]
    cases members.lookup key <;> rfl
  | _ => simp [valueOr, typeName]

theorem vector_ordered {read : Value → Read α} (hread : ∀ v, read (ordered v) = read v) (j : Value) :
    vector read (ordered j) = vector read j := by
  cases j with
  | array elements =>
    rw [ordered_array, vector_array, vector_array, List.mapM_map]
    exact congrArg (List.mapM · elements) (funext hread)
  | _ => simp [vector, typeError, typeName]

@[simp]
theorem elements_ordered (j : Value) : elements (ordered j) = (elements j).map ordered := by
  cases j with
  | object members =>
    rw [ordered_object, elements, elements, ofList_byKey, ofList_map]
    simp [OrderedMap.values, OrderedMap.mapValues]
  | _ => simp [elements]

/-- The entries of an object, which are stored by their keys. -/
theorem alike_items {read : String × Value → Read (String × β)}
    (hread : ∀ key v, read (key, ordered v) = read (key, v))
    (hkey : ∀ entry out, read entry = .ok out → out.1 = entry.1) (j : Value) :
    Alike (fun outs other ↦ OrderedMap.ofList outs = OrderedMap.ofList other)
      ((items (ordered j)).mapM read) ((items j).mapM read) := by
  have hmap : ∀ l : List (String × Value),
      (l.map fun entry ↦ (entry.1, ordered entry.2)).mapM read = l.mapM read := fun l ↦ by
    rw [List.mapM_map]
    exact congrArg (List.mapM · l) (funext fun entry ↦ hread entry.1 entry.2)
  cases j with
  | object members =>
    rw [ordered_object, items_object, items_object, ← map_byKey, hmap]
    have halike := alike_byKey hkey members
    generalize (byKey members).mapM read = outs, members.mapM read = other at halike
    cases halike with
    | ok h => exact .ok (by rw [h, ofList_byKey])
    | error failure other => exact .error failure other
  | array values =>
    have hitems : items (ordered (.array values)) =
        (items (.array values)).map fun entry ↦ (entry.1, ordered entry.2) := by
      rw [ordered_array, items, items, List.zipIdx_map, List.map_map, List.map_map]
      rfl
    rw [hitems, hmap]
    generalize (items (.array values)).mapM read = outs
    cases outs with
    | ok outs => exact .ok rfl
    | error failure => exact .error failure failure
  | _ =>
    simp only [ordered_undefined, ordered_null, ordered_bool, ordered_number, ordered_string]
    generalize (items _).mapM read = outs
    cases outs with
    | ok outs => exact .ok rfl
    | error failure => exact .error failure failure

end Readers

/-! ## What a script sees -/

section Scripts

open Script.Value

@[simp]
theorem truthy_ordered (v : Value) : (ordered v).truthy = v.truthy := by cases v <;> simp [truthy]

@[simp]
theorem text_ordered (v : Value) : (ordered v).text = v.text := by cases v <;> simp [text]

@[simp]
theorem get_ordered (v : Value) (name : String) : (ordered v).get name = (v.get name).map ordered := by
  cases v with
  | object members =>
    have hmember := member?_ordered (.object members) name
    rw [ordered_object, member?_object, member?_object] at hmember
    rw [ordered_object, get_object, get_object, hmember]
    cases members.lookup name <;> simp
  | _ => simp [Script.Value.get]

theorem orElse_ordered (a b : Value) : (ordered a).orElse (ordered b) = ordered (a.orElse b) := by
  rw [orElse, orElse, truthy_ordered]
  split_ifs <;> rfl

@[simp]
theorem spread_ordered (v : Value) : (ordered v).spread = v.spread.map (List.map ordered) := by
  cases v <;> simp [spread, Function.comp_def]

end Scripts

end JsonMembers
