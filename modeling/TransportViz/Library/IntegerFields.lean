import Mathlib.Data.Int.Order.Lemmas
import Mathlib.Data.List.Forall2
import Mathlib.Data.Rat.Lemmas
import TransportViz.Library.JsonReader

/-!
# The integers of a document

A field is a value of a document with the type it is read as. What a reader stores of it is the value
cut down to the type; it is the document's integer exactly when the value is an integer within the
type. A reader tells the fields of what it reads one after the other, so that what it stores of a list
or of a map is what it stores of the elements.
-/

namespace JsonReader

open Script (Value)

/-- The integer types. -/
inductive Width
  | uint32
  | uint64
  | int32
  deriving DecidableEq

namespace Width

def low : Width → ℤ
  | .uint32 => 0
  | .uint64 => 0
  | .int32 => -2 ^ 31

/-- The first integer beyond the type. -/
def high : Width → ℤ
  | .uint32 => 2 ^ 32
  | .uint64 => 2 ^ 64
  | .int32 => 2 ^ 31

def convert : Width → ℚ → ℤ
  | .uint32, x => toUnsigned 32 x
  | .uint64, x => toUnsigned 64 x
  | .int32, x => toSigned 32 x

theorem toUnsigned_cast (bits : ℕ) (x : ℚ) : (toUnsigned bits x : ℤ) = x.num.tdiv x.den % 2 ^ bits :=
  Int.toNat_of_nonneg (Int.emod_nonneg _ (Int.pow_pos (by decide)).ne')

theorem convert_range (width : Width) (x : ℚ) :
    width.low ≤ width.convert x ∧ width.convert x < width.high := by
  cases width with
  | uint32 =>
    rw [convert, toUnsigned_cast, low, high]
    omega
  | uint64 =>
    rw [convert, toUnsigned_cast, low, high]
    omega
  | int32 =>
    rw [convert, toSigned, low, high, Int.bmod_def]
    split_ifs <;> omega

theorem convert_intCast {width : Width} {z : ℤ} (hlow : width.low ≤ z) (hhigh : z < width.high) :
    width.convert z = z := by
  cases width with
  | uint32 =>
    rw [low] at hlow
    rw [high] at hhigh
    rw [convert, toUnsigned_cast, Rat.num_intCast, Rat.den_intCast, Nat.cast_one, Int.tdiv_one]
    omega
  | uint64 =>
    rw [low] at hlow
    rw [high] at hhigh
    rw [convert, toUnsigned_cast, Rat.num_intCast, Rat.den_intCast, Nat.cast_one, Int.tdiv_one]
    omega
  | int32 =>
    rw [low] at hlow
    rw [high] at hhigh
    rw [convert, toSigned_intCast, Int.bmod_def]
    split_ifs <;> omega

end Width

/-- A value that is read as an integer. -/
structure Field where
  width : Width
  value : Value

namespace Field

/-- A boolean is read as a number, too. -/
def number : Value → ℚ
  | .number x => x
  | .bool b => if b then 1 else 0
  | _ => 0

/-- What a reader makes of the value. -/
def stored (field : Field) : ℤ := field.width.convert (number field.value)

/-- What is stored is the document's integer. -/
def Exact (field : Field) : Prop := field.value = .number field.stored

/-- The value is an integer within the type. -/
def Fits (field : Field) : Prop :=
  ∃ z : ℤ, field.value = .number z ∧ field.width.low ≤ z ∧ z < field.width.high

theorem exact_iff_fits (field : Field) : field.Exact ↔ field.Fits := by
  constructor
  · intro h
    exact ⟨field.stored, h, field.width.convert_range _⟩
  · rintro ⟨z, hvalue, hlow, hhigh⟩
    have hstored : field.stored = z := by
      rw [stored, hvalue, number, Width.convert_intCast hlow hhigh]
    rw [Exact, hstored, hvalue]

end Field

/-! ## The fields of a value -/

/-- The value of a key, or another value. -/
def child (j : Value) (key : String) (absent : Value) : Value := (member? j key).getD absent

/-- The field of a key, which is filled in where the document does not have it. -/
def fieldAt (width : Width) (j : Value) (key : String) (fallback : ℕ) : Field where
  width := width
  value := child j key (.number fallback)

/-- A number that is left out where it is not one. -/
def optionalField (v : Value) : Field where
  width := .uint64
  value := if (number? v).isSome then v else .number 0

def elementFields (width : Width) (v : Value) : List Field := (elements v).map (Field.mk width)

/-- A value that is read only if it is an object. -/
def objectOnly (v : Value) : Value := if isObject v then v else .object []

/-! ## What a reader stores -/

section Stored

variable {α β : Type} {j v : Value} {key place : String}

theorem bind_eq_ok_iff {x : Read α} {f : α → Read β} {b : β} :
    x >>= f = .ok b ↔ ∃ a, x = .ok a ∧ f a = .ok b := by
  cases x with
  | error failure => simp [bind, Except.bind]
  | ok a => simp [bind, Except.bind]

theorem pure_eq_ok_iff {a b : α} : (pure a : Read α) = .ok b ↔ a = b := by
  simp [pure, Except.pure]

/-- What holds of a result, whatever is read. -/
def Ensures (P : α → Prop) (x : Read α) : Prop := ∀ a, x = .ok a → P a

namespace Ensures

variable {P : β → Prop} {x : Read α} {f : α → Read β}

theorem bind (h : ∀ a, x = .ok a → Ensures P (f a)) : Ensures P (x >>= f) := by
  intro b hb
  obtain ⟨a, ha, hfa⟩ := bind_eq_ok_iff.mp hb
  exact h a ha b hfa

/-- A step that the result does not depend on. -/
theorem skip (h : ∀ a, Ensures P (f a)) : Ensures P (x >>= f) := bind fun a _ ↦ h a

theorem pure {b : β} (h : P b) : Ensures P (Pure.pure b) := by
  intro c hc
  rw [← pure_eq_ok_iff.mp hc]
  exact h

theorem error {failure : Failure} : Ensures P (.error failure) := by
  intro b hb
  cases hb

end Ensures

theorem map_eq_ok_iff {x : Read α} {f : α → β} {b : β} :
    x.map f = .ok b ↔ ∃ a, x = .ok a ∧ f a = b := by
  cases x with
  | error failure => simp [Except.map]
  | ok a => simp [Except.map]

theorem atKey_eq_ok_iff : atKey j key place = .ok v ↔ member? j key = some v := by
  rw [atKey]
  cases member? j key <;> simp

theorem child_of_atKey {absent : Value} (h : atKey j key place = .ok v) : child j key absent = v := by
  rw [child, atKey_eq_ok_iff.mp h, Option.getD_some]

/-- A member is read, or filled in. -/
theorem valueOr_eq_ok {read : Value → Read α} {fallback a : α} (h : valueOr read j key fallback = .ok a) :
    (∃ v, member? j key = some v ∧ read v = .ok a) ∨ member? j key = none ∧ a = fallback := by
  cases j with
  | object members =>
    rw [valueOr_object] at h
    rw [member?_object]
    cases hmember : members.lookup key with
    | some v =>
      rw [hmember] at h
      exact Or.inl ⟨v, rfl, h⟩
    | none =>
      rw [hmember] at h
      exact Or.inr ⟨rfl, (Except.ok.inj h).symm⟩
  | _ => simp [valueOr] at h

theorem Ensures.within {P : α → Prop} {x : Read α} {context : String} (h : Ensures P x) :
    Ensures P (JsonReader.within context x) := by
  intro a ha
  cases x with
  | ok b => exact h a ha
  | error failure => cases failure <;> simp [JsonReader.within] at ha

theorem Ensures.withinAll {P : α → Prop} {x : Read α} {context : String} (h : Ensures P x) :
    Ensures P (JsonReader.withinAll context x) := by
  intro a ha
  cases x with
  | ok b => exact h a ha
  | error failure => cases failure <;> simp [JsonReader.withinAll] at ha

theorem double_eq_ok {x : ℚ} (h : double v = .ok x) : Field.number v = x := by
  cases v with
  | number y => exact Except.ok.inj h
  | _ => simp [double] at h

theorem arithmetic_eq_ok {x : ℚ} (h : arithmetic v = .ok x) : Field.number v = x := by
  cases v with
  | number y => exact Except.ok.inj h
  | bool b => exact Except.ok.inj h
  | _ => simp [arithmetic] at h

variable {n : ℕ}

theorem stored_of_uint64 (h : uint64 v = .ok n) : Field.stored ⟨.uint64, v⟩ = n := by
  obtain ⟨x, hx, rfl⟩ := map_eq_ok_iff.mp h
  rw [Field.stored, double_eq_ok hx, Width.convert]

theorem stored_of_unsignedLongLong (h : unsignedLongLong v = .ok n) : Field.stored ⟨.uint64, v⟩ = n := by
  obtain ⟨x, hx, rfl⟩ := map_eq_ok_iff.mp h
  rw [Field.stored, arithmetic_eq_ok hx, Width.convert]

theorem stored_of_uint32 (h : uint32 v = .ok n) : Field.stored ⟨.uint32, v⟩ = n := by
  obtain ⟨x, hx, rfl⟩ := map_eq_ok_iff.mp h
  rw [Field.stored, arithmetic_eq_ok hx, Width.convert]

theorem stored_of_int {z : ℤ} (h : int v = .ok z) : Field.stored ⟨.int32, v⟩ = z := by
  obtain ⟨x, hx, rfl⟩ := map_eq_ok_iff.mp h
  rw [Field.stored, arithmetic_eq_ok hx, Width.convert]

theorem stored_natCast {width : Width} {fallback : ℕ} (h : fallback < 2 ^ 31) :
    Field.stored ⟨width, .number fallback⟩ = fallback := by
  have hcast := @Width.convert_intCast width fallback
  cases width <;> simp only [Width.low, Width.high] at hcast <;> exact hcast (by omega) (by omega)

/-- The field of a required key. -/
theorem stored_fieldAt {width : Width} {fallback : ℕ} {z : ℤ} (hv : atKey j key place = .ok v)
    (h : Field.stored ⟨width, v⟩ = z) : (fieldAt width j key fallback).stored = z := by
  rw [fieldAt, child_of_atKey hv, h]

theorem child_of_valueOr {absent : Value} (h : valueOr json j key absent = .ok v) :
    child j key absent = v := by
  rcases valueOr_eq_ok h with ⟨w, hmember, hread⟩ | ⟨hmember, rfl⟩
  · rw [child, hmember, Option.getD_some]
    exact Except.ok.inj hread
  · rw [child, hmember, Option.getD_none]

/-- A counter that may be missing. -/
theorem stored_of_valueOr {fallback : ℕ} (hfallback : fallback < 2 ^ 31)
    (h : valueOr unsignedLongLong j key fallback = .ok n) :
    (fieldAt .uint64 j key fallback).stored = n := by
  rcases valueOr_eq_ok h with ⟨v, hmember, hread⟩ | ⟨hmember, rfl⟩
  · rw [fieldAt, child, hmember, Option.getD_some, stored_of_unsignedLongLong hread]
  · rw [fieldAt, child, hmember, Option.getD_none, stored_natCast hfallback]

/-! ### Lists -/

theorem mapM_eq_ok {read : α → Read β} {l : List α} {values : List β} (h : l.mapM read = .ok values) :
    List.Forall₂ (fun a b ↦ read a = .ok b) l values := by
  induction l generalizing values with
  | nil =>
    rw [List.mapM_nil, pure_eq_ok_iff] at h
    rw [← h]
    exact .nil
  | cons a rest ih =>
    rw [List.mapM_cons, bind_eq_ok_iff] at h
    obtain ⟨b, hb, hrest⟩ := h
    obtain ⟨more, hmore, hpure⟩ := bind_eq_ok_iff.mp hrest
    rw [← pure_eq_ok_iff.mp hpure]
    exact .cons hb (ih hmore)

/-- The integers of the elements are those of the list. -/
theorem flatMap_of_forall₂ {fields : α → List Field} {integers : β → List ℤ} {l : List α}
    {values : List β}
    (h : List.Forall₂ (fun a b ↦ (fields a).map Field.stored = integers b) l values) :
    (l.flatMap fields).map Field.stored = values.flatMap integers := by
  induction h with
  | nil => rfl
  | cons hhead _ ih => rw [List.flatMap_cons, List.flatMap_cons, List.map_append, hhead, ih]

/-- The fields are stored as the integers. -/
def Stores (fields : List Field) (integers : β → List ℤ) (x : Read β) : Prop :=
  Ensures (fun b ↦ fields.map Field.stored = integers b) x

theorem flatMap_of_mapM {read : α → Read β} {fields : α → List Field} {integers : β → List ℤ}
    (hread : ∀ a, Stores (fields a) integers (read a)) {l : List α} {values : List β}
    (h : l.mapM read = .ok values) : (l.flatMap fields).map Field.stored = values.flatMap integers :=
  flatMap_of_forall₂ ((mapM_eq_ok h).imp hread)

theorem map_of_vector {width : Width} {read : Value → Read ℕ}
    (hread : ∀ v n, read v = .ok n → Field.stored ⟨width, v⟩ = n) {values : List ℕ}
    (h : vector read v = .ok values) :
    (elementFields width v).map Field.stored = values.map Nat.cast := by
  cases v with
  | array l =>
    have hflat := @flatMap_of_mapM _ _ read (fun v ↦ [⟨width, v⟩]) (fun n : ℕ ↦ [(n : ℤ)])
      (fun v n hn ↦ congrArg (· :: []) (hread v n hn)) _ _ h
    rw [← List.map_eq_flatMap, ← List.map_eq_flatMap] at hflat
    exact hflat
  | _ => simp [vector] at h

theorem map_of_valueOr {width : Width} {read : Value → Read ℕ}
    (hread : ∀ v n, read v = .ok n → Field.stored ⟨width, v⟩ = n) {values : List ℕ}
    (h : valueOr (vector read) j key [] = .ok values) :
    (elementFields width (child j key .null)).map Field.stored = values.map Nat.cast := by
  rcases valueOr_eq_ok h with ⟨v, hmember, hvector⟩ | ⟨hmember, rfl⟩
  · rw [child, hmember, Option.getD_some, map_of_vector hread hvector]
  · rw [child, hmember]
    rfl

end Stored

end JsonReader
