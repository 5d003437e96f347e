import Mathlib.Algebra.Order.Ring.Rat
import Mathlib.Data.List.Basic

/-!
# Values of a script

What a script reads from a parsed document, and what it does with it: reading a property, testing a
value, comparing two values, spreading an array. `none` is a thrown `TypeError`.
-/

namespace Script

inductive Value
  | undefined
  | null
  | bool (b : Bool)
  | number (x : ℚ)
  | string (s : String)
  | array (elements : List Value)
  | object (members : List (String × Value))

namespace Value

/-- `v.name`. -/
def get (v : Value) (name : String) : Option Value :=
  match v with
  | undefined | null => none
  | object members => some ((members.lookup name).getD undefined)
  | _ => some undefined

/-- What `if (v)` tests. -/
def truthy : Value → Bool
  | undefined | null => false
  | bool b => b
  | number x => x ≠ 0
  | string s => s ≠ ""
  | array _ | object _ => true

/-- `a || b`. -/
def orElse (a b : Value) : Value := if a.truthy then a else b

/-- `a === b`. Arrays and objects are compared by identity, and two documents share none. -/
def strictEq : Value → Value → Bool
  | undefined, undefined => true
  | null, null => true
  | bool a, bool b => a = b
  | number a, number b => a = b
  | string a, string b => a = b
  | _, _ => false

/-- `[...v]`, also the values `for (const x of v)` runs over. -/
def spread : Value → Option (List Value)
  | array elements => some elements
  | string s => some (s.toList.map fun c ↦ string (String.singleton c))
  | _ => none

/-- The elements `v.map(f)` runs over. -/
def elements : Value → Option (List Value)
  | array elements => some elements
  | _ => none

/-- The text of a string. -/
def text : Value → Option String
  | string s => some s
  | _ => none

@[simp]
theorem get_object (members : List (String × Value)) (name : String) :
    (object members).get name = some ((members.lookup name).getD undefined) := rfl

@[simp]
theorem truthy_string (s : String) : (string s).truthy = decide (s ≠ "") := rfl

@[simp]
theorem truthy_array (elements : List Value) : (array elements).truthy = true := rfl

@[simp]
theorem truthy_object (members : List (String × Value)) : (object members).truthy = true := rfl

@[simp]
theorem truthy_null : null.truthy = false := rfl

@[simp]
theorem orElse_array (elements : List Value) (v : Value) :
    (array elements).orElse v = array elements := rfl

@[simp]
theorem orElse_object (members : List (String × Value)) (v : Value) :
    (object members).orElse v = object members := rfl

@[simp]
theorem strictEq_string (a b : String) : (string a).strictEq (string b) = decide (a = b) := rfl

@[simp]
theorem strictEq_number (a b : ℚ) : (number a).strictEq (number b) = decide (a = b) := rfl

@[simp]
theorem spread_array (vs : List Value) : (array vs).spread = some vs := rfl

@[simp]
theorem elements_array (vs : List Value) : (array vs).elements = some vs := rfl

@[simp]
theorem text_string (s : String) : (string s).text = some s := rfl

/-- A string falls back to the empty text only when it is empty itself. -/
theorem text_orElse_empty (s : String) : ((string s).orElse (string "")).text = some s := by
  by_cases h : s = "" <;> simp [orElse, h]

end Value

/-- A loop in which no element throws. -/
theorem mapM_eq_some_map {α β : Type} {read : α → Option β} {value : α → β} {l : List α}
    (h : ∀ a ∈ l, read a = some (value a)) : l.mapM read = some (l.map value) := by
  induction l with
  | nil => rfl
  | cons a rest ih =>
    rw [List.mapM_cons, h a (List.mem_cons_self ..),
      ih fun b hb ↦ h b (List.mem_cons_of_mem a hb)]
    rfl

/-- The same for a loop whose values are not named. -/
theorem mapM_eq_filterMap {α β : Type} {read : α → Option β} {l : List α}
    (h : ∀ a ∈ l, ∃ b, read a = some b) : l.mapM read = some (l.filterMap read) := by
  induction l with
  | nil => rfl
  | cons a rest ih =>
    obtain ⟨b, hb⟩ := h a (List.mem_cons_self ..)
    rw [List.mapM_cons, hb, ih fun c hc ↦ h c (List.mem_cons_of_mem a hc), List.filterMap_cons, hb]
    rfl

end Script
