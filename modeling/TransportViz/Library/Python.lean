import TransportViz.Library.Script

/-!
# A parsed document in Python

Where a Python program reads a parsed document otherwise than a script does: a missing key is `None`,
empty arrays and objects are false, `==` compares contents, and iterating over an object runs over its
keys. `none` is a raised exception.
-/

namespace Python

open Script

/-- `v.get(name)`. -/
def get (v : Value) (name : String) : Option Value :=
  match v with
  | .object members => some ((members.lookup name).getD .null)
  | _ => none

/-- What `if v:` tests. -/
def truth : Value → Bool
  | .undefined | .null => false
  | .bool b => b
  | .number x => x ≠ 0
  | .string s => s ≠ ""
  | .array elements => !elements.isEmpty
  | .object members => !members.isEmpty

/-- `a or b`. -/
def orElse (a b : Value) : Value := if truth a then a else b

/-- What `for x in v` runs over. -/
def iterate : Value → Option (List Value)
  | .array elements => some elements
  | .string s => some (s.toList.map fun c ↦ .string (String.singleton c))
  | .object members => some (members.map fun member ↦ .string member.1)
  | _ => none

/-- `v.items()`. -/
def items : Value → Option (List (String × Value))
  | .object members => some members
  | _ => none

mutual

/-- `a == b`; a boolean is one of the numbers 0 and 1. -/
def equal : Value → Value → Bool
  | .null, .null => true
  | .bool a, .bool b => a = b
  | .bool a, .number y => (if a then 1 else 0) = y
  | .number x, .bool b => x = if b then 1 else 0
  | .number x, .number y => x = y
  | .string a, .string b => a = b
  | .array a, .array b => equalElements a b
  | .object a, .object b => a.length = b.length && equalMembers a b
  | _, _ => false

def equalElements : List Value → List Value → Bool
  | [], [] => true
  | x :: xs, y :: ys => equal x y && equalElements xs ys
  | _, _ => false

/-- The second object has every member of the first. -/
def equalMembers : List (String × Value) → List (String × Value) → Bool
  | [], _ => true
  | (name, x) :: members, others =>
    (match others.lookup name with
      | some y => equal x y
      | none => false) && equalMembers members others

end

/-- `text.replace(c, written)` for a single character. -/
def replace (c : Char) (written text : List Char) : List Char :=
  text.flatMap fun x ↦ if x = c then written else [x]

/-! ## Documents -/

@[simp]
theorem get_object (members : List (String × Value)) (name : String) :
    get (.object members) name = some ((members.lookup name).getD .null) := rfl

@[simp]
theorem truth_bool (b : Bool) : truth (.bool b) = b := rfl

@[simp]
theorem truth_string (s : String) : truth (.string s) = decide (s ≠ "") := rfl

@[simp]
theorem orElse_null (v : Value) : orElse .null v = v := rfl

/-- An array is what an empty one stands for. -/
@[simp]
theorem orElse_array (elements : List Value) :
    orElse (.array elements) (.array []) = .array elements := by
  cases elements <;> rfl

@[simp]
theorem orElse_object (members : List (String × Value)) :
    orElse (.object members) (.object []) = .object members := by
  cases members <;> rfl

@[simp]
theorem iterate_array (elements : List Value) : iterate (.array elements) = some elements := rfl

@[simp]
theorem items_object (members : List (String × Value)) : items (.object members) = some members := rfl

@[simp]
theorem equal_string (a b : String) : equal (.string a) (.string b) = decide (a = b) := by
  simp [equal]

end Python
