import Mathlib.Data.String.Basic
import TransportViz.Library.OrderedMap
import TransportViz.Library.Script

/-!
# Reading a parsed document

What a C++ program does with a parsed JSON text: looking up members, demanding types, running over
elements. A demand that is not met ends the reading, and the texts are those of the exceptions. An
integer is cut down to the width of the type it is read as, and everything but `std::uint64_t` and
`double` takes a boolean for a number as well.
-/

namespace JsonReader

open Script (Value)

/-- Why a reading ended. -/
inductive Failure
  /-- The reader's own exception. -/
  | parse (message : String)
  /-- Any other exception, by its `what()`. -/
  | other (what : String)
  deriving DecidableEq

abbrev Read (α : Type) := Except Failure α

/-- The reader's own exceptions pass; the others are told with their context. -/
def within {α : Type} (context : String) : Read α → Read α
  | .error (.other what) => .error (.parse (context ++ what))
  | result => result

/-- Every exception is told with its context. -/
def withinAll {α : Type} (context : String) : Read α → Read α
  | .error (.other text) | .error (.parse text) => .error (.parse (context ++ text))
  | .ok a => .ok a

/-- How the library spells a value. -/
class Dump where
  dump : Value → String

/-! ## Types -/

def typeName : Value → String
  | .undefined => "discarded"
  | .null => "null"
  | .bool _ => "boolean"
  | .number _ => "number"
  | .string _ => "string"
  | .array _ => "array"
  | .object _ => "object"

def typeError (demanded : String) (v : Value) : Failure :=
  .other ("[json.exception.type_error.302] type must be " ++ demanded ++ ", but is " ++ typeName v)

def string : Value → Read String
  | .string s => .ok s
  | v => .error (typeError "string" v)

def bool : Value → Read Bool
  | .bool b => .ok b
  | v => .error (typeError "boolean" v)

def double : Value → Read ℚ
  | .number x => .ok x
  | v => .error (typeError "number" v)

/-- A number, or a boolean in place of one. -/
def arithmetic : Value → Read ℚ
  | .number x => .ok x
  | .bool b => .ok (if b then 1 else 0)
  | v => .error (typeError "number" v)

/-- Conversion to an unsigned type of the given width. -/
def toUnsigned (bits : ℕ) (x : ℚ) : ℕ := (x.num.tdiv x.den % 2 ^ bits).toNat

/-- Conversion to a signed type of the given width. -/
def toSigned (bits : ℕ) (x : ℚ) : ℤ := (x.num.tdiv x.den).bmod (2 ^ bits)

def uint64 (v : Value) : Read ℕ := (double v).map (toUnsigned 64)

def unsignedLongLong (v : Value) : Read ℕ := (arithmetic v).map (toUnsigned 64)

def uint32 (v : Value) : Read ℕ := (arithmetic v).map (toUnsigned 32)

def int (v : Value) : Read ℤ := (arithmetic v).map (toSigned 32)

def vector {α : Type} (read : Value → Read α) : Value → Read (List α)
  | .array elements => elements.mapM read
  | v => .error (typeError "array" v)

def json (v : Value) : Read Value := .ok v

def number? : Value → Option ℚ
  | .number x => some x
  | _ => none

def isObject : Value → Bool
  | .object _ => true
  | _ => false

/-- A JSON text tells integers by their spelling, here by their value. -/
def isInteger : Value → Bool
  | .number x => x.den = 1
  | _ => false

/-! ## Members and elements -/

/-- `j.find(key)`; only an object has members. -/
def member? (j : Value) (key : String) : Option Value :=
  match j with
  | .object members => members.lookup key
  | _ => none

/-- `j.value(key, fallback)`. -/
def valueOr {α : Type} (read : Value → Read α) (j : Value) (key : String) (fallback : α) : Read α :=
  match j with
  | .object members =>
      match members.lookup key with
      | some v => read v
      | none => .ok fallback
  | v => .error (.other ("[json.exception.type_error.306] cannot use value() with " ++ typeName v))

/-- What `for (const auto & x : j)` runs over. -/
def elements : Value → List Value
  | .undefined | .null => []
  | .array values => values
  | .object members => (OrderedMap.ofList members).values
  | v => [v]

/-- What `j.items()` runs over. -/
def items : Value → List (String × Value)
  | .undefined | .null => []
  | .array values => values.zipIdx.map fun it ↦ (toString it.2, it.1)
  | .object members => members
  | v => [("", v)]

/-- The value of a required key, which the message names. -/
def atKey (j : Value) (key place : String) : Read Value :=
  match member? j key with
  | some v => .ok v
  | none => .error (.parse (place ++ ": missing '" ++ key ++ "'"))

/-! ## What is read from values of the demanded type -/

section Values

variable {α β : Type}

@[simp]
theorem ok_bind (a : α) (f : α → Read β) : (Except.ok a >>= f) = f a := rfl

@[simp]
theorem within_ok (context : String) (a : α) : within context (.ok a) = .ok a := rfl

@[simp]
theorem withinAll_ok (context : String) (a : α) : withinAll context (.ok a) = .ok a := rfl

@[simp]
theorem string_string (s : String) : string (.string s) = .ok s := rfl

@[simp]
theorem bool_bool (b : Bool) : bool (.bool b) = .ok b := rfl

@[simp]
theorem double_number (x : ℚ) : double (.number x) = .ok x := rfl

theorem toUnsigned_natCast (bits n : ℕ) : toUnsigned bits n = n % 2 ^ bits := by
  simp only [toUnsigned, Rat.num_natCast, Rat.den_natCast, Nat.cast_one, Int.tdiv_one]
  exact_mod_cast Int.toNat_natCast (n % 2 ^ bits)

theorem toSigned_intCast (bits : ℕ) (z : ℤ) : toSigned bits z = z.bmod (2 ^ bits) := by
  simp [toSigned]

@[simp]
theorem uint64_number (n : ℕ) : uint64 (.number n) = .ok (n % 2 ^ 64) :=
  congrArg Except.ok (toUnsigned_natCast 64 n)

@[simp]
theorem unsignedLongLong_number (n : ℕ) : unsignedLongLong (.number n) = .ok (n % 2 ^ 64) :=
  congrArg Except.ok (toUnsigned_natCast 64 n)

@[simp]
theorem uint32_number (n : ℕ) : uint32 (.number n) = .ok (n % 2 ^ 32) :=
  congrArg Except.ok (toUnsigned_natCast 32 n)

@[simp]
theorem int_number (z : ℤ) : int (.number z) = .ok (z.bmod (2 ^ 32)) :=
  congrArg Except.ok (toSigned_intCast 32 z)

@[simp]
theorem json_ok (v : Value) : json v = .ok v := rfl

@[simp]
theorem member?_object (members : List (String × Value)) (key : String) :
    member? (.object members) key = members.lookup key := rfl

@[simp]
theorem atKey_object (members : List (String × Value)) (key place : String) :
    atKey (.object members) key place =
      match members.lookup key with
      | some v => .ok v
      | none => .error (.parse (place ++ ": missing '" ++ key ++ "'")) := rfl

@[simp]
theorem valueOr_object (read : Value → Read α) (members : List (String × Value)) (key : String)
    (fallback : α) :
    valueOr read (.object members) key fallback =
      match members.lookup key with
      | some v => read v
      | none => .ok fallback := rfl

@[simp]
theorem elements_array (values : List Value) : elements (.array values) = values := rfl

@[simp]
theorem items_object (members : List (String × Value)) : items (.object members) = members := rfl

/-- A loop that no element ends. -/
theorem mapM_written {γ : Type} {write : γ → α} {read : α → Read β} {value : γ → β} {l : List γ}
    (h : ∀ c ∈ l, read (write c) = .ok (value c)) : (l.map write).mapM read = .ok (l.map value) := by
  induction l with
  | nil => rfl
  | cons c rest ih =>
    rw [List.map_cons, List.mapM_cons, h c (List.mem_cons_self ..),
      ih fun d hd ↦ h d (List.mem_cons_of_mem c hd)]
    rfl

theorem vector_array (read : Value → Read α) (values : List Value) :
    vector read (.array values) = values.mapM read := rfl

@[simp]
theorem vector_string (l : List String) :
    vector string (.array (l.map Value.string)) = .ok l := by
  rw [vector_array, mapM_written fun s _ ↦ string_string s]
  exact congrArg Except.ok (List.map_id' l)

@[simp]
theorem vector_uint64 (l : List ℕ) :
    vector uint64 (.array (l.map fun n : ℕ ↦ .number n)) = .ok (l.map (· % 2 ^ 64)) :=
  mapM_written fun n _ ↦ uint64_number n

@[simp]
theorem vector_uint32 (l : List ℕ) :
    vector uint32 (.array (l.map fun n : ℕ ↦ .number n)) = .ok (l.map (· % 2 ^ 32)) :=
  mapM_written fun n _ ↦ uint32_number n

end Values

end JsonReader
