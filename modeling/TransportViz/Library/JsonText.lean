import TransportViz.Library.Script

/-!
# JSON texts

A value is written on one line or with line breaks and indentation, and read back from either. How
numbers are spelled is left open. Only a whole text is a document: one that was cut off is none, and
nothing but blanks may follow it.
-/

namespace JsonText

open Script (Value)

/-! ## Writing -/

/-- The characters that numbers consist of. -/
def numeral (c : Char) : Bool := c.isDigit || c = '-' || c = '+' || c = '.' || c = 'e' || c = 'E'

/-- How numbers are spelled. -/
structure Numerals where
  spell : ℚ → List Char
  value : List Char → Option ℚ
  value_nil : value [] = none
  value_spell : ∀ x, value (spell x) = some x
  numeral_spell : ∀ x, ∀ c ∈ spell x, numeral c = true

theorem Numerals.spell_ne_nil (N : Numerals) (x : ℚ) : N.spell x ≠ [] := by
  intro hnil
  have hvalue := N.value_spell x
  rw [hnil, N.value_nil] at hvalue
  exact absurd hvalue nofun

def blank (c : Char) : Bool := c = ' ' || c = '\t' || c = '\n' || c = '\r'

/-- The blanks before an element, by its depth, and behind a colon. -/
structure Layout where
  newline : ℕ → List Char
  colon : List Char
  blank_newline : ∀ depth, ∀ c ∈ newline depth, blank c = true
  blank_colon : ∀ c ∈ colon, blank c = true

/-- Everything on one line. -/
def compact : Layout where
  newline _ := []
  colon := []
  blank_newline := by simp
  blank_colon := by simp

def indented (width : ℕ) : Layout where
  newline depth := '\n' :: List.replicate (width * depth) ' '
  colon := [' ']
  blank_newline depth c hc := by
    rcases List.mem_cons.mp hc with rfl | hspace
    · rfl
    · rw [List.eq_of_mem_replicate hspace]
      rfl
  blank_colon := by simp [blank]

def escape (c : Char) : List Char :=
  if c = '"' then ['\\', '"']
  else if c = '\\' then ['\\', '\\']
  else if c = '\x08' then ['\\', 'b']
  else if c = '\x0c' then ['\\', 'f']
  else if c = '\n' then ['\\', 'n']
  else if c = '\r' then ['\\', 'r']
  else if c = '\t' then ['\\', 't']
  else if c.toNat < 32 then
    ['\\', 'u', '0', '0', Nat.digitChar (c.toNat / 16), Nat.digitChar (c.toNat % 16)]
  else [c]

def quoted (s : String) : List Char := '"' :: (s.toList.flatMap escape ++ ['"'])

section Writing

variable (N : Numerals) (L : Layout)

mutual

def write (depth : ℕ) : Value → List Char
  | .undefined => ['<', 'd', 'i', 's', 'c', 'a', 'r', 'd', 'e', 'd', '>']
  | .null => ['n', 'u', 'l', 'l']
  | .bool true => ['t', 'r', 'u', 'e']
  | .bool false => ['f', 'a', 'l', 's', 'e']
  | .number x => N.spell x
  | .string s => quoted s
  | .array [] => ['[', ']']
  | .array (v :: rest) =>
      '[' :: (L.newline (depth + 1) ++ (write (depth + 1) v ++ writeElements depth rest))
  | .object [] => ['{', '}']
  | .object ((key, v) :: rest) =>
      '{' :: (L.newline (depth + 1) ++
        (quoted key ++ ':' :: (L.colon ++ (write (depth + 1) v ++ writeMembers depth rest))))

/-- The further elements of an array, and its end. -/
def writeElements (depth : ℕ) : List Value → List Char
  | [] => L.newline depth ++ [']']
  | v :: rest =>
      ',' :: (L.newline (depth + 1) ++ (write (depth + 1) v ++ writeElements depth rest))

def writeMembers (depth : ℕ) : List (String × Value) → List Char
  | [] => L.newline depth ++ ['}']
  | (key, v) :: rest =>
      ',' :: (L.newline (depth + 1) ++
        (quoted key ++ ':' :: (L.colon ++ (write (depth + 1) v ++ writeMembers depth rest))))

end

end Writing

/-! ## Reading -/

def skip (text : List Char) : List Char := text.dropWhile blank

/-- The text behind the next character that is no blank, which has to be `c`. -/
def expect (c : Char) (text : List Char) : Option (List Char) :=
  match skip text with
  | a :: rest => if a = c then some rest else none
  | [] => none

def hexValue (c : Char) : Option ℕ :=
  if '0' ≤ c ∧ c ≤ '9' then some (c.toNat - '0'.toNat)
  else if 'a' ≤ c ∧ c ≤ 'f' then some (c.toNat - 'a'.toNat + 10)
  else if 'A' ≤ c ∧ c ≤ 'F' then some (c.toNat - 'A'.toNat + 10)
  else none

def hexUnit (a b c d : Char) : Option ℕ := do
  return (((← hexValue a) * 16 + (← hexValue b)) * 16 + (← hexValue c)) * 16 + (← hexValue d)

def unescape (c : Char) : Option ℕ :=
  if c = '"' ∨ c = '\\' ∨ c = '/' then some c.toNat
  else if c = 'b' then some 8
  else if c = 'f' then some 12
  else if c = 'n' then some 10
  else if c = 'r' then some 13
  else if c = 't' then some 9
  else none

/-- The codes up to the closing quote, and the text behind it. -/
def readCodes : List Char → Option (List ℕ × List Char)
  | [] => none
  | '"' :: rest => some ([], rest)
  | '\\' :: 'u' :: a :: b :: c :: d :: rest => do
      let unit ← hexUnit a b c d
      let found ← readCodes rest
      return (unit :: found.1, found.2)
  | '\\' :: c :: rest => do
      let code ← unescape c
      let found ← readCodes rest
      return (code :: found.1, found.2)
  | c :: rest =>
      if c = '\\' ∨ c.toNat < 32 then none
      else (readCodes rest).map fun found ↦ (c.toNat :: found.1, found.2)

/-- Two surrogates are one character, one alone is none. -/
def decode : List ℕ → Option (List Char)
  | [] => some []
  | high :: low :: rest =>
      if 0xD800 ≤ high ∧ high < 0xDC00 then
        if 0xDC00 ≤ low ∧ low < 0xE000 then
          (decode rest).map (Char.ofNat (0x10000 + (high - 0xD800) * 0x400 + (low - 0xDC00)) :: ·)
        else none
      else if 0xDC00 ≤ high ∧ high < 0xE000 then none
      else (decode (low :: rest)).map (Char.ofNat high :: ·)
  | [code] => if 0xD800 ≤ code ∧ code < 0xE000 then none else some [Char.ofNat code]

def readString (text : List Char) : Option (String × List Char) := do
  let found ← readCodes text
  let characters ← decode found.1
  return (String.ofList characters, found.2)

def readKey (text : List Char) : Option (String × List Char) := do
  let found ← readString (← expect '"' text)
  return (found.1, ← expect ':' found.2)

section Reading

variable (N : Numerals)

def readNumber (text : List Char) : Option (Value × List Char) := do
  let x ← N.value (text.takeWhile numeral)
  return (.number x, text.dropWhile numeral)

def readScalar : List Char → Option (Value × List Char)
  | 'n' :: 'u' :: 'l' :: 'l' :: rest => some (.null, rest)
  | 't' :: 'r' :: 'u' :: 'e' :: rest => some (.bool true, rest)
  | 'f' :: 'a' :: 'l' :: 's' :: 'e' :: rest => some (.bool false, rest)
  | text => readNumber N text

mutual

/-- A value at the start of the text, and the text behind it. Each step takes a character. -/
def readValue : ℕ → List Char → Option (Value × List Char)
  | 0, _ => none
  | steps + 1, text =>
      match skip text with
      | [] => none
      | c :: rest =>
          if c = '"' then do
            let found ← readString rest
            return (.string found.1, found.2)
          else if c = '[' then
            match expect ']' rest with
            | some behind => some (.array [], behind)
            | none => do
                let first ← readValue steps rest
                let others ← readElements steps first.2
                return (.array (first.1 :: others.1), others.2)
          else if c = '{' then
            match expect '}' rest with
            | some behind => some (.object [], behind)
            | none => do
                let key ← readKey rest
                let first ← readValue steps key.2
                let others ← readMembers steps first.2
                return (.object ((key.1, first.1) :: others.1), others.2)
          else readScalar N (c :: rest)

def readElements : ℕ → List Char → Option (List Value × List Char)
  | 0, _ => none
  | steps + 1, text =>
      match expect ']' text with
      | some behind => some ([], behind)
      | none => do
          let next ← readValue steps (← expect ',' text)
          let others ← readElements steps next.2
          return (next.1 :: others.1, others.2)

def readMembers : ℕ → List Char → Option (List (String × Value) × List Char)
  | 0, _ => none
  | steps + 1, text =>
      match expect '}' text with
      | some behind => some ([], behind)
      | none => do
          let key ← readKey (← expect ',' text)
          let next ← readValue steps key.2
          let others ← readMembers steps next.2
          return ((key.1, next.1) :: others.1, others.2)

end

/-- The value of a whole text. -/
def parse (text : List Char) : Option Value := do
  let found ← readValue N text.length text
  if skip found.2 = [] then some found.1 else none

end Reading

/-! ## Specification -/

mutual

/-- Every value but `undefined` has a text. -/
def defined : Value → Bool
  | .undefined => false
  | .array elements => definedElements elements
  | .object members => definedMembers members
  | _ => true

def definedElements : List Value → Bool
  | [] => true
  | v :: rest => defined v && definedElements rest

def definedMembers : List (String × Value) → Bool
  | [] => true
  | (_, v) :: rest => defined v && definedMembers rest

end

/-- What a value starts with. -/
structure Opens (c : Char) : Prop where
  solid : blank c = false
  bracket : c ≠ ']'
  brace : c ≠ '}'

/-- The text behind a number. -/
def Ends (rest : List Char) : Prop := ∀ c ∈ rest.head?, numeral c = false

section Defined

theorem definedElements_eq (elements : List Value) :
    definedElements elements = elements.all defined := by
  induction elements with
  | nil => rw [definedElements, List.all_nil]
  | cons v rest ih => rw [definedElements, ih, List.all_cons]

theorem definedMembers_eq (members : List (String × Value)) :
    definedMembers members = members.all fun member ↦ defined member.2 := by
  induction members with
  | nil => rw [definedMembers, List.all_nil]
  | cons member rest ih => rw [definedMembers, ih, List.all_cons]

theorem defined_array (elements : List Value) : defined (.array elements) = elements.all defined := by
  rw [defined, definedElements_eq]

theorem defined_object (members : List (String × Value)) :
    defined (.object members) = members.all fun member ↦ defined member.2 := by
  rw [defined, definedMembers_eq]

@[simp]
theorem defined_null : defined .null = true := by rw [defined]; all_goals exact nofun

@[simp]
theorem defined_bool (b : Bool) : defined (.bool b) = true := by rw [defined]; all_goals exact nofun

@[simp]
theorem defined_number (x : ℚ) : defined (.number x) = true := by rw [defined]; all_goals exact nofun

@[simp]
theorem defined_string (s : String) : defined (.string s) = true := by
  rw [defined]; all_goals exact nofun

end Defined

/-! ## Blanks and single characters -/

section Characters

theorem skip_append {blanks : List Char} (h : ∀ c ∈ blanks, blank c = true) (text : List Char) :
    skip (blanks ++ text) = skip text :=
  List.dropWhile_append_of_pos h

theorem skip_cons {c : Char} (h : blank c = false) (text : List Char) : skip (c :: text) = c :: text :=
  List.dropWhile_cons_of_neg (by simp [h])

theorem expect_append {blanks : List Char} (h : ∀ c ∈ blanks, blank c = true) (c : Char)
    (text : List Char) : expect c (blanks ++ text) = expect c text := by
  rw [expect, expect, skip_append h]

theorem expect_self {c : Char} (h : blank c = false) (text : List Char) :
    expect c (c :: text) = some text := by
  rw [expect, skip_cons h]
  exact if_pos rfl

theorem expect_ne {a c : Char} (h : blank a = false) (hne : a ≠ c) (text : List Char) :
    expect c (a :: text) = none := by
  rw [expect, skip_cons h]
  exact if_neg hne

theorem blank_of_numeral {c : Char} (h : numeral c = true) : blank c = false := by
  by_contra hblank
  rw [Bool.not_eq_false] at hblank
  simp only [blank, Bool.or_eq_true, decide_eq_true_eq] at hblank
  rcases hblank with ((rfl | rfl) | rfl) | rfl <;> simp [numeral] at h

end Characters

/-! ## Strings -/

section Strings

theorem decode_map_toNat (cs : List Char) : decode (cs.map Char.toNat) = some cs := by
  induction cs with
  | nil => rfl
  | cons c rest ih =>
    have hvalid : c.toNat < 0xD800 ∨ 0xDFFF < c.toNat ∧ c.toNat < 0x110000 := c.valid
    cases rest with
    | nil =>
      rw [List.map_cons, List.map_nil, decode, if_neg (by omega), Char.ofNat_toNat]
    | cons next rest =>
      rw [List.map_cons, List.map_cons, decode, if_neg (by omega), if_neg (by omega), ← List.map_cons,
        ih, Option.map_some, Char.ofNat_toNat]

theorem readCodes_plain {c : Char} (hquote : c ≠ '"') (hslash : c ≠ '\\') (h : ¬c.toNat < 32)
    (text : List Char) :
    readCodes (c :: text) = (readCodes text).map fun found ↦ (c.toNat :: found.1, found.2) := by
  rw [readCodes]
  · exact if_neg (by simp [hslash, h])
  · exact fun hc ↦ absurd hc hquote
  · rintro _ _ _ _ _ rfl
    contradiction
  · rintro _ _ rfl
    contradiction

theorem hexValue_digitChar : ∀ n < 16, hexValue (Nat.digitChar n) = some n := by decide

theorem hexUnit_digitChar {n : ℕ} (h : n < 32) :
    hexUnit '0' '0' (Nat.digitChar (n / 16)) (Nat.digitChar (n % 16)) = some n := by
  have hzero : hexValue '0' = some 0 := rfl
  rw [hexUnit, hzero, hexValue_digitChar _ (by omega), hexValue_digitChar _ (by omega)]
  simp
  omega

theorem readCodes_escape (c : Char) (text : List Char) :
    readCodes (escape c ++ text) = (readCodes text).map fun found ↦ (c.toNat :: found.1, found.2) := by
  unfold escape
  split_ifs with h1 h2 h3 h4 h5 h6 h7 h8
  case pos | pos | pos | pos | pos | pos | pos =>
    subst c
    cases h : readCodes text <;> simp [readCodes, unescape, h]
  · simp only [List.cons_append, List.nil_append, readCodes, hexUnit_digitChar h8]
    cases readCodes text <;> rfl
  · exact readCodes_plain h1 h2 h8 text

theorem readString_quoted (s : String) (text : List Char) :
    readString (s.toList.flatMap escape ++ '"' :: text) = some (s, text) := by
  have hcodes : ∀ cs : List Char, readCodes (cs.flatMap escape ++ '"' :: text) =
      some (cs.map Char.toNat, text) := by
    intro cs
    induction cs with
    | nil => rfl
    | cons c rest ih => rw [List.flatMap_cons, List.append_assoc, readCodes_escape, ih]; rfl
  rw [readString, hcodes]
  simp [decode_map_toNat]

end Strings

/-! ## Values -/

section Values

variable (N : Numerals) (L : Layout)

theorem opens_of_numeral {c : Char} (h : numeral c = true) : Opens c where
  solid := blank_of_numeral h
  bracket := by
    rintro rfl
    simp [numeral] at h
  brace := by
    rintro rfl
    simp [numeral] at h

theorem exists_write (depth : ℕ) (v : Value) (h : defined v = true) :
    ∃ c text, write N L depth v = c :: text ∧ Opens c := by
  cases v with
  | undefined => simp [defined] at h
  | null => exact ⟨'n', _, by rw [write], by decide, by decide, by decide⟩
  | bool b =>
    cases b
    · exact ⟨'f', _, by rw [write], by decide, by decide, by decide⟩
    · exact ⟨'t', _, by rw [write], by decide, by decide, by decide⟩
  | number x =>
    obtain ⟨c, text, htext⟩ := List.exists_cons_of_ne_nil (N.spell_ne_nil x)
    refine ⟨c, text, by rw [write, htext], opens_of_numeral (N.numeral_spell x c ?_)⟩
    exact htext ▸ List.mem_cons_self
  | string s => exact ⟨'"', _, by rw [write, quoted], by decide, by decide, by decide⟩
  | array elements =>
    cases elements with
    | nil => exact ⟨'[', [']'], by rw [write], by decide, by decide, by decide⟩
    | cons v rest => exact ⟨'[', _, by rw [write], by decide, by decide, by decide⟩
  | object members =>
    cases members with
    | nil => exact ⟨'{', ['}'], by rw [write], by decide, by decide, by decide⟩
    | cons m rest => exact ⟨'{', _, by rw [write], by decide, by decide, by decide⟩

theorem readValue_append {blanks : List Char} (h : ∀ c ∈ blanks, blank c = true) (steps : ℕ)
    (text : List Char) : readValue N steps (blanks ++ text) = readValue N steps text := by
  cases steps with
  | zero => rw [readValue, readValue]
  | succ steps => rw [readValue, readValue, skip_append h]

theorem readKey_append {blanks : List Char} (h : ∀ c ∈ blanks, blank c = true) (text : List Char) :
    readKey (blanks ++ text) = readKey text := by
  rw [readKey, readKey, expect_append h]

theorem readKey_quoted (key : String) (text : List Char) :
    readKey (quoted key ++ ':' :: text) = some (key, text) := by
  rw [readKey, quoted, List.cons_append, expect_self (by decide)]
  simp [readString_quoted, expect_self (c := ':') (by decide)]

/-- The key of a member is read behind the blanks of its line. -/
theorem readKey_member (depth : ℕ) (key : String) (text : List Char) :
    readKey (L.newline depth ++ (quoted key ++ ':' :: text)) = some (key, text) := by
  rw [readKey_append (L.blank_newline depth), readKey_quoted]

/-- A number is as long as its characters go. -/
theorem readNumber_spell (x : ℚ) {rest : List Char} (h : Ends rest) :
    readNumber N (N.spell x ++ rest) = some (.number x, rest) := by
  have hall := N.numeral_spell x
  have htake : (N.spell x ++ rest).takeWhile numeral = N.spell x := by
    rw [List.takeWhile_append_of_pos hall]
    cases rest with
    | nil => simp
    | cons c rest => rw [List.takeWhile_cons_of_neg (by simp [h c rfl]), List.append_nil]
  have hdrop : (N.spell x ++ rest).dropWhile numeral = rest := by
    rw [List.dropWhile_append_of_pos hall]
    cases rest with
    | nil => rfl
    | cons c rest => rw [List.dropWhile_cons_of_neg (by simp [h c rfl])]
  rw [readNumber, htake, N.value_spell, hdrop]
  rfl

theorem readScalar_of_numeral {c : Char} (h : numeral c = true) (text : List Char) :
    readScalar N (c :: text) = readNumber N (c :: text) := by
  rw [readScalar]
  all_goals
    rintro _ hcons
    rw [(List.cons.inj hcons).1] at h
    exact absurd h (by decide)

/-- No number goes on behind its blanks and the character after them. -/
theorem ends_append {blanks : List Char} (h : ∀ c ∈ blanks, blank c = true) {c : Char}
    (hc : numeral c = false) (rest : List Char) : Ends (blanks ++ c :: rest) := by
  rintro a ha
  cases blanks with
  | nil => rwa [← Option.some.inj ha]
  | cons b blanks =>
    rw [← Option.some.inj ha]
    by_contra hnumeral
    have hsolid := blank_of_numeral (Bool.not_eq_false _ ▸ hnumeral)
    rw [h b List.mem_cons_self] at hsolid
    exact absurd hsolid (by decide)

theorem ends_writeElements (depth : ℕ) (elements : List Value) (rest : List Char) :
    Ends (writeElements N L depth elements ++ rest) := by
  cases elements with
  | nil =>
    rw [writeElements, List.append_assoc]
    exact ends_append (L.blank_newline depth) (by decide) rest
  | cons v others =>
    rw [writeElements]
    have hnone : ∀ c ∈ ([] : List Char), blank c = true := by simp
    exact ends_append hnone (by decide) _

theorem ends_writeMembers (depth : ℕ) (members : List (String × Value)) (rest : List Char) :
    Ends (writeMembers N L depth members ++ rest) := by
  cases members with
  | nil =>
    rw [writeMembers, List.append_assoc]
    exact ends_append (L.blank_newline depth) (by decide) rest
  | cons m others =>
    rw [writeMembers]
    have hnone : ∀ c ∈ ([] : List Char), blank c = true := by simp
    exact ends_append hnone (by decide) _

mutual

theorem readValue_write (depth : ℕ) : ∀ (v : Value) (steps : ℕ) (rest : List Char), defined v = true →
    Ends rest → (write N L depth v).length ≤ steps →
    readValue N steps (write N L depth v ++ rest) = some (v, rest)
  | v, 0, rest, h, _, hsteps => by
    obtain ⟨c, text, hwrite, -⟩ := exists_write N L depth v h
    simp [hwrite] at hsteps
  | .undefined, steps + 1, rest, h, _, _ => by simp [defined] at h
  | .null, steps + 1, rest, h, _, _ => by
    rw [write]
    rfl
  | .bool true, steps + 1, rest, h, _, _ => by
    rw [write]
    rfl
  | .bool false, steps + 1, rest, h, _, _ => by
    rw [write]
    rfl
  | .number x, steps + 1, rest, h, hrest, _ => by
    obtain ⟨c, text, htext⟩ := List.exists_cons_of_ne_nil (N.spell_ne_nil x)
    have hc : numeral c = true := N.numeral_spell x c (htext ▸ List.mem_cons_self)
    have hother : ∀ a, numeral a = false → c ≠ a := by
      rintro a ha rfl
      rw [ha] at hc
      exact absurd hc (by decide)
    rw [write, htext, List.cons_append, readValue, skip_cons (blank_of_numeral hc)]
    dsimp only
    rw [if_neg (hother '"' (by decide)), if_neg (hother '[' (by decide)),
      if_neg (hother '{' (by decide)), readScalar_of_numeral N hc, ← List.cons_append, ← htext,
      readNumber_spell N x hrest]
  | .string s, steps + 1, rest, h, _, _ => by
    rw [write, quoted, readValue, List.cons_append, skip_cons (by decide)]
    simp [readString_quoted]
  | .array [], steps + 1, rest, h, _, _ => by
    rw [write]
    rfl
  | .array (v :: others), steps + 1, rest, h, _, hsteps => by
    rw [defined, definedElements, Bool.and_eq_true] at h
    obtain ⟨c, text, hwrite, hopens⟩ := exists_write N L (depth + 1) v h.1
    rw [write] at hsteps ⊢
    simp only [List.length_cons, List.length_append] at hsteps
    have hclosed : expect ']' (L.newline (depth + 1) ++
        (write N L (depth + 1) v ++ (writeElements N L depth others ++ rest))) = none := by
      rw [expect_append (L.blank_newline _), hwrite, List.cons_append,
        expect_ne hopens.solid hopens.bracket]
    have hfirst : readValue N steps (L.newline (depth + 1) ++
        (write N L (depth + 1) v ++ (writeElements N L depth others ++ rest))) =
        some (v, writeElements N L depth others ++ rest) := by
      rw [readValue_append N (L.blank_newline _)]
      exact readValue_write (depth + 1) v steps _ h.1 (ends_writeElements N L depth others rest)
        (by omega)
    have hothers := readElements_write depth others steps rest h.2 (by omega)
    rw [List.cons_append, readValue, skip_cons (by decide)]
    simp [hclosed, hfirst, hothers]
  | .object [], steps + 1, rest, h, _, _ => by
    rw [write]
    rfl
  | .object ((key, v) :: others), steps + 1, rest, h, _, hsteps => by
    rw [defined, definedMembers, Bool.and_eq_true] at h
    rw [write] at hsteps ⊢
    simp only [List.length_cons, List.length_append] at hsteps
    have hclosed : expect '}' (L.newline (depth + 1) ++ (quoted key ++ ':' :: (L.colon ++
        (write N L (depth + 1) v ++ (writeMembers N L depth others ++ rest))))) = none := by
      rw [expect_append (L.blank_newline _), quoted, List.cons_append,
        expect_ne (by decide) (by decide)]
    have hfirst : readValue N steps (L.colon ++
        (write N L (depth + 1) v ++ (writeMembers N L depth others ++ rest))) =
        some (v, writeMembers N L depth others ++ rest) := by
      rw [readValue_append N L.blank_colon]
      exact readValue_write (depth + 1) v steps _ h.1 (ends_writeMembers N L depth others rest)
        (by omega)
    have hothers := readMembers_write depth others steps rest h.2 (by omega)
    rw [List.cons_append, readValue, skip_cons (by decide)]
    simp [hclosed, readKey_member, hfirst, hothers]

theorem readElements_write (depth : ℕ) : ∀ (elements : List Value) (steps : ℕ) (rest : List Char),
    definedElements elements = true → (writeElements N L depth elements).length ≤ steps →
    readElements N steps (writeElements N L depth elements ++ rest) = some (elements, rest)
  | [], 0, rest, h, hsteps => by simp [writeElements] at hsteps
  | [], steps + 1, rest, h, hsteps => by
    rw [writeElements, readElements, List.append_assoc, expect_append (L.blank_newline _),
      List.singleton_append, expect_self (by decide)]
  | v :: others, 0, rest, h, hsteps => by simp [writeElements] at hsteps
  | v :: others, steps + 1, rest, h, hsteps => by
    rw [definedElements, Bool.and_eq_true] at h
    rw [writeElements] at hsteps ⊢
    simp only [List.length_cons, List.length_append] at hsteps
    have hnext : readValue N steps (L.newline (depth + 1) ++
        (write N L (depth + 1) v ++ (writeElements N L depth others ++ rest))) =
        some (v, writeElements N L depth others ++ rest) := by
      rw [readValue_append N (L.blank_newline _)]
      exact readValue_write (depth + 1) v steps _ h.1 (ends_writeElements N L depth others rest)
        (by omega)
    have hothers := readElements_write depth others steps rest h.2 (by omega)
    rw [List.cons_append, readElements, expect_ne (by decide) (by decide), expect_self (by decide)]
    simp [hnext, hothers]

theorem readMembers_write (depth : ℕ) : ∀ (members : List (String × Value)) (steps : ℕ)
    (rest : List Char), definedMembers members = true →
    (writeMembers N L depth members).length ≤ steps →
    readMembers N steps (writeMembers N L depth members ++ rest) = some (members, rest)
  | [], 0, rest, h, hsteps => by simp [writeMembers] at hsteps
  | [], steps + 1, rest, h, hsteps => by
    rw [writeMembers, readMembers, List.append_assoc, expect_append (L.blank_newline _),
      List.singleton_append, expect_self (by decide)]
  | m :: others, 0, rest, h, hsteps => by simp [writeMembers] at hsteps
  | (key, v) :: others, steps + 1, rest, h, hsteps => by
    rw [definedMembers, Bool.and_eq_true] at h
    rw [writeMembers] at hsteps ⊢
    simp only [List.length_cons, List.length_append] at hsteps
    have hnext : readValue N steps (L.colon ++
        (write N L (depth + 1) v ++ (writeMembers N L depth others ++ rest))) =
        some (v, writeMembers N L depth others ++ rest) := by
      rw [readValue_append N L.blank_colon]
      exact readValue_write (depth + 1) v steps _ h.1 (ends_writeMembers N L depth others rest)
        (by omega)
    have hothers := readMembers_write depth others steps rest h.2 (by omega)
    rw [List.cons_append, readMembers, expect_ne (by decide) (by decide), expect_self (by decide)]
    simp [readKey_member, hnext, hothers]

end

/-- A written value is read back, and nothing is left but what stood behind it. -/
theorem parse_append {v : Value} (h : defined v = true) {rest : List Char} (hrest : Ends rest)
    (depth : ℕ) : parse N (write N L depth v ++ rest) = if skip rest = [] then some v else none := by
  have hread := readValue_write N L depth v (write N L depth v ++ rest).length rest h hrest (by simp)
  rw [parse, hread]
  rfl

theorem parse_nil : parse N [] = none := by
  rw [parse, List.length_nil, readValue]
  rfl

end Values

end JsonText
