import Mathlib.Algebra.Order.Field.Basic
import Mathlib.Algebra.Order.Field.Rat
import TransportViz.Library.JsonText

/-!
# Decimal numerals

A number is spelled with its decimals and read back. A fraction whose decimals have no end is spelled by
its two numbers, with a plus sign between them, which is how no number of a JSON text looks like.
-/

namespace JsonText

/-! ## Writing -/

def digits (n : ℕ) : List Char := Nat.toDigits 10 n

/-- With zeros before the digits. -/
def padded (width n : ℕ) : List Char :=
  List.replicate (width - (digits n).length) '0' ++ digits n

/-- How many decimals a fraction with the denominator has. -/
def decimals (den : ℕ) : Option ℕ :=
  (List.range (Nat.log2 den + 1)).find? fun k ↦ 10 ^ k % den = 0

def spellMagnitude (num den : ℕ) : List Char :=
  match decimals den with
  | none => digits num ++ '+' :: digits den
  | some 0 => digits (num / den)
  | some k =>
    let scaled := num * 10 ^ k / den
    digits (scaled / 10 ^ k) ++ '.' :: padded k (scaled % 10 ^ k)

def spellDecimal (x : ℚ) : List Char :=
  if x < 0 then '-' :: spellMagnitude x.num.natAbs x.den else spellMagnitude x.num.natAbs x.den

/-! ## Reading -/

def readDigits (text : List Char) : Option ℕ :=
  if text ≠ [] ∧ text.all Char.isDigit = true then some (Nat.ofDigitChars 10 text 0) else none

def readMagnitude (text : List Char) : Option ℚ := do
  let whole ← readDigits (text.takeWhile Char.isDigit)
  match text.dropWhile Char.isDigit with
  | [] => return whole
  | '.' :: rest => return whole + (← readDigits rest) / 10 ^ rest.length
  | '+' :: rest => return whole / (← readDigits rest)
  | _ => none

def readDecimal : List Char → Option ℚ
  | '-' :: rest => (readMagnitude rest).map fun x ↦ -x
  | text => readMagnitude text

/-! ## Digits -/

section Digits

variable (n : ℕ)

theorem isDigit_digits : ∀ c ∈ digits n, c.isDigit = true := fun _ hc ↦
  Nat.isDigit_of_mem_toDigits (by decide) (by decide) hc

theorem isDigit_padded (width : ℕ) : ∀ c ∈ padded width n, c.isDigit = true := by
  intro c hc
  rcases List.mem_append.mp hc with hzero | hdigit
  · rw [List.eq_of_mem_replicate hzero]
    rfl
  · exact isDigit_digits n c hdigit

theorem readDigits_padded (width : ℕ) : readDigits (padded width n) = some n := by
  have hne : padded width n ≠ [] := List.append_ne_nil_of_right_ne_nil _ Nat.toDigits_ne_nil
  rw [readDigits, if_pos ⟨hne, List.all_eq_true.mpr (isDigit_padded n width)⟩, padded,
    Nat.ofDigitChars_append, Nat.ofDigitChars_replicate_zero, Nat.mul_zero, digits,
    Nat.ofDigitChars_ten_toDigits]

theorem readDigits_digits : readDigits (digits n) = some n := by
  have hread := readDigits_padded n 0
  rwa [padded, Nat.zero_sub, List.replicate_zero, List.nil_append] at hread

variable {n} in
theorem length_padded {width : ℕ} (hwidth : 0 < width) (h : n < 10 ^ width) :
    (padded width n).length = width := by
  have hle : (digits n).length ≤ width := (Nat.length_toDigits_le_iff (by decide) hwidth).mpr h
  rw [padded, List.length_append, List.length_replicate]
  exact Nat.sub_add_cancel hle

/-- The digits at the start of a text end where no digit follows. -/
theorem split_digits (rest : List Char) (h : ∀ c ∈ rest.head?, c.isDigit = false) :
    (digits n ++ rest).takeWhile Char.isDigit = digits n ∧
      (digits n ++ rest).dropWhile Char.isDigit = rest := by
  rw [List.takeWhile_append_of_pos (isDigit_digits n), List.dropWhile_append_of_pos (isDigit_digits n)]
  cases rest with
  | nil => exact ⟨List.append_nil _, rfl⟩
  | cons c rest =>
    have hc : ¬c.isDigit = true := by simp [h c rfl]
    rw [List.takeWhile_cons_of_neg hc, List.dropWhile_cons_of_neg hc]
    exact ⟨List.append_nil _, rfl⟩

end Digits

/-! ## Magnitudes -/

section Magnitudes

variable {num den : ℕ}

theorem dvd_of_decimals {k : ℕ} (h : decimals den = some k) : den ∣ 10 ^ k := by
  have hfound := List.find?_some h
  exact Nat.dvd_of_mod_eq_zero (of_decide_eq_true hfound)

/-- The decimals of a fraction are the digits of the scaled one. -/
theorem scaled_eq {k : ℕ} (hden : den ≠ 0) (h : den ∣ 10 ^ k) :
    ((num * 10 ^ k / den / 10 ^ k : ℕ) : ℚ) + ((num * 10 ^ k / den % 10 ^ k : ℕ) : ℚ) / 10 ^ k =
      num / den := by
  have hscaled : num * 10 ^ k / den * den = num * 10 ^ k := Nat.div_mul_cancel (Dvd.dvd.mul_left h num)
  generalize num * 10 ^ k / den = scaled at hscaled
  have hsplit : (10 ^ k : ℚ) * (scaled / 10 ^ k : ℕ) + (scaled % 10 ^ k : ℕ) = scaled := by
    exact_mod_cast Nat.div_add_mod scaled (10 ^ k)
  have hcast : (scaled : ℚ) * den = num * 10 ^ k := by exact_mod_cast hscaled
  have hdenCast : (den : ℚ) ≠ 0 := by exact_mod_cast hden
  have hpow : (10 ^ k : ℚ) ≠ 0 := pow_ne_zero k (by norm_num)
  calc ((scaled / 10 ^ k : ℕ) : ℚ) + ((scaled % 10 ^ k : ℕ) : ℚ) / 10 ^ k
      = ((10 ^ k : ℚ) * (scaled / 10 ^ k : ℕ) + (scaled % 10 ^ k : ℕ)) / 10 ^ k := by
        rw [add_div, mul_div_cancel_left₀ _ hpow]
    _ = scaled / 10 ^ k := by rw [hsplit]
    _ = num / den := (div_eq_div_iff hpow hdenCast).mpr hcast

theorem readMagnitude_spellMagnitude (num : ℕ) (hden : den ≠ 0) :
    readMagnitude (spellMagnitude num den) = some ((num : ℚ) / den) := by
  unfold spellMagnitude
  cases hdecimals : decimals den with
  | none =>
    obtain ⟨htake, hdrop⟩ := split_digits num ('+' :: digits den) (by simp)
    simp only
    rw [readMagnitude, htake, hdrop, readDigits_digits]
    simp [readDigits_digits]
  | some k =>
    have hdvd := dvd_of_decimals hdecimals
    cases k with
    | zero =>
      have hone : den = 1 := Nat.dvd_one.mp hdvd
      obtain ⟨htake, hdrop⟩ := split_digits (num / den) [] (by simp)
      rw [List.append_nil] at htake hdrop
      simp only
      rw [readMagnitude, htake, hdrop, readDigits_digits, hone]
      simp
    | succ k =>
      have hlt : num * 10 ^ (k + 1) / den % 10 ^ (k + 1) < 10 ^ (k + 1) :=
        Nat.mod_lt _ (Nat.pow_pos (by decide))
      obtain ⟨htake, hdrop⟩ := split_digits (num * 10 ^ (k + 1) / den / 10 ^ (k + 1))
        ('.' :: padded (k + 1) (num * 10 ^ (k + 1) / den % 10 ^ (k + 1))) (by simp)
      simp only
      rw [readMagnitude, htake, hdrop, readDigits_digits]
      simp only [Option.bind_eq_bind, Option.bind_some, readDigits_padded,
        length_padded k.succ_pos hlt, scaled_eq hden hdvd]
      rfl

theorem numeral_digits (n : ℕ) : ∀ c ∈ digits n, numeral c = true := by
  intro c hc
  rw [numeral, isDigit_digits n c hc]
  rfl

theorem numeral_spellMagnitude : ∀ c ∈ spellMagnitude num den, numeral c = true := by
  have hpadded (width n : ℕ) : ∀ c ∈ padded width n, numeral c = true := by
    intro c hc
    rw [numeral, isDigit_padded n width c hc]
    rfl
  unfold spellMagnitude
  split
  · rw [List.forall_mem_append, List.forall_mem_cons]
    exact ⟨numeral_digits num, rfl, numeral_digits den⟩
  · exact numeral_digits _
  · simp only [List.forall_mem_append, List.forall_mem_cons]
    exact ⟨numeral_digits _, rfl, hpadded _ _⟩

/-- A magnitude begins with a digit, and so is no negative number. -/
theorem readDecimal_spellMagnitude :
    readDecimal (spellMagnitude num den) = readMagnitude (spellMagnitude num den) := by
  obtain ⟨n, rest, hspell⟩ : ∃ n rest, spellMagnitude num den = digits n ++ rest := by
    unfold spellMagnitude
    split
    · exact ⟨_, _, rfl⟩
    · exact ⟨_, [], (List.append_nil _).symm⟩
    · exact ⟨_, _, rfl⟩
  obtain ⟨c, more, hdigits⟩ := List.exists_cons_of_ne_nil (Nat.toDigits_ne_nil (n := n) (b := 10))
  have hc : c.isDigit = true := isDigit_digits n c (by rw [digits, hdigits]; exact List.mem_cons_self)
  rw [hspell, digits, hdigits, List.cons_append, readDecimal]
  intro _ hminus
  rw [(List.cons_eq_cons.mp hminus).1] at hc
  exact absurd hc (by decide)

end Magnitudes

/-! ## Numbers -/

theorem readDecimal_spellDecimal (x : ℚ) : readDecimal (spellDecimal x) = some x := by
  have hfraction : (x.num : ℚ) / x.den = x := x.num_div_den
  have hmagnitude := readMagnitude_spellMagnitude x.num.natAbs x.den_nz
  unfold spellDecimal
  split_ifs with hneg
  · have habs : ((x.num.natAbs : ℤ) : ℚ) = -x.num := by
      rw [Int.ofNat_natAbs_of_nonpos (Rat.num_neg.mpr hneg).le, Int.cast_neg]
    rw [readDecimal, hmagnitude, Option.map_some, ← Int.cast_natCast, habs, neg_div, neg_neg, hfraction]
  · have habs : ((x.num.natAbs : ℤ) : ℚ) = x.num := by
      rw [Int.natAbs_of_nonneg (Rat.num_nonneg.mpr (not_lt.mp hneg))]
    rw [readDecimal_spellMagnitude, hmagnitude, ← Int.cast_natCast, habs, hfraction]

def decimalNumerals : Numerals where
  spell := spellDecimal
  value := readDecimal
  value_nil := rfl
  value_spell := readDecimal_spellDecimal
  numeral_spell x c hc := by
    unfold spellDecimal at hc
    split_ifs at hc
    · rcases List.mem_cons.mp hc with rfl | hmagnitude
      · rfl
      · exact numeral_spellMagnitude c hmagnitude
    · exact numeral_spellMagnitude c hc

example : spellDecimal (-5 / 2) = ['-', '2', '.', '5'] := by decide +kernel

end JsonText
