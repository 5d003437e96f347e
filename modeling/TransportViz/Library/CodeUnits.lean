import Mathlib.Data.String.Basic
import Mathlib.Tactic.NormNum

/-!
# Comparing texts by their UTF-16 code units

A script compares two texts code unit by code unit. Below the surrogates a character is one code unit,
so there this is the order of the characters; above them the two orders differ.
-/

namespace CodeUnits

/-- A surrogate pair from U+10000 on. -/
def ofChar (c : Char) : List ℕ :=
  if c.toNat < 0x10000 then [c.toNat]
  else [0xD800 + (c.toNat - 0x10000) / 0x400, 0xDC00 + (c.toNat - 0x10000) % 0x400]

def units (s : String) : List ℕ := s.toList.flatMap ofChar

/-- Every character lies below the surrogates. -/
def Basic (s : String) : Prop := ∀ c ∈ s.toList, c.toNat < 0xD800

theorem basic_iff_all (s : String) :
    Basic s ↔ (s.toList.all fun c ↦ c.toNat < 0xD800) = true := by
  simp only [Basic, List.all_eq_true, decide_eq_true_eq]

theorem Basic.append {a b : String} (ha : Basic a) (hb : Basic b) : Basic (a ++ b) := by
  intro c hc
  rw [String.toList_append, List.mem_append] at hc
  exact hc.elim (ha c) (hb c)

theorem units_of_basic {s : String} (h : Basic s) : units s = s.toList.map Char.toNat := by
  have hchar : ∀ c ∈ s.toList, ofChar c = [c.toNat] := fun c hc ↦ by
    have hlt := h c hc
    rw [ofChar, if_pos (by omega)]
  rw [units, List.flatMap_congr hchar, List.map_eq_flatMap]

theorem map_toNat_lt_iff (a b : List Char) : a.map Char.toNat < b.map Char.toNat ↔ a < b := by
  induction a generalizing b with
  | nil => cases b <;> simp
  | cons c rest ih =>
    cases b with
    | nil => simp
    | cons d more =>
      rw [List.map_cons, List.map_cons, List.cons_lt_cons_iff, List.cons_lt_cons_iff, ih,
        Char.toNat_inj]
      rfl

/-- Below the surrogates the two orders agree. -/
theorem units_lt_iff {a b : String} (ha : Basic a) (hb : Basic b) : units a < units b ↔ a < b := by
  rw [units_of_basic ha, units_of_basic hb, map_toNat_lt_iff]
  exact (String.lt_iff_toList_lt).symm

end CodeUnits
