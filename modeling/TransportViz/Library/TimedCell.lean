import Mathlib.Data.Option.Basic
import Mathlib.Order.Nat
import Mathlib.Tactic.Common

/-!
# Cells that forget

A cell is told at every step to take a value, to drop what it has, or nothing. A value it took stays
for `hold` steps, the one it came in included. So what a cell holds is told by the last step that said
anything, if that is recent enough.
-/

universe u

namespace TimedCell

inductive Action (ε : Type u)
  | set (e : ε)
  | clear

variable {ε : Type u}

/-- A value in its last step is dropped, any other loses a step. -/
def age (cell : Option (ε × ℕ)) : Option (ε × ℕ) :=
  cell.bind fun held ↦ if 1 < held.2 then some (held.1, held.2 - 1) else none

theorem map_snd_age (cell : Option (ε × ℕ)) :
    (age cell).map Prod.snd =
      (cell.map Prod.snd).bind fun ttl ↦ if 1 < ttl then some (ttl - 1) else none := by
  cases cell with
  | none => rfl
  | some held =>
    simp only [age, Option.bind_some, Option.map_some]
    split_ifs <;> rfl

def tick (hold : ℕ) (cell : Option (ε × ℕ)) : Option (Action ε) → Option (ε × ℕ)
  | some (.set e) => some (e, hold)
  | some .clear => none
  | none => age cell

/-- The cell after step `n`. -/
def run (hold : ℕ) (told : ℕ → Option (Action ε)) : ℕ → Option (ε × ℕ)
  | 0 => tick hold none (told 0)
  | n + 1 => tick hold (run hold told n) (told (n + 1))

/-- Step `m` is the last one up to `n` that said anything. -/
structure LastTold (told : ℕ → Option (Action ε)) (n m : ℕ) (action : Action ε) : Prop where
  le : m ≤ n
  told_eq : told m = some action
  silent : ∀ i, m < i → i ≤ n → told i = none

variable {told : ℕ → Option (Action ε)} {n m : ℕ} {action : Action ε} {hold : ℕ}

theorem lastTold_zero_iff : LastTold told 0 m action ↔ m = 0 ∧ told 0 = some action := by
  constructor
  · intro h
    obtain rfl : m = 0 := Nat.le_zero.mp h.le
    exact ⟨rfl, h.told_eq⟩
  · rintro ⟨rfl, h⟩
    exact ⟨le_rfl, h, fun i hlt hle ↦ absurd hle (Nat.not_le.mpr hlt)⟩

theorem lastTold_succ_of_some {new : Action ε} (h : told (n + 1) = some new) :
    LastTold told (n + 1) m action ↔ m = n + 1 ∧ action = new := by
  constructor
  · intro hlast
    have hm : m = n + 1 := by
      by_contra hne
      have hsilent := hlast.silent (n + 1) (lt_of_le_of_ne hlast.le hne) le_rfl
      rw [h] at hsilent
      cases hsilent
    subst hm
    exact ⟨rfl, Option.some.inj (hlast.told_eq.symm.trans h)⟩
  · rintro ⟨rfl, rfl⟩
    exact ⟨le_rfl, h, fun i hlt hle ↦ absurd hle (Nat.not_le.mpr hlt)⟩

theorem lastTold_succ_of_none (h : told (n + 1) = none) :
    LastTold told (n + 1) m action ↔ LastTold told n m action := by
  constructor
  · intro hlast
    have hne : m ≠ n + 1 := by
      rintro rfl
      have htold := hlast.told_eq
      rw [h] at htold
      cases htold
    have hle := hlast.le
    exact ⟨by omega, hlast.told_eq, fun i hlt hi ↦ hlast.silent i hlt (hi.trans n.le_succ)⟩
  · intro hlast
    refine ⟨hlast.le.trans n.le_succ, hlast.told_eq, fun i hlt hi ↦ ?_⟩
    rcases hi.lt_or_eq with hi | rfl
    · exact hlast.silent i hlt (Nat.lt_succ_iff.mp hi)
    · exact h

/-- A cell holds what it was last told to take, for `hold` steps. -/
theorem run_eq_some_iff (hhold : 0 < hold) (e : ε) (ttl : ℕ) :
    run hold told n = some (e, ttl) ↔
      ∃ m, LastTold told n m (.set e) ∧ n - m < hold ∧ ttl = hold - (n - m) := by
  induction n generalizing ttl with
  | zero =>
    simp only [lastTold_zero_iff, run]
    cases htold : told 0 with
    | none => simp [tick, age]
    | some action =>
      cases action with
      | set e' =>
        simp only [tick, Option.some.injEq, Prod.mk.injEq, Action.set.injEq]
        constructor
        · rintro ⟨rfl, rfl⟩
          exact ⟨0, ⟨rfl, rfl⟩, hhold, rfl⟩
        · rintro ⟨m, ⟨rfl, rfl⟩, -, rfl⟩
          exact ⟨rfl, rfl⟩
      | clear => simp [tick]
  | succ n ih =>
    cases htold : told (n + 1) with
    | none =>
      simp only [run, htold, tick, age, lastTold_succ_of_none htold, Option.bind_eq_some_iff]
      constructor
      · rintro ⟨⟨e', ttl'⟩, hrun, hage⟩
        split_ifs at hage with hlt
        simp only [Option.some.injEq, Prod.mk.injEq] at hage
        obtain ⟨rfl, rfl⟩ := hage
        obtain ⟨m, hlast, hrecent, rfl⟩ := (ih ttl').mp hrun
        have hle := hlast.le
        exact ⟨m, hlast, by omega, by omega⟩
      · rintro ⟨m, hlast, hrecent, rfl⟩
        have hle := hlast.le
        refine ⟨(e, hold - (n - m)), (ih _).mpr ⟨m, hlast, by omega, rfl⟩, ?_⟩
        rw [if_pos (show 1 < hold - (n - m) by omega)]
        congr 2
        omega
    | some action =>
      simp only [run, htold, lastTold_succ_of_some htold]
      cases action with
      | set e' =>
        simp only [tick, Option.some.injEq, Prod.mk.injEq, Action.set.injEq]
        constructor
        · rintro ⟨rfl, rfl⟩
          exact ⟨n + 1, ⟨rfl, rfl⟩, by omega, by omega⟩
        · rintro ⟨m, ⟨rfl, rfl⟩, -, rfl⟩
          exact ⟨rfl, by omega⟩
      | clear => simp [tick]

/-- A held value has steps left. -/
theorem pos_of_run_eq_some (hhold : 0 < hold) {held : ε × ℕ} (h : run hold told n = some held) :
    0 < held.2 := by
  obtain ⟨m, -, hrecent, httl⟩ := (run_eq_some_iff hhold held.1 held.2).mp h
  omega

end TimedCell
