import Mathlib.Data.List.Basic

/-!
# Lines of a text that is read bit by bit

A line is kept with its place in the text. What is read of a text so far is the lines that have ended and
the one that has not, so that a text that is read in several parts has the lines of the whole.
-/

namespace Lines

universe u

variable {α : Type u}

/-- The symbols of a line and where they are, the separator left out. -/
structure Line (α : Type u) where
  start : ℕ
  stop : ℕ
  bytes : List α
  deriving DecidableEq

/-- The lines of the parts between the separators; a last part without symbols is none. -/
def place (start : ℕ) : List (List α) → List (Line α)
  | [] => []
  | part :: rest =>
      if part = [] ∧ rest = [] then []
      else ⟨start, start + part.length, part⟩ :: place (start + part.length + 1) rest

/-- A line is what the text has from its start to its stop. -/
theorem bytes_of_mem_place (sep : α) (before : List α) (parts : List (List α)) {line : Line α}
    (h : line ∈ place before.length parts) :
    line.bytes = ((before ++ [sep].intercalate parts).drop line.start).take (line.stop - line.start) ∧
      line.start ≤ line.stop ∧ line.stop ≤ (before ++ [sep].intercalate parts).length := by
  induction parts generalizing before with
  | nil => simp [place] at h
  | cons part rest ih =>
    rw [place] at h
    split_ifs at h with hempty
    · simp at h
    · rcases List.mem_cons.mp h with rfl | hmem
      · cases rest <;> simp [List.intercalate, List.intersperse]
      · cases rest with
        | nil => simp [place] at hmem
        | cons other more =>
          have hlength : (before ++ part ++ [sep]).length = before.length + part.length + 1 := by
            simp [Nat.add_assoc]
          rw [← hlength] at hmem
          have hrest := ih _ hmem
          have htext : before ++ part ++ [sep] ++ [sep].intercalate (other :: more) =
              before ++ [sep].intercalate (part :: other :: more) := by
            simp [List.intercalate, List.intersperse]
          rwa [htext] at hrest

variable [DecidableEq α]

/-- The lines of a whole text. -/
def linesOf (sep : α) (text : List α) : List (Line α) := place 0 (text.splitOn sep)

/-- The line that has not ended. -/
structure Unfinished (α : Type u) where
  start : ℕ := 0
  held : List α := []

namespace Unfinished

/-- The place of the next symbol. -/
def next (line : Unfinished α) : ℕ := line.start + line.held.length

/-- The line as it is when no more is read. -/
def last (line : Unfinished α) : List (Line α) :=
  if line.held = [] then [] else [⟨line.start, line.next, line.held⟩]

/-- The lines that end in the text, and the one after them. -/
def read (sep : α) (line : Unfinished α) : List α → List (Line α) × Unfinished α
  | [] => ([], line)
  | a :: rest =>
      if a = sep then
        let found := read sep { start := line.next + 1 } rest
        (⟨line.start, line.next, line.held⟩ :: found.1, found.2)
      else read sep { line with held := line.held ++ [a] } rest

variable (sep : α)

@[simp]
theorem read_nil (line : Unfinished α) : line.read sep [] = ([], line) := rfl

theorem read_of_notMem (line : Unfinished α) {part : List α} (h : sep ∉ part) :
    line.read sep part = ([], { line with held := line.held ++ part }) := by
  induction part generalizing line with
  | nil => simp
  | cons a rest ih =>
    rw [List.mem_cons, not_or] at h
    rw [read, if_neg (Ne.symm h.1), ih _ h.2, List.append_assoc, List.singleton_append]

/-- The line ends at the separator. -/
theorem read_append_cons (line : Unfinished α) {part : List α} (h : sep ∉ part) (rest : List α) :
    line.read sep (part ++ sep :: rest) =
      let stop := line.next + part.length
      let found := read sep { start := stop + 1 } rest
      (⟨line.start, stop, line.held ++ part⟩ :: found.1, found.2) := by
  induction part generalizing line with
  | nil => simp [read]
  | cons a part ih =>
    rw [List.mem_cons, not_or] at h
    rw [List.cons_append, read, if_neg (Ne.symm h.1), ih _ h.2]
    simp [next, Nat.add_assoc, Nat.add_comm 1]

/-- Reading one part after the other. -/
theorem read_append (line : Unfinished α) (first second : List α) :
    line.read sep (first ++ second) =
      let found := line.read sep first
      (found.1 ++ (found.2.read sep second).1, (found.2.read sep second).2) := by
  induction first generalizing line with
  | nil => rfl
  | cons a rest ih =>
    rw [List.cons_append, read, read]
    by_cases h : a = sep
    · rw [if_pos h, if_pos h, ih]
      rfl
    · rw [if_neg h, if_neg h, ih]

theorem next_read (line : Unfinished α) (text : List α) :
    (line.read sep text).2.next = line.next + text.length := by
  induction text generalizing line with
  | nil => rfl
  | cons a rest ih =>
    rw [read]
    split_ifs with h
    · rw [ih]
      simp [next, Nat.add_assoc, Nat.add_comm 1]
    · rw [ih]
      simp [next, Nat.add_assoc, Nat.add_comm 1]

/-- The lines of the text that follows, with what is held of the first. -/
theorem read_eq_place (line : Unfinished α) (hheld : sep ∉ line.held) (text : List α) :
    (line.read sep text).1 ++ (line.read sep text).2.last =
      place line.start ((line.held ++ text).splitOn sep) := by
  induction text generalizing line with
  | nil =>
    rw [List.append_nil, List.splitOn_eq_singleton hheld, read_nil, List.nil_append, last]
    by_cases hempty : line.held = []
    · simp [place, hempty]
    · simp [place, hempty, next]
  | cons a rest ih =>
    rw [read]
    by_cases h : a = sep
    · rw [if_pos h, h, List.splitOn_append_cons_self_of_not_mem hheld, place,
        if_neg (fun hempty ↦ List.splitOn_ne_nil _ _ hempty.2)]
      have hrest := ih { start := line.next + 1 } List.not_mem_nil
      rw [List.nil_append] at hrest
      rw [List.cons_append, hrest]
      rfl
    · rw [if_neg h, ih _ (by simp [hheld, Ne.symm h]), List.append_assoc, List.singleton_append]

end Unfinished

/-- A text that is read from its start has its lines. -/
theorem read_eq_linesOf (sep : α) (text : List α) :
    (Unfinished.read sep {} text).1 ++ (Unfinished.read sep {} text).2.last = linesOf sep text :=
  Unfinished.read_eq_place sep {} List.not_mem_nil text

theorem bytes_of_mem_linesOf (sep : α) (text : List α) {line : Line α}
    (h : line ∈ linesOf sep text) :
    line.bytes = (text.drop line.start).take (line.stop - line.start) ∧
      line.start ≤ line.stop ∧ line.stop ≤ text.length := by
  have hplace := bytes_of_mem_place sep [] (text.splitOn sep) h
  rwa [List.nil_append, List.intercalate_splitOn] at hplace

end Lines
