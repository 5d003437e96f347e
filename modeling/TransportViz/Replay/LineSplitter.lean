import TransportViz.Library.Lines

/-!
# Reading a recording in chunks

A recorded file is read chunk by chunk, and `lineSplitter` keeps what has no end yet. Wherever the file
is cut, its lines and their places are those of the whole.
-/

namespace TransportViz.Replay

open Lines

/-! ## Model
-/

/-- What `lineSplitter` keeps: the bytes of a line that started in an earlier chunk, and its start. -/
structure Splitter where
  carry : Option (List UInt8) := none
  carryStart : ℕ := 0

/-- `bytes.indexOf(value, start)`. -/
def indexOf (bytes : List UInt8) (value : UInt8) (start : ℕ) : Option ℕ :=
  ((bytes.drop start).findIdx? (· = value)).map (start + ·)

theorem indexOf_eq_some {bytes : List UInt8} {value : UInt8} {start i : ℕ}
    (h : indexOf bytes value start = some i) :
    ∃ part, value ∉ part ∧ i = start + part.length ∧
      bytes.drop start = part ++ value :: bytes.drop (i + 1) := by
  obtain ⟨k, hk, hi⟩ := Option.map_eq_some_iff.mp h
  obtain ⟨hlt, hvalue, hbefore⟩ := List.findIdx?_eq_some_iff_getElem.mp hk
  refine ⟨(bytes.drop start).take k, ?_, ?_, ?_⟩
  · intro hmem
    obtain ⟨j, hj, hget⟩ := List.mem_iff_getElem.mp hmem
    rw [List.length_take] at hj
    rw [List.getElem_take] at hget
    exact hbefore j (by omega) (decide_eq_true hget)
  · rw [List.length_take, Nat.min_eq_left (Nat.le_of_lt hlt), hi]
  · have hcons := List.drop_eq_getElem_cons hlt
    rw [of_decide_eq_true hvalue, List.drop_drop (i := k + 1)] at hcons
    rw [← hi, Nat.add_assoc, ← hcons, List.take_append_drop]

theorem indexOf_bounds {bytes : List UInt8} {value : UInt8} {start i : ℕ}
    (h : indexOf bytes value start = some i) : start ≤ i ∧ i < bytes.length := by
  obtain ⟨part, -, hi, hsplit⟩ := indexOf_eq_some h
  have hlength := congrArg List.length hsplit
  rw [List.length_drop, List.length_append, List.length_cons] at hlength
  omega

theorem indexOf_eq_none {bytes : List UInt8} {value : UInt8} {start : ℕ} :
    indexOf bytes value start = none ↔ value ∉ bytes.drop start := by
  rw [indexOf, Option.map_eq_none_iff, List.findIdx?_eq_none_iff]
  constructor
  · intro h hmem
    exact of_decide_eq_false (h value hmem) rfl
  · intro h x hmem
    exact decide_eq_false fun hx ↦ h (hx ▸ hmem)

namespace Splitter

def joined (s : Splitter) (tail : List UInt8) : List UInt8 := (s.carry.getD []) ++ tail

/-- Where the line starts that goes on at `place`. -/
def startAt (s : Splitter) (place : ℕ) : ℕ := if s.carry.isSome then s.carryStart else place

/-- The bytes behind the last newline of a chunk are carried on. -/
def keep (s : Splitter) (bytes : List UInt8) (base start : ℕ) : Splitter :=
  if start < bytes.length then
    { carry := some (s.joined (bytes.drop start)), carryStart := s.startAt (base + start) }
  else s

/-- The loop of `push` from `start` on. -/
def pushFrom (s : Splitter) (bytes : List UInt8) (base start : ℕ) : List (Line UInt8) × Splitter :=
  match _h : indexOf bytes 10 start with
  | some i =>
      let line := ⟨s.startAt (base + start), base + i, s.joined ((bytes.take i).drop start)⟩
      let found := pushFrom { s with carry := none } bytes base (i + 1)
      (line :: found.1, found.2)
  | none => ([], s.keep bytes base start)
termination_by bytes.length - start
decreasing_by
  have hbounds := indexOf_bounds _h
  omega

/-- The lines that end in the next chunk, which starts at `base` of the file. -/
def push (s : Splitter) (bytes : List UInt8) (base : ℕ) : List (Line UInt8) × Splitter :=
  s.pushFrom bytes base 0

/-- The last line when the file does not end in a newline. -/
def finish (s : Splitter) : List (Line UInt8) :=
  match s.carry with
  | some carry => [⟨s.carryStart, s.carryStart + carry.length, carry⟩]
  | none => []

/-- Every chunk is pushed at its place in the file. -/
def pushAll (s : Splitter) (base : ℕ) : List (List UInt8) → List (Line UInt8) × Splitter
  | [] => ([], s)
  | chunk :: rest =>
      let found := s.push chunk base
      let later := found.2.pushAll (base + chunk.length) rest
      (found.1 ++ later.1, later.2)

end Splitter

/-- All lines of a file that is read in chunks. -/
def scanLines (chunks : List (List UInt8)) : List (Line UInt8) :=
  let found := Splitter.pushAll {} 0 chunks
  found.1 ++ found.2.finish

/-! ## What is kept is the unfinished line -/

/-- The splitter holds the line that has not ended. -/
structure Splitter.Holds (s : Splitter) (line : Unfinished UInt8) : Prop where
  carry_eq : s.carry = if line.held = [] then none else some line.held
  start_eq : line.held ≠ [] → s.carryStart = line.start

namespace Splitter

variable {s : Splitter} {line : Unfinished UInt8}

theorem Holds.joined_eq (h : s.Holds line) (tail : List UInt8) : s.joined tail = line.held ++ tail := by
  rw [joined, h.carry_eq]
  split_ifs with hempty
  · rw [hempty]
    rfl
  · rfl

theorem Holds.startAt_eq (h : s.Holds line) : s.startAt line.next = line.start := by
  rw [startAt, h.carry_eq]
  by_cases hempty : line.held = []
  · simp [hempty, Unfinished.next]
  · rw [if_neg hempty]
    exact h.start_eq hempty

theorem holds_none (s : Splitter) (start : ℕ) : ({ s with carry := none } : Splitter).Holds { start } where
  carry_eq := rfl
  start_eq h := absurd rfl h

/-- Bytes without a newline lengthen the line. -/
theorem Holds.keep (h : s.Holds line) (bytes : List UInt8) {base start : ℕ}
    (hnext : base + start = line.next) :
    (s.keep bytes base start).Holds { line with held := line.held ++ bytes.drop start } := by
  unfold Splitter.keep
  by_cases hstart : start < bytes.length
  · rw [if_pos hstart, hnext, h.startAt_eq, h.joined_eq]
    have hne : line.held ++ bytes.drop start ≠ [] := by
      intro hempty
      have hdrop := (List.append_eq_nil_iff.mp hempty).2
      exact absurd (List.drop_eq_nil_iff.mp hdrop) (Nat.not_le.mpr hstart)
    exact ⟨(if_neg hne).symm, fun _ ↦ rfl⟩
  · rw [if_neg hstart, List.drop_eq_nil_of_le (Nat.not_lt.mp hstart), List.append_nil]
    exact h

theorem pushFrom_of_some {bytes : List UInt8} {base start i : ℕ}
    (h : indexOf bytes 10 start = some i) :
    s.pushFrom bytes base start =
      let found := pushFrom { s with carry := none } bytes base (i + 1)
      (⟨s.startAt (base + start), base + i, s.joined ((bytes.take i).drop start)⟩ :: found.1,
        found.2) := by
  rw [pushFrom.eq_def]
  split
  · rename_i j hj
    cases h.symm.trans hj
    rfl
  · rename_i hnone
    cases h.symm.trans hnone

theorem pushFrom_of_none {bytes : List UInt8} {base start : ℕ} (h : indexOf bytes 10 start = none) :
    s.pushFrom bytes base start = ([], s.keep bytes base start) := by
  rw [pushFrom.eq_def]
  split
  · rename_i j hj
    cases h.symm.trans hj
  · rfl

/-- One run of the loop reads what is left of the chunk. -/
theorem pushFrom_spec (bytes : List UInt8) (base start : ℕ) (h : s.Holds line)
    (hnext : base + start = line.next) :
    (s.pushFrom bytes base start).1 = (line.read 10 (bytes.drop start)).1 ∧
      (s.pushFrom bytes base start).2.Holds (line.read 10 (bytes.drop start)).2 := by
  induction s, start using pushFrom.induct bytes base generalizing line with
  | case1 s start i hindex ih =>
    obtain ⟨part, hpart, hi, hsplit⟩ := indexOf_eq_some hindex
    have hslice : (bytes.take i).drop start = part := by
      rw [List.drop_take, hsplit, hi, Nat.add_sub_cancel_left, List.take_left]
    have hstop : line.next + part.length = base + i := by omega
    rw [pushFrom_of_some hindex, hsplit, Unfinished.read_append_cons 10 line hpart, hslice]
    simp only [hstop, hnext, h.startAt_eq, h.joined_eq]
    have hrest := ih (holds_none s (base + i + 1)) (by simp [Unfinished.next, Nat.add_assoc])
    exact ⟨congrArg _ hrest.1, hrest.2⟩
  | case2 s start hindex =>
    rw [pushFrom_of_none hindex, Unfinished.read_of_notMem 10 line (indexOf_eq_none.mp hindex)]
    exact ⟨rfl, h.keep bytes hnext⟩

theorem push_spec (bytes : List UInt8) (h : s.Holds line) :
    (s.push bytes line.next).1 = (line.read 10 bytes).1 ∧
      (s.push bytes line.next).2.Holds (line.read 10 bytes).2 :=
  pushFrom_spec bytes line.next 0 h rfl

theorem Holds.finish_eq (h : s.Holds line) : s.finish = line.last := by
  rw [finish, h.carry_eq, Unfinished.last]
  by_cases hempty : line.held = []
  · simp [hempty]
  · simp [hempty, h.start_eq hempty, Unfinished.next]

/-- The chunks are read one after the other. -/
theorem pushAll_spec (chunks : List (List UInt8)) (h : s.Holds line) :
    (s.pushAll line.next chunks).1 = (line.read 10 chunks.flatten).1 ∧
      (s.pushAll line.next chunks).2.Holds (line.read 10 chunks.flatten).2 := by
  induction chunks generalizing s line with
  | nil => exact ⟨rfl, h⟩
  | cons chunk rest ih =>
    have hchunk := push_spec chunk h
    have hrest := ih hchunk.2
    rw [Unfinished.next_read] at hrest
    rw [pushAll, List.flatten_cons, Unfinished.read_append, hchunk.1]
    exact ⟨congrArg _ hrest.1, hrest.2⟩

end Splitter

/-- However a file is cut into chunks, its lines are those of the whole, each with its bytes and its
place in the file. -/
theorem scanLines_eq_linesOf (chunks : List (List UInt8)) :
    scanLines chunks = linesOf 10 chunks.flatten ∧
      ∀ line ∈ scanLines chunks, line.start ≤ line.stop ∧ line.stop ≤ chunks.flatten.length ∧
        line.bytes = (chunks.flatten.drop line.start).take (line.stop - line.start) := by
  have hall := Splitter.pushAll_spec chunks (Splitter.holds_none {} 0)
  have hlines : scanLines chunks = linesOf 10 chunks.flatten := by
    calc
      scanLines chunks = (Splitter.pushAll {} 0 chunks).1 ++ (Splitter.pushAll {} 0 chunks).2.finish := rfl
      _ = (Unfinished.read 10 {} chunks.flatten).1 ++ (Unfinished.read 10 {} chunks.flatten).2.last := by
        rw [← hall.2.finish_eq, ← hall.1]
        rfl
      _ = linesOf 10 chunks.flatten := read_eq_linesOf 10 chunks.flatten
  refine ⟨hlines, fun line hline ↦ ?_⟩
  rw [hlines] at hline
  have hplace := bytes_of_mem_linesOf 10 chunks.flatten hline
  exact ⟨hplace.2.1, hplace.2.2, hplace.1⟩

end TransportViz.Replay
