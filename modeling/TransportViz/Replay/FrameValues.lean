import TransportViz.Library.Runs
import TransportViz.Replay.Recording

/-!
# Latency and loss of a frame

A series keeps cumulative values, and a chart shows what each frame adds to them. The charted values of a
run of frames rebuild the cumulative value of its last frame, as long as that value is known in every
frame and changes only with the samples.
-/

namespace TransportViz.Replay

open Runs

/-! ## Model -/

/-- `none` is NaN. Behind the end a column has no values either. -/
def slot (column : List (Option ℚ)) (i : ℕ) : Option ℚ := column[i]?.join

/-- The previous frame's counters continue into frame `i`: same pair, same GUIDs. -/
def continues (s : Series) (i : ℕ) : Bool :=
  0 < i && s.transport[i - 1]? ≠ some 0 && s.guids[i - 1]? = s.guids[i]?

/-- The value of the previous frame, if it continues into this one. -/
def previous (s : Series) (column : List (Option ℚ)) (i : ℕ) : Option ℚ :=
  if continues s i then slot column (i - 1) else none

def frameLatencyAt (s : Series) (i : ℕ) : Option ℚ :=
  match slot s.latencyMean i, slot s.latencySamples i with
  | some m, some k =>
      match previous s s.latencyMean i, previous s s.latencySamples i with
      | some pm, some pk =>
          if k < pk then if 0 < k then some m else none
          else if pk < k then some ((m * k - pm * pk) / (k - pk)) else none
      | _, _ => if 0 < k then some m else none
  | _, _ => none

/-- The mean latency of each frame's own interval. -/
def frameLatency (s : Series) (n : ℕ) : List (Option ℚ) := (List.range n).map (frameLatencyAt s)

def frameLossAt (s : Series) (i : ℕ) : Option ℚ :=
  match slot s.lost i with
  | some v =>
      match previous s s.lost i with
      | some pv => if v < pv then some v else some (v - pv)
      | none => some v
  | none => none

/-- Packets lost during each frame's interval. -/
def frameLoss (s : Series) (n : ℕ) : List (Option ℚ) := (List.range n).map (frameLossAt s)

/-! ## Specification -/

/-- A value in a sum: NaN adds nothing. -/
def value (column : List (Option ℚ)) (i : ℕ) : ℚ := (slot column i).getD 0

def total (s : Series) (i : ℕ) : ℚ := value s.latencyMean i * value s.latencySamples i

def Present (s : Series) (i : ℕ) : Prop := ∃ t, s.transport[i]? = some t ∧ t ≠ 0

/-- The frame is of the same GUIDs as the one before it, and the count is not lower. -/
def Continued (s : Series) (column : List (Option ℚ)) (i : ℕ) : Prop :=
  s.guids[i - 1]? = s.guids[i]? ∧ value column (i - 1) ≤ value column i

/-- A maximal run of frames with finite counts that do not decrease. -/
def CountRun (s : Series) (column : List (Option ℚ)) : ℕ → ℕ → ℕ → Prop :=
  MaximalRun (fun i ↦ Present s i ∧ slot column i ≠ none) (Continued s column)

/-- A run in which the means are finite as well. -/
def LatencyRun (s : Series) : ℕ → ℕ → ℕ → Prop :=
  MaximalRun (fun i ↦ Present s i ∧ slot s.latencyMean i ≠ none ∧ slot s.latencySamples i ≠ none)
    (Continued s s.latencySamples)

/-- The samples new in a frame of a run; the first frame's own count whole. -/
def newInRun (s : Series) (first i : ℕ) : ℚ :=
  value s.latencySamples i - if i = first then 0 else value s.latencySamples (i - 1)

/-- The latencies from `a` to `b` rebuild the total of the last frame. -/
def SumsUp (s : Series) (n a b : ℕ) : Prop :=
  ∑ i ∈ Finset.Ico a b, value (frameLatency s n) i * newInRun s a i = total s (b - 1)

/-- The frame has no predecessor to subtract. -/
def startsOver (s : Series) (i : ℕ) : Bool :=
  (previous s s.latencyMean i).isNone || (previous s s.latencySamples i).isNone ||
    value s.latencySamples i < value s.latencySamples (i - 1)

def newSamples (s : Series) (i : ℕ) : ℚ :=
  value s.latencySamples i - if startsOver s i then 0 else value s.latencySamples (i - 1)

/-- Every run of frames sums up, whatever its means are. -/
def SumsUpByCounts (s : Series) (n : ℕ) : Prop :=
  ∀ a b, CountRun s s.latencySamples n a b → SumsUp s n a b

structure RebuildsTotals (s : Series) (n : ℕ) : Prop where
  latency : ∀ a b, LatencyRun s n a b → 0 ≤ value s.latencySamples a →
    (∀ i, a < i → i < b → value s.latencySamples (i - 1) = value s.latencySamples i →
      total s (i - 1) = total s i) → SumsUp s n a b
  latency_none : ∀ i, i < n → (slot (frameLatency s n) i = none ↔
    slot s.latencyMean i = none ∨ slot s.latencySamples i = none ∨ newSamples s i ≤ 0)
  own_mean : ∀ i, i < n → startsOver s i = true → 0 < value s.latencySamples i →
    slot (frameLatency s n) i = slot s.latencyMean i
  /-- A quotient is by the new samples, which are more than none. -/
  quotient : ∀ i x, slot (frameLatency s n) i = some x → startsOver s i = false →
    0 < newSamples s i ∧ x = (total s i - total s (i - 1)) / newSamples s i
  loss : ∀ a b, CountRun s s.lost n a b →
    ∑ i ∈ Finset.Ico a b, value (frameLoss s n) i = value s.lost (b - 1)
  loss_none : ∀ i, i < n → (slot (frameLoss s n) i = none ↔ slot s.lost i = none)

/-! ## One frame -/

section Frame

variable {s : Series} {n i : ℕ} {column : List (Option ℚ)}

theorem slot_map_range (f : ℕ → Option ℚ) (h : i < n) : slot ((List.range n).map f) i = f i := by
  rw [slot, List.getElem?_map, List.getElem?_range h]
  rfl

theorem slot_map_range_of_le (f : ℕ → Option ℚ) (h : n ≤ i) : slot ((List.range n).map f) i = none := by
  rw [slot, List.getElem?_eq_none (by simpa using h)]
  rfl

theorem value_of_slot {x : ℚ} (h : slot column i = some x) : value column i = x := by
  rw [value, h]
  rfl

theorem slot_of_ne_none (h : slot column i ≠ none) : slot column i = some (value column i) := by
  obtain ⟨x, hx⟩ := Option.ne_none_iff_exists'.mp h
  rw [value_of_slot hx, hx]

theorem previous_eq_some {x : ℚ} (h : previous s column i = some x) : value column (i - 1) = x := by
  unfold previous at h
  split_ifs at h
  exact value_of_slot h

theorem ite_lt_eq (pk k : ℚ) (x : Option ℚ) :
    (if pk < k then x else none) = if k - pk ≤ 0 then none else x := by
  simp only [← not_lt, ite_not, sub_pos]

/-- What a frame is charted at, out of its new samples. -/
theorem frameLatencyAt_eq (hmean : slot s.latencyMean i ≠ none)
    (hcount : slot s.latencySamples i ≠ none) :
    frameLatencyAt s i =
      if newSamples s i ≤ 0 then none
      else if startsOver s i then slot s.latencyMean i
      else some ((total s i - total s (i - 1)) / newSamples s i) := by
  have hm := slot_of_ne_none hmean
  have hk := slot_of_ne_none hcount
  unfold frameLatencyAt newSamples startsOver total
  rw [hm, hk]
  cases hpm : previous s s.latencyMean i with
  | none => simp [ite_lt_eq]
  | some pm =>
    cases hpk : previous s s.latencySamples i with
    | none => simp [ite_lt_eq]
    | some pk =>
      rw [previous_eq_some hpm, previous_eq_some hpk]
      simp only [Option.isNone_some, Bool.false_or, decide_eq_true_eq]
      by_cases hback : value s.latencySamples i < pk
      · rw [if_pos hback, if_pos hback, if_pos hback, ite_lt_eq]
      · rw [if_neg hback, if_neg hback, if_neg hback, ite_lt_eq]

theorem frameLatencyAt_none (h : slot s.latencyMean i = none ∨ slot s.latencySamples i = none) :
    frameLatencyAt s i = none := by
  unfold frameLatencyAt
  rcases h with h | h
  · rw [h]
  · rw [h]
    cases slot s.latencyMean i <;> rfl

theorem frameLossAt_eq (h : slot s.lost i ≠ none) :
    frameLossAt s i = some (value s.lost i - (previous s s.lost i).elim 0 fun pv ↦
      if value s.lost i < pv then 0 else pv) := by
  rw [frameLossAt, slot_of_ne_none h]
  cases previous s s.lost i with
  | none => simp
  | some pv =>
    simp only [Option.elim_some]
    split_ifs <;> simp

end Frame

/-! ## Runs -/

section Runs

variable {s : Series} {n a b i : ℕ} {column : List (Option ℚ)}

theorem continues_of_continued (hi : 0 < i) (hpresent : Present s (i - 1))
    (h : Continued s column i) : continues s i = true := by
  obtain ⟨t, ht, hne⟩ := hpresent
  simp [continues, hi, ht, hne, h.1]

theorem previous_of_continued (hi : 0 < i) (hpresent : Present s (i - 1))
    (hknown : slot column (i - 1) ≠ none) {other : List (Option ℚ)} (h : Continued s other i) :
    previous s column i = some (value column (i - 1)) := by
  rw [previous, if_pos (continues_of_continued hi hpresent h), slot_of_ne_none hknown]

/-- A frame that has a predecessor with a value continues a run of present frames. -/
theorem of_previous {x : ℚ} (hpresent : Present s i) (h : previous s column i = some x) :
    0 < i ∧ Present s (i - 1) ∧ slot column (i - 1) ≠ none ∧ s.guids[i - 1]? = s.guids[i]? := by
  unfold previous at h
  split_ifs at h with hcontinues
  simp only [continues, Bool.and_eq_true, decide_eq_true_eq] at hcontinues
  obtain ⟨⟨hi, htransport⟩, hguids⟩ := hcontinues
  obtain ⟨t, ht, -⟩ := hpresent
  have hlt : i - 1 < s.transport.length := (Nat.sub_le i 1).trans_lt (List.getElem?_eq_some_iff.mp ht).1
  refine ⟨hi, ⟨s.transport[i - 1], List.getElem?_eq_getElem hlt, fun hzero ↦ htransport ?_⟩,
    by simp [h], hguids⟩
  rw [List.getElem?_eq_getElem hlt, hzero]

theorem CountRun.loss_sum (h : CountRun s s.lost n a b) :
    ∑ i ∈ Finset.Ico a b, value (frameLoss s n) i = value s.lost (b - 1) := by
  have hat (i : ℕ) (hi : i < n) (hknown : slot s.lost i ≠ none) :
      value (frameLoss s n) i = value s.lost i - (previous s s.lost i).elim 0 fun pv ↦
        if value s.lost i < pv then 0 else pv := by
    rw [value, frameLoss, slot_map_range _ hi, frameLossAt_eq hknown, Option.getD_some]
  refine MaximalRun.sum_eq h (fun hok hstarts ↦ ?_) fun i hi hib hprevious hok hjoins ↦ ?_
  · rw [hat a (h.lt.trans_le h.le) hok.2]
    cases hpv : previous s s.lost a with
    | none => simp
    | some pv =>
      obtain ⟨ha, hpresent, hknown, hguids⟩ := of_previous hok.1 hpv
      have hback : value s.lost a < value s.lost (a - 1) :=
        not_le.mp fun hle ↦ hstarts ha ⟨hpresent, hknown⟩ ⟨hguids, hle⟩
      rw [Option.elim_some, if_pos (previous_eq_some hpv ▸ hback), sub_zero]
  · rw [hat i (hib.trans_le h.le) hok.2,
      previous_of_continued (Nat.zero_lt_of_lt hi) hprevious.1 hprevious.2 hjoins, Option.elim_some,
      if_neg (not_lt.mpr hjoins.2)]

/-- The first frame of a run has nothing to subtract. -/
theorem LatencyRun.startsOver_first (h : LatencyRun s n a b) : startsOver s a = true := by
  have hok := h.holds a le_rfl h.lt
  unfold startsOver
  cases hpm : previous s s.latencyMean a with
  | none => simp
  | some pm =>
    cases hpk : previous s s.latencySamples a with
    | none => simp
    | some pk =>
      obtain ⟨ha, hpresent, hmean, hguids⟩ := of_previous hok.1 hpm
      have hcount := (of_previous hok.1 hpk).2.2.1
      have hback : value s.latencySamples a < value s.latencySamples (a - 1) :=
        not_le.mp fun hle ↦ h.starts ha ⟨hpresent, hmean, hcount⟩ ⟨hguids, hle⟩
      simp [hback]

theorem LatencyRun.startsOver_next (h : LatencyRun s n a b) (hi : a < i) (hib : i < b) :
    startsOver s i = false := by
  obtain ⟨hpresent, hmean, hcount⟩ := h.holds (i - 1) (by omega) (by omega)
  have hlinked := h.linked i hi hib
  have hpos := Nat.zero_lt_of_lt hi
  rw [startsOver, previous_of_continued hpos hpresent hmean hlinked,
    previous_of_continued hpos hpresent hcount hlinked]
  simpa using hlinked.2

theorem LatencyRun.newInRun_eq (h : LatencyRun s n a b) (hi : a ≤ i) (hib : i < b) :
    newInRun s a i = newSamples s i := by
  unfold newInRun newSamples
  rcases hi.eq_or_lt with rfl | hlt
  · rw [if_pos rfl, if_pos h.startsOver_first]
  · rw [if_neg hlt.ne', h.startsOver_next hlt hib]
    rfl

theorem LatencyRun.sumsUp (h : LatencyRun s n a b) (hfirst : 0 ≤ value s.latencySamples a)
    (hheld : ∀ i, a < i → i < b → value s.latencySamples (i - 1) = value s.latencySamples i →
      total s (i - 1) = total s i) : SumsUp s n a b := by
  have hat (i : ℕ) (hi : a ≤ i) (hib : i < b) :
      value (frameLatency s n) i =
        (if newSamples s i ≤ 0 then none
        else if startsOver s i then slot s.latencyMean i
        else some ((total s i - total s (i - 1)) / newSamples s i)).getD 0 := by
    obtain ⟨-, hmean, hcount⟩ := h.holds i hi hib
    rw [value, frameLatency, slot_map_range _ (hib.trans_le h.le), frameLatencyAt_eq hmean hcount]
  refine MaximalRun.sum_eq h (fun hok _ ↦ ?_) fun i hi hib hprevious hok hjoins ↦ ?_
  · rw [hat a le_rfl h.lt, h.newInRun_eq le_rfl h.lt, newSamples, h.startsOver_first]
    simp only [if_true, sub_zero]
    split_ifs with hnone
    · rw [total, le_antisymm hnone hfirst, mul_zero, mul_zero]
    · rfl
  · rw [hat i hi.le hib, h.newInRun_eq hi.le hib, newSamples, h.startsOver_next hi hib]
    simp only [Bool.false_eq_true, if_false]
    split_ifs with hnone
    · have hsame := le_antisymm hjoins.2 (sub_nonpos.mp hnone)
      rw [hheld i hi hib hsame, hsame, sub_self, sub_self, mul_zero]
    · exact div_mul_cancel₀ _ fun hzero ↦ hnone hzero.le

end Runs

/-! ## The charted columns -/

section Columns

variable {s : Series} {n i : ℕ}

theorem slot_frameLatency (hi : i < n) : slot (frameLatency s n) i = frameLatencyAt s i :=
  slot_map_range _ hi

theorem slot_frameLatency_eq_none_iff (hi : i < n) : slot (frameLatency s n) i = none ↔
    slot s.latencyMean i = none ∨ slot s.latencySamples i = none ∨ newSamples s i ≤ 0 := by
  rw [slot_frameLatency hi]
  by_cases hmean : slot s.latencyMean i = none
  · simp [hmean, frameLatencyAt_none (.inl hmean)]
  by_cases hcount : slot s.latencySamples i = none
  · simp [hcount, frameLatencyAt_none (.inr hcount)]
  rw [frameLatencyAt_eq hmean hcount, or_iff_right hmean, or_iff_right hcount]
  split_ifs with hnew
  · simpa using hnew
  · simpa [hmean] using hnew
  · simpa using hnew

theorem slot_frameLatency_of_startsOver (hi : i < n) (hover : startsOver s i = true)
    (hcount : 0 < value s.latencySamples i) :
    slot (frameLatency s n) i = slot s.latencyMean i := by
  rw [slot_frameLatency hi]
  by_cases hmean : slot s.latencyMean i = none
  · rw [hmean, frameLatencyAt_none (.inl hmean)]
  have hknown : slot s.latencySamples i ≠ none := fun hnone ↦ by
    rw [value, hnone] at hcount
    exact lt_irrefl 0 hcount
  have hnew : ¬newSamples s i ≤ 0 := by
    rw [newSamples, if_pos hover, sub_zero, not_le]
    exact hcount
  rw [frameLatencyAt_eq hmean hknown, if_neg hnew, if_pos hover]

/-- A value that is no mean is a quotient by the new samples. -/
theorem quotient_of_slot_frameLatency {x : ℚ} (h : slot (frameLatency s n) i = some x)
    (hover : startsOver s i = false) :
    0 < newSamples s i ∧ x = (total s i - total s (i - 1)) / newSamples s i := by
  have hi : i < n := by
    by_contra hle
    rw [frameLatency, slot_map_range_of_le _ (not_lt.mp hle)] at h
    cases h
  have hsome : slot (frameLatency s n) i ≠ none := by simp [h]
  rw [ne_eq, slot_frameLatency_eq_none_iff hi, not_or, not_or] at hsome
  obtain ⟨hmean, hcount, hnew⟩ := hsome
  rw [slot_frameLatency hi, frameLatencyAt_eq hmean hcount, if_neg hnew, hover] at h
  exact ⟨not_le.mp hnew, (Option.some.inj h).symm⟩

theorem slot_frameLoss_eq_none_iff (hi : i < n) :
    slot (frameLoss s n) i = none ↔ slot s.lost i = none := by
  rw [frameLoss, slot_map_range _ hi]
  constructor
  · intro h
    by_contra hknown
    rw [frameLossAt_eq hknown] at h
    cases h
  · intro h
    rw [frameLossAt, h]

end Columns

/-- What is charted rebuilds what was recorded, in every run of frames. -/
theorem rebuildsTotals (s : Series) (n : ℕ) : RebuildsTotals s n where
  latency _ _ h hfirst hheld := h.sumsUp hfirst hheld
  latency_none _ hi := slot_frameLatency_eq_none_iff hi
  own_mean _ hi hover hcount := slot_frameLatency_of_startsOver hi hover hcount
  quotient _ _ h hover := quotient_of_slot_frameLatency h hover
  loss _ _ h := h.loss_sum
  loss_none _ hi := slot_frameLoss_eq_none_iff hi

section Counterexample

/-- A pair that is in every frame, under one pair of GUIDs. -/
def steadySeries (means counts : List (Option ℚ)) : Series where
  transport := List.replicate counts.length 1
  guids := List.replicate counts.length 0
  hz := List.replicate counts.length none
  latencyMean := means
  latencySamples := counts
  lost := List.replicate counts.length none

theorem countRun_steadySeries (means : List (Option ℚ)) {counts : List (Option ℚ)}
    (hne : 0 < counts.length) (hknown : ∀ i < counts.length, slot counts i ≠ none)
    (hlinked : ∀ i < counts.length, value counts (i - 1) ≤ value counts i) :
    CountRun (steadySeries means counts) counts counts.length 0 counts.length where
  lt := hne
  le := le_rfl
  holds i _ hi := ⟨⟨1, by simp [steadySeries, hi], Nat.one_ne_zero⟩, hknown i hi⟩
  linked i hpos hi := by
    have hprevious : i - 1 < counts.length := by omega
    exact ⟨by simp [steadySeries, hi, hprevious], hlinked i hi⟩
  starts h := absurd h (lt_irrefl 0)
  ends h := absurd h (lt_irrefl _)

/-- A mean that changes without new samples, a mean that is NaN, and a negative count. -/
theorem not_sumsUpByCounts :
    ¬SumsUpByCounts (steadySeries [some 1, some 2] [some 5, some 5]) 2 ∧
      ¬SumsUpByCounts (steadySeries [none, some 1] [some 5, some 10]) 2 ∧
      ¬SumsUpByCounts (steadySeries [some 1] [some (-5)]) 1 := by
  refine ⟨fun h ↦ ?_, fun h ↦ ?_, fun h ↦ ?_⟩
  · have hsum := h 0 2 (countRun_steadySeries _ (by decide) (by decide) (by decide +kernel))
    revert hsum
    unfold SumsUp
    decide +kernel
  · have hsum := h 0 2 (countRun_steadySeries _ (by decide) (by decide) (by decide +kernel))
    revert hsum
    unfold SumsUp
    decide +kernel
  · have hsum := h 0 1 (countRun_steadySeries _ (by decide) (by decide) (by decide +kernel))
    revert hsum
    unfold SumsUp
    decide +kernel

end Counterexample

end TransportViz.Replay
