import Mathlib.Algebra.BigOperators.Group.List.Lemmas
import TransportViz.Stats.Walk

/-!
# The numbers of a topic

The walk adds up the numbers of a topic while it measures the pairs. What it ends with is read off the
pairs: the slowest mean latency, whether any counter was reported, and the sums in 64 bits, in which an
RTPS_LOST entry that concerns several pairs counts once.
-/

namespace TransportViz.Stats

open Decision

/-! ## What the statistics say of a pair's numbers -/

section Pair

variable (stats : StatsData) (writer reader : Endpoint)

/-- The latency entries of the pair that have samples. -/
def latencyEntries : List LatencyStat :=
  ((guidPairs writer reader).filterMap stats.latency.find?).filter fun stat ↦ 0 < stat.samples

/-- The mean over all samples of the pair. -/
def meanLatency : ℚ :=
  ((latencyEntries stats writer reader).map LatencyStat.sum).sum /
    ((latencyEntries stats writer reader).map LatencyStat.samples).sum

/-- A latency of the pair was sampled. -/
def Sampled : Prop := latencyEntries stats writer reader ≠ []

/-- Losses of the pair would be known: a silent RTPS_LOST writer, or a loss that concerns it. -/
def LossKnown : Prop :=
  (reader.participantGuidPrefix, kStatsRtpsLostTopic) ∈ stats.statisticsWriters ∨
    ∃ s ∈ stats.lost, concernsLoss stats writer reader s = true

/-- Some counter of the entity was reported. -/
def Counted (counters : OrderedMap String DataCountSample) (e : Endpoint) : Prop :=
  ∃ guid ∈ entityGuids e, ∃ sample, counters.find? guid = some sample

/-- Something is known of the pair's reliability. -/
def Reported : Prop :=
  Counted stats.resentDatas writer ∨ Counted stats.heartbeats writer ∨ Counted stats.gaps writer ∨
    Counted stats.acknacks reader ∨ Counted stats.nackfrags reader ∨ LossKnown stats writer reader

/-- DATA that the writer sent again during the observation. -/
def resentOf : ℕ := (counterDelta stats.resentDatas (entityGuids writer)).getD 0

variable {stats writer reader}

theorem foldl_combine (entries : List LatencyStat) (start : LatencyStat) :
    (entries.foldl LatencyStat.combine start).sum = start.sum + (entries.map LatencyStat.sum).sum ∧
      (entries.foldl LatencyStat.combine start).samples =
        start.samples + (entries.map LatencyStat.samples).sum := by
  induction entries generalizing start with
  | nil => simp
  | cons entry rest ih =>
    obtain ⟨hsum, hsamples⟩ := ih (LatencyStat.combine start entry)
    rw [List.foldl_cons, hsum, hsamples, List.map_cons, List.map_cons, List.sum_cons, List.sum_cons]
    exact ⟨add_assoc _ _ _, Nat.add_assoc _ _ _⟩

theorem samples_pos_iff :
    0 < ((latencyEntries stats writer reader).map LatencyStat.samples).sum ↔
      Sampled stats writer reader := by
  rw [sum_pos_iff]
  constructor
  · rintro ⟨count, hcount, -⟩
    obtain ⟨stat, hstat, -⟩ := List.mem_map.mp hcount
    exact List.ne_nil_of_mem hstat
  · intro h
    obtain ⟨stat, hstat⟩ := List.exists_mem_of_ne_nil _ h
    have hpos := (List.mem_filter.mp hstat).2
    exact ⟨stat.samples, List.mem_map_of_mem hstat, by simpa using hpos⟩

theorem measureDelivery_latency (m : Measurement) (h : m.latencyAvailable = false) :
    ((measureDelivery stats writer reader m).latencyAvailable = true ↔
        Sampled stats writer reader) ∧
      (Sampled stats writer reader →
        (measureDelivery stats writer reader m).latency.mean = meanLatency stats writer reader) := by
  obtain ⟨hsum, hsamples⟩ := foldl_combine (latencyEntries stats writer reader) {}
  rw [show ({} : LatencyStat).sum = 0 from rfl, zero_add] at hsum
  rw [show ({} : LatencyStat).samples = 0 from rfl, zero_add] at hsamples
  have hpos := @samples_pos_iff stats writer reader
  rw [← hsamples] at hpos
  unfold latencyEntries at hsum hsamples hpos
  unfold measureDelivery
  simp only
  by_cases hsampled : Sampled stats writer reader
  · rw [if_pos (hpos.mpr hsampled)]
    refine ⟨iff_of_true rfl hsampled, fun _ ↦ ?_⟩
    rw [LatencyStat.mean, if_neg (hpos.mpr hsampled).ne', hsum, hsamples]
    rfl
  · rw [if_neg fun h ↦ hsampled (hpos.mp h)]
    refine ⟨iff_of_false ?_ hsampled, fun h ↦ absurd h hsampled⟩
    split_ifs <;> simp [h]

theorem measured_latency :
    ((measured stats writer reader).latencyAvailable = true ↔ Sampled stats writer reader) ∧
      (Sampled stats writer reader →
        (measured stats writer reader).latency.mean = meanLatency stats writer reader) := by
  simp only [measured, measure, measureTraffic, foldl_addTraffic, measureDataCount, measureRate_kept]
  exact measureDelivery_latency _ rfl

theorem measured_reliability :
    (measured stats writer reader).reliability = measureReliability stats writer reader {} := by
  simp only [measured, measure, measureTraffic, foldl_addTraffic, measureDataCount, measureRate_kept,
    measureDelivery_kept]

theorem counterDelta_isSome_iff (counters : OrderedMap String DataCountSample) (e : Endpoint) :
    (counterDelta counters (entityGuids e)).isSome = true ↔ Counted counters e := by
  unfold counterDelta Counted
  simp only
  by_cases hnil : (entityGuids e).filterMap counters.find? = []
  · rw [if_pos hnil]
    refine iff_of_false (by simp) ?_
    rintro ⟨guid, hguid, sample, hsample⟩
    exact List.ne_nil_of_mem ((mem_counters _ _ _).mpr ⟨guid, hguid, hsample⟩) hnil
  · rw [if_neg hnil]
    obtain ⟨sample, hmem⟩ := List.exists_mem_of_ne_nil _ hnil
    obtain ⟨guid, hguid, hsample⟩ := (mem_counters _ _ _).mp hmem
    exact iff_of_true rfl ⟨guid, hguid, sample, hsample⟩

theorem measured_lostAvailable :
    (measured stats writer reader).reliability.lostAvailable = true ↔
      LossKnown stats writer reader := by
  have hlosses : stats.lost.filter (concernsLoss stats writer reader) ≠ [] ↔
      ∃ s ∈ stats.lost, concernsLoss stats writer reader s = true := by
    rw [Ne, List.filter_eq_nil_iff]
    push Not
    rfl
  rw [measured_reliability, measureReliability, LossKnown, ← hlosses]
  exact decide_eq_true_iff

theorem measured_reported :
    (measured stats writer reader).reliability.available = true ↔ Reported stats writer reader := by
  have hlost := @measured_lostAvailable stats writer reader
  rw [measured_reliability] at hlost ⊢
  unfold Reported
  rw [← counterDelta_isSome_iff, ← counterDelta_isSome_iff, ← counterDelta_isSome_iff,
    ← counterDelta_isSome_iff, ← counterDelta_isSome_iff, ← hlost]
  simp only [measureReliability, Bool.or_eq_true, Bool.false_or, or_assoc]

theorem measured_resent : (measured stats writer reader).reliability.resent = resentOf stats writer := by
  rw [measured_reliability]
  rfl

theorem resentOf_eq_zero (h : ¬Reported stats writer reader) : resentOf stats writer = 0 := by
  have hnone : ¬(counterDelta stats.resentDatas (entityGuids writer)).isSome = true := fun hsome ↦
    h (.inl ((counterDelta_isSome_iff _ _).mp hsome))
  rw [resentOf, Option.not_isSome_iff_eq_none.mp hnone]
  rfl

end Pair

/-! ## What a topic ends with -/

section Topic

variable {stats : StatsData}

/-- The entries that concern one of the pairs. -/
def concernedLosses (stats : StatsData) (pairs : List Pair) : List TrafficSample :=
  stats.lost.filter fun s ↦
    pairs.any fun p ↦ concernsLoss stats p.writer.toEndpoint p.reader.toEndpoint s

/-- The numbers of a topic that has measured these pairs. -/
structure Gathered (stats : StatsData) (pairs : List Pair) (t : TopicSummary) : Prop where
  latencyAvailable : t.latencyAvailable = true ↔
    ∃ p ∈ pairs, Sampled stats p.writer.toEndpoint p.reader.toEndpoint
  unsampled : t.latencyAvailable = false → t.latency = 0
  slowest : ∀ p ∈ pairs, Sampled stats p.writer.toEndpoint p.reader.toEndpoint →
    meanLatency stats p.writer.toEndpoint p.reader.toEndpoint ≤ t.latency
  attained : t.latencyAvailable = true →
    ∃ p ∈ pairs, Sampled stats p.writer.toEndpoint p.reader.toEndpoint ∧
      meanLatency stats p.writer.toEndpoint p.reader.toEndpoint = t.latency
  reliabilityAvailable : t.reliabilityAvailable = true ↔
    ∃ p ∈ pairs, Reported stats p.writer.toEndpoint p.reader.toEndpoint
  lostAvailable : t.lostAvailable = true ↔
    ∃ p ∈ pairs, LossKnown stats p.writer.toEndpoint p.reader.toEndpoint
  lostPackets : t.lostPackets =
    Words.sum ((concernedLosses stats pairs).map TrafficSample.windowPackets)
  resent : t.resent = Words.sum (pairs.map fun p ↦ resentOf stats p.writer.toEndpoint)

/-- The numbers so far, with the entries that are in them. -/
structure Gathering (stats : StatsData) (done : List Pair) (progress : TopicProgress) : Prop
    extends Gathered stats done progress.topic where
  counted : ∀ it ∈ stats.lost.zipIdx, it.2 ∈ progress.lost ↔
    (done.any fun p ↦ concernsLoss stats p.writer.toEndpoint p.reader.toEndpoint it.1) = true

theorem sum_map_filter_or {α : Type} (f : α → ℕ) (a b : α → Bool) (entries : List α) :
    ((entries.filter fun s ↦ a s || b s).map f).sum =
      ((entries.filter a).map f).sum + ((entries.filter fun s ↦ b s && !a s).map f).sum := by
  induction entries with
  | nil => rfl
  | cons s rest ih =>
    simp only [List.filter_cons]
    cases ha : a s <;> cases hb : b s <;> simp [ih] <;> omega

/-- The entries a pair adds are those that concern it and no pair before it. -/
theorem map_fresh {lost : Finset ℕ} {concerns seen : TrafficSample → Bool}
    (h : ∀ it ∈ stats.lost.zipIdx, it.2 ∈ lost ↔ seen it.1 = true) :
    (stats.lost.zipIdx.filter fun it ↦ concerns it.1 && it.2 ∉ lost).map
        (fun it ↦ TrafficSample.windowPackets it.1) =
      (stats.lost.filter fun s ↦ concerns s && !seen s).map TrafficSample.windowPackets := by
  have hfilter : (stats.lost.zipIdx.filter fun it ↦ concerns it.1 && it.2 ∉ lost) =
      stats.lost.zipIdx.filter ((fun s ↦ concerns s && !seen s) ∘ Prod.fst) := by
    refine List.filter_congr fun it hit ↦ ?_
    have hseen := h it hit
    by_cases hmem : it.2 ∈ lost
    · simp [hmem, hseen.mp hmem]
    · simp [hmem, Bool.eq_false_iff.mpr (hseen.not.mp hmem)]
  rw [hfilter]
  conv_rhs => rw [← List.zipIdx_map_fst 0 stats.lost, List.filter_map, List.map_map]
  rfl

section Step

variable (stats) (progress : TopicProgress) (p : Pair)

theorem countPair_latency :
    (countPair stats progress p).topic.latencyAvailable =
        (progress.topic.latencyAvailable || p.measured.latencyAvailable) ∧
      (countPair stats progress p).topic.latency =
        if p.measured.latencyAvailable = true ∧ (¬progress.topic.latencyAvailable = true ∨
            progress.topic.latency < p.measured.latency.mean) then p.measured.latency.mean
        else progress.topic.latency := by
  unfold countPair
  cases hsampled : p.measured.latencyAvailable <;>
    cases hreported : p.measured.reliability.available <;> simp [hreported]

theorem countPair_reliability :
    (countPair stats progress p).topic.reliabilityAvailable =
        (progress.topic.reliabilityAvailable || p.measured.reliability.available) ∧
      (countPair stats progress p).topic.lostAvailable =
        (progress.topic.lostAvailable ||
          (p.measured.reliability.available && p.measured.reliability.lostAvailable)) ∧
      (countPair stats progress p).topic.resent =
        if p.measured.reliability.available then
          Words.add progress.topic.resent p.measured.reliability.resent
        else progress.topic.resent := by
  unfold countPair
  simp only
  split_ifs <;> simp_all

theorem countPair_lostPackets :
    (countPair stats progress p).topic.lostPackets =
      ((stats.lost.zipIdx.filter fun it ↦
        concernsLoss stats p.writer.toEndpoint p.reader.toEndpoint it.1 &&
          it.2 ∉ progress.lost).map fun it ↦ TrafficSample.windowPackets it.1).foldl Words.add
        progress.topic.lostPackets := by
  unfold countPair
  simp only
  split_ifs <;> rfl

theorem mem_countPair_lost {it : TrafficSample × ℕ} (hit : it ∈ stats.lost.zipIdx) :
    it.2 ∈ (countPair stats progress p).lost ↔ it.2 ∈ progress.lost ∨
      concernsLoss stats p.writer.toEndpoint p.reader.toEndpoint it.1 = true := by
  unfold countPair
  simp only [Finset.mem_union, List.mem_toFinset, List.mem_map, List.mem_filter, Bool.and_eq_true,
    decide_eq_true_eq]
  constructor
  · rintro (hold | ⟨other, ⟨hother, hconcerns, -⟩, heq⟩)
    · exact .inl hold
    · -- one index, one entry
      have hentry : other = it := by
        rw [List.mem_zipIdx_iff_getElem?] at hit hother
        rw [heq, hit, Option.some.injEq] at hother
        exact Prod.ext hother.symm heq
      exact .inr (hentry ▸ hconcerns)
  · rintro (hold | hconcerns)
    · exact .inl hold
    · by_cases hold : it.2 ∈ progress.lost
      · exact .inl hold
      · exact .inr ⟨it, ⟨hit, hconcerns, hold⟩, rfl⟩

theorem measured_measurePair (hfresh : p.measured = {}) :
    (measurePair stats p).measured = measured stats p.writer.toEndpoint p.reader.toEndpoint := by
  rw [measurePair, hfresh]

theorem latencyAvailable_countPair (hfresh : p.measured = {}) :
    (countPair stats progress (measurePair stats p)).topic.latencyAvailable = true ↔
      progress.topic.latencyAvailable = true ∨
        Sampled stats p.writer.toEndpoint p.reader.toEndpoint := by
  rw [(countPair_latency stats progress _).1, measured_measurePair stats p hfresh, Bool.or_eq_true,
    measured_latency.1]

/-- The latency becomes that of the pair when it is the first or a slower one, and stays otherwise. -/
theorem latency_countPair (hfresh : p.measured = {}) :
    (Sampled stats p.writer.toEndpoint p.reader.toEndpoint ∧
      (progress.topic.latencyAvailable = true →
        progress.topic.latency < meanLatency stats p.writer.toEndpoint p.reader.toEndpoint) ∧
      (countPair stats progress (measurePair stats p)).topic.latency =
        meanLatency stats p.writer.toEndpoint p.reader.toEndpoint) ∨
    ((Sampled stats p.writer.toEndpoint p.reader.toEndpoint →
        progress.topic.latencyAvailable = true ∧
          meanLatency stats p.writer.toEndpoint p.reader.toEndpoint ≤ progress.topic.latency) ∧
      (countPair stats progress (measurePair stats p)).topic.latency = progress.topic.latency) := by
  obtain ⟨hsampled, hmean⟩ := @measured_latency stats p.writer.toEndpoint p.reader.toEndpoint
  rw [(countPair_latency stats progress _).2, measured_measurePair stats p hfresh]
  split_ifs with hslower
  · left
    have hnew := hsampled.mp hslower.1
    refine ⟨hnew, fun hbefore ↦ ?_, hmean hnew⟩
    rw [← hmean hnew]
    exact hslower.2.resolve_left fun hnot ↦ hnot hbefore
  · right
    refine ⟨fun hnew ↦ ?_, rfl⟩
    rw [← hmean hnew]
    exact ⟨not_not.mp fun hnot ↦ hslower ⟨hsampled.mpr hnew, .inl hnot⟩,
      not_lt.mp fun hlt ↦ hslower ⟨hsampled.mpr hnew, .inr hlt⟩⟩

theorem reliabilityAvailable_countPair (hfresh : p.measured = {}) :
    (countPair stats progress (measurePair stats p)).topic.reliabilityAvailable = true ↔
      progress.topic.reliabilityAvailable = true ∨
        Reported stats p.writer.toEndpoint p.reader.toEndpoint := by
  rw [(countPair_reliability stats progress _).1, measured_measurePair stats p hfresh, Bool.or_eq_true,
    measured_reported]

theorem lostAvailable_countPair (hfresh : p.measured = {}) :
    (countPair stats progress (measurePair stats p)).topic.lostAvailable = true ↔
      progress.topic.lostAvailable = true ∨
        LossKnown stats p.writer.toEndpoint p.reader.toEndpoint := by
  have hreported : LossKnown stats p.writer.toEndpoint p.reader.toEndpoint →
      Reported stats p.writer.toEndpoint p.reader.toEndpoint :=
    fun hknown ↦ .inr (.inr (.inr (.inr (.inr hknown))))
  rw [(countPair_reliability stats progress _).2.1, measured_measurePair stats p hfresh, Bool.or_eq_true,
    Bool.and_eq_true, measured_reported, measured_lostAvailable, and_iff_right_of_imp hreported]

/-- A pair without a report has nothing to add. -/
theorem resent_countPair (hfresh : p.measured = {}) {words : List ℕ}
    (hwords : progress.topic.resent = Words.sum words) :
    (countPair stats progress (measurePair stats p)).topic.resent =
      Words.sum (words ++ [resentOf stats p.writer.toEndpoint]) := by
  rw [(countPair_reliability stats progress _).2.2, measured_measurePair stats p hfresh, measured_resent,
    hwords, Words.sum_concat]
  split_ifs with hsome
  · rfl
  · rw [resentOf_eq_zero fun hreport ↦ hsome (measured_reported.mpr hreport), Words.add_sum_zero]

variable {stats progress p} {done : List Pair}

theorem concernedLosses_concat (done : List Pair) (p : Pair) :
    Words.sum ((concernedLosses stats (done ++ [p])).map TrafficSample.windowPackets) =
      Words.add (Words.sum ((concernedLosses stats done).map TrafficSample.windowPackets))
        (Words.sum ((stats.lost.filter fun s ↦
          concernsLoss stats p.writer.toEndpoint p.reader.toEndpoint s &&
            !done.any fun q ↦ concernsLoss stats q.writer.toEndpoint q.reader.toEndpoint s).map
              TrafficSample.windowPackets)) := by
  unfold concernedLosses
  simp only [List.any_append, List.any_cons, List.any_nil, Bool.or_false]
  rw [Words.sum_eq_mod, Words.sum_eq_mod, Words.sum_eq_mod, sum_map_filter_or, Words.add, ← Nat.add_mod]

theorem exists_mem_concat_iff (done : List Pair) (p : Pair) (P : Pair → Prop) :
    (∃ q ∈ done ++ [p], P q) ↔ (∃ q ∈ done, P q) ∨ P p := by
  simp only [List.mem_append, List.mem_singleton, or_and_right, exists_or, exists_eq_left]

theorem Gathering.slowest_step (h : Gathering stats done progress) (hfresh : p.measured = {}) :
    ∀ q ∈ done ++ [p], Sampled stats q.writer.toEndpoint q.reader.toEndpoint →
      meanLatency stats q.writer.toEndpoint q.reader.toEndpoint ≤
        (countPair stats progress (measurePair stats p)).topic.latency := by
  intro q hq hsampled
  rcases List.mem_append.mp hq with hdone | hnew
  · have hle := h.slowest q hdone hsampled
    have hbefore := h.latencyAvailable.mpr ⟨q, hdone, hsampled⟩
    obtain ⟨-, hslower, hlatency⟩ | ⟨-, hlatency⟩ := latency_countPair stats progress p hfresh
    · exact hlatency ▸ hle.trans (hslower hbefore).le
    · exact hlatency ▸ hle
  · obtain rfl := List.mem_singleton.mp hnew
    obtain ⟨-, -, hlatency⟩ | ⟨hkept, hlatency⟩ := latency_countPair stats progress q hfresh
    · exact hlatency.ge
    · exact hlatency ▸ (hkept hsampled).2

theorem Gathering.attained_step (h : Gathering stats done progress) (hfresh : p.measured = {})
    (hsome : (countPair stats progress (measurePair stats p)).topic.latencyAvailable = true) :
    ∃ q ∈ done ++ [p], Sampled stats q.writer.toEndpoint q.reader.toEndpoint ∧
      meanLatency stats q.writer.toEndpoint q.reader.toEndpoint =
        (countPair stats progress (measurePair stats p)).topic.latency := by
  rw [exists_mem_concat_iff]
  obtain ⟨hsampled, -, hlatency⟩ | ⟨hkept, hlatency⟩ := latency_countPair stats progress p hfresh
  · exact .inr ⟨hsampled, hlatency.symm⟩
  · have hbefore : progress.topic.latencyAvailable = true :=
      ((latencyAvailable_countPair stats progress p hfresh).mp hsome).elim id
        fun hsampled ↦ (hkept hsampled).1
    exact .inl (hlatency ▸ h.attained hbefore)

/-- One more pair of the walk. -/
theorem Gathering.step (h : Gathering stats done progress) (hfresh : p.measured = {}) :
    Gathering stats (done ++ [p]) (countPair stats progress (measurePair stats p)) where
  latencyAvailable := by
    rw [latencyAvailable_countPair stats progress p hfresh, h.latencyAvailable, exists_mem_concat_iff]
  unsampled hnone := by
    have hsilent := (latencyAvailable_countPair stats progress p hfresh).not.mp
      (Bool.not_eq_true _ ▸ hnone)
    rw [not_or, Bool.not_eq_true] at hsilent
    obtain ⟨hsampled, -, -⟩ | ⟨-, hlatency⟩ := latency_countPair stats progress p hfresh
    · exact absurd hsampled hsilent.2
    · exact hlatency.trans (h.unsampled hsilent.1)
  slowest := h.slowest_step hfresh
  attained := h.attained_step hfresh
  reliabilityAvailable := by
    rw [reliabilityAvailable_countPair stats progress p hfresh, h.reliabilityAvailable,
      exists_mem_concat_iff]
  lostAvailable := by
    rw [lostAvailable_countPair stats progress p hfresh, h.lostAvailable, exists_mem_concat_iff]
  lostPackets := by
    rw [countPair_lostPackets, h.lostPackets, concernedLosses_concat, Words.foldl_add_sum]
    exact congrArg _ (congrArg Words.sum (map_fresh h.counted))
  resent := by
    rw [resent_countPair stats progress p hfresh h.resent, List.map_append, List.map_singleton]
  counted it hit := by
    rw [mem_countPair_lost _ _ _ hit, h.counted it hit, List.any_append, Bool.or_eq_true,
      List.any_cons, List.any_nil, Bool.or_false]
    exact Iff.rfl

end Step

/-- The numbers do not look at the pairs that are stored. -/
theorem Gathered.withPairs {pairs stored : List Pair} {t : TopicSummary}
    (h : Gathered stats pairs t) : Gathered stats pairs { t with pairs := stored } where
  latencyAvailable := h.latencyAvailable
  unsampled := h.unsampled
  slowest := h.slowest
  attained := h.attained
  reliabilityAvailable := h.reliabilityAvailable
  lostAvailable := h.lostAvailable
  lostPackets := h.lostPackets
  resent := h.resent

theorem gathered_overlayPairs (rest : List Pair) {done : List Pair} {progress : TopicProgress}
    (h : Gathering stats done progress) (hfresh : ∀ p ∈ rest, p.measured = {})
    (stored : List Pair) :
    Gathered stats (done ++ rest) (overlayPairs stats progress stored rest) := by
  induction rest generalizing done progress stored with
  | nil =>
    rw [List.append_nil]
    exact h.toGathered.withPairs
  | cons p rest ih =>
    have hstep := h.step (hfresh p (List.mem_cons_self ..))
    have hrest := ih hstep (fun q hq ↦ hfresh q (List.mem_cons_of_mem p hq))
    rw [List.append_assoc, List.singleton_append] at hrest
    exact hrest _

/-- What a measured topic ends with. -/
theorem gathered_overlayTopic (stats : StatsData) {t : TopicSummary}
    (hfresh : ∀ p ∈ t.pairs, p.measured = {}) :
    Gathered stats t.pairs (overlayTopic stats t) := by
  refine @gathered_overlayPairs stats t.pairs [] _ ?_ hfresh []
  constructor
  · constructor <;> simp [concernedLosses]
  · simp

end Topic

end TransportViz.Stats
