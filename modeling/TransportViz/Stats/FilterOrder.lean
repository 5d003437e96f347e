import Mathlib.Algebra.Order.BigOperators.Group.List
import TransportViz.Stats.Aggregates
import TransportViz.Stats.NodeFilter

/-!
# The node filter before and after the statistics

A topic that is filtered first gathers its numbers from the kept pairs; one that is measured first keeps
the numbers of all its pairs under the filter. `aggregatesCommute_iff` says when they are the same: the
hidden pairs must add nothing to what the kept ones say.
-/

namespace TransportViz.Stats

open Decision

/-- The numbers of a topic. -/
structure Aggregates where
  latency : ℚ
  latencyAvailable : Bool
  reliabilityAvailable : Bool
  lostAvailable : Bool
  lostPackets : ℕ
  resent : ℕ
  deriving DecidableEq

def aggregates (t : TopicSummary) : Aggregates where
  latency := t.latency
  latencyAvailable := t.latencyAvailable
  reliabilityAvailable := t.reliabilityAvailable
  lostAvailable := t.lostAvailable
  lostPackets := t.lostPackets
  resent := t.resent

/-- The topics that remain, with their numbers, are those of both orders. -/
def AggregatesCommute (topics : List TopicSummary) (nodeMatches : Endpoint → Bool)
    (stats : StatsData) : Prop :=
  (applyStats (filterByNode topics nodeMatches) stats).map (fun t ↦ (t.ddsTopic, aggregates t)) =
    (filterByNode (applyStats topics stats) nodeMatches).map fun t ↦ (t.ddsTopic, aggregates t)

/-- The RTPS_LOST entries that concern one of the pairs, and none of the kept ones. -/
def hiddenLosses (stats : StatsData) (kept : Pair → Bool) (pairs : List Pair) : List TrafficSample :=
  (concernedLosses stats pairs).filter fun s ↦ !(pairs.filter kept).any fun p ↦
    concernsLoss stats p.writer.toEndpoint p.reader.toEndpoint s

/-- The kept pairs alone say what all pairs say. What the hidden ones would add to a sum is nothing, or
a multiple of what its 64 bits hold. -/
structure HiddenAddNothing (stats : StatsData) (kept : Pair → Bool) (pairs : List Pair) : Prop where
  latency : ∀ p ∈ pairs, Sampled stats p.writer.toEndpoint p.reader.toEndpoint →
    ∃ q ∈ pairs, kept q = true ∧ Sampled stats q.writer.toEndpoint q.reader.toEndpoint ∧
      meanLatency stats p.writer.toEndpoint p.reader.toEndpoint ≤
        meanLatency stats q.writer.toEndpoint q.reader.toEndpoint
  reported : ∀ p ∈ pairs, Reported stats p.writer.toEndpoint p.reader.toEndpoint →
    ∃ q ∈ pairs, kept q = true ∧ Reported stats q.writer.toEndpoint q.reader.toEndpoint
  lossKnown : ∀ p ∈ pairs, LossKnown stats p.writer.toEndpoint p.reader.toEndpoint →
    ∃ q ∈ pairs, kept q = true ∧ LossKnown stats q.writer.toEndpoint q.reader.toEndpoint
  losses : Words.sum ((hiddenLosses stats kept pairs).map TrafficSample.windowPackets) = 0
  resent : Words.sum ((pairs.filter fun p ↦ !kept p).map fun p ↦
    resentOf stats p.writer.toEndpoint) = 0

section Sums

variable {stats : StatsData}

/-- Leaving elements out of a sum of words keeps it when theirs is zero. -/
theorem sum_filter_eq_iff {α : Type} (f : α → ℕ) (keep : α → Bool) (entries : List α) :
    Words.sum ((entries.filter keep).map f) = Words.sum (entries.map f) ↔
      Words.sum ((entries.filter fun a ↦ !keep a).map f) = 0 := by
  have hsplit := ((List.filter_append_perm keep entries).map f).sum_eq
  rw [List.map_append, List.sum_append] at hsplit
  rw [Words.sum_eq_mod, Words.sum_eq_mod, Words.sum_eq_mod, ← hsplit]
  unfold Words.modulus
  omega

theorem concernedLosses_filter (pairs : List Pair) (kept : Pair → Bool) :
    concernedLosses stats (pairs.filter kept) =
      (concernedLosses stats pairs).filter fun s ↦ (pairs.filter kept).any fun p ↦
        concernsLoss stats p.writer.toEndpoint p.reader.toEndpoint s := by
  unfold concernedLosses
  rw [List.filter_filter]
  refine List.filter_congr fun s _ ↦ ?_
  have himp : ((pairs.filter kept).any fun p ↦
        concernsLoss stats p.writer.toEndpoint p.reader.toEndpoint s) = true →
      (pairs.any fun p ↦ concernsLoss stats p.writer.toEndpoint p.reader.toEndpoint s) = true := by
    simp only [List.any_eq_true]
    rintro ⟨p, hp, hconcerns⟩
    exact ⟨p, (List.mem_filter.mp hp).1, hconcerns⟩
  cases hany : (pairs.filter kept).any fun p ↦
      concernsLoss stats p.writer.toEndpoint p.reader.toEndpoint s
  · rfl
  · rw [himp hany]
    rfl

theorem lostPackets_eq_iff (stats : StatsData) (pairs : List Pair) (kept : Pair → Bool) :
    Words.sum ((concernedLosses stats (pairs.filter kept)).map TrafficSample.windowPackets) =
        Words.sum ((concernedLosses stats pairs).map TrafficSample.windowPackets) ↔
      Words.sum ((hiddenLosses stats kept pairs).map TrafficSample.windowPackets) = 0 := by
  rw [concernedLosses_filter, sum_filter_eq_iff]
  rfl

end Sums

section Topic

variable {stats : StatsData} {pairs : List Pair} {kept : Pair → Bool} {t u : TopicSummary}

theorem exists_kept_iff (P : Pair → Prop) :
    (∃ q ∈ pairs.filter kept, P q) ↔ ∃ q ∈ pairs, kept q = true ∧ P q := by
  simp only [List.mem_filter, and_assoc]

/-- What all pairs have, some kept pair has. -/
theorem exists_mem_filter_iff (P : Pair → Prop) :
    ((∃ q ∈ pairs.filter kept, P q) ↔ ∃ p ∈ pairs, P p) ↔
      ∀ p ∈ pairs, P p → ∃ q ∈ pairs, kept q = true ∧ P q := by
  rw [exists_kept_iff]
  constructor
  · intro h p hp hP
    exact h.mpr ⟨p, hp, hP⟩
  · intro h
    constructor
    · rintro ⟨q, hq, -, hP⟩
      exact ⟨q, hq, hP⟩
    · rintro ⟨p, hp, hP⟩
      exact h p hp hP

/-- Both orders find the same slowest pair. -/
theorem latency_eq_iff (hall : Gathered stats pairs u)
    (hkept : Gathered stats (pairs.filter kept) t) :
    (t.latencyAvailable = u.latencyAvailable ∧ t.latency = u.latency) ↔
      ∀ p ∈ pairs, Sampled stats p.writer.toEndpoint p.reader.toEndpoint →
        ∃ q ∈ pairs, kept q = true ∧ Sampled stats q.writer.toEndpoint q.reader.toEndpoint ∧
          meanLatency stats p.writer.toEndpoint p.reader.toEndpoint ≤
            meanLatency stats q.writer.toEndpoint q.reader.toEndpoint := by
  constructor
  · rintro ⟨havailable, hlatency⟩ p hp hsampled
    have htold := havailable.trans (hall.latencyAvailable.mpr ⟨p, hp, hsampled⟩)
    obtain ⟨q, hq, hsampledq, hmean⟩ := hkept.attained htold
    obtain ⟨hmem, hkeptq⟩ := List.mem_filter.mp hq
    refine ⟨q, hmem, hkeptq, hsampledq, ?_⟩
    rw [hmean, hlatency]
    exact hall.slowest p hp hsampled
  · intro h
    have havailable : t.latencyAvailable = u.latencyAvailable := by
      rw [Bool.eq_iff_iff, hkept.latencyAvailable, hall.latencyAvailable, exists_mem_filter_iff]
      intro p hp hsampled
      obtain ⟨q, hq, hkeptq, hsampledq, -⟩ := h p hp hsampled
      exact ⟨q, hq, hkeptq, hsampledq⟩
    refine ⟨havailable, ?_⟩
    cases hu : u.latencyAvailable with
    | false => rw [hall.unsampled hu, hkept.unsampled (havailable.trans hu)]
    | true =>
      apply le_antisymm
      · obtain ⟨q, hq, hsampledq, hmean⟩ := hkept.attained (havailable.trans hu)
        rw [← hmean]
        exact hall.slowest q (List.mem_filter.mp hq).1 hsampledq
      · obtain ⟨p, hp, hsampled, hmean⟩ := hall.attained hu
        obtain ⟨q, hq, hkeptq, hsampledq, hle⟩ := h p hp hsampled
        rw [← hmean]
        exact hle.trans (hkept.slowest q (List.mem_filter.mpr ⟨hq, hkeptq⟩) hsampledq)

theorem aggregates_eq_iff (hall : Gathered stats pairs u)
    (hkept : Gathered stats (pairs.filter kept) t) :
    aggregates t = aggregates u ↔ HiddenAddNothing stats kept pairs := by
  have hlatency := latency_eq_iff hall hkept
  have hreported : t.reliabilityAvailable = u.reliabilityAvailable ↔
      ∀ p ∈ pairs, Reported stats p.writer.toEndpoint p.reader.toEndpoint →
        ∃ q ∈ pairs, kept q = true ∧ Reported stats q.writer.toEndpoint q.reader.toEndpoint := by
    rw [Bool.eq_iff_iff, hkept.reliabilityAvailable, hall.reliabilityAvailable,
      exists_mem_filter_iff fun p ↦ Reported stats p.writer.toEndpoint p.reader.toEndpoint]
  have hknown : t.lostAvailable = u.lostAvailable ↔
      ∀ p ∈ pairs, LossKnown stats p.writer.toEndpoint p.reader.toEndpoint →
        ∃ q ∈ pairs, kept q = true ∧ LossKnown stats q.writer.toEndpoint q.reader.toEndpoint := by
    rw [Bool.eq_iff_iff, hkept.lostAvailable, hall.lostAvailable,
      exists_mem_filter_iff fun p ↦ LossKnown stats p.writer.toEndpoint p.reader.toEndpoint]
  have hlost := lostPackets_eq_iff stats pairs kept
  rw [← hkept.lostPackets, ← hall.lostPackets] at hlost
  have hresent : t.resent = u.resent ↔ Words.sum ((pairs.filter fun p ↦ !kept p).map fun p ↦
      resentOf stats p.writer.toEndpoint) = 0 := by
    rw [hkept.resent, hall.resent, sum_filter_eq_iff]
  constructor
  · intro h
    obtain ⟨h₁, h₂, h₃, h₄, h₅, h₆⟩ := Aggregates.mk.inj h
    exact ⟨hlatency.mp ⟨h₂, h₁⟩, hreported.mp h₃, hknown.mp h₄, hlost.mp h₅, hresent.mp h₆⟩
  · intro h
    obtain ⟨h₂, h₁⟩ := hlatency.mpr h.latency
    unfold aggregates
    rw [h₁, h₂, hreported.mpr h.reported, hknown.mpr h.lossKnown, hlost.mpr h.losses,
      hresent.mpr h.resent]

end Topic

section Filter

/-- Two lists of what is left agree when they agree entry by entry. -/
theorem filterMap_eq_iff {α β : Type} (f g : α → Option β) (entries : List α)
    (h : ∀ a ∈ entries, (f a).isSome = (g a).isSome) :
    entries.filterMap f = entries.filterMap g ↔ ∀ a ∈ entries, f a = g a := by
  induction entries with
  | nil => simp
  | cons a rest ih =>
    obtain ⟨hhead, hrest⟩ := List.forall_mem_cons.mp h
    rw [List.forall_mem_cons, ← ih hrest]
    cases hf : f a <;> cases hg : g a <;> simp_all

variable {stats : StatsData} {nodeMatches : Endpoint → Bool}

/-- What a filtered topic keeps of its data. -/
theorem exists_filterTopic_of_remains {t : TopicSummary} (h : Remains nodeMatches t) :
    ∃ u, filterTopic nodeMatches t = some u ∧ u.ddsTopic = t.ddsTopic ∧
      u.pairs = keptPairs nodeMatches t ∧ aggregates u = aggregates t := by
  unfold filterTopic
  rw [if_neg fun hempty ↦ (keptEndpoints_eq_empty_iff nodeMatches t).mp hempty h]
  exact ⟨_, rfl, rfl, rfl, rfl⟩

theorem countPair_kept (stats : StatsData) (progress : TopicProgress) (p : Pair) :
    (countPair stats progress p).topic.writers = progress.topic.writers ∧
      (countPair stats progress p).topic.readers = progress.topic.readers ∧
      (countPair stats progress p).topic.ddsTopic = progress.topic.ddsTopic ∧
      (countPair stats progress p).topic.unmatchedReasons = progress.topic.unmatchedReasons := by
  unfold countPair
  simp only
  split_ifs <;> exact ⟨rfl, rfl, rfl, rfl⟩

theorem overlayPairs_kept (stats : StatsData) (rest : List Pair) (progress : TopicProgress)
    (done : List Pair) :
    (overlayPairs stats progress done rest).writers = progress.topic.writers ∧
      (overlayPairs stats progress done rest).readers = progress.topic.readers ∧
      (overlayPairs stats progress done rest).ddsTopic = progress.topic.ddsTopic ∧
      (overlayPairs stats progress done rest).unmatchedReasons =
        progress.topic.unmatchedReasons := by
  induction rest generalizing progress done with
  | nil => exact ⟨rfl, rfl, rfl, rfl⟩
  | cons p rest ih =>
    obtain ⟨hwriters, hreaders, htopic, hreasons⟩ := countPair_kept stats progress
      (measurePair stats p)
    obtain ⟨hwriters', hreaders', htopic', hreasons'⟩ :=
      ih (countPair stats progress (measurePair stats p))
        (done ++ [overlayPair stats
          (allReadersDatasharing (done ++ measurePair stats p :: rest) p) p])
    exact ⟨hwriters'.trans hwriters, hreaders'.trans hreaders, htopic'.trans htopic,
      hreasons'.trans hreasons⟩

/-- What the walk over the pairs of a topic leaves as it is. -/
theorem overlayTopic_kept (stats : StatsData) (t : TopicSummary) :
    (overlayTopic stats t).writers = t.writers ∧ (overlayTopic stats t).readers = t.readers ∧
      (overlayTopic stats t).ddsTopic = t.ddsTopic ∧
      (overlayTopic stats t).unmatchedReasons = t.unmatchedReasons :=
  overlayPairs_kept stats t.pairs _ []

theorem remains_overlayTopic (stats : StatsData) (t : TopicSummary) :
    Remains nodeMatches (overlayTopic stats t) ↔ Remains nodeMatches t := by
  obtain ⟨hwriters, hreaders, -⟩ := overlayTopic_kept stats t
  rw [Remains, Remains, hwriters, hreaders]

theorem overlayTopic_ddsTopic (t : TopicSummary) : (overlayTopic stats t).ddsTopic = t.ddsTopic :=
  (overlayTopic_kept stats t).2.2.1

theorem keptPairs_eq_filter {t : TopicSummary}
    (h : ∀ p ∈ t.pairs, p.writer ∈ t.writers ∧ p.reader ∈ t.readers) :
    keptPairs nodeMatches t = t.pairs.filter fun p ↦ KeptByNode nodeMatches p := by
  rw [keptPairs_of_ends h]
  apply List.filter_congr
  intro p _
  rw [Bool.eq_iff_iff, Bool.or_eq_true, decide_eq_true_iff]
  exact Iff.rfl

variable [Fnmatch] {endpoints : List Endpoint} {t : TopicSummary}

theorem keptPairs_eq (ht : IsSummary endpoints t) :
    keptPairs nodeMatches t = t.pairs.filter fun p ↦ decide (KeptByNode nodeMatches p) :=
  keptPairs_eq_filter ht.mem_ends

theorem measured_eq_of_isFresh {p : Pair} (h : IsFresh p) : p.measured = {} := by
  rw [h]
  rfl

/-- The two orders on one topic. -/
theorem filtered_eq_iff (ht : t ∈ summarize endpoints) :
    (filterTopic nodeMatches t).map (fun u ↦
          (u.ddsTopic, aggregates (overlayTopic stats u))) =
        (filterTopic nodeMatches (overlayTopic stats t)).map (fun u ↦ (u.ddsTopic, aggregates u)) ↔
      (Remains nodeMatches t →
        HiddenAddNothing stats (fun p ↦ KeptByNode nodeMatches p) t.pairs) := by
  by_cases hremains : Remains nodeMatches t
  · have hsummary := isSummary_of_mem endpoints t ht
    have hfresh : ∀ p ∈ t.pairs, p.measured = {} := fun p hp ↦
      measured_eq_of_isFresh (isFresh_of_mem ht hp)
    obtain ⟨u, hu, hname, hpairs, -⟩ := exists_filterTopic_of_remains hremains
    obtain ⟨v, hv, hname', -, hnumbers⟩ := exists_filterTopic_of_remains
      ((remains_overlayTopic stats t).mpr hremains)
    rw [keptPairs_eq hsummary] at hpairs
    have hall := gathered_overlayTopic stats hfresh
    have hkept := gathered_overlayTopic stats (t := u) (by
      rw [hpairs]
      exact fun p hp ↦ hfresh p (List.mem_filter.mp hp).1)
    rw [hpairs] at hkept
    rw [hu, hv, Option.map_some, Option.map_some, Option.some.injEq, Prod.mk.injEq, hname, hname',
      overlayTopic_ddsTopic, hnumbers, eq_self_iff_true, true_and, aggregates_eq_iff hall hkept]
    simp only [hremains, forall_const]
  · rw [filterTopic_of_not_remains hremains, filterTopic_of_not_remains fun h ↦
      hremains ((remains_overlayTopic stats t).mp h)]
    exact iff_of_true rfl fun h ↦ absurd h hremains

/-- Filtering and measuring commute on the numbers of the topics exactly when, in every topic that
remains, the hidden pairs add nothing to what the kept ones say. -/
theorem aggregatesCommute_iff (endpoints : List Endpoint) (nodeMatches : Endpoint → Bool)
    (stats : StatsData) :
    AggregatesCommute (summarize endpoints) nodeMatches stats ↔
      (stats.enabled = true → ∀ t ∈ summarize endpoints, Remains nodeMatches t →
        HiddenAddNothing stats (fun p ↦ KeptByNode nodeMatches p) t.pairs) := by
  unfold AggregatesCommute applyStats
  cases henabled : stats.enabled with
  | false => exact iff_of_true rfl fun h ↦ absurd h (by decide)
  | true =>
    have hremain (t : TopicSummary) (u : TopicSummary → Aggregates) :
        ((filterTopic nodeMatches t).map fun v ↦ (v.ddsTopic, u v)).isSome =
          ((filterTopic nodeMatches (overlayTopic stats t)).map fun v ↦
            (v.ddsTopic, aggregates v)).isSome := by
      rw [Option.isSome_map, Option.isSome_map]
      by_cases hremains : Remains nodeMatches t
      · obtain ⟨v, hv, -⟩ := exists_filterTopic_of_remains hremains
        obtain ⟨w, hw, -⟩ := exists_filterTopic_of_remains
          ((remains_overlayTopic stats t).mpr hremains)
        rw [hv, hw]
        rfl
      · rw [filterTopic_of_not_remains hremains, filterTopic_of_not_remains fun h ↦
          hremains ((remains_overlayTopic stats t).mp h)]
    simp only [if_true, forall_const, filterByNode, List.filterMap_map,
      List.map_filterMap, Option.map_map, Function.comp_def, overlayTopic_ddsTopic]
    rw [filterMap_eq_iff _ _ _ fun t _ ↦ hremain t fun v ↦ aggregates (overlayTopic stats v)]
    refine forall₂_congr fun t ht ↦ ?_
    rw [← filtered_eq_iff ht]

omit [Fnmatch] in
/-- A filter on the viewer's node hides the slow logger: a topic that was measured before shows the
logger's latency. -/
theorem slowLogger_not_aggregatesCommute :
    ¬AggregatesCommute (@summarize literalFnmatch
        [imageWriter, { imageReader 2 with nodeName := "/viewer" },
          { imageReader 3 with nodeName := "/logger" }])
      (fun e ↦ e.nodeName = "/viewer")
      { enabled := true
        latency := .ofList [
          (toLex (imageWriter.guid, (imageReader 2).guid), { sum := 1, samples := 1 }),
          (toLex (imageWriter.guid, (imageReader 3).guid), { sum := 5, samples := 1 })] } := by
  unfold AggregatesCommute
  decide +kernel

end Filter

end TransportViz.Stats
