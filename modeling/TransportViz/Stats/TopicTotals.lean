import Mathlib.Order.Bounds.Basic
import TransportViz.Stats.WordCounters

/-!
# The totals of a topic and its pairs

Each total of a measured topic, told by what its pairs carry: sums in 64 bits, the slowest mean latency,
and the losses, in which an RTPS_LOST entry counts once however many pairs it is attributed to.
-/

namespace TransportViz.Stats

open Decision

/-- The RTPS_LOST entries attributed to one of the pairs at least, each one once. -/
def attributedLosses (stats : StatsData) (pairs : List Pair) : List TrafficSample :=
  if stats.enabled then concernedLosses stats pairs else []

/-- The mean latencies of the pairs with latency samples. -/
def meanLatencies (pairs : List Pair) : Set ℚ :=
  { mean | ∃ q ∈ pairs, 0 < q.measured.latency.samples ∧ q.measured.latency.mean = mean }

/-- The totals of a topic are those of its pairs. -/
structure TopicTotals (stats : StatsData) (u : TopicSummary) : Prop where
  lostPackets_eq : u.lostPackets =
    Words.sum ((attributedLosses stats u.pairs).map TrafficSample.windowPackets)
  lostAvailable_iff : u.lostAvailable = true ↔
    ∃ q ∈ u.pairs, q.measured.reliability.lostAvailable = true
  resent_eq : u.resent = Words.sum (u.pairs.map fun q ↦ q.measured.reliability.resent)
  latencyAvailable_iff : u.latencyAvailable = true ↔
    ∃ q ∈ u.pairs, 0 < q.measured.latency.samples
  slowest : u.latencyAvailable = true → IsGreatest (meanLatencies u.pairs) u.latency

/-- Between the same two participants, to the same unicast locators. -/
structure SharesLosses (p q : Pair) : Prop where
  writer_eq : p.writer.participantGuidPrefix = q.writer.participantGuidPrefix
  reader_eq : p.reader.participantGuidPrefix = q.reader.participantGuidPrefix
  unicast_iff : ∀ l, l ∈ p.reader.unicast ↔ l ∈ q.reader.unicast

/-- The two sums by the differences of the source, and as natural numbers wherever they fit. -/
structure TotalsInWords (stats : StatsData) (u : TopicSummary) : Prop where
  lostPackets_word : u.lostPackets =
    Words.sum ((attributedLosses stats u.pairs).map fun s ↦ wordDelta s.packets s.packetsFirst)
  resent_word : u.resent = Words.sum (u.pairs.map fun q ↦ (countersOf q.measured).resent)
  lostPackets_fit :
    ((attributedLosses stats u.pairs).map TrafficSample.windowPackets).sum < Words.modulus →
      u.lostPackets = ((attributedLosses stats u.pairs).map TrafficSample.windowPackets).sum
  resent_fit : (u.pairs.map fun q ↦ q.measured.reliability.resent).sum < Words.modulus →
    u.resent = (u.pairs.map fun q ↦ q.measured.reliability.resent).sum

/-- The totals of all topics, and the losses that pairs share. -/
structure LossesCountOnce (stats : StatsData) (topics : List TopicSummary) : Prop where
  totals : ∀ u ∈ topics, TopicTotals stats u
  words : ∀ u ∈ topics, TotalsInWords stats u
  shared : ∀ u ∈ topics, ∀ v ∈ topics, ∀ p ∈ u.pairs, ∀ q ∈ v.pairs, SharesLosses p q →
    p.measured.reliability.lostPackets = q.measured.reliability.lostPackets

/-! ## Without statistics -/

section Unmeasured

/-- No total is anything yet. -/
structure Untotalled (t : TopicSummary) : Prop where
  latencyAvailable_eq : t.latencyAvailable = false
  lostAvailable_eq : t.lostAvailable = false
  lostPackets_eq : t.lostPackets = 0
  resent_eq : t.resent = 0

theorem untotalled_addEndpoint {t : TopicSummary} (h : Untotalled t) (e : EndpointPtr) :
    Untotalled (addEndpoint t e) := by
  unfold addEndpoint nameTopic
  simp only
  split_ifs <;>
    exact ⟨h.latencyAvailable_eq, h.lostAvailable_eq, h.lostPackets_eq, h.resent_eq⟩

theorem untotalled_byTopic (endpoints : List Endpoint) (ddsTopic : String) (t : TopicSummary)
    (h : (byTopic endpoints).find? ddsTopic = some t) : Untotalled t := by
  rw [byTopic, OrderedMap.find?_foldl_alter (pointers endpoints) (fun e ↦ e.ddsTopic)
    (fun e t ↦ addEndpoint (t.getD {}) e) .empty ddsTopic, OrderedMap.find?_empty] at h
  have hfold (group : List EndpointPtr) (start : Option TopicSummary)
      (hstart : ∀ s, start = some s → Untotalled s) (result : TopicSummary)
      (hresult : group.foldl (fun t e ↦ some (addEndpoint (t.getD {}) e)) start = some result) :
      Untotalled result := by
    induction group generalizing start with
    | nil => exact hstart result hresult
    | cons e rest ih =>
      apply ih _ _ hresult
      intro s hs
      rw [← Option.some.inj hs]
      apply untotalled_addEndpoint
      cases start with
      | none => exact ⟨rfl, rfl, rfl, rfl⟩
      | some first => exact hstart first rfl
  exact hfold _ none (fun s hs ↦ by cases hs) t h

variable [Fnmatch]

theorem untotalled_of_mem {endpoints : List Endpoint} {t : TopicSummary}
    (ht : t ∈ summarize endpoints) : Untotalled t := by
  obtain ⟨ddsTopic, group, hfind, hkind⟩ := exists_group_of_mem ht
  have h := untotalled_byTopic endpoints ddsTopic _ hfind
  unfold KindOnly at hkind
  rw [hkind]
  exact ⟨h.latencyAvailable_eq, h.lostAvailable_eq, h.lostPackets_eq, h.resent_eq⟩

end Unmeasured

/-! ## With statistics -/

section Measured

variable {stats : StatsData}

/-- The ends of a pair, which is all that the statistics look at. -/
def endsOf (p : Pair) : EndpointPtr × EndpointPtr := (p.writer, p.reader)

theorem exists_of_ends {pairs others : List Pair} (hends : others.map endsOf = pairs.map endsOf)
    {q : Pair} (hq : q ∈ others) : ∃ p ∈ pairs, p.writer = q.writer ∧ p.reader = q.reader := by
  have hmem : endsOf q ∈ pairs.map endsOf := hends ▸ List.mem_map_of_mem hq
  obtain ⟨p, hp, heq⟩ := List.mem_map.mp hmem
  exact ⟨p, hp, congrArg Prod.fst heq, congrArg Prod.snd heq⟩

theorem exists_ends_iff {pairs others : List Pair} (hends : others.map endsOf = pairs.map endsOf)
    (P : EndpointPtr → EndpointPtr → Prop) :
    (∃ q ∈ others, P q.writer q.reader) ↔ ∃ p ∈ pairs, P p.writer p.reader := by
  constructor
  · intro ⟨q, hq, hP⟩
    obtain ⟨p, hp, hwriter, hreader⟩ := exists_of_ends hends hq
    exact ⟨p, hp, by rwa [hwriter, hreader]⟩
  · intro ⟨p, hp, hP⟩
    obtain ⟨q, hq, hwriter, hreader⟩ := exists_of_ends hends.symm hp
    exact ⟨q, hq, by rwa [hwriter, hreader]⟩

theorem concernedLosses_of_ends {pairs others : List Pair}
    (hends : others.map endsOf = pairs.map endsOf) :
    concernedLosses stats others = concernedLosses stats pairs := by
  apply List.filter_congr
  intro s _
  rw [Bool.eq_iff_iff, List.any_eq_true, List.any_eq_true]
  exact exists_ends_iff hends fun w r ↦ concernsLoss stats w.toEndpoint r.toEndpoint s = true

/-- The totals of a topic look at the ends of its pairs only. -/
theorem Gathered.of_ends {pairs others : List Pair} {t : TopicSummary} (h : Gathered stats pairs t)
    (hends : others.map endsOf = pairs.map endsOf) : Gathered stats others t where
  latencyAvailable := h.latencyAvailable.trans
    (exists_ends_iff hends fun w r ↦ Sampled stats w.toEndpoint r.toEndpoint).symm
  unsampled := h.unsampled
  slowest q hq hsampled := by
    obtain ⟨p, hp, hwriter, hreader⟩ := exists_of_ends hends hq
    rw [← hwriter, ← hreader] at hsampled ⊢
    exact h.slowest p hp hsampled
  attained hsome := (exists_ends_iff hends fun w r ↦ Sampled stats w.toEndpoint r.toEndpoint ∧
    meanLatency stats w.toEndpoint r.toEndpoint = t.latency).mpr (h.attained hsome)
  reliabilityAvailable := h.reliabilityAvailable.trans
    (exists_ends_iff hends fun w r ↦ Reported stats w.toEndpoint r.toEndpoint).symm
  lostAvailable := h.lostAvailable.trans
    (exists_ends_iff hends fun w r ↦ LossKnown stats w.toEndpoint r.toEndpoint).symm
  lostPackets := by rw [h.lostPackets, concernedLosses_of_ends hends]
  resent := by
    have hmap := congrArg (List.map fun ends : EndpointPtr × EndpointPtr ↦
      resentOf stats ends.1.toEndpoint) hends
    rw [List.map_map, List.map_map] at hmap
    rw [h.resent]
    exact congrArg Words.sum hmap.symm

/-- A pair has latency samples when the statistics have some of it. -/
theorem measured_samples_pos_iff {writer reader : Endpoint} :
    0 < (measured stats writer reader).latency.samples ↔ Sampled stats writer reader := by
  have hpos := @samples_pos_iff stats writer reader
  have hsamples := (foldl_combine (latencyEntries stats writer reader) {}).2
  have hzero : ({} : LatencyStat).samples = 0 := rfl
  rw [hzero, Nat.zero_add] at hsamples
  rw [← hpos, ← hsamples]
  simp only [measured, measure, measureTraffic, foldl_addTraffic, measureDataCount,
    measureRate_kept, measureDelivery]
  unfold latencyEntries
  split_ifs <;> simp_all

theorem topicTotals_of_gathered {u : TopicSummary} (henabled : stats.enabled = true)
    (h : Gathered stats u.pairs u) (hmeasured : ∀ q ∈ u.pairs,
      q.measured = measured stats q.writer.toEndpoint q.reader.toEndpoint) : TopicTotals stats u where
  lostPackets_eq := by
    rw [attributedLosses, if_pos henabled]
    exact h.lostPackets
  lostAvailable_iff := by
    rw [h.lostAvailable]
    apply exists_congr
    intro q
    apply and_congr_right
    intro hq
    rw [hmeasured q hq, measured_lostAvailable]
  resent_eq := by
    rw [h.resent]
    apply congrArg Words.sum
    apply List.map_congr_left
    intro q hq
    rw [hmeasured q hq, measured_resent]
  latencyAvailable_iff := by
    rw [h.latencyAvailable]
    apply exists_congr
    intro q
    apply and_congr_right
    intro hq
    rw [hmeasured q hq, measured_samples_pos_iff]
  slowest hsome := by
    constructor
    · obtain ⟨q, hq, hsampled, hmean⟩ := h.attained hsome
      refine ⟨q, hq, ?_⟩
      rw [hmeasured q hq, measured_samples_pos_iff, measured_latency.2 hsampled]
      exact ⟨hsampled, hmean⟩
    · intro mean ⟨q, hq, hsampled, hmean⟩
      rw [hmeasured q hq, measured_samples_pos_iff] at hsampled
      rw [← hmean, hmeasured q hq, measured_latency.2 hsampled]
      exact h.slowest q hq hsampled

theorem topicTotals_of_untotalled {u : TopicSummary} (hdisabled : stats.enabled = false)
    (h : Untotalled u) (hmeasured : ∀ q ∈ u.pairs, q.measured = {}) : TopicTotals stats u where
  lostPackets_eq := by
    rw [attributedLosses, if_neg (Bool.eq_false_iff.mp hdisabled)]
    exact h.lostPackets_eq
  lostAvailable_iff := by
    rw [h.lostAvailable_eq]
    refine iff_of_false (by decide) fun ⟨q, hq, hlost⟩ ↦ ?_
    rw [hmeasured q hq] at hlost
    cases hlost
  resent_eq := by
    have hzero : (u.pairs.map fun q ↦ q.measured.reliability.resent).sum = 0 := by
      refine List.sum_eq_zero fun resent hresent ↦ ?_
      obtain ⟨q, hq, rfl⟩ := List.mem_map.mp hresent
      rw [hmeasured q hq]
    rw [h.resent_eq, Words.sum_eq_mod, hzero, Nat.zero_mod]
  latencyAvailable_iff := by
    rw [h.latencyAvailable_eq]
    refine iff_of_false (by decide) fun ⟨q, hq, hsampled⟩ ↦ ?_
    rw [hmeasured q hq] at hsampled
    cases hsampled
  slowest hsome := by
    rw [h.latencyAvailable_eq] at hsome
    cases hsome

theorem TopicTotals.inWords {u : TopicSummary} (h : TopicTotals stats u) : TotalsInWords stats u where
  lostPackets_word := by
    rw [h.lostPackets_eq, wordDelta_packets]
  resent_word := h.resent_eq
  lostPackets_fit hfit := by
    rw [h.lostPackets_eq, Words.sum_eq hfit]
  resent_fit hfit := by
    rw [h.resent_eq, Words.sum_eq hfit]

theorem SharesLosses.concernsLoss_eq {p q : Pair} (h : SharesLosses p q) :
    concernsLoss stats p.writer.toEndpoint p.reader.toEndpoint =
      concernsLoss stats q.writer.toEndpoint q.reader.toEndpoint := by
  funext s
  have hunicast : readerHasUnicastLocator p.reader.toEndpoint s.dst stats.localAddresses =
      readerHasUnicastLocator q.reader.toEndpoint s.dst stats.localAddresses := by
    rw [readerHasUnicastLocator, readerHasUnicastLocator, Bool.eq_iff_iff, List.any_eq_true,
      List.any_eq_true]
    simp only [h.unicast_iff]
  rw [concernsLoss, concernsLoss, h.writer_eq, h.reader_eq, hunicast]

end Measured

section Pipeline

variable [Fnmatch]

theorem topicTotals_of_mem {endpoints : List Endpoint} {stats : StatsData} {u : TopicSummary}
    (hu : u ∈ applyStats (summarize endpoints) stats) : TopicTotals stats u := by
  have hmeasured := fun q (hq : q ∈ u.pairs) ↦ measured_of_mem_applyStats hu hq
  rcases applyStats_cases hu with ⟨henabled, t, ht, htopic⟩ | ⟨hdisabled, ht⟩
  · simp only [if_pos henabled] at hmeasured
    have hfresh := fun p (hp : p ∈ t.pairs) ↦ isFresh_of_mem ht hp
    have hgathered : Gathered stats t.pairs (overlayTopic stats t) := by
      apply gathered_overlayTopic
      intro p hp
      rw [hfresh p hp]
      rfl
    have hends := map_ends_overlayTopic stats t hfresh
    rw [htopic] at hgathered hends
    exact topicTotals_of_gathered henabled (hgathered.of_ends hends) hmeasured
  · simp only [if_neg (Bool.eq_false_iff.mp hdisabled)] at hmeasured
    exact topicTotals_of_untotalled hdisabled (untotalled_of_mem ht) hmeasured

/-- The totals of every topic count each lost packet once. -/
theorem lossesCountOnce (endpoints : List Endpoint) (stats : StatsData) :
    LossesCountOnce stats (applyStats (summarize endpoints) stats) where
  totals _ hu := topicTotals_of_mem hu
  words _ hu := (topicTotals_of_mem hu).inWords
  shared u hu v hv p hp q hq h := by
    rw [measured_of_mem_applyStats hu hp, measured_of_mem_applyStats hv hq]
    by_cases henabled : stats.enabled = true
    · rw [if_pos henabled, if_pos henabled, measured_lostPackets, measured_lostPackets,
        h.concernsLoss_eq]
    · rw [if_neg henabled, if_neg henabled]

end Pipeline

end TransportViz.Stats
