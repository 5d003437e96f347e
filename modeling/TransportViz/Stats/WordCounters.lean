import Mathlib.Algebra.Order.BigOperators.Group.List
import TransportViz.Model.Text
import TransportViz.Stats.Aggregates

/-!
# The counters of a pair in 64 bits

The counters of a pair are unsigned 64-bit sums of differences. A difference never falls below zero, so
none of them wraps, also where a counter went backwards; a sum does when it outgrows its field. What
`measure` leaves in the fields is told here counter by counter, with the difference of the source and with
the growth it stands for.
-/

namespace TransportViz.Stats

open Decision

/-! ## Model -/

/-- The later value minus the earlier one, or minus itself when the counter went backwards. -/
def wordDelta (last first : ℕ) : ℕ := Words.sub last (min last first)

/-- The unsigned counters of a pair. -/
structure PairCounters where
  deliveredSamples : ℕ := 0
  packets : ℕ := 0
  packetsTotal : ℕ := 0
  dataSubmessages : ℕ := 0
  lostPackets : ℕ := 0
  resent : ℕ := 0
  heartbeats : ℕ := 0
  gaps : ℕ := 0
  acknacks : ℕ := 0
  nackfrags : ℕ := 0
  deriving DecidableEq

section Count

variable (delta : ℕ → ℕ → ℕ) (stats : StatsData) (writer reader : Endpoint)

/-- One kind of counter over the GUIDs of an entity. -/
def countEntity (counters : OrderedMap String DataCountSample) (e : Endpoint) : ℕ :=
  Words.sum (((entityGuids e).filterMap counters.find?).map fun sample ↦
    delta sample.last sample.first)

/-- The RTPS_SENT entries that carried packets of the pair. -/
def carriedTraffic : List TrafficSample := stats.traffic.filter (carries stats writer reader)

/-- The sums of a pair, `delta` being the difference over the observation. -/
def countWith : PairCounters where
  deliveredSamples := Words.sum ((guidPairs writer reader).filterMap stats.delivered.find?)
  packets := Words.sum ((carriedTraffic stats writer reader).map fun s ↦
    delta s.packets s.packetsFirst)
  packetsTotal := Words.sum ((carriedTraffic stats writer reader).map TrafficSample.packets)
  dataSubmessages := countEntity delta stats.dataCount writer
  lostPackets := Words.sum ((stats.lost.filter (concernsLoss stats writer reader)).map fun s ↦
    delta s.packets s.packetsFirst)
  resent := countEntity delta stats.resentDatas writer
  heartbeats := countEntity delta stats.heartbeats writer
  gaps := countEntity delta stats.gaps writer
  acknacks := countEntity delta stats.acknacks reader
  nackfrags := countEntity delta stats.nackfrags reader

/-- What the loops of the source leave in the fields of a fresh measurement. -/
def countInWords : PairCounters := countWith wordDelta stats writer reader

end Count

/-- The counters of a measurement. The samples delivered are the one natural number among them, cut to
its field. -/
def countersOf (m : Measurement) : PairCounters where
  deliveredSamples := m.deliveredSamples % Words.modulus
  packets := m.packets
  packetsTotal := m.packetsTotal
  dataSubmessages := m.dataSubmessages
  lostPackets := m.reliability.lostPackets
  resent := m.reliability.resent
  heartbeats := m.reliability.heartbeats
  gaps := m.reliability.gaps
  acknacks := m.reliability.acknacks
  nackfrags := m.reliability.nackfrags

/-! ## The fields of a fresh measurement -/

section Words

variable (stats : StatsData) (writer reader : Endpoint)

theorem wordDelta_eq (last first : ℕ) : wordDelta last first = last - min last first :=
  Words.sub_eq (Nat.min_le_left last first)

theorem measureDelivery_deliveredSamples (m : Measurement) (h : m.deliveredSamples = 0) :
    (measureDelivery stats writer reader m).deliveredSamples =
      ((guidPairs writer reader).filterMap stats.delivered.find?).sum := by
  unfold measureDelivery
  simp only
  by_cases hcounts : (guidPairs writer reader).filterMap stats.delivered.find? = []
  · rw [if_pos hcounts, hcounts]
    split_ifs <;> exact h
  · rw [if_neg hcounts]
    split_ifs <;> rfl

theorem measured_deliveredSamples :
    (measured stats writer reader).deliveredSamples =
      ((guidPairs writer reader).filterMap stats.delivered.find?).sum := by
  simp only [measured, measure, measureTraffic, foldl_addTraffic, measureDataCount, measureRate_kept]
  exact measureDelivery_deliveredSamples stats writer reader _ rfl

theorem measured_packetsTotal :
    (measured stats writer reader).packetsTotal =
      Words.sum ((carriedTraffic stats writer reader).map TrafficSample.packets) := by
  simp only [measured, measure, measureTraffic, foldl_addTraffic, measureDataCount, measureRate_kept,
    measureDelivery_kept]
  rfl

theorem measured_bytes :
    (measured stats writer reader).bytes =
      ((carriedTraffic stats writer reader).map fun s ↦ (measuredLocator s).bytes).sum := by
  simp only [measured, measure, measureTraffic, foldl_addTraffic, measureDataCount, measureRate_kept,
    measureDelivery_kept, zero_add]
  rfl

theorem wordDelta_packets :
    (fun s : TrafficSample ↦ wordDelta s.packets s.packetsFirst) = TrafficSample.windowPackets := by
  funext s
  exact wordDelta_eq s.packets s.packetsFirst

theorem countEntity_eq (counters : OrderedMap String DataCountSample) (e : Endpoint) :
    countEntity wordDelta counters e =
      Words.sum (((entityGuids e).filterMap counters.find?).map DataCountSample.delta) := by
  unfold countEntity
  simp only [wordDelta_eq]
  rfl

theorem counterDelta_getD (counters : OrderedMap String DataCountSample) (guids : List String) :
    (counterDelta counters guids).getD 0 =
      Words.sum ((guids.filterMap counters.find?).map DataCountSample.delta) := by
  unfold counterDelta
  simp only
  by_cases hnone : guids.filterMap counters.find? = []
  · rw [if_pos hnone, hnone]
    rfl
  · rw [if_neg hnone]
    rfl

theorem measured_lostPackets :
    (measured stats writer reader).reliability.lostPackets =
      Words.sum ((stats.lost.filter (concernsLoss stats writer reader)).map
        TrafficSample.windowPackets) := by
  rw [measured_reliability]
  rfl

/-- The counters of a measurement are what the loops of the source leave in them. -/
theorem countInWords_eq :
    countInWords stats writer reader = countersOf (measured stats writer reader) := by
  have hlost := measured_lostPackets stats writer reader
  rw [measured_reliability] at hlost
  simp only [countInWords, countWith, countersOf, measured_deliveredSamples, measured_packets,
    measured_packetsTotal, measured_dataSubmessages_eq, measured_reliability, hlost, ← Words.sum_eq_mod]
  simp only [measureReliability, counterDelta_getD, countEntity_eq, wordDelta_packets, carriedTraffic]

end Words

/-! ## Traffic that adds up -/

/-- The growth of a counter, nothing when it went backwards. -/
def grown (last first : ℕ) : ℕ := if first ≤ last then last - first else 0

/-- What the statistics make of the traffic and the counters of a pair. -/
structure TrafficAddsUp (stats : StatsData) (q : Pair) : Prop where
  locators_eq : q.measured.locators =
    if stats.enabled then
      (carriedTraffic stats q.writer.toEndpoint q.reader.toEndpoint).map measuredLocator
    else []
  packets_eq : (countersOf q.measured).packets =
    Words.sum (q.measured.locators.map MeasuredLocator.packets)
  bytes_eq : q.measured.bytes = (q.measured.locators.map MeasuredLocator.bytes).sum
  transports_eq : q.measured.transports =
    (q.measured.locators.map fun l ↦ transportForKind l.locator.kind).eraseDups
  packets_le :
    ((carriedTraffic stats q.writer.toEndpoint q.reader.toEndpoint).map TrafficSample.packets).sum <
      Words.modulus → (countersOf q.measured).packets ≤ (countersOf q.measured).packetsTotal
  in_words : countersOf q.measured =
    if stats.enabled then countInWords stats q.writer.toEndpoint q.reader.toEndpoint else {}
  deltas_eq : countersOf q.measured =
    if stats.enabled then countWith grown stats q.writer.toEndpoint q.reader.toEndpoint else {}

/-- The traffic of every pair of the topics adds up. -/
def AllTrafficAddsUp (stats : StatsData) (topics : List TopicSummary) : Prop :=
  ∀ u ∈ topics, ∀ q ∈ u.pairs, TrafficAddsUp stats q

section AddsUp

variable (stats : StatsData) (writer reader : Endpoint)

theorem wordDelta_eq_grown : wordDelta = grown := by
  funext last first
  rw [wordDelta_eq, grown]
  split_ifs with h
  · rw [Nat.min_eq_right h]
  · rw [Nat.min_eq_left (Nat.le_of_not_le h), Nat.sub_self]

/-- Kinds that are seen already make no difference. -/
theorem addKinds_eq (transports : List Transport) (entries : List TrafficSample) :
    addKinds transports entries = transports ++
      ((entries.map fun s ↦ transportForKind s.dst.kind).filter (· ∉ transports)).eraseDups := by
  induction entries generalizing transports with
  | nil => simp [addKinds]
  | cons s rest ih =>
    rw [addKinds, List.foldl_cons, ← addKinds, ih, List.map_cons]
    by_cases hmem : transportForKind s.dst.kind ∈ transports
    · rw [if_pos hmem, List.filter_cons_of_neg (by simpa using hmem)]
    · rw [if_neg hmem, List.filter_cons_of_pos (by simpa using hmem), List.eraseDups_cons,
        List.append_assoc, List.singleton_append, List.filter_filter]
      congr 3
      apply List.filter_congr
      intro kind _
      simp [Bool.and_comm, Bool.beq_eq_decide_eq]

theorem windowPackets_le (entries : List TrafficSample) :
    (entries.map TrafficSample.windowPackets).sum ≤ (entries.map TrafficSample.packets).sum := by
  apply List.sum_le_sum
  intro s _
  exact Nat.sub_le _ _

theorem measured_counters_packets :
    (countersOf (measured stats writer reader)).packets =
      Words.sum ((measured stats writer reader).locators.map MeasuredLocator.packets) := by
  rw [measured_locators, List.map_map, countersOf, measured_packets]
  rfl

/-- As long as the cumulative packets fit, those of the window are among them. -/
theorem measured_packets_le (hfit :
      ((carriedTraffic stats writer reader).map TrafficSample.packets).sum < Words.modulus) :
    (countersOf (measured stats writer reader)).packets ≤
      (countersOf (measured stats writer reader)).packetsTotal := by
  have hle := windowPackets_le (carriedTraffic stats writer reader)
  calc
    (countersOf (measured stats writer reader)).packets
        = ((carriedTraffic stats writer reader).map TrafficSample.windowPackets).sum := by
      rw [countersOf, measured_packets]
      exact Words.sum_eq (hle.trans_lt hfit)
    _ ≤ ((carriedTraffic stats writer reader).map TrafficSample.packets).sum := hle
    _ = (countersOf (measured stats writer reader)).packetsTotal := by
      rw [countersOf, measured_packetsTotal]
      exact (Words.sum_eq hfit).symm

end AddsUp

section Pipeline

theorem trafficAddsUp_of_measured {stats : StatsData} {q : Pair} (henabled : stats.enabled = true)
    (hmeasured : q.measured = measured stats q.writer.toEndpoint q.reader.toEndpoint) :
    TrafficAddsUp stats q := by
  have hwords := countInWords_eq stats q.writer.toEndpoint q.reader.toEndpoint
  constructor
  · rw [if_pos henabled, hmeasured]
    exact measured_locators _ _ _
  · rw [hmeasured]
    exact measured_counters_packets _ _ _
  · rw [hmeasured, measured_bytes, measured_locators, List.map_map]
    rfl
  · rw [hmeasured, measured_transports, measured_locators, List.map_map, addKinds_eq]
    simp only [List.nil_append, List.not_mem_nil, not_false_eq_true, decide_true, List.filter_true]
    rfl
  · rw [hmeasured]
    exact measured_packets_le _ _ _
  · rw [if_pos henabled, hmeasured, hwords]
  · rw [if_pos henabled, hmeasured, ← hwords, countInWords, wordDelta_eq_grown]

theorem trafficAddsUp_of_unmeasured {stats : StatsData} {q : Pair} (hdisabled : ¬stats.enabled = true)
    (hmeasured : q.measured = {}) : TrafficAddsUp stats q := by
  constructor
  · rw [if_neg hdisabled, hmeasured]
  · rw [hmeasured]
    rfl
  · rw [hmeasured]
    rfl
  · rw [hmeasured]
    rfl
  · rw [hmeasured]
    exact fun _ ↦ le_refl 0
  · rw [if_neg hdisabled, hmeasured]
    rfl
  · rw [if_neg hdisabled, hmeasured]
    rfl

variable [Fnmatch]

/-- Whatever the counters did, the traffic of the measured pairs adds up. -/
theorem trafficAddsUp_applyStats (endpoints : List Endpoint) (stats : StatsData) :
    AllTrafficAddsUp stats (applyStats (summarize endpoints) stats) := by
  intro u hu q hq
  have hmeasured := measured_of_mem_applyStats hu hq
  by_cases henabled : stats.enabled = true
  · rw [if_pos henabled] at hmeasured
    exact trafficAddsUp_of_measured henabled hmeasured
  · rw [if_neg henabled] at hmeasured
    exact trafficAddsUp_of_unmeasured henabled hmeasured

end Pipeline

section Outgrown

/-- The writer or the reader of a scan; the reader is reached at two addresses. -/
def twoHomed (isWriter : Bool) (process : UInt8) : Endpoint where
  isWriter := isWriter
  guid := guidToString (guidOnHost process 1)
  guidBytes := guidOnHost process 1
  participantGuidPrefix := prefixToString (guidOnHost process 1)
  ddsTopic := "rt/scan"
  ddsType := "sensor_msgs::msg::dds_::LaserScan_"
  unicast := if isWriter then [] else [⟨.udpv4, "10.0.0.2", 7411⟩, ⟨.udpv4, "10.1.0.2", 7411⟩]

/-- A count of packets that fills its field, and one more packet from before the observation. -/
def fullStats : StatsData where
  enabled := true
  traffic :=
    [{ srcParticipantPrefix := prefixToString (guidOnHost 1 1), dst := ⟨.udpv4, "10.0.0.2", 7411⟩,
       packets := 2 ^ 64 - 1 },
     { srcParticipantPrefix := prefixToString (guidOnHost 1 1), dst := ⟨.udpv4, "10.1.0.2", 7411⟩,
       packets := 1, packetsFirst := 1 }]

/-- The total of the two wraps and is less than the packets of the window; without the switch nothing is
measured of the same entries. -/
theorem fullStats_not_addsUp :
    (¬∀ u ∈ applyStats (@summarize literalFnmatch [twoHomed true 1, twoHomed false 2]) fullStats,
      ∀ q ∈ u.pairs, (countersOf q.measured).packets ≤ (countersOf q.measured).packetsTotal) ∧
    ¬∀ u ∈ applyStats (@summarize literalFnmatch [twoHomed true 1, twoHomed false 2])
        { fullStats with enabled := false }, ∀ q ∈ u.pairs, q.measured.locators.length =
      (carriedTraffic fullStats q.writer.toEndpoint q.reader.toEndpoint).length := by
  constructor
  · decide +kernel
  · decide +kernel

end Outgrown

end TransportViz.Stats
