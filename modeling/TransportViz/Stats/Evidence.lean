import Mathlib.Algebra.BigOperators.Group.List.Basic
import TransportViz.Stats.Measure

/-!
# What a measurement is evidence of

Each question the overlay asks of a fresh measurement, answered in terms of the statistics themselves:
which samples prove a delivery, which packets went to the reader's locators, whether the DATA count of
the writer is known and whether it grew. The overlay reads the last two off sums of 64 bits, which are
zero after a wrap too, so the sums have predicates of their own beside what they stand for.
-/

namespace TransportViz.Stats

open Decision

/-- HISTORY_LATENCY proves a delivery of the pair, native-buffer companions included. -/
def DeliveryProven (stats : StatsData) (writer reader : Endpoint) : Prop :=
  ∃ wg ∈ entityGuids writer, ∃ rg ∈ entityGuids reader, ∃ count,
    stats.delivered.find? (toLex (wg, rg)) = some count ∧ 0 < count

/-- The writer's participant publishes statistics. -/
def PublishesStats (stats : StatsData) (writer : Endpoint) : Prop :=
  writer.participantGuidPrefix ∈ stats.participantsWithStats

/-- An RTPS_SENT entry with packets from the writer's participant to a locator of the reader. -/
def Carried (stats : StatsData) (writer reader : Endpoint) (s : TrafficSample) : Prop :=
  s ∈ stats.traffic ∧ s.srcParticipantPrefix = writer.participantGuidPrefix ∧
    readerHasLocator reader s.dst stats.localAddresses = true ∧ 0 < s.packets

/-- Packets of the pair inside the window. -/
def CarriedInWindow (stats : StatsData) (writer reader : Endpoint) : Prop :=
  ∃ s, Carried stats writer reader s ∧ s.packetsFirst < s.packets

/-- The sum of the packets inside the window says so. -/
def PacketsCounted (stats : StatsData) (writer reader : Endpoint) : Prop :=
  0 < Words.sum ((stats.traffic.filter (carries stats writer reader)).map TrafficSample.windowPackets)

/-- The DATA_COUNT of the writer is known: a sample of it, or a writer that would have sent one. -/
def CountKnown (stats : StatsData) (writer : Endpoint) : Prop :=
  (∃ guid ∈ entityGuids writer, ∃ sample, stats.dataCount.find? guid = some sample) ∨
    (writer.participantGuidPrefix, kStatsDataCountTopic) ∈ stats.statisticsWriters

/-- The writer sent DATA submessages during the observation. -/
def CountGrew (stats : StatsData) (writer : Endpoint) : Prop :=
  ∃ guid ∈ entityGuids writer, ∃ sample, stats.dataCount.find? guid = some sample ∧
    sample.first < sample.last

/-- The sum over the writer and its companions says so. -/
def GrowthCounted (stats : StatsData) (writer : Endpoint) : Prop :=
  0 < Words.sum (((entityGuids writer).filterMap stats.dataCount.find?).map DataCountSample.delta)

theorem CountGrew.known {stats : StatsData} {writer : Endpoint} (h : CountGrew stats writer) :
    CountKnown stats writer := by
  obtain ⟨guid, hguid, sample, hsample, -⟩ := h
  exact .inl ⟨guid, hguid, sample, hsample⟩

theorem sum_pos_iff (counts : List ℕ) : 0 < counts.sum ↔ ∃ count ∈ counts, 0 < count := by
  induction counts with
  | nil => simp
  | cons count rest ih => simp [← ih]

section Traffic

variable (stats : StatsData) (writer reader : Endpoint)

theorem carries_iff (s : TrafficSample) :
    s ∈ stats.traffic.filter (carries stats writer reader) ↔ Carried stats writer reader s := by
  simp only [carries, Carried, List.mem_filter, Bool.and_eq_true, decide_eq_true_eq, and_assoc,
    pos_iff_ne_zero]

/-- The kinds of the entries' destinations, each once. -/
def addKinds (transports : List Transport) (entries : List TrafficSample) : List Transport :=
  entries.foldl
    (fun transports s ↦ if transportForKind s.dst.kind ∈ transports then transports
      else transports ++ [transportForKind s.dst.kind])
    transports

/-- The destination of one entry with its window. -/
def measuredLocator (s : TrafficSample) : MeasuredLocator where
  locator := s.dst
  packets := TrafficSample.windowPackets s
  bytes := max 0 (s.bytes - s.bytesFirst)

theorem foldl_addTraffic (entries : List TrafficSample) (m : Measurement) :
    entries.foldl addTraffic m =
      { m with
        transports := addKinds m.transports entries
        locators := m.locators ++ entries.map measuredLocator
        packets := (entries.map TrafficSample.windowPackets).foldl Words.add m.packets
        bytes := m.bytes + (entries.map fun s ↦ (measuredLocator s).bytes).sum
        packetsTotal := (entries.map TrafficSample.packets).foldl Words.add m.packetsTotal
        bytesTotal := m.bytesTotal + (entries.map TrafficSample.bytes).sum } := by
  induction entries generalizing m with
  | nil => simp [addKinds]
  | cons s rest ih =>
    rw [List.foldl_cons, ih]
    simp [addTraffic, addKinds, measuredLocator, add_assoc]

theorem mem_addKinds (transports : List Transport) (entries : List TrafficSample)
    (t : Transport) :
    t ∈ addKinds transports entries ↔
      t ∈ transports ∨ ∃ s ∈ entries, transportForKind s.dst.kind = t := by
  induction entries generalizing transports with
  | nil => simp [addKinds]
  | cons s rest ih =>
    rw [addKinds, List.foldl_cons, ← addKinds, ih]
    split_ifs with hmem
    · constructor
      · rintro (h | ⟨other, hother, rfl⟩)
        · exact .inl h
        · exact .inr ⟨other, List.mem_cons_of_mem _ hother, rfl⟩
      · rintro (h | ⟨other, hother, rfl⟩)
        · exact .inl h
        · rcases List.mem_cons.mp hother with rfl | hother
          · exact .inl hmem
          · exact .inr ⟨other, hother, rfl⟩
    · simp only [List.mem_append, List.mem_cons, List.not_mem_nil, false_or, exists_eq_or_imp,
        or_assoc, @eq_comm _ t]

theorem nodup_addKinds (transports : List Transport) (entries : List TrafficSample)
    (h : transports.Nodup) : (addKinds transports entries).Nodup := by
  induction entries generalizing transports with
  | nil => exact h
  | cons s rest ih =>
    rw [addKinds, List.foldl_cons, ← addKinds]
    refine ih _ ?_
    split_ifs with hmem
    · exact h
    · exact List.Nodup.append h (List.nodup_singleton _) (by simpa using hmem)

end Traffic

section Fields

variable (stats : StatsData) (writer reader : Endpoint)

/-- The stages before the packets leave the fields of the packets alone. -/
structure BeforeTraffic (m before : Measurement) : Prop where
  transports_eq : m.transports = before.transports
  locators_eq : m.locators = before.locators
  packets_eq : m.packets = before.packets

theorem beforeTraffic_measureDelivery (m : Measurement) :
    BeforeTraffic (measureDelivery stats writer reader m) m := by
  unfold measureDelivery
  simp only
  split_ifs <;> exact ⟨rfl, rfl, rfl⟩

theorem beforeTraffic_measureRate (m : Measurement) :
    BeforeTraffic (measureRate stats writer reader m) m := by
  unfold measureRate
  simp only
  split_ifs <;> exact ⟨rfl, rfl, rfl⟩

/-- The rate is measured without a look at the other fields. -/
theorem measureRate_kept (m : Measurement) :
    (measureRate stats writer reader m).available = m.available ∧
      (measureRate stats writer reader m).delivered = m.delivered ∧
      (measureRate stats writer reader m).deliveredSamples = m.deliveredSamples ∧
      (measureRate stats writer reader m).latencyAvailable = m.latencyAvailable ∧
      (measureRate stats writer reader m).latency = m.latency ∧
      (measureRate stats writer reader m).reliability = m.reliability ∧
      (measureRate stats writer reader m).dataCountAvailable = m.dataCountAvailable ∧
      (measureRate stats writer reader m).dataSubmessages = m.dataSubmessages ∧
      (measureRate stats writer reader m).packetsTotal = m.packetsTotal ∧
      (measureRate stats writer reader m).bytes = m.bytes := by
  unfold measureRate
  simp only
  split_ifs <;> exact ⟨rfl, rfl, rfl, rfl, rfl, rfl, rfl, rfl, rfl, rfl⟩

/-- Deliveries are measured without a look at the counters. -/
theorem measureDelivery_kept (m : Measurement) :
    (measureDelivery stats writer reader m).available = m.available ∧
      (measureDelivery stats writer reader m).reliability = m.reliability ∧
      (measureDelivery stats writer reader m).dataCountAvailable = m.dataCountAvailable ∧
      (measureDelivery stats writer reader m).dataSubmessages = m.dataSubmessages ∧
      (measureDelivery stats writer reader m).packetsTotal = m.packetsTotal ∧
      (measureDelivery stats writer reader m).bytes = m.bytes := by
  unfold measureDelivery
  simp only
  split_ifs <;> exact ⟨rfl, rfl, rfl, rfl, rfl, rfl⟩

end Fields

section Fresh

variable (stats : StatsData) (writer reader : Endpoint)

/-- A measurement started from nothing. -/
abbrev measured : Measurement := measure stats writer reader {}

theorem measured_available :
    (measured stats writer reader).available = true ↔ PublishesStats stats writer := by
  simp only [measured, measure, measureTraffic, foldl_addTraffic, measureDataCount,
    measureRate_kept, measureDelivery_kept, PublishesStats, decide_eq_true_eq]

theorem mem_guidPairs (key : GuidPair) :
    key ∈ guidPairs writer reader ↔
      ∃ wg ∈ entityGuids writer, ∃ rg ∈ entityGuids reader, toLex (wg, rg) = key := by
  simp [guidPairs]

theorem deliveries_pos_iff :
    0 < ((guidPairs writer reader).filterMap stats.delivered.find?).sum ↔
      DeliveryProven stats writer reader := by
  rw [sum_pos_iff]
  constructor
  · rintro ⟨count, hcount, hpos⟩
    obtain ⟨key, hkey, hfind⟩ := List.mem_filterMap.mp hcount
    obtain ⟨wg, hwg, rg, hrg, rfl⟩ := (mem_guidPairs writer reader key).mp hkey
    exact ⟨wg, hwg, rg, hrg, count, hfind, hpos⟩
  · rintro ⟨wg, hwg, rg, hrg, count, hfind, hpos⟩
    exact ⟨count, List.mem_filterMap.mpr
      ⟨toLex (wg, rg), (mem_guidPairs writer reader _).mpr ⟨wg, hwg, rg, hrg, rfl⟩, hfind⟩, hpos⟩

theorem measureDelivery_delivered (m : Measurement) (h : m.delivered = false) :
    (measureDelivery stats writer reader m).delivered = true ↔
      DeliveryProven stats writer reader := by
  rw [← deliveries_pos_iff]
  unfold measureDelivery
  simp only
  by_cases hcounts : (guidPairs writer reader).filterMap stats.delivered.find? = []
  · simp only [hcounts]
    split_ifs <;> simp [h]
  · simp only [if_neg hcounts]
    split_ifs <;> simp

theorem measured_delivered :
    (measured stats writer reader).delivered = true ↔ DeliveryProven stats writer reader := by
  simp only [measured, measure, measureTraffic, foldl_addTraffic, measureDataCount,
    measureRate_kept]
  exact measureDelivery_delivered stats writer reader _ rfl

theorem measured_transports :
    (measured stats writer reader).transports =
      addKinds [] (stats.traffic.filter (carries stats writer reader)) := by
  simp only [measured, measure, measureTraffic, foldl_addTraffic, measureDataCount,
    (beforeTraffic_measureRate _ _ _ _).transports_eq,
    (beforeTraffic_measureDelivery _ _ _ _).transports_eq]

theorem mem_measured_transports (t : Transport) :
    t ∈ (measured stats writer reader).transports ↔
      ∃ s, Carried stats writer reader s ∧ transportForKind s.dst.kind = t := by
  rw [measured_transports, mem_addKinds]
  simp only [List.not_mem_nil, false_or, carries_iff]

theorem nodup_measured_transports : (measured stats writer reader).transports.Nodup := by
  rw [measured_transports]
  exact nodup_addKinds [] _ List.nodup_nil

theorem measured_transports_ne_nil :
    (measured stats writer reader).transports ≠ [] ↔ ∃ s, Carried stats writer reader s := by
  constructor
  · intro h
    obtain ⟨t, ht⟩ := List.exists_mem_of_ne_nil _ h
    obtain ⟨s, hs, -⟩ := (mem_measured_transports stats writer reader t).mp ht
    exact ⟨s, hs⟩
  · rintro ⟨s, hs⟩
    exact List.ne_nil_of_mem ((mem_measured_transports stats writer reader _).mpr ⟨s, hs, rfl⟩)

theorem dataSharing_notMem_measured :
    Transport.dataSharing ∉ (measured stats writer reader).transports := by
  rw [mem_measured_transports]
  rintro ⟨s, -, hkind⟩
  cases hs : s.dst.kind <;> simp [transportFor, hs] at hkind

theorem measured_locators :
    (measured stats writer reader).locators =
      (stats.traffic.filter (carries stats writer reader)).map measuredLocator := by
  simp only [measured, measure, measureTraffic, foldl_addTraffic, measureDataCount,
    (beforeTraffic_measureRate _ _ _ _).locators_eq,
    (beforeTraffic_measureDelivery _ _ _ _).locators_eq, List.nil_append]

theorem mem_measured_locators (l : MeasuredLocator) :
    l ∈ (measured stats writer reader).locators ↔
      ∃ s, Carried stats writer reader s ∧ measuredLocator s = l := by
  simp only [measured_locators, List.mem_map, carries_iff]

theorem windowPackets_pos_iff (s : TrafficSample) :
    0 < TrafficSample.windowPackets s ↔ s.packetsFirst < s.packets := by
  unfold TrafficSample.windowPackets
  omega

theorem measured_packets :
    (measured stats writer reader).packets =
      Words.sum
        ((stats.traffic.filter (carries stats writer reader)).map TrafficSample.windowPackets) := by
  simp only [measured, measure, measureTraffic, foldl_addTraffic, measureDataCount,
    (beforeTraffic_measureRate _ _ _ _).packets_eq,
    (beforeTraffic_measureDelivery _ _ _ _).packets_eq, Words.sum]

theorem measured_packets_pos :
    0 < (measured stats writer reader).packets ↔ PacketsCounted stats writer reader := by
  rw [measured_packets, PacketsCounted]

/-- A sum that is not zero stands for packets of the pair. -/
theorem PacketsCounted.inWindow {stats : StatsData} {writer reader : Endpoint}
    (h : PacketsCounted stats writer reader) : CarriedInWindow stats writer reader := by
  obtain ⟨_, hpackets, hpos⟩ := Words.exists_pos_of_sum_pos h
  obtain ⟨s, hs, rfl⟩ := List.mem_map.mp hpackets
  exact ⟨s, (carries_iff stats writer reader s).mp hs, (windowPackets_pos_iff s).mp hpos⟩

theorem mem_counters (counters : OrderedMap String DataCountSample) (guids : List String)
    (sample : DataCountSample) :
    sample ∈ guids.filterMap counters.find? ↔
      ∃ guid ∈ guids, counters.find? guid = some sample := List.mem_filterMap

theorem measured_dataCountAvailable :
    (measured stats writer reader).dataCountAvailable = true ↔ CountKnown stats writer := by
  have hsamples : (entityGuids writer).filterMap stats.dataCount.find? ≠ [] ↔
      ∃ guid ∈ entityGuids writer, ∃ sample, stats.dataCount.find? guid = some sample := by
    constructor
    · intro h
      obtain ⟨sample, hsample⟩ := List.exists_mem_of_ne_nil _ h
      obtain ⟨guid, hguid, hfind⟩ := (mem_counters _ _ _).mp hsample
      exact ⟨guid, hguid, sample, hfind⟩
    · rintro ⟨guid, hguid, sample, hfind⟩
      exact List.ne_nil_of_mem ((mem_counters _ _ _).mpr ⟨guid, hguid, hfind⟩)
  simp only [measured, measure, measureTraffic, foldl_addTraffic, measureDataCount,
    measureRate_kept, measureDelivery_kept, Bool.false_or, Bool.or_eq_true,
    decide_eq_true_eq, hsamples, CountKnown]

theorem delta_pos_iff (sample : DataCountSample) :
    0 < DataCountSample.delta sample ↔ sample.first < sample.last := by
  unfold DataCountSample.delta
  omega

theorem measured_dataSubmessages_eq :
    (measured stats writer reader).dataSubmessages =
      Words.sum (((entityGuids writer).filterMap stats.dataCount.find?).map DataCountSample.delta) := by
  simp only [measured, measure, measureTraffic, foldl_addTraffic, measureDataCount,
    measureRate_kept, measureDelivery_kept, Words.sum]

theorem measured_dataSubmessages :
    0 < (measured stats writer reader).dataSubmessages ↔ GrowthCounted stats writer := by
  rw [measured_dataSubmessages_eq, GrowthCounted]

/-- A sum that is not zero stands for DATA of the writer. -/
theorem GrowthCounted.grew {stats : StatsData} {writer : Endpoint} (h : GrowthCounted stats writer) :
    CountGrew stats writer := by
  obtain ⟨_, hdelta, hpos⟩ := Words.exists_pos_of_sum_pos h
  obtain ⟨sample, hsample, rfl⟩ := List.mem_map.mp hdelta
  obtain ⟨guid, hguid, hfind⟩ := (mem_counters _ _ _).mp hsample
  exact ⟨guid, hguid, sample, hfind, (delta_pos_iff sample).mp hpos⟩

end Fresh

end TransportViz.Stats
