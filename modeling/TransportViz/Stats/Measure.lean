import Mathlib.Algebra.Ring.Nat
import TransportViz.Decision.Predict
import TransportViz.Library.Words

/-!
# What the statistics say of one pair

`measure` collects, for one writer and one reader, the deliveries, the latency, the delivered rate,
the reliability counters and the packets the statistics attribute to the pair. It looks at nothing
else: neither at the verdict nor at the other pairs of the topic. What it adds up of the counters a
middleware publishes, packets and submessages, it adds in unsigned 64-bit words, so a sum may wrap.
The samples delivered are counted here, one at a time, and stay far below that.
-/

namespace TransportViz.Stats

open Decision

/-! ## Locators as the statistics name them -/

def sameLocator (a b : Locator) : Bool :=
  a.kind = b.kind && a.port = b.port && (a.kind = .shm || a.address = b.address)

def isLoopback (address : String) : Bool := address = "127.0.0.1" || address = "::1"

/-- A loopback locator also matches any address of this host. -/
def sameLocatorLocal (a b : Locator) (localAddresses : Finset String) : Bool :=
  sameLocator a b ||
    (a.kind = b.kind && a.port = b.port &&
      ((isLoopback a.address && b.address ∈ localAddresses) ||
        (isLoopback b.address && a.address ∈ localAddresses)))

def readerHasLocator (reader : Endpoint) (l : Locator) (localAddresses : Finset String) : Bool :=
  (reader.unicast ++ reader.multicast).any fun own ↦ sameLocatorLocal own l localAddresses

def readerHasUnicastLocator (reader : Endpoint) (l : Locator) (localAddresses : Finset String) :
    Bool :=
  reader.unicast.any fun own ↦ sameLocatorLocal own l localAddresses

/-! ## One entity: an endpoint and its native-buffer companions -/

def entityGuids (e : Endpoint) : List String := e.guid :: e.bufferCompanionGuids

def guidPairs (writer reader : Endpoint) : List GuidPair :=
  (entityGuids writer).flatMap fun wg ↦ (entityGuids reader).map fun rg ↦ toLex (wg, rg)

/-! ## Deliveries, latency and rate -/

/-- Adds the samples of one more key; `last` is the later key's. -/
def LatencyStat.combine (a b : LatencyStat) : LatencyStat where
  sum := a.sum + b.sum
  min := a.min ⊓ b.min
  max := a.max ⊔ b.max
  last := b.last
  samples := a.samples + b.samples

def measureDelivery (stats : StatsData) (writer reader : Endpoint) (m : Measurement) :
    Measurement :=
  let counts := (guidPairs writer reader).filterMap stats.delivered.find?
  let latency := (((guidPairs writer reader).filterMap stats.latency.find?).filter
    fun stat ↦ 0 < stat.samples).foldl LatencyStat.combine {}
  let m := if counts = [] then m
    else { m with deliveredSamples := counts.sum, delivered := 0 < counts.sum }
  if 0 < latency.samples then { m with latencyAvailable := true, latency := latency } else m

def DeliveryWindow.merge (a b : DeliveryWindow) : DeliveryWindow :=
  if a.samples = 0 then b
  else
    { samples := a.samples + b.samples
      firstS := min a.firstS b.firstS
      lastS := max a.lastS b.lastS }

def measureRate (stats : StatsData) (writer reader : Endpoint) (m : Measurement) : Measurement :=
  let window := (((guidPairs writer reader).filterMap stats.deliveryWindow.find?).filter
    fun window ↦ window.samples ≠ 0).foldl DeliveryWindow.merge {}
  let m := { m with rateWindowS := stats.rateWindowS }
  if 2 ≤ window.samples ∧ window.firstS < window.lastS then
    { m with
      rateAvailable := true
      deliveredPerS := (window.samples - 1 : ℚ) / (window.lastS - window.firstS)
      rateLowerBound := stats.latencyGaps.contains reader.participantGuidPrefix }
  else m

/-! ## Reliability -/

def DataCountSample.delta (sample : DataCountSample) : ℕ :=
  sample.last - min sample.last sample.first

/-- Window delta of the entities' counters, nothing when none of them has a sample. -/
def counterDelta (counters : OrderedMap String DataCountSample) (guids : List String) : Option ℕ :=
  let samples := guids.filterMap counters.find?
  if samples = [] then none else some (Words.sum (samples.map DataCountSample.delta))

/-- Packets since the first sample. -/
def TrafficSample.windowPackets (s : TrafficSample) : ℕ := s.packets - min s.packets s.packetsFirst

/-- The loss the reader's participant reports for packets of the writer's participant to `reader`. -/
def concernsLoss (stats : StatsData) (writer reader : Endpoint) (s : TrafficSample) : Bool :=
  s.reporterParticipantPrefix = reader.participantGuidPrefix &&
    s.srcParticipantPrefix = writer.participantGuidPrefix &&
    readerHasUnicastLocator reader s.dst stats.localAddresses

def measureReliability (stats : StatsData) (writer reader : Endpoint) (rel : Reliability) :
    Reliability :=
  let resent := counterDelta stats.resentDatas (entityGuids writer)
  let heartbeats := counterDelta stats.heartbeats (entityGuids writer)
  let gaps := counterDelta stats.gaps (entityGuids writer)
  let acknacks := counterDelta stats.acknacks (entityGuids reader)
  let nackfrags := counterDelta stats.nackfrags (entityGuids reader)
  let losses := stats.lost.filter (concernsLoss stats writer reader)
  let lostAvailable :=
    (reader.participantGuidPrefix, kStatsRtpsLostTopic) ∈ stats.statisticsWriters ∨ losses ≠ []
  { available := rel.available || resent.isSome || heartbeats.isSome || gaps.isSome ||
      acknacks.isSome || nackfrags.isSome || lostAvailable
    lostAvailable := lostAvailable
    lostPackets := (losses.map TrafficSample.windowPackets).foldl Words.add rel.lostPackets
    resent := resent.getD 0
    heartbeats := heartbeats.getD 0
    gaps := gaps.getD 0
    acknacks := acknacks.getD 0
    nackfrags := nackfrags.getD 0 }

/-! ## DATA submessages and packets -/

/-- A writer that sends no DATA publishes no count, so a silent DATA_COUNT writer means zero. -/
def measureDataCount (stats : StatsData) (writer : Endpoint) (m : Measurement) : Measurement :=
  let samples := (entityGuids writer).filterMap stats.dataCount.find?
  { m with
    dataCountAvailable := m.dataCountAvailable || samples ≠ [] ||
      (writer.participantGuidPrefix, kStatsDataCountTopic) ∈ stats.statisticsWriters
    dataSubmessages := (samples.map DataCountSample.delta).foldl Words.add m.dataSubmessages }

/-- Packets of the writer's participant went to a locator of the reader. -/
def carries (stats : StatsData) (writer reader : Endpoint) (s : TrafficSample) : Bool :=
  s.srcParticipantPrefix = writer.participantGuidPrefix &&
    readerHasLocator reader s.dst stats.localAddresses && s.packets ≠ 0

abbrev transportForKind (kind : LocatorKind) : Transport := transportFor kind

/-- One RTPS_SENT entry that carried packets of the pair. -/
def addTraffic (m : Measurement) (s : TrafficSample) : Measurement :=
  let transport := transportForKind s.dst.kind
  let packets := TrafficSample.windowPackets s
  let bytes := max 0 (s.bytes - s.bytesFirst)
  { m with
    transports := if transport ∈ m.transports then m.transports else m.transports ++ [transport]
    locators := m.locators ++ [{ locator := s.dst, packets := packets, bytes := bytes }]
    packets := Words.add m.packets packets
    bytes := m.bytes + bytes
    packetsTotal := Words.add m.packetsTotal s.packets
    bytesTotal := m.bytesTotal + s.bytes }

def measureTraffic (stats : StatsData) (writer reader : Endpoint) (m : Measurement) :
    Measurement :=
  (stats.traffic.filter (carries stats writer reader)).foldl addTraffic m

/-- Everything the statistics say of the pair. -/
def measure (stats : StatsData) (writer reader : Endpoint) (m : Measurement) : Measurement :=
  let m := { m with available := writer.participantGuidPrefix ∈ stats.participantsWithStats }
  let m := measureRate stats writer reader (measureDelivery stats writer reader m)
  let m := { m with reliability := measureReliability stats writer reader m.reliability }
  measureTraffic stats writer reader (measureDataCount stats writer m)

end TransportViz.Stats
