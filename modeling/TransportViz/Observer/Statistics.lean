import TransportViz.Library.Multimap
import TransportViz.Observer.Announcements
import TransportViz.Observer.LatencyWindow
import TransportViz.Stats.Settle

/-!
# The statistics observer

Ten readers take what the observed participants publish about themselves. The thread of the observer takes
the waiting samples again and again, a snapshot takes them too, both give the lock back in between, and
the listener is called whenever a reader matches a writer or misses a sample. Whatever holds the lock does
one `StatisticsStep`, so that a run is a list of these in the order in which they happened.
-/

namespace TransportViz.Observer

open Stats (ReaderDestinations measuresAPair)

/-! ## Samples -/

/-- A reader of a statistics topic. -/
inductive StatisticsReader
  | rtpsSent
  | historyLatency
  | physicalData
  | dataCount
  | rtpsLost
  | resentDatas
  | heartbeatCount
  | gapCount
  | acknackCount
  | nackfragCount
  deriving DecidableEq

structure SampleInfo where
  validData : Bool := true
  /-- The statistics writer that published the sample. -/
  writerGuid : GuidBytes

def samplePublisherPrefix (info : SampleInfo) : String := prefixToString info.writerGuid

structure Entity2LocatorTraffic where
  srcGuid : GuidBytes
  dstLocator : RtpsLocator
  packetCount : ℕ
  byteCount : ℕ

structure EntityCount where
  guid : GuidBytes
  count : ℕ

structure PhysicalData where
  participantGuid : GuidBytes
  host : String
  user : String
  process : String

/-! ## The listener -/

def kStatisticsLateJoinGraceSeconds : ℚ := 5

def statisticsLateJoinWindowOpen (anyWriterMatched : Bool) (secondsSinceLastWriterMatch : ℚ) : Bool :=
  !anyWriterMatched || secondsSinceLastWriterMatch < kStatisticsLateJoinGraceSeconds

/-- What the readers did not get, and the writers they have matched. -/
structure Listener where
  lost : ℕ := 0
  lostLatency : ℕ := 0
  /-- The losses of calls that are in `lost` and not yet in `lostLatency`. -/
  latencyCalls : List ℕ := []
  lostAtStart : ℕ := 0
  rejected : ℕ := 0
  incompatibleQos : ℕ := 0
  anyMatch : Bool := false
  lastMatch : ℚ := 0
  matched : StatisticsReader → Finset String := fun _ ↦ ∅

namespace Listener

/-- A call until it has made its first increment. -/
def onSampleLost (l : Listener) (now : ℚ) (reader : StatisticsReader) (totalCountChange : ℕ) :
    Listener :=
  if statisticsLateJoinWindowOpen l.anyMatch (now - l.lastMatch) then
    { l with lostAtStart := l.lostAtStart + totalCountChange }
  else
    { l with
      lost := l.lost + totalCountChange
      latencyCalls :=
        if reader = .historyLatency then l.latencyCalls ++ [totalCountChange] else l.latencyCalls }

/-- The second increment of a call, for which the listener takes no lock. -/
def onSampleLostLatency (l : Listener) (call : ℕ) : Listener :=
  { l with
    lostLatency := l.lostLatency + l.latencyCalls[call]?.getD 0
    latencyCalls := l.latencyCalls.eraseIdx call }

def onSampleRejected (l : Listener) (totalCountChange : ℕ) : Listener :=
  { l with rejected := l.rejected + totalCountChange }

def onSubscriptionMatched (l : Listener) (now : ℚ) (reader : StatisticsReader)
    (lastPublication : GuidBytes) (currentCountChange : ℤ) : Listener :=
  let writer := guidToString lastPublication
  let l :=
    if 0 < currentCountChange then
      { l with matched := Function.update l.matched reader (insert writer (l.matched reader)) }
    else if currentCountChange < 0 then
      { l with matched := Function.update l.matched reader ((l.matched reader).erase writer) }
    else l
  -- A writer that goes away does not open the window again.
  if currentCountChange ≤ 0 then l
  else { l with lastMatch := now, anyMatch := true }

def onRequestedIncompatibleQos (l : Listener) (totalCountChange : ℕ) : Listener :=
  { l with incompatibleQos := l.incompatibleQos + totalCountChange }

end Listener

/-! ## The aggregate -/

/-- Source, kind, address and port. -/
abbrev TrafficKey := String ×ₗ ℕ ×ₗ String ×ₗ ℕ

/-- The reporter, and what it reports on. -/
abbrev LostKey := String ×ₗ TrafficKey

def kindValue : LocatorKind → ℕ
  | .invalid => 0
  | .udpv4 => 1
  | .udpv6 => 2
  | .tcpv4 => 3
  | .tcpv6 => 4
  | .shm => 5

structure StatisticsObserver extends StatsObserver where
  traffic : OrderedMap TrafficKey TrafficSample := .empty
  lost : OrderedMap LostKey TrafficSample := .empty
  /-- The writers a sample was taken from, by reader. -/
  heard : StatisticsReader → Finset String := fun _ ↦ ∅
  readerDestinations : ReaderDestinations := {}
  listener : Listener := {}

def trafficKey (s : TrafficSample) : TrafficKey :=
  toLex (s.srcParticipantPrefix, toLex (kindValue s.dst.kind, toLex (s.dst.address, s.dst.port)))

def lostKey (s : TrafficSample) : LostKey := toLex (s.reporterParticipantPrefix, trafficKey s)

/-- The sample in the slot, with the values of the first one that was there. -/
def noteTraffic (s : TrafficSample) (slot : Option TrafficSample) : TrafficSample :=
  let slot := slot.getD { srcParticipantPrefix := "", dst := {} }
  { s with
    packetsFirst := if slot.samples = 0 then s.packets else slot.packetsFirst
    bytesFirst := if slot.samples = 0 then s.bytes else slot.bytesFirst
    samples := slot.samples + 1 }

def noteCount (count : ℕ) (slot : Option DataCountSample) : DataCountSample :=
  let d := slot.getD {}
  { first := if d.samples = 0 then count else d.first
    last := count
    samples := d.samples + 1 }

/-- The counters of single entities, all kept in the same way. -/
inductive EntityCounter
  | dataCount
  | resentDatas
  | heartbeats
  | gaps
  | acknacks
  | nackfrags
  deriving DecidableEq

namespace EntityCounter

def reader : EntityCounter → StatisticsReader
  | .dataCount => .dataCount
  | .resentDatas => .resentDatas
  | .heartbeats => .heartbeatCount
  | .gaps => .gapCount
  | .acknacks => .acknackCount
  | .nackfrags => .nackfragCount

def counts (counter : EntityCounter) (data : StatsData) : OrderedMap String DataCountSample :=
  match counter with
  | .dataCount => data.dataCount
  | .resentDatas => data.resentDatas
  | .heartbeats => data.heartbeats
  | .gaps => data.gaps
  | .acknacks => data.acknacks
  | .nackfrags => data.nackfrags

def setCounts (counter : EntityCounter) (data : StatsData)
    (into : OrderedMap String DataCountSample) : StatsData :=
  match counter with
  | .dataCount => { data with dataCount := into }
  | .resentDatas => { data with resentDatas := into }
  | .heartbeats => { data with heartbeats := into }
  | .gaps => { data with gaps := into }
  | .acknacks => { data with acknacks := into }
  | .nackfrags => { data with nackfrags := into }

end EntityCounter

/-! ## Taking samples -/

namespace StatisticsObserver

def countSample (o : StatisticsObserver) (info : SampleInfo) : StatisticsObserver :=
  { o with
    data := { o.data with
      samples := o.data.samples + 1
      participantsWithStats := insert (samplePublisherPrefix info) o.data.participantsWithStats } }

def countCounterSample (o : StatisticsObserver) (reader : StatisticsReader) (info : SampleInfo) :
    StatisticsObserver :=
  let o := o.countSample info
  { o with
    heard := Function.update o.heard reader (insert (guidToString info.writerGuid) (o.heard reader)) }

section Takes

variable [IPLocator]

/-- The sample as it came, its first values still open. -/
def trafficOf (traffic : Entity2LocatorTraffic) : TrafficSample where
  srcParticipantPrefix := prefixToString traffic.srcGuid
  dst := convertLocator traffic.dstLocator
  packets := traffic.packetCount
  bytes := traffic.byteCount

/-- What was lost is reported by the participant that published the sample. -/
def lostOf (info : SampleInfo) (lost : Entity2LocatorTraffic) : TrafficSample :=
  { trafficOf lost with reporterParticipantPrefix := samplePublisherPrefix info }

def takeTraffic (o : StatisticsObserver) (info : SampleInfo) (traffic : Entity2LocatorTraffic) :
    StatisticsObserver :=
  if ¬info.validData then o
  else
    let o := o.countCounterSample .rtpsSent info
    let s := trafficOf traffic
    { o with traffic := o.traffic.alter (trafficKey s) (noteTraffic s) }

def takeLost (o : StatisticsObserver) (info : SampleInfo) (lost : Entity2LocatorTraffic) :
    StatisticsObserver :=
  if ¬info.validData then o
  else
    let o := o.countCounterSample .rtpsLost info
    let s := lostOf info lost
    { o with lost := o.lost.alter (lostKey s) (noteTraffic s) }

end Takes

def takeCount (counter : EntityCounter) (o : StatisticsObserver) (info : SampleInfo)
    (count : EntityCount) : StatisticsObserver :=
  if ¬info.validData then o
  else
    let o := o.countCounterSample counter.reader info
    let into := (counter.counts o.data).alter (guidToString count.guid) (noteCount count.count)
    { o with data := counter.setCounts o.data into }

def takePhysical (o : StatisticsObserver) (info : SampleInfo) (physical : PhysicalData) :
    StatisticsObserver :=
  if ¬info.validData then o
  else
    let o := o.countSample info
    { o with
      data := { o.data with
        physical := o.data.physical.set (prefixToString physical.participantGuid)
          ⟨physical.host, physical.user, physical.process⟩ } }

def setReaderDestinations (o : StatisticsObserver) (destinations : ReaderDestinations) :
    StatisticsObserver := { o with readerDestinations := destinations }

end StatisticsObserver

/-! ## Steps -/

/-- What is done under the lock, and the calls of the listener. -/
inductive StatisticsStep
  | takeTraffic (info : SampleInfo) (traffic : Entity2LocatorTraffic)
  | takeLatency (sample : LatencySample)
  | pruneRateWindow
  | takeCount (counter : EntityCounter) (info : SampleInfo) (count : EntityCount)
  | takeLost (info : SampleInfo) (lost : Entity2LocatorTraffic)
  | takePhysical (info : SampleInfo) (physical : PhysicalData)
  | setRateWindow (sliding : Bool)
  | setReaderDestinations (destinations : ReaderDestinations)
  | sampleLost (now : ℚ) (reader : StatisticsReader) (totalCountChange : ℕ)
  | sampleLostLatency (call : ℕ)
  | sampleRejected (totalCountChange : ℕ)
  | subscriptionMatched (now : ℚ) (reader : StatisticsReader) (writer : GuidBytes)
      (currentCountChange : ℤ)
  | requestedIncompatibleQos (totalCountChange : ℕ)

section Runs

variable [IPLocator]

def doStep (o : StatisticsObserver) : StatisticsStep → StatisticsObserver
  | .takeTraffic info traffic => o.takeTraffic info traffic
  | .takeLatency sample => { o with toStatsObserver := takeSample o.toStatsObserver sample }
  | .pruneRateWindow => { o with toStatsObserver := pruneRateWindow o.toStatsObserver }
  | .takeCount counter info count => o.takeCount counter info count
  | .takeLost info lost => o.takeLost info lost
  | .takePhysical info physical => o.takePhysical info physical
  | .setRateWindow sliding => { o with toStatsObserver := setRateWindow o.toStatsObserver sliding }
  | .setReaderDestinations destinations => o.setReaderDestinations destinations
  | .sampleLost now reader change =>
    { o with listener := o.listener.onSampleLost now reader change }
  | .sampleLostLatency call => { o with listener := o.listener.onSampleLostLatency call }
  | .sampleRejected change => { o with listener := o.listener.onSampleRejected change }
  | .subscriptionMatched now reader writer change =>
    { o with listener := o.listener.onSubscriptionMatched now reader writer change }
  | .requestedIncompatibleQos change =>
    { o with listener := o.listener.onRequestedIncompatibleQos change }

/-- The observer after a run. -/
def ingested (steps : List StatisticsStep) : StatisticsObserver := steps.foldl doStep {}

end Runs

/-- What waits in the readers when a drain comes. -/
structure Waiting where
  rtpsSent : List (SampleInfo × Entity2LocatorTraffic) := []
  historyLatency : List LatencySample := []
  counts : EntityCounter → List (SampleInfo × EntityCount) := fun _ ↦ []
  rtpsLost : List (SampleInfo × Entity2LocatorTraffic) := []
  physicalData : List (SampleInfo × PhysicalData) := []

/-- One drain, when nothing else happens while it gives the lock back. -/
def drainSteps (w : Waiting) : List StatisticsStep :=
  w.rtpsSent.map (fun s ↦ .takeTraffic s.1 s.2) ++ w.historyLatency.map .takeLatency ++
    .pruneRateWindow ::
    ([EntityCounter.dataCount, .resentDatas, .heartbeats, .gaps, .acknacks, .nackfrags].flatMap
      fun counter ↦ (w.counts counter).map fun s ↦ .takeCount counter s.1 s.2) ++
    w.rtpsLost.map (fun s ↦ .takeLost s.1 s.2) ++ w.physicalData.map fun s ↦ .takePhysical s.1 s.2

/-! ## The settle status -/

def rtpsSentTopic : String := "_fastdds_statistics_rtps_sent"

structure Settle where
  announced : ℕ := 0
  heard : ℕ := 0
  measuredInstances : ℕ := 0
  unheard : List String := []
  deriving DecidableEq

def Settle.note (heard : Finset String) (out : Settle) (guid : String) : Settle :=
  let out := { out with announced := out.announced + 1 }
  if guid ∈ heard then { out with heard := out.heard + 1 }
  else { out with unheard := out.unheard ++ [rtpsSentTopic ++ " " ++ guid] }

def StatisticsObserver.settleStatus (o : StatisticsObserver) : Settle :=
  let measured := o.traffic.values.countP fun t ↦ measuresAPair t o.readerDestinations
  (Multimap.inOrder (o.listener.matched .rtpsSent)).foldl (Settle.note (o.heard .rtpsSent))
    { measuredInstances := measured }

/-! ## The snapshot -/

/-- `writerInstanceLimit` is a constant of the Fast DDS the tool is built with. -/
def StatisticsObserver.copy (o : StatisticsObserver) (writerInstanceLimit : Bool) (settle : Settle) :
    StatsData :=
  { snapshotData o.toStatsObserver with
    writerInstanceLimit := writerInstanceLimit
    writersAnnounced := settle.announced
    writersHeard := settle.heard
    measuredInstances := settle.measuredInstances
    samplesLost := o.listener.lost
    samplesLostAtStart := o.listener.lostAtStart
    samplesRejected := o.listener.rejected
    writersIncompatibleQos := o.listener.incompatibleQos
    samplesLostLatency := o.listener.lostLatency
    traffic := o.traffic.values
    lost := o.lost.values }

end TransportViz.Observer
