import Mathlib.Algebra.GroupWithZero.Nat
import Mathlib.Algebra.Order.Ring.Rat
import Mathlib.Data.Finset.Basic
import Mathlib.Data.Prod.Lex
import Mathlib.Data.String.Basic
import Mathlib.Data.Vector.Basic
import Mathlib.Order.WithBot
import TransportViz.Library.OrderedMap

/-!
# The data model shared by the observers, the decision logic and the renderers

Plain records with the defaults of the source. Counters and sizes are natural numbers, a `double` is
an exact rational (`WithTop ℚ` where it starts at infinity), `std::map` is an `OrderedMap` and
`std::set` a `Finset`. A `const Endpoint *` is an `EndpointPtr`: the endpoint together with the place
it has in `Snapshot::endpoints`, so that two pointers are equal only when they point to one element.

A `std::string` is a `String`, so names that are not UTF-8 have no place here, and neither have NaN and
infinite latencies.
-/

namespace TransportViz

/-- Locator kinds as announced during discovery. -/
inductive LocatorKind
  | invalid
  | udpv4
  | udpv6
  | tcpv4
  | tcpv6
  | shm
  deriving DecidableEq

structure Locator where
  kind : LocatorKind := .invalid
  /-- Dotted IPv4 or IPv6 text, empty for SHM. -/
  address : String := ""
  port : ℕ := 0
  deriving DecidableEq

inductive DataSharingKind
  | unknown
  | off
  | on
  | auto
  deriving DecidableEq

structure EndpointQos where
  reliability : String := ""
  durability : String := ""
  dataSharing : DataSharingKind := .unknown
  /-- Effective domain ids announced. -/
  dataSharingDomains : List ℕ := []
  deadlineS : WithTop ℚ := ⊤
  liveliness : String := "AUTOMATIC"
  livelinessLeaseS : WithTop ℚ := ⊤
  ownership : String := "SHARED"
  /-- Empty for the default partition. -/
  partitions : List String := []
  deriving DecidableEq

/-- The first four bytes of the GUID prefix: what Fast DDS takes for one host. -/
abbrev HostId := List.Vector UInt8 4

/-- GUID prefix (12 bytes) and entity id (4 bytes). -/
abbrev GuidBytes := List.Vector UInt8 16

instance neZeroSixteen : NeZero 16 := ⟨by decide⟩

/-- Whether a participant with the tool's host id is seen from the tool's IPC namespace. -/
inductive ShmVisibility
  | unprobed
  | visible
  | notVisible
  deriving DecidableEq

structure Endpoint where
  isWriter : Bool := false
  guid : String := ""
  guidBytes : GuidBytes := List.Vector.replicate 16 0
  hostId : HostId := List.Vector.replicate 4 0
  participantGuidPrefix : String := ""
  ddsTopic : String := ""
  ddsType : String := ""
  /-- Demangled; empty when not a ROS topic. -/
  rosTopic : String := ""
  /-- Demangled; empty when not a ROS type. -/
  rosType : String := ""
  /-- REP-2011 type hash, empty when the endpoint announces none. -/
  typeHash : String := ""
  /-- Complete XTypes hash, empty when the endpoint announces none. -/
  typeInformationHash : String := ""
  /-- Minimal XTypes hash: the only one a minimal-bandwidth peer announces. -/
  typeInformationMinimalHash : String := ""
  nodeName : String := ""
  hostName : String := ""
  process : String := ""
  unicast : List Locator := []
  multicast : List Locator := []
  qos : EndpointQos := {}
  /-- Only the SHM locator of a same-host peer is visible. -/
  sameHostLocatorsFiltered : Bool := false
  datasharingHistoryAvailable : Bool := false
  datasharingHistoryBytes : ℕ := 0
  /-- SHM unicast ports of every endpoint of this endpoint's participant. -/
  participantShmPorts : Finset ℕ := ∅
  participantShmVisibility : ShmVisibility := .unprobed
  datasharingSegmentVisibility : ShmVisibility := .unprobed
  /-- The endpoint of the parent topic a native-buffer companion carries the data of. -/
  bufferParentGuid : String := ""
  bufferCompanionGuids : List String := []
  deriving DecidableEq

/-- An endpoint with its place in `Snapshot::endpoints`. -/
structure EndpointPtr extends Endpoint where
  address : ℕ
  deriving DecidableEq

inductive Transport
  | udpv4
  | udpv6
  | tcpv4
  | tcpv6
  | shm
  | dataSharing
  | none
  deriving DecidableEq

inductive Confidence
  | certain
  | likely
  deriving DecidableEq

/-- What a DDS topic is, in ROS terms. -/
inductive TopicKind
  | topic
  | service
  | action
  | other
  deriving DecidableEq

/-- Which way a member of a service or action group travels. -/
inductive GroupDirection
  | none
  | toServer
  | toClient
  deriving DecidableEq

structure Verdict where
  transport : Transport := .none
  confidence : Confidence := .certain
  /-- The reader locator the decision selected; kind invalid when none was. -/
  locator : Locator := {}
  locatorMulticast : Bool := false
  reasons : List String := []
  warnings : List String := []
  deriving DecidableEq

/-- HISTORY_LATENCY samples of one writer and reader (write to notification, seconds). -/
structure LatencyStat where
  sum : ℚ := 0
  min : WithTop ℚ := ⊤
  max : WithBot ℚ := ⊥
  last : ℚ := 0
  samples : ℕ := 0
  deriving DecidableEq

namespace LatencyStat

def mean (stat : LatencyStat) : ℚ := if stat.samples = 0 then 0 else stat.sum / stat.samples

def add (stat : LatencyStat) (value : ℚ) : LatencyStat where
  sum := stat.sum + value
  min := if (value : WithTop ℚ) < stat.min then value else stat.min
  max := if stat.max < (value : WithBot ℚ) then value else stat.max
  last := value
  samples := stat.samples + 1

end LatencyStat

/-- Reliability counters of a pair over the observation (window deltas). -/
structure Reliability where
  available : Bool := false
  lostAvailable : Bool := false
  lostPackets : ℕ := 0
  resent : ℕ := 0
  heartbeats : ℕ := 0
  gaps : ℕ := 0
  acknacks : ℕ := 0
  nackfrags : ℕ := 0
  deriving DecidableEq

/-- One destination locator that carried packets of a pair. -/
structure MeasuredLocator where
  locator : Locator
  packets : ℕ := 0
  bytes : ℚ := 0
  deriving DecidableEq

/-- What the statistics module observed for a pair. -/
structure Measurement where
  available : Bool := false
  transports : List Transport := []
  locators : List MeasuredLocator := []
  packets : ℕ := 0
  bytes : ℚ := 0
  packetsTotal : ℕ := 0
  bytesTotal : ℚ := 0
  latencyAvailable : Bool := false
  latency : LatencyStat := {}
  delivered : Bool := false
  deliveredSamples : ℕ := 0
  rateAvailable : Bool := false
  deliveredPerS : ℚ := 0
  rateLowerBound : Bool := false
  rateWindowS : ℚ := 0
  reliability : Reliability := {}
  dataCountAvailable : Bool := false
  dataSubmessages : ℕ := 0
  deriving DecidableEq

structure Pair where
  writer : EndpointPtr
  reader : EndpointPtr
  verdict : Verdict := {}
  measured : Measurement := {}
  deriving DecidableEq

structure TopicSummary where
  ddsTopic : String := ""
  /-- ROS name when available, else DDS name. -/
  displayTopic : String := ""
  displayType : String := ""
  /-- The first endpoint's. -/
  ddsType : String := ""
  isRosTopic : Bool := false
  kind : TopicKind := .other
  /-- Owning service or action, empty for a plain topic. -/
  group : String := ""
  direction : GroupDirection := .none
  writers : List EndpointPtr := []
  readers : List EndpointPtr := []
  pairs : List Pair := []
  unmatchedReasons : List String := []
  latencyAvailable : Bool := false
  latency : ℚ := 0
  reliabilityAvailable : Bool := false
  lostAvailable : Bool := false
  lostPackets : ℕ := 0
  resent : ℕ := 0
  deriving DecidableEq

/-! ## Statistics module data -/

/-- From statistics PHYSICAL_DATA. -/
structure HostInfo where
  host : String := ""
  user : String := ""
  process : String := ""
  deriving DecidableEq

/-- Latest cumulative RTPS_SENT (RTPS_LOST) counter for a source participant and a locator. -/
structure TrafficSample where
  srcParticipantPrefix : String
  dst : Locator
  packets : ℕ := 0
  bytes : ℚ := 0
  packetsFirst : ℕ := 0
  bytesFirst : ℚ := 0
  samples : ℕ := 0
  /-- RTPS_LOST only: the participant that missed the packets. -/
  reporterParticipantPrefix : String := ""
  deriving DecidableEq

/-- Cumulative count of one entity at its first and its last sample. -/
structure DataCountSample where
  first : ℕ := 0
  last : ℕ := 0
  samples : ℕ := 0
  deriving DecidableEq

def kStatsDataCountTopic : String := "_fastdds_statistics_data_count"

def kStatsRtpsLostTopic : String := "_fastdds_statistics_rtps_lost"

/-- HISTORY_LATENCY samples of one pair inside the rate window. -/
structure DeliveryWindow where
  samples : ℕ := 0
  firstS : ℚ := 0
  lastS : ℚ := 0
  deriving DecidableEq

/-- Key of the per-pair statistics: writer GUID, reader GUID. -/
abbrev GuidPair := String ×ₗ String

structure StatsData where
  enabled : Bool := false
  /-- By participant prefix. -/
  physical : OrderedMap String HostInfo := .empty
  traffic : List TrafficSample := []
  delivered : OrderedMap GuidPair ℕ := .empty
  latency : OrderedMap GuidPair LatencyStat := .empty
  deliveryWindow : OrderedMap GuidPair DeliveryWindow := .empty
  latencyGaps : OrderedMap String ℕ := .empty
  rateWindowS : ℚ := 0
  dataCount : OrderedMap String DataCountSample := .empty
  lost : List TrafficSample := []
  resentDatas : OrderedMap String DataCountSample := .empty
  heartbeats : OrderedMap String DataCountSample := .empty
  gaps : OrderedMap String DataCountSample := .empty
  acknacks : OrderedMap String DataCountSample := .empty
  nackfrags : OrderedMap String DataCountSample := .empty
  /-- Participant prefix and statistics topic of every discovered statistics writer. -/
  statisticsWriters : Finset (String × String) := ∅
  participantsWithStats : Finset String := ∅
  localAddresses : Finset String := ∅
  writerInstanceLimit : Bool := true
  samples : ℕ := 0
  samplesLost : ℕ := 0
  samplesLostLatency : ℕ := 0
  samplesLostAtStart : ℕ := 0
  samplesRejected : ℕ := 0
  writersIncompatibleQos : ℕ := 0
  writersAnnounced : ℕ := 0
  writersHeard : ℕ := 0
  measuredInstances : ℕ := 0
  measurablePairs : ℕ := 0
  settled : Bool := false
  /-- Negative when the run did not settle. -/
  settledAtS : ℚ := -1
  pairsDelivered : ℕ := 0
  pairsDeliveredUnmeasured : ℕ := 0
  pairsDeliveredAbsent : ℕ := 0
  warnings : List String := []

/-! ## Participants and the shared memory of the tool's environment -/

/-- What the lock file of one SHM port says in the tool's directory. -/
inductive PortLock
  | unprobed
  | held
  | own
  | absent
  | stale
  | unknown
  deriving DecidableEq

/-- An SHM unicast port that a participant's endpoints announce. -/
structure ShmPort where
  port : ℕ := 0
  lock : PortLock := .unprobed
  /-- Discovered participants announcing this number. -/
  announcedBy : ℕ := 1
  /-- False when only the ros_discovery_info reader of the participant has it. -/
  proof : Bool := true
  deriving DecidableEq

structure Participant where
  guidPrefix : String := ""
  hostId : HostId := List.Vector.replicate 4 0
  hostName : String := ""
  /-- One of the tool's own participants. -/
  own : Bool := false
  shmPorts : List ShmPort := []
  shmVisibility : ShmVisibility := .unprobed
  discoveryProtocol : String := ""
  name : String := ""
  vendor : String := ""
  metatrafficLocators : List Locator := []
  discoveryServer : Option String := none
  deriving DecidableEq

/-- Capacity of the directory and what Fast DDS keeps there. -/
structure ShmInfo where
  available : Bool := false
  path : String := ""
  totalBytes : ℕ := 0
  usedBytes : ℕ := 0
  freeBytes : ℕ := 0
  fastddsBytes : ℕ := 0
  segments : ℕ := 0
  staleSegments : ℕ := 0
  ports : ℕ := 0
  stalePorts : ℕ := 0
  datasharingHistories : ℕ := 0
  datasharingUnmatched : ℕ := 0
  datasharingNotifications : ℕ := 0
  checkedPorts : List ℕ := []
  missingPorts : List ℕ := []
  unknownPorts : List ℕ := []
  portLocks : OrderedMap ℕ PortLock := .empty
  otherHostParticipants : ℕ := 0
  nodesVisible : Bool := true
  warnings : List String := []
  /-- Bytes of the histories of discovered writers, by their GUIDs. -/
  datasharingByWriter : OrderedMap String ℕ := .empty
  datasharingNotificationReaders : Finset String := ∅
  listed : Bool := false

/-- Whether discovery had settled when the observation stopped. -/
structure DiscoveryStatus where
  /-- Unset when no live participant announced anything. -/
  complete : Option Bool := none
  /-- Empty when there was no observation. -/
  stoppedOn : String := ""
  events : ℕ := 0
  endpoints : ℕ := 0
  announcedNotDiscovered : ℕ := 0
  observerProtocol : String := "SIMPLE"
  discoveryServers : List Locator := []
  discoveryServerEnv : String := ""
  easyMode : String := ""
  deriving DecidableEq

/-! ## Frame-to-frame changes -/

/-- Names a pair; the node names are carried along and are not part of the identity. -/
structure PairKey where
  topic : String
  writerGuid : String
  readerGuid : String
  writerNode : String := ""
  readerNode : String := ""
  deriving DecidableEq

/-- The part of a pair's verdict whose change is worth highlighting. -/
structure PairState where
  transport : Transport := .none
  confidence : Confidence := .certain
  measured : List Transport := []
  locator : Locator := {}
  measuredLocators : List Locator := []
  warnings : List String := []
  deriving DecidableEq

structure PairChange where
  key : PairKey
  before : PairState
  after : PairState
  beforeKey : PairKey
  deriving DecidableEq

/-- How two snapshots' pairs are matched. -/
inductive KeyMode
  | guid
  | node
  deriving DecidableEq

structure Changes where
  added : List PairKey := []
  removed : List PairKey := []
  changed : List PairChange := []
  key : KeyMode := .guid
  deriving DecidableEq

structure Snapshot where
  domain : ℤ := 0
  observedAt : String := ""
  observationSeconds : ℚ := 0
  localHostId : HostId := List.Vector.replicate 4 0
  endpoints : List Endpoint := []
  participants : List Participant := []
  topics : List TopicSummary := []
  stats : StatsData := {}
  shm : ShmInfo := {}
  discovery : DiscoveryStatus := {}

end TransportViz
