import Mathlib.Data.Finset.Sort
import TransportViz.Library.Script
import TransportViz.Model.Text

/-!
# The documents

`renderJson` writes a snapshot as the document a parser reads back. The texts that describe the codes
are left out: no parser reads them. `changesObject` is the `changes` member, with the comparison it is
given.
-/

namespace TransportViz.Web

open Script

structure RenderOptions where
  hostLabels : OrderedMap String String := .empty

/-- The host part of `<hostname>:<numeric host id>`, else a label for the host id. -/
def hostLabelOf (snap : Snapshot) (hostId : HostId) (hostName : String) (opt : RenderOptions) :
    String :=
  if hostName ≠ "" then String.ofList (hostName.toList.takeWhile (· ≠ ':'))
  else
    match opt.hostLabels.find? (hostIdHex hostId) with
    | some label => label
    | none => if hostId = snap.localHostId then "local" else "host:" ++ hostIdHex hostId

def hostLabel (snap : Snapshot) (e : Endpoint) (opt : RenderOptions) : String :=
  hostLabelOf snap e.hostId e.hostName opt

def texts (l : List String) : Value := .array (l.map .string)

def optionalNumber (available : Bool) (x : ℚ) : Value := if available then .number x else .null

/-- An infinite number is written as null. -/
def finite : Option ℚ → Value
  | some x => .number x
  | none => .null

def locatorMembers (l : Locator) : List (String × Value) :=
  [("kind", .string l.kind.text), ("address", .string l.address), ("port", .number l.port)]

def locatorJson (l : Locator) : Value := .object (locatorMembers l)

def locatorsJson (ls : List Locator) : Value := .array (ls.map locatorJson)

/-- The locator the verdict selected, or null when none was. -/
def selectedLocatorJson (v : Verdict) : Value :=
  if v.locator.kind = .invalid then .null
  else .object (locatorMembers v.locator ++ [("multicast", .bool v.locatorMulticast)])

def measuredLocatorJson (ml : MeasuredLocator) : Value :=
  .object (locatorMembers ml.locator ++ [("packets", .number ml.packets), ("bytes", .number ml.bytes)])

def qosJson (qos : EndpointQos) : Value :=
  .object [
    ("reliability", .string qos.reliability),
    ("durability", .string qos.durability),
    ("data_sharing", .string qos.dataSharing.text),
    ("data_sharing_domain_ids", .array (qos.dataSharingDomains.map fun id : ℕ ↦ .number id)),
    ("deadline_s", finite qos.deadlineS),
    ("liveliness", .string qos.liveliness),
    ("liveliness_lease_s", finite qos.livelinessLeaseS),
    ("ownership", .string qos.ownership),
    ("partitions", texts qos.partitions)]

def endpointJson (snap : Snapshot) (e : Endpoint) (opt : RenderOptions) : Value :=
  .object ([
    ("guid", .string e.guid),
    ("participant_guid_prefix", .string e.participantGuidPrefix),
    ("host_id", .string (hostIdHex e.hostId)),
    ("host", .string (hostLabel snap e opt)),
    ("node", .string e.nodeName),
    ("host_name", .string e.hostName),
    ("process", .string e.process),
    ("dds_topic", .string e.ddsTopic),
    ("dds_type", .string e.ddsType),
    ("ros_topic", .string e.rosTopic),
    ("ros_type", .string e.rosType),
    ("type_hash", .string e.typeHash),
    ("type_information_hash", .string e.typeInformationHash),
    ("type_information_minimal_hash", .string e.typeInformationMinimalHash),
    ("unicast_locators", locatorsJson e.unicast),
    ("multicast_locators", locatorsJson e.multicast),
    ("datasharing_history_bytes",
      optionalNumber e.datasharingHistoryAvailable e.datasharingHistoryBytes),
    ("datasharing_segment_visibility", .string e.datasharingSegmentVisibility.text),
    ("qos", qosJson e.qos)] ++
    if e.bufferParentGuid ≠ "" then [("buffer_parent_guid", .string e.bufferParentGuid)] else [])

def latencyJson (m : Measurement) : Value :=
  if m.latencyAvailable then
    .object [
      ("mean", .number m.latency.mean),
      ("min", finite m.latency.min),
      ("max", finite m.latency.max),
      ("last", .number m.latency.last),
      ("samples", .number m.latency.samples)]
  else .null

def reliabilityJson (r : Reliability) : Value :=
  if r.available then
    .object [
      ("lost_packets", optionalNumber r.lostAvailable r.lostPackets),
      ("resent_datas", .number r.resent),
      ("heartbeats", .number r.heartbeats),
      ("gaps", .number r.gaps),
      ("acknacks", .number r.acknacks),
      ("nackfrags", .number r.nackfrags)]
  else .null

def measuredJson (snap : Snapshot) (m : Measurement) : Value :=
  .object [
    ("available", .bool m.available),
    ("transports", .array (m.transports.map fun t ↦ .string t.text)),
    ("locators", .array (m.locators.map measuredLocatorJson)),
    ("packets", .number m.packets),
    ("bytes", .number m.bytes),
    ("packets_total", .number m.packetsTotal),
    ("bytes_total", .number m.bytesTotal),
    ("throughput_bytes_per_s", .null),
    ("latency_s", latencyJson m),
    ("reliability", reliabilityJson m.reliability),
    ("delivered", .bool m.delivered),
    ("delivered_samples", .number m.deliveredSamples),
    ("delivered_per_s", optionalNumber m.rateAvailable m.deliveredPerS),
    ("delivered_per_s_lower_bound", .bool m.rateLowerBound),
    ("delivered_per_s_window_s",
      .number (if 0 < m.rateWindowS then m.rateWindowS else snap.observationSeconds)),
    ("data_submessages", optionalNumber m.dataCountAvailable m.dataSubmessages)]

def pairJson (snap : Snapshot) (p : Pair) (opt : RenderOptions) : Value :=
  .object [
    ("writer_guid", .string p.writer.guid),
    ("reader_guid", .string p.reader.guid),
    ("writer_node", .string p.writer.nodeName),
    ("reader_node", .string p.reader.nodeName),
    ("writer_host", .string (hostLabel snap p.writer.toEndpoint opt)),
    ("reader_host", .string (hostLabel snap p.reader.toEndpoint opt)),
    ("transport", .string p.verdict.transport.text),
    ("locator", selectedLocatorJson p.verdict),
    ("confidence", .string p.verdict.confidence.text),
    ("reasons", texts p.verdict.reasons),
    ("warnings", texts p.verdict.warnings),
    ("measured", measuredJson snap p.measured)]

def topicJson (snap : Snapshot) (t : TopicSummary) (opt : RenderOptions) : Value :=
  .object [
    ("topic", .string t.displayTopic),
    ("dds_topic", .string t.ddsTopic),
    ("type", .string t.displayType),
    ("is_ros_topic", .bool t.isRosTopic),
    ("kind", .string t.kind.text),
    ("group", .string t.group),
    ("direction", .string t.direction.text),
    ("unmatched_reasons", texts t.unmatchedReasons),
    ("throughput_bytes_per_s", .null),
    ("latency_s", optionalNumber t.latencyAvailable t.latency),
    ("lost_packets", optionalNumber t.lostAvailable t.lostPackets),
    ("resent_datas", optionalNumber t.reliabilityAvailable t.resent),
    ("writers", .array (t.writers.map fun w ↦ endpointJson snap w.toEndpoint opt)),
    ("readers", .array (t.readers.map fun r ↦ endpointJson snap r.toEndpoint opt)),
    ("pairs", .array (t.pairs.map fun p ↦ pairJson snap p opt))]

/-! ## Discovery, participants, statistics and shared memory -/

def optionalText : Option String → Value
  | some s => .string s
  | none => .null

def optionalBool : Option Bool → Value
  | some b => .bool b
  | none => .null

def numbers (l : List ℕ) : Value := .array (l.map fun n : ℕ ↦ .number n)

def discoveryJson (d : DiscoveryStatus) : Value :=
  .object [
    ("complete", optionalBool d.complete),
    ("stopped_on", .string d.stoppedOn),
    ("events", .number d.events),
    ("endpoints", .number d.endpoints),
    ("announced_not_discovered", .number d.announcedNotDiscovered),
    ("observer_protocol", .string d.observerProtocol),
    ("discovery_servers", locatorsJson d.discoveryServers),
    ("discovery_server_env", .string d.discoveryServerEnv),
    ("easy_mode", .string d.easyMode)]

def shmPortJson (sp : ShmPort) : Value :=
  .object [
    ("port", .number sp.port),
    ("lock", .string sp.lock.text),
    ("announced_by", .number sp.announcedBy),
    ("proof", .bool sp.proof)]

def participantJson (snap : Snapshot) (p : Participant) (opt : RenderOptions) : Value :=
  .object [
    ("guid_prefix", .string p.guidPrefix),
    ("host_id", .string (hostIdHex p.hostId)),
    ("host", .string (hostLabelOf snap p.hostId p.hostName opt)),
    ("host_name", .string p.hostName),
    ("own", .bool p.own),
    ("discovery_protocol", .string p.discoveryProtocol),
    ("name", .string p.name),
    ("vendor", .string p.vendor),
    ("metatraffic_locators", locatorsJson p.metatrafficLocators),
    ("discovery_server", optionalText p.discoveryServer),
    ("shm_visibility", .string p.shmVisibility.text),
    ("shm_ports", .array (p.shmPorts.map shmPortJson))]

/-- The members that entries of `traffic` and of `lost` share. -/
def trafficMembers (s : TrafficSample) : List (String × Value) :=
  [("src_participant_guid_prefix", .string s.srcParticipantPrefix),
    ("dst_locator", locatorJson s.dst),
    ("packets", .number s.packets),
    ("bytes", .number s.bytes),
    ("packets_first", .number s.packetsFirst),
    ("bytes_first", .number s.bytesFirst)]

def trafficJson (s : TrafficSample) : Value := .object (trafficMembers s)

def lostJson (s : TrafficSample) : Value :=
  .object
    (("reporter_participant_guid_prefix", .string s.reporterParticipantPrefix) :: trafficMembers s)

def dataCountJson (s : DataCountSample) : Value :=
  .object [
    ("first", .number s.first),
    ("last", .number s.last),
    ("samples", .number s.samples)]

def hostInfoJson (info : HostInfo) : Value :=
  .object [
    ("host", .string info.host),
    ("user", .string info.user),
    ("process", .string info.process)]

def statisticsWriterJson (entry : String × String) : Value :=
  .object [("participant_guid_prefix", .string entry.1), ("topic", .string entry.2)]

/-- The entries of a `std::set` of pairs, in its order. -/
def sortedPairs (s : Finset (String × String)) : List (String × String) :=
  ((s.map (toLex (α := String × String)).toEmbedding).sort (· ≤ ·)).map ofLex

def statsJson (stats : StatsData) : Value :=
  .object [
    ("enabled", .bool stats.enabled),
    ("samples", .number stats.samples),
    ("data_count",
      .object (stats.dataCount.entries.map fun entry ↦ (entry.1, dataCountJson entry.2))),
    ("throughput", .object []),
    ("participants_with_stats", texts (stats.participantsWithStats.sort (· ≤ ·))),
    ("statistics_writers",
      .array ((sortedPairs stats.statisticsWriters).map statisticsWriterJson)),
    ("physical", .object (stats.physical.entries.map fun entry ↦ (entry.1, hostInfoJson entry.2))),
    ("traffic", .array (stats.traffic.map trafficJson)),
    ("lost", .array (stats.lost.map lostJson)),
    ("samples_lost", .number stats.samplesLost),
    ("samples_lost_at_start", .number stats.samplesLostAtStart),
    ("samples_rejected", .number stats.samplesRejected),
    ("writers_incompatible_qos", .number stats.writersIncompatibleQos),
    ("writers_announced", .number stats.writersAnnounced),
    ("writers_heard", .number stats.writersHeard),
    ("measured_instances", .number stats.measuredInstances),
    ("measurable_pairs", .number stats.measurablePairs),
    ("settled", .bool stats.settled),
    ("settled_at_s", optionalNumber (0 ≤ stats.settledAtS) stats.settledAtS),
    ("samples_lost_latency", .number stats.samplesLostLatency),
    ("pairs_delivered", .number stats.pairsDelivered),
    ("pairs_delivered_unmeasured", .number stats.pairsDeliveredUnmeasured),
    ("pairs_delivered_absent", .number stats.pairsDeliveredAbsent),
    ("warnings", texts stats.warnings)]

/-- Nothing but the path and the warnings is written of a directory that is not there. -/
def shmJson (shm : ShmInfo) : Value :=
  .object ([
    ("available", .bool shm.available),
    ("path", .string shm.path),
    ("warnings", texts shm.warnings)] ++
    if shm.available then [
      ("total_bytes", .number shm.totalBytes),
      ("used_bytes", .number shm.usedBytes),
      ("free_bytes", .number shm.freeBytes),
      ("fastdds_bytes", .number shm.fastddsBytes),
      ("segments", .number shm.segments),
      ("stale_segments", .number shm.staleSegments),
      ("ports", .number shm.ports),
      ("stale_ports", .number shm.stalePorts),
      ("datasharing_histories", .number shm.datasharingHistories),
      ("datasharing_unmatched", .number shm.datasharingUnmatched),
      ("datasharing_notifications", .number shm.datasharingNotifications),
      ("checked_ports", numbers shm.checkedPorts),
      ("missing_ports", numbers shm.missingPorts),
      ("unknown_ports", numbers shm.unknownPorts),
      ("other_host_participants", .number shm.otherHostParticipants),
      ("nodes_visible", .bool shm.nodesVisible)]
    else [])

def renderJson (snap : Snapshot) (opt : RenderOptions) : Value :=
  .object ([
    ("schema_version", .number 1),
    ("domain", .number snap.domain),
    ("observed_at", .string snap.observedAt),
    ("observation_seconds", .number snap.observationSeconds),
    ("local_host_id", .string (hostIdHex snap.localHostId)),
    ("topics", .array (snap.topics.map fun t ↦ topicJson snap t opt)),
    ("stats", statsJson snap.stats),
    ("shm", shmJson snap.shm)] ++
    -- an observation always says what it stopped on
    (if snap.discovery.stoppedOn ≠ "" then [("discovery", discoveryJson snap.discovery)] else []) ++
    if snap.participants ≠ [] then
      [("participants", .array (snap.participants.map fun p ↦ participantJson snap p opt))]
    else [])

/-! ## The `changes` member -/

/-- `{kind, address, port}`. -/
structure LocatorObject where
  kind : Value
  address : Value
  port : Value

/-- A pair's state as both programs write it; no locator is null. -/
structure StateObject where
  transport : Value
  confidence : Value
  measured : List Value
  locator : Option LocatorObject
  measuredLocators : List LocatorObject
  warnings : List Value

/-- A changed pair: the members of its key, and `from` with the GUIDs of before. -/
structure ChangedPair where
  key : PairKey
  before : StateObject
  beforeWriterGuid : String
  beforeReaderGuid : String
  after : StateObject

structure ChangesObject where
  key : String
  /-- `observed_at` and `domain` of the document compared with. -/
  before : Value × Value
  addedPairs : List PairKey
  removedPairs : List PairKey
  changedPairs : List ChangedPair

def locatorObject (l : Locator) : LocatorObject where
  kind := .string l.kind.text
  address := .string l.address
  port := .number l.port

/-- Null when no locator was selected. -/
def selectedObject (l : Locator) : Option LocatorObject :=
  if l.kind = .invalid then none else some (locatorObject l)

def stateObject (state : PairState) : StateObject where
  transport := .string state.transport.text
  confidence := .string state.confidence.text
  measured := state.measured.map fun t ↦ .string t.text
  locator := selectedObject state.locator
  measuredLocators := state.measuredLocators.map locatorObject
  warnings := state.warnings.map .string

def changedPair (change : PairChange) : ChangedPair where
  key := change.key
  before := stateObject change.before
  beforeWriterGuid := change.beforeKey.writerGuid
  beforeReaderGuid := change.beforeKey.readerGuid
  after := stateObject change.after

def changesObject (before : Snapshot) (changes : Changes) : ChangesObject where
  key := changes.key.text
  before := (.string before.observedAt, .number before.domain)
  addedPairs := changes.added
  removedPairs := changes.removed
  changedPairs := changes.changed.map changedPair

end TransportViz.Web
