import TransportViz.Decision.Summarize
import TransportViz.Library.JsonReader
import TransportViz.Model.Text

/-!
# Reading a saved document

`parseJson` is the inverse of `renderJson`: a snapshot from a parsed document. Endpoints are read
first, so that topics and pairs can point to them; what older documents do not have is filled in.
-/

namespace TransportViz.Json

open JsonReader RosNames
open Script (Value)

/-! ## Enumerations -/

def locatorKind (s : String) : Read LocatorKind :=
  if s = "UDPv4" then .ok .udpv4
  else if s = "UDPv6" then .ok .udpv6
  else if s = "TCPv4" then .ok .tcpv4
  else if s = "TCPv6" then .ok .tcpv6
  else if s = "SHM" then .ok .shm
  else if s = "INVALID" then .ok .invalid
  else .error (.parse ("unknown locator kind '" ++ s ++ "'"))

def transport (s : String) : Read Transport :=
  if s = "UDPv4" then .ok .udpv4
  else if s = "UDPv6" then .ok .udpv6
  else if s = "TCPv4" then .ok .tcpv4
  else if s = "TCPv6" then .ok .tcpv6
  else if s = "SHM" then .ok .shm
  else if s = "DATA_SHARING" then .ok .dataSharing
  else if s = "NONE" then .ok .none
  else .error (.parse ("unknown transport '" ++ s ++ "'"))

def confidence (s : String) : Read Confidence :=
  if s = "certain" then .ok .certain
  else if s = "likely" then .ok .likely
  else .error (.parse ("unknown confidence '" ++ s ++ "'"))

/-- An unknown spelling is not fatal; the flag falls. -/
def topicKind (s : String) (known : Bool) : TopicKind × Bool :=
  if s = "topic" then (.topic, known)
  else if s = "service" then (.service, known)
  else if s = "action" then (.action, known)
  else if s = "other" then (.other, known)
  else (.other, false)

def groupDirection (s : String) (known : Bool) : GroupDirection × Bool :=
  if s = "" then (.none, known)
  else if s = "to_server" then (.toServer, known)
  else if s = "to_client" then (.toClient, known)
  else (.none, false)

def dataSharing (s : String) : DataSharingKind :=
  if s = "OFF" then .off
  else if s = "ON" then .on
  else if s = "AUTO" then .auto
  else .unknown

def shmVisibility (s : String) : ShmVisibility :=
  if s = "visible" then .visible
  else if s = "not-visible" then .notVisible
  else .unprobed

def portLock (s : String) : PortLock :=
  if s = "held" then .held
  else if s = "own" then .own
  else if s = "absent" then .absent
  else if s = "stale" then .stale
  else if s = "unknown" then .unknown
  else .unprobed

/-! ## Hexadecimal texts -/

def hexValue (c : Char) : Option ℕ :=
  if '0' ≤ c ∧ c ≤ '9' then some (c.toNat - 48)
  else if 'a' ≤ c ∧ c ≤ 'f' then some (c.toNat - 87)
  else if 'A' ≤ c ∧ c ≤ 'F' then some (c.toNat - 55)
  else none

/-- The value of the digits up to the first other character, `none` when there is no digit. -/
def hexNumber? : List Char → Option ℕ
  | [] => none
  | c :: rest =>
      (hexValue c).map fun digit ↦
        (rest.map hexValue).takeWhile Option.isSome |>.foldl (fun n d ↦ 16 * n + d.getD 0) digit

def isSpace (c : Char) : Bool := c ∈ [' ', '\t', '\n', '\x0b', '\x0c', '\r']

/-- `std::stoul(s, nullptr, 16)` of two characters, which have no room for `0x` and a digit. A minus
sign wraps around. -/
def stoul (s : List Char) : Read ℤ :=
  let number (sign : ℤ) (digits : List Char) : Read ℤ :=
    match hexNumber? digits with
    | some n => .ok (sign * n)
    | none => .error (.other "stoul")
  match s.dropWhile isSpace with
  | '-' :: rest => number (-1) rest
  | '+' :: rest => number 1 rest
  | digits => number 1 digits

def toByte (z : ℤ) : UInt8 := UInt8.ofNat (z % 256).toNat

def hostId (hex : String) : Read HostId :=
  if hex.utf8ByteSize ≠ 8 then .error (.parse ("host id '" ++ hex ++ "' is not 8 hex digits"))
  else
    match hex.toList with
    | [a, b, c, d, e, f, g, h] => do
        let first ← stoul [a, b]
        let second ← stoul [c, d]
        let third ← stoul [e, f]
        let fourth ← stoul [g, h]
        return ⟨[toByte first, toByte second, toByte third, toByte fourth], rfl⟩
    -- a character of several bytes always has one that starts a pair
    | _ => .error (.other "stoul")

/-- The bytes up to the sixteenth, `none` at a character that is no digit. -/
def scanGuid : List Char → List UInt8 → Option (List UInt8)
  | c :: d :: rest, out =>
      if out.length = 16 then some out
      else if c = '.' ∨ c = '|' then scanGuid (d :: rest) out
      else
        match hexValue c, hexValue d with
        | some high, some low => scanGuid rest (out ++ [UInt8.ofNat (16 * high + low)])
        | _, _ => none
  | _, out => some out

/-- Zeros for any text of another form. -/
def guidBytes (guid : String) : GuidBytes :=
  match scanGuid guid.toList [] with
  | some out => if h : out.length = 16 then ⟨out, h⟩ else List.Vector.replicate 16 0
  | none => List.Vector.replicate 16 0

/-! ## Endpoints -/

def locator (j : Value) (place : String) : Read Locator := do
  let kind ← locatorKind (← string (← atKey j "kind" place))
  let address ← string (← atKey j "address" place)
  let port ← uint32 (← atKey j "port" place)
  return { kind := kind, address := address, port := port }

def locators (j : Value) (place : String) : Read (List Locator) :=
  (elements j).mapM fun l ↦ locator l place

/-- A number, or no limit. -/
def limit (j : Value) : WithTop ℚ := number? j

/-- A number that the document may leave open. -/
def counter (j : Value) : ℕ := ((number? j).map (toUnsigned 64)).getD 0

def endpointQos (qos : Value) (place : String) : Read EndpointQos := do
  let reliability ← string (← atKey qos "reliability" place)
  let durability ← string (← atKey qos "durability" place)
  let sharing ← string (← atKey qos "data_sharing" place)
  let domains ← valueOr (vector uint64) qos "data_sharing_domain_ids" []
  let deadline ← valueOr json qos "deadline_s" .null
  let liveliness ← valueOr string qos "liveliness" "AUTOMATIC"
  let lease ← valueOr json qos "liveliness_lease_s" .null
  let ownership ← valueOr string qos "ownership" "SHARED"
  let partitions ← valueOr (vector string) qos "partitions" []
  return {
    reliability := reliability
    durability := durability
    dataSharing := dataSharing sharing
    dataSharingDomains := domains
    deadlineS := limit deadline
    liveliness := liveliness
    livelinessLeaseS := limit lease
    ownership := ownership
    partitions := partitions }

def endpoint (j : Value) (isWriter : Bool) (place : String) : Read Endpoint := do
  let guid ← string (← atKey j "guid" place)
  let participantGuidPrefix ← string (← atKey j "participant_guid_prefix" place)
  let host ← hostId (← string (← atKey j "host_id" place))
  let node ← string (← atKey j "node" place)
  let hostName ← valueOr string j "host_name" ""
  let process ← valueOr string j "process" ""
  let bufferParentGuid ← valueOr string j "buffer_parent_guid" ""
  let ddsTopic ← string (← atKey j "dds_topic" place)
  let ddsType ← string (← atKey j "dds_type" place)
  let rosTopic ← string (← atKey j "ros_topic" place)
  let rosType ← string (← atKey j "ros_type" place)
  let typeHash ← valueOr string j "type_hash" ""
  let typeInformationHash ← valueOr string j "type_information_hash" ""
  let typeInformationMinimalHash ← valueOr string j "type_information_minimal_hash" ""
  let unicast ← locators (← atKey j "unicast_locators" place) place
  let multicast ← locators (← atKey j "multicast_locators" place) place
  let history := (member? j "datasharing_history_bytes").getD .null
  let visibility ← valueOr string j "datasharing_segment_visibility" "unprobed"
  let qos ← endpointQos (← atKey j "qos" place) place
  return {
    isWriter := isWriter
    guid := guid
    guidBytes := guidBytes guid
    hostId := host
    participantGuidPrefix := participantGuidPrefix
    ddsTopic := ddsTopic
    ddsType := ddsType
    rosTopic := rosTopic
    rosType := rosType
    typeHash := typeHash
    typeInformationHash := typeInformationHash
    typeInformationMinimalHash := typeInformationMinimalHash
    nodeName := normalizeNodeName node
    hostName := hostName
    process := process
    unicast := unicast
    multicast := multicast
    qos := qos
    datasharingHistoryAvailable := (number? history).isSome
    datasharingHistoryBytes := counter history
    datasharingSegmentVisibility := shmVisibility visibility
    bufferParentGuid := bufferParentGuid }

/-! ## Measurements -/

def measuredLocator (l : Value) (place : String) : Read MeasuredLocator := do
  let locator ← locator l place
  let packets ← valueOr unsignedLongLong l "packets" 0
  let bytes ← valueOr double l "bytes" 0
  return { locator := locator, packets := packets, bytes := bytes }

def latencyStat (latency : Value) : Read LatencyStat := do
  let samples ← valueOr unsignedLongLong latency "samples" 0
  let mean ← valueOr double latency "mean" 0
  let min ← valueOr double latency "min" 0
  let max ← valueOr double latency "max" 0
  let last ← valueOr double latency "last" 0
  return { sum := mean * samples, min := min, max := max, last := last, samples := samples }

/-- Any other value means that there is none. -/
def optionalLatency (latency : Value) : Read LatencyStat :=
  if isObject latency then latencyStat latency else .ok {}

def reliability (j : Value) : Read Reliability := do
  let lost ← valueOr json j "lost_packets" .null
  let resent ← valueOr unsignedLongLong j "resent_datas" 0
  let heartbeats ← valueOr unsignedLongLong j "heartbeats" 0
  let gaps ← valueOr unsignedLongLong j "gaps" 0
  let acknacks ← valueOr unsignedLongLong j "acknacks" 0
  let nackfrags ← valueOr unsignedLongLong j "nackfrags" 0
  return {
    available := true
    lostAvailable := (number? lost).isSome
    lostPackets := counter lost
    resent := resent
    heartbeats := heartbeats
    gaps := gaps
    acknacks := acknacks
    nackfrags := nackfrags }

def optionalReliability (reliable : Value) : Read Reliability :=
  if isObject reliable then reliability reliable else .ok {}

def measurement (j : Value) (place : String) : Read Measurement := do
  let available ← bool (← atKey j "available" place)
  let transports ← (elements (← atKey j "transports" place)).mapM fun t ↦ do transport (← string t)
  let locators ← (elements (← atKey j "locators" place)).mapM fun l ↦ measuredLocator l place
  let packets ← uint64 (← atKey j "packets" place)
  let bytes ← double (← atKey j "bytes" place)
  let packetsTotal ← valueOr unsignedLongLong j "packets_total" 0
  let bytesTotal ← valueOr double j "bytes_total" 0
  let latency ← valueOr json j "latency_s" .null
  let latencyStat ← optionalLatency latency
  let delivered ← bool (← atKey j "delivered" place)
  let deliveredSamples ← valueOr unsignedLongLong j "delivered_samples" 0
  let rate ← valueOr json j "delivered_per_s" .null
  let rateLowerBound ← valueOr bool j "delivered_per_s_lower_bound" false
  let rateWindowS ← valueOr double j "delivered_per_s_window_s" 0
  let reliable ← valueOr json j "reliability" .null
  let reliability ← optionalReliability reliable
  let submessages ← valueOr json j "data_submessages" .null
  return {
    available := available
    transports := transports
    locators := locators
    packets := packets
    bytes := bytes
    packetsTotal := packetsTotal
    bytesTotal := bytesTotal
    latencyAvailable := isObject latency
    latency := latencyStat
    delivered := delivered
    deliveredSamples := deliveredSamples
    rateAvailable := (number? rate).isSome
    deliveredPerS := (number? rate).getD 0
    rateLowerBound := rateLowerBound
    rateWindowS := rateWindowS
    reliability := reliability
    dataCountAvailable := (number? submessages).isSome
    dataSubmessages := counter submessages }

/-! ## Statistics and shared memory -/

/-- An entry of `traffic` or of `lost`, which older documents spell in different ways. -/
def trafficSample (j : Value) (prefixKey locatorKey place : String) : Read TrafficSample := do
  let src ← string (← atKey j prefixKey place)
  let dst ← locator (← atKey j locatorKey place) place
  let packets ← uint64 (← atKey j "packets" place)
  let bytes ← double (← atKey j "bytes" place)
  let packetsFirst ← valueOr unsignedLongLong j "packets_first" 0
  let bytesFirst ← valueOr double j "bytes_first" 0
  return {
    srcParticipantPrefix := src
    dst := dst
    packets := packets
    bytes := bytes
    packetsFirst := packetsFirst
    bytesFirst := bytesFirst }

def lostSample (j : Value) : Read TrafficSample := do
  let oldKeys := (member? j "src_participant_guid_prefix").isNone &&
    (member? j "receiver_participant_guid_prefix").isSome
  let sample ←
    if oldKeys then trafficSample j "receiver_participant_guid_prefix" "from_locator" "stats.lost"
    else trafficSample j "src_participant_guid_prefix" "dst_locator" "stats.lost"
  let reporter ← valueOr string j "reporter_participant_guid_prefix" ""
  return { sample with reporterParticipantPrefix := reporter }

def hostInfo (entry : String × Value) : Read (String × HostInfo) := do
  let host ← valueOr string entry.2 "host" ""
  let user ← valueOr string entry.2 "user" ""
  let process ← valueOr string entry.2 "process" ""
  return (entry.1, { host := host, user := user, process := process })

def dataCountSample (entry : String × Value) : Read (String × DataCountSample) := do
  let first ← valueOr unsignedLongLong entry.2 "first" 0
  let last ← valueOr unsignedLongLong entry.2 "last" 0
  let samples ← valueOr unsignedLongLong entry.2 "samples" 0
  return (entry.1, { first := first, last := last, samples := samples })

def statisticsWriter (w : Value) : Read (String × String) := do
  let participant ← valueOr string w "participant_guid_prefix" ""
  let topic ← valueOr string w "topic" ""
  return (participant, topic)

def stats (j : Value) : Read StatsData := do
  let enabled ← bool (← atKey j "enabled" "stats")
  let samples ← uint64 (← atKey j "samples" "stats")
  let participants ← (elements (← atKey j "participants_with_stats" "stats")).mapM string
  let physical ← (items (← atKey j "physical" "stats")).mapM hostInfo
  let traffic ← (elements (← atKey j "traffic" "stats")).mapM fun t ↦
    trafficSample t "src_participant_guid_prefix" "dst_locator" "stats.traffic"
  let lost ← (elements (← valueOr json j "lost" (.array []))).mapM lostSample
  let dataCount ← (items (← valueOr json j "data_count" (.object []))).mapM dataCountSample
  let samplesLost ← valueOr unsignedLongLong j "samples_lost" 0
  let samplesLostAtStart ← valueOr unsignedLongLong j "samples_lost_at_start" 0
  let samplesRejected ← valueOr unsignedLongLong j "samples_rejected" 0
  let writersIncompatibleQos ← valueOr unsignedLongLong j "writers_incompatible_qos" 0
  let writersAnnounced ← valueOr unsignedLongLong j "writers_announced" 0
  let writersHeard ← valueOr unsignedLongLong j "writers_heard" 0
  let measuredInstances ← valueOr unsignedLongLong j "measured_instances" 0
  let measurablePairs ← valueOr unsignedLongLong j "measurable_pairs" 0
  let settled ← valueOr bool j "settled" false
  let settledAtS := ((member? j "settled_at_s").bind number?).getD (-1)
  let samplesLostLatency ← valueOr unsignedLongLong j "samples_lost_latency" 0
  let pairsDelivered ← valueOr unsignedLongLong j "pairs_delivered" 0
  let pairsDeliveredUnmeasured ← valueOr unsignedLongLong j "pairs_delivered_unmeasured" 0
  let pairsDeliveredAbsent ← valueOr unsignedLongLong j "pairs_delivered_absent" 0
  let warnings ← (elements (← valueOr json j "warnings" (.array []))).mapM string
  let writers ← (elements (← valueOr json j "statistics_writers" (.array []))).mapM statisticsWriter
  return {
    enabled := enabled
    physical := .ofList physical
    traffic := traffic
    dataCount := .ofList dataCount
    lost := lost
    statisticsWriters := writers.toFinset
    participantsWithStats := participants.toFinset
    samples := samples
    samplesLost := samplesLost
    samplesLostLatency := samplesLostLatency
    samplesLostAtStart := samplesLostAtStart
    samplesRejected := samplesRejected
    writersIncompatibleQos := writersIncompatibleQos
    writersAnnounced := writersAnnounced
    writersHeard := writersHeard
    measuredInstances := measuredInstances
    measurablePairs := measurablePairs
    settled := settled
    settledAtS := settledAtS
    pairsDelivered := pairsDelivered
    pairsDeliveredUnmeasured := pairsDeliveredUnmeasured
    pairsDeliveredAbsent := pairsDeliveredAbsent
    warnings := warnings }

def shm (j : Value) : Read ShmInfo := do
  let available ← bool (← atKey j "available" "shm")
  let path ← string (← atKey j "path" "shm")
  let totalBytes ← valueOr unsignedLongLong j "total_bytes" 0
  let usedBytes ← valueOr unsignedLongLong j "used_bytes" 0
  let freeBytes ← valueOr unsignedLongLong j "free_bytes" 0
  let fastddsBytes ← valueOr unsignedLongLong j "fastdds_bytes" 0
  let segments ← valueOr unsignedLongLong j "segments" 0
  let staleSegments ← valueOr unsignedLongLong j "stale_segments" 0
  let ports ← valueOr unsignedLongLong j "ports" 0
  let stalePorts ← valueOr unsignedLongLong j "stale_ports" 0
  let histories ← valueOr unsignedLongLong j "datasharing_histories" 0
  let unmatched ← valueOr unsignedLongLong j "datasharing_unmatched" 0
  let notifications ← valueOr unsignedLongLong j "datasharing_notifications" 0
  let checkedPorts ← valueOr (vector uint32) j "checked_ports" []
  let missingPorts ← valueOr (vector uint32) j "missing_ports" []
  let unknownPorts ← valueOr (vector uint32) j "unknown_ports" []
  let otherHostParticipants ← valueOr unsignedLongLong j "other_host_participants" 0
  let nodesVisible ← valueOr bool j "nodes_visible" true
  let warnings ← vector string (← atKey j "warnings" "shm")
  return {
    available := available
    path := path
    totalBytes := totalBytes
    usedBytes := usedBytes
    freeBytes := freeBytes
    fastddsBytes := fastddsBytes
    segments := segments
    staleSegments := staleSegments
    ports := ports
    stalePorts := stalePorts
    datasharingHistories := histories
    datasharingUnmatched := unmatched
    datasharingNotifications := notifications
    checkedPorts := checkedPorts
    missingPorts := missingPorts
    unknownPorts := unknownPorts
    otherHostParticipants := otherHostParticipants
    nodesVisible := nodesVisible
    warnings := warnings }

/-! ## Participants and discovery -/

def shmPort (sp : Value) (place : String) : Read ShmPort := do
  let port ← uint32 (← atKey sp "port" (place ++ ".shm_ports"))
  let lock ← valueOr string sp "lock" "unprobed"
  let announcedBy ← valueOr unsignedLongLong sp "announced_by" 1
  let proof ← valueOr bool sp "proof" true
  return { port := port, lock := portLock lock, announcedBy := announcedBy, proof := proof }

def text? : Value → Option String
  | .string s => some s
  | _ => none

/-- The locators of a member that is an array. -/
def optionalLocators (j : Value) (key place : String) : Read (List Locator) :=
  match member? j key with
  | some (.array values) => locators (.array values) place
  | _ => .ok []

def participant (j : Value) (index : ℕ) : Read Participant := do
  let place := "participants[" ++ toString index ++ "]"
  let guidPrefix ← string (← atKey j "guid_prefix" place)
  let host ← hostId (← string (← atKey j "host_id" place))
  let hostName ← valueOr string j "host_name" ""
  let own ← valueOr bool j "own" false
  let visibility ← valueOr string j "shm_visibility" "unprobed"
  let protocol ← valueOr string j "discovery_protocol" ""
  let name ← valueOr string j "name" ""
  let vendor ← valueOr string j "vendor" ""
  let metatraffic ← optionalLocators j "metatraffic_locators" (place ++ ".metatraffic_locators")
  let server := (member? j "discovery_server").bind text?
  let ports ← (elements (← valueOr json j "shm_ports" (.array []))).mapM fun sp ↦ shmPort sp place
  return {
    guidPrefix := guidPrefix
    hostId := host
    hostName := hostName
    own := own
    shmPorts := ports
    shmVisibility := shmVisibility visibility
    discoveryProtocol := protocol
    name := name
    vendor := vendor
    metatrafficLocators := metatraffic
    discoveryServer := server }

def flag? : Value → Option Bool
  | .bool b => some b
  | _ => none

def discoveryStatus (d : Value) : Read DiscoveryStatus := do
  let complete ← valueOr json d "complete" .null
  let stoppedOn ← valueOr string d "stopped_on" ""
  let events ← valueOr unsignedLongLong d "events" 0
  let endpoints ← valueOr unsignedLongLong d "endpoints" 0
  let announced ← valueOr unsignedLongLong d "announced_not_discovered" 0
  let protocol ← valueOr string d "observer_protocol" "SIMPLE"
  let servers ← optionalLocators d "discovery_servers" "discovery.discovery_servers"
  let env ← valueOr string d "discovery_server_env" ""
  let easyMode ← valueOr string d "easy_mode" ""
  return {
    complete := flag? complete
    stoppedOn := stoppedOn
    events := events
    endpoints := endpoints
    announcedNotDiscovered := announced
    observerProtocol := protocol
    discoveryServers := servers
    discoveryServerEnv := env
    easyMode := easyMode }

/-! ## Topics and pairs -/

/-- The places of a topic's endpoints. -/
structure TopicRefs where
  writers : List ℕ
  readers : List ℕ

def topicPlace (tj : Value) : Read String := do
  let topic ← valueOr string tj "topic" "?"
  return "topic " ++ topic

/-- The endpoints of one topic, put after those read before. -/
def topicEndpoints (before : List Endpoint) (tj : Value) (place : String) :
    Read (List Endpoint × TopicRefs) :=
  within (place ++ ": endpoint: ") do
    let writers ← (elements (← atKey tj "writers" place)).mapM fun w ↦ endpoint w true place
    let readers ← (elements (← atKey tj "readers" place)).mapM fun r ↦ endpoint r false place
    return (before ++ writers ++ readers, {
      writers := List.range' before.length writers.length
      readers := List.range' (before.length + writers.length) readers.length })

def addTopicEndpoints (state : List Endpoint × List TopicRefs) (tj : Value) :
    Read (List Endpoint × List TopicRefs) := do
  let place ← topicPlace tj
  let found ← topicEndpoints state.1 tj place
  return (found.1, state.2 ++ [found.2])

/-- Where the endpoint of a GUID is; the last one counts. -/
def byGuid (endpoints : List Endpoint) : OrderedMap String ℕ :=
  .ofList (endpoints.zipIdx.map fun it ↦ (it.1.guid, it.2))

/-- Every companion is listed by its parent, when the document has the parent. -/
def linkCompanions (endpoints : List Endpoint) : List Endpoint :=
  endpoints.foldl
    (fun out e ↦
      match (byGuid endpoints).find? e.bufferParentGuid with
      | some parent =>
          if e.bufferParentGuid ≠ "" then
            out.modify parent fun p ↦
              { p with bufferCompanionGuids := p.bufferCompanionGuids ++ [e.guid] }
          else out
      | none => out)
    endpoints

def endpointAt (endpoints : List Endpoint) (index : ℕ) : Option EndpointPtr :=
  (Decision.pointers endpoints)[index]?

def endpointOf (endpoints : List Endpoint) (guid : String) : Option EndpointPtr :=
  ((byGuid endpoints).find? guid).bind (endpointAt endpoints)

/-- Null stands for no locator. -/
def selectedLocator (loc : Value) (place : String) : Read (Locator × Bool) :=
  if isObject loc then do
    let locator ← locator loc place
    let multicast ← valueOr bool loc "multicast" false
    return (locator, multicast)
  else return ({}, false)

def pair (endpoints : List Endpoint) (pj : Value) (place : String) : Read Pair :=
  within (place ++ ": pair: ") do
    let wguid ← string (← atKey pj "writer_guid" place)
    let rguid ← string (← atKey pj "reader_guid" place)
    match endpointOf endpoints wguid, endpointOf endpoints rguid with
    | some writer, some reader =>
        let transport ← transport (← string (← atKey pj "transport" place))
        let confidence ← confidence (← string (← atKey pj "confidence" place))
        let selected ← selectedLocator (← atKey pj "locator" place) place
        let reasons ← vector string (← atKey pj "reasons" place)
        let warnings ← vector string (← atKey pj "warnings" place)
        let measured ← measurement (← atKey pj "measured" place) place
        return {
          writer := writer
          reader := reader
          verdict := {
            transport := transport
            confidence := confidence
            locator := selected.1
            locatorMulticast := selected.2
            reasons := reasons
            warnings := warnings }
          measured := measured }
    | _, _ => .error (.parse (place ++ ": pair names an endpoint that is not listed"))

/-- What the document says a topic is, and whether it says so in known words. -/
structure Classification where
  kind : TopicKind := .other
  group : String := ""
  direction : GroupDirection := .none
  known : Bool := false

def classification (tj : Value) : Read Classification :=
  match member? tj "kind", member? tj "direction" with
  | some kind, some direction => do
      let kind := topicKind (← string kind) true
      let direction := groupDirection (← string direction) kind.2
      let group ← valueOr string tj "group" ""
      return { kind := kind.1, group := group, direction := direction.1, known := direction.2 }
  | _, _ => return {}

/-- The type of the first writer, or else of the first reader. -/
def firstType (writers readers : List EndpointPtr) : String :=
  match writers, readers with
  | w :: _, _ => w.ddsType
  | [], r :: _ => r.ddsType
  | [], [] => ""

def topicSummary (endpoints : List Endpoint) (refs : TopicRefs) (tj : Value) :
    Read (TopicSummary × Bool) := do
  let place ← topicPlace tj
  let displayTopic ← string (← atKey tj "topic" place)
  let ddsTopic ← string (← atKey tj "dds_topic" place)
  let displayType ← string (← atKey tj "type" place)
  let isRosTopic ← bool (← atKey tj "is_ros_topic" place)
  let unmatchedReasons ← vector string (← atKey tj "unmatched_reasons" place)
  let latency ← valueOr json tj "latency_s" .null
  let lost ← valueOr json tj "lost_packets" .null
  let resent ← valueOr json tj "resent_datas" .null
  let writers := refs.writers.filterMap (endpointAt endpoints)
  let readers := refs.readers.filterMap (endpointAt endpoints)
  let classified ← classification tj
  let pairs ← (elements (← atKey tj "pairs" place)).mapM fun pj ↦ pair endpoints pj place
  return ({
    ddsTopic := ddsTopic
    displayTopic := displayTopic
    displayType := displayType
    ddsType := firstType writers readers
    isRosTopic := isRosTopic
    kind := classified.kind
    group := classified.group
    direction := classified.direction
    writers := writers
    readers := readers
    pairs := pairs
    unmatchedReasons := unmatchedReasons
    latencyAvailable := (number? latency).isSome
    latency := (number? latency).getD 0
    reliabilityAvailable := (number? resent).isSome || (number? lost).isSome
    lostAvailable := (number? lost).isSome
    lostPackets := counter lost
    resent := counter resent }, classified.known)

/-- A topic that older documents do not classify has all of them classified again. -/
def classified (topics : List (TopicSummary × Bool)) : List TopicSummary :=
  if topics.all Prod.snd then topics.map Prod.fst
  else Decision.classifyTopics (topics.map Prod.fst)

/-! ## The document -/

variable [Dump]

def checkVersion (doc : Value) : Read Unit := do
  let version ← atKey doc "schema_version" "document"
  let unsupported : Failure :=
    .parse ("schema_version " ++ Dump.dump version ++ " is not supported (this tool reads 1)")
  if isInteger version then
    if (← int version) ≠ 1 then .error unsupported
  else .error unsupported

/-- The participants of a member that is an array. -/
def participants (doc : Value) : Read (List Participant) :=
  match member? doc "participants" with
  | some (.array values) =>
      values.zipIdx.mapM fun it ↦
        within ("participants[" ++ toString it.2 ++ "]: ") (participant it.1 it.2)
  | _ => .ok []

/-- Only an object is read. -/
def objectMember {α : Type} (read : Value → Read α) (doc : Value) (key : String) (absent : α) :
    Read α :=
  match member? doc key with
  | some v => if isObject v then read v else .ok absent
  | none => .ok absent

def snapshot (doc : Value) : Read Snapshot := do
  if ¬isObject doc then .error (.parse "not a JSON object")
  checkVersion doc
  let domain ← int (← atKey doc "domain" "document")
  let observedAt ← string (← atKey doc "observed_at" "document")
  let observationSeconds ← double (← atKey doc "observation_seconds" "document")
  let localHostId ← hostId (← string (← atKey doc "local_host_id" "document"))
  let topics := elements (← atKey doc "topics" "document")
  let found ← topics.foldlM addTopicEndpoints ([], [])
  let endpoints := linkCompanions found.1
  let summaries ← (topics.zip found.2).mapM fun it ↦ topicSummary endpoints it.2 it.1
  let stats ← within "stats: " (do stats (← atKey doc "stats" "document"))
  let discovery ← objectMember discoveryStatus doc "discovery" {}
  let shm ← objectMember (fun v ↦ withinAll "shm: " (shm v)) doc "shm" {}
  let participants ← participants doc
  return {
    domain := domain
    observedAt := observedAt
    observationSeconds := observationSeconds
    localHostId := localHostId
    endpoints := endpoints
    participants := participants
    topics := classified summaries
    stats := stats
    shm := shm
    discovery := discovery }

def parseJson (doc : Value) : Read Snapshot := within "unexpected value: " (snapshot doc)

end TransportViz.Json
