import TransportViz.Json.Parse
import TransportViz.Web.Document

/-!
# What a document keeps

For every record, what reading what was written gives: numbers cut to their types, nothing of what is
not available, defaults for what is not written. Keeping twice is keeping once.
-/

namespace TransportViz.Json

open JsonReader RosNames Web
open Script (Value)

/-! ## Enumerations and bytes -/

section Texts

theorem locatorKind_text (kind : LocatorKind) : locatorKind kind.text = .ok kind := by
  cases kind <;> rfl

theorem transport_text (t : Transport) : transport t.text = .ok t := by
  cases t <;> rfl

theorem confidence_text (c : Confidence) : confidence c.text = .ok c := by
  cases c <;> rfl

theorem topicKind_text (kind : TopicKind) (known : Bool) :
    topicKind kind.text known = (kind, known) := by
  cases kind <;> rfl

theorem groupDirection_text (direction : GroupDirection) (known : Bool) :
    groupDirection direction.text known = (direction, known) := by
  cases direction <;> rfl

theorem dataSharing_text (kind : DataSharingKind) : dataSharing kind.text = kind := by
  cases kind <;> rfl

theorem shmVisibility_text (visibility : ShmVisibility) :
    shmVisibility visibility.text = visibility := by
  cases visibility <;> rfl

theorem portLock_text (lock : PortLock) : portLock lock.text = lock := by
  cases lock <;> rfl

theorem stoul_hexDigits (high low : Fin 16) :
    stoul [hexDigit high, hexDigit low] = .ok (16 * high + low : ℕ) := by
  revert high low
  decide +kernel

/-- A byte is read back from its two digits. -/
theorem stoul_hexByte (byte : UInt8) : ∃ z, stoul (hexByte byte) = .ok z ∧ toByte z = byte := by
  refine ⟨_, stoul_hexDigits _ _, ?_⟩
  have hbyte := byte.toNat_lt
  rw [toByte, Fin.val_ofNat, Fin.val_ofNat]
  apply UInt8.toNat_inj.mp
  rw [UInt8.toNat_ofNat']
  omega

theorem hostId_hostIdHex (id : HostId) : hostId (hostIdHex id) = .ok id := by
  have hdigit : ∀ n : Fin 16, (hexDigit n).utf8Size = 1 := by decide
  obtain ⟨bytes, hbytes⟩ := id
  match bytes, hbytes with
  | [a, b, c, d], _ =>
    obtain ⟨first, hfirst, rfl⟩ := stoul_hexByte a
    obtain ⟨second, hsecond, rfl⟩ := stoul_hexByte b
    obtain ⟨third, hthird, rfl⟩ := stoul_hexByte c
    obtain ⟨fourth, hfourth, rfl⟩ := stoul_hexByte d
    unfold hostId hostIdHex
    rw [if_neg (by simp [hexByte, hdigit]), String.toList_ofList]
    simp only [hexByte] at hfirst hsecond hthird hfourth
    simp only [List.Vector.toList, hexByte, List.flatMap_cons, List.flatMap_nil, List.cons_append,
      List.nil_append, List.append_nil, hfirst, hsecond, hthird, hfourth, ok_bind]
    rfl

end Texts

/-! ## Endpoints -/

def savedLocator (l : Locator) : Locator := { l with port := l.port % 2 ^ 32 }

def savedQos (qos : EndpointQos) : EndpointQos :=
  { qos with dataSharingDomains := qos.dataSharingDomains.map (· % 2 ^ 64) }

/-- What the document does not hold of an endpoint has its default. -/
def savedEndpoint (isWriter : Bool) (e : Endpoint) : Endpoint where
  isWriter := isWriter
  guid := e.guid
  guidBytes := guidBytes e.guid
  hostId := e.hostId
  participantGuidPrefix := e.participantGuidPrefix
  ddsTopic := e.ddsTopic
  ddsType := e.ddsType
  rosTopic := e.rosTopic
  rosType := e.rosType
  typeHash := e.typeHash
  typeInformationHash := e.typeInformationHash
  typeInformationMinimalHash := e.typeInformationMinimalHash
  nodeName := normalizeNodeName e.nodeName
  hostName := e.hostName
  process := e.process
  unicast := e.unicast.map savedLocator
  multicast := e.multicast.map savedLocator
  qos := savedQos e.qos
  datasharingHistoryAvailable := e.datasharingHistoryAvailable
  datasharingHistoryBytes :=
    if e.datasharingHistoryAvailable then e.datasharingHistoryBytes % 2 ^ 64 else 0
  datasharingSegmentVisibility := e.datasharingSegmentVisibility
  bufferParentGuid := e.bufferParentGuid

section Endpoints

variable (place : String)

theorem locator_locatorMembers (l : Locator) (more : List (String × Value)) :
    locator (.object (locatorMembers l ++ more)) place = .ok (savedLocator l) := by
  simp [locator, locatorMembers, List.lookup_cons, locatorKind_text]
  rfl

theorem locator_locatorJson (l : Locator) : locator (locatorJson l) place = .ok (savedLocator l) :=
  locator_locatorMembers place l []

theorem locators_locatorsJson (ls : List Locator) :
    locators (locatorsJson ls) place = .ok (ls.map savedLocator) :=
  mapM_written fun l _ ↦ locator_locatorJson place l

theorem limit_finite (x : WithTop ℚ) : limit (finite x) = x := by
  cases x <;> rfl

theorem counter_optionalNumber (available : Bool) (n : ℕ) :
    counter (optionalNumber available n) = if available then n % 2 ^ 64 else 0 := by
  cases available with
  | false => rfl
  | true => exact toUnsigned_natCast 64 n

theorem isSome_optionalNumber (available : Bool) (x : ℚ) :
    (number? (optionalNumber available x)).isSome = available := by
  cases available <;> rfl

theorem getD_optionalNumber (available : Bool) (x fallback : ℚ) :
    (number? (optionalNumber available x)).getD fallback = if available then x else fallback := by
  cases available <;> rfl

theorem endpointQos_qosJson (qos : EndpointQos) :
    endpointQos (qosJson qos) place = .ok (savedQos qos) := by
  simp [endpointQos, qosJson, List.lookup_cons, texts, dataSharing_text, limit_finite]
  rfl

theorem endpoint_endpointJson (snap : Snapshot) (e : Endpoint) (opt : RenderOptions)
    (isWriter : Bool) :
    endpoint (endpointJson snap e opt) isWriter place = .ok (savedEndpoint isWriter e) := by
  by_cases hparent : e.bufferParentGuid = "" <;>
  · simp [endpoint, endpointJson, List.lookup_cons, hparent, hostId_hostIdHex, locators_locatorsJson,
      endpointQos_qosJson, shmVisibility_text, isSome_optionalNumber, counter_optionalNumber]
    simp [savedEndpoint, hparent]

end Endpoints

/-! ## Verdicts and measurements -/

/-- A locator of no kind is not written. -/
def savedVerdict (v : Verdict) : Verdict :=
  if v.locator.kind = .invalid then { v with locator := {}, locatorMulticast := false }
  else { v with locator := savedLocator v.locator }

/-- The sum is what the mean gives back. -/
def savedLatency (stat : LatencyStat) : LatencyStat :=
  { stat with
    sum := stat.mean * (stat.samples % 2 ^ 64 : ℕ)
    samples := stat.samples % 2 ^ 64 }

def savedReliability (r : Reliability) : Reliability :=
  if r.available then
    { available := true
      lostAvailable := r.lostAvailable
      lostPackets := if r.lostAvailable then r.lostPackets % 2 ^ 64 else 0
      resent := r.resent % 2 ^ 64
      heartbeats := r.heartbeats % 2 ^ 64
      gaps := r.gaps % 2 ^ 64
      acknacks := r.acknacks % 2 ^ 64
      nackfrags := r.nackfrags % 2 ^ 64 }
  else {}

def savedMeasuredLocator (ml : MeasuredLocator) : MeasuredLocator where
  locator := savedLocator ml.locator
  packets := ml.packets % 2 ^ 64
  bytes := ml.bytes

/-- A rate over the whole observation is written with the seconds it took. -/
def savedMeasurement (observationSeconds : ℚ) (m : Measurement) : Measurement where
  available := m.available
  transports := m.transports
  locators := m.locators.map savedMeasuredLocator
  packets := m.packets % 2 ^ 64
  bytes := m.bytes
  packetsTotal := m.packetsTotal % 2 ^ 64
  bytesTotal := m.bytesTotal
  latencyAvailable := m.latencyAvailable
  latency := if m.latencyAvailable then savedLatency m.latency else {}
  delivered := m.delivered
  deliveredSamples := m.deliveredSamples % 2 ^ 64
  rateAvailable := m.rateAvailable
  deliveredPerS := if m.rateAvailable then m.deliveredPerS else 0
  rateLowerBound := m.rateLowerBound
  rateWindowS := if 0 < m.rateWindowS then m.rateWindowS else observationSeconds
  reliability := savedReliability m.reliability
  dataCountAvailable := m.dataCountAvailable
  dataSubmessages := if m.dataCountAvailable then m.dataSubmessages % 2 ^ 64 else 0

/-- A latency that is shown has a least and a greatest value. -/
def FiniteLatency (m : Measurement) : Prop :=
  m.latencyAvailable = true → m.latency.min ≠ ⊤ ∧ m.latency.max ≠ ⊥

section Measurements

variable (place : String)

theorem savedVerdict_eq (v : Verdict) :
    savedVerdict v =
      { v with
        locator := (savedVerdict v).locator
        locatorMulticast := (savedVerdict v).locatorMulticast } := by
  unfold savedVerdict
  split_ifs <;> rfl

theorem selectedLocator_json (v : Verdict) :
    selectedLocator (selectedLocatorJson v) place =
      .ok ((savedVerdict v).locator, (savedVerdict v).locatorMulticast) := by
  by_cases hkind : v.locator.kind = .invalid
  · simp [selectedLocatorJson, savedVerdict, hkind]
    rfl
  · simp [selectedLocatorJson, savedVerdict, hkind, selectedLocator, locator_locatorMembers,
      isObject]
    simp [locatorMembers, List.lookup_cons]

theorem isObject_latencyJson (m : Measurement) :
    isObject (latencyJson m) = m.latencyAvailable := by
  unfold latencyJson
  cases m.latencyAvailable <;> rfl

theorem optionalLatency_json (m : Measurement) (h : FiniteLatency m) :
    optionalLatency (latencyJson m) =
      .ok (if m.latencyAvailable then savedLatency m.latency else {}) := by
  unfold optionalLatency
  rw [isObject_latencyJson]
  cases havailable : m.latencyAvailable with
  | false => rfl
  | true =>
    obtain ⟨hmin, hmax⟩ := h havailable
    obtain ⟨min, hmin⟩ := WithTop.ne_top_iff_exists.mp hmin
    obtain ⟨max, hmax⟩ := WithBot.ne_bot_iff_exists.mp hmax
    have hfinite : finite m.latency.min = .number min ∧ finite m.latency.max = .number max := by
      rw [← hmin, ← hmax]
      exact ⟨rfl, rfl⟩
    simp [latencyStat, latencyJson, havailable, List.lookup_cons, hfinite, hmin, hmax, savedLatency]

theorem isObject_reliabilityJson (r : Reliability) :
    isObject (reliabilityJson r) = r.available := by
  unfold reliabilityJson
  cases r.available <;> rfl

theorem optionalReliability_json (r : Reliability) :
    optionalReliability (reliabilityJson r) = .ok (savedReliability r) := by
  unfold optionalReliability
  rw [isObject_reliabilityJson]
  cases havailable : r.available with
  | false => simp [savedReliability, havailable]
  | true =>
    simp [reliability, reliabilityJson, havailable, List.lookup_cons, isSome_optionalNumber,
      counter_optionalNumber, savedReliability]

theorem measuredLocator_json (ml : MeasuredLocator) :
    measuredLocator (measuredLocatorJson ml) place = .ok (savedMeasuredLocator ml) := by
  simp [measuredLocator, measuredLocatorJson, locator_locatorMembers]
  simp [locatorMembers, List.lookup_cons]
  rfl

theorem measurement_measuredJson (snap : Snapshot) (m : Measurement) (h : FiniteLatency m) :
    measurement (measuredJson snap m) place =
      .ok (savedMeasurement snap.observationSeconds m) := by
  have htransports : (m.transports.map fun t ↦ Value.string t.text).mapM
      (fun t ↦ do transport (← string t)) = .ok (m.transports.map id) :=
    mapM_written fun t _ ↦ transport_text t
  have hlocators : (m.locators.map measuredLocatorJson).mapM (measuredLocator · place) =
      .ok (m.locators.map savedMeasuredLocator) :=
    mapM_written fun ml _ ↦ measuredLocator_json place ml
  rw [List.map_id] at htransports
  simp [measurement, measuredJson, List.lookup_cons, htransports, hlocators, optionalLatency_json m h,
    optionalReliability_json, isObject_latencyJson, isSome_optionalNumber, getD_optionalNumber,
    counter_optionalNumber, savedMeasurement]

end Measurements

/-! ## Statistics and shared memory -/

/-- Only what was lost is written with a reporter. -/
def savedLost (s : TrafficSample) : TrafficSample where
  srcParticipantPrefix := s.srcParticipantPrefix
  dst := savedLocator s.dst
  packets := s.packets % 2 ^ 64
  bytes := s.bytes
  packetsFirst := s.packetsFirst % 2 ^ 64
  bytesFirst := s.bytesFirst
  reporterParticipantPrefix := s.reporterParticipantPrefix

def savedTraffic (s : TrafficSample) : TrafficSample :=
  { savedLost s with reporterParticipantPrefix := "" }

def savedDataCount (s : DataCountSample) : DataCountSample where
  first := s.first % 2 ^ 64
  last := s.last % 2 ^ 64
  samples := s.samples % 2 ^ 64

def savedStats (stats : StatsData) : StatsData where
  enabled := stats.enabled
  physical := stats.physical
  traffic := stats.traffic.map savedTraffic
  dataCount := stats.dataCount.mapValues savedDataCount
  lost := stats.lost.map savedLost
  statisticsWriters := stats.statisticsWriters
  participantsWithStats := stats.participantsWithStats
  samples := stats.samples % 2 ^ 64
  samplesLost := stats.samplesLost % 2 ^ 64
  samplesLostLatency := stats.samplesLostLatency % 2 ^ 64
  samplesLostAtStart := stats.samplesLostAtStart % 2 ^ 64
  samplesRejected := stats.samplesRejected % 2 ^ 64
  writersIncompatibleQos := stats.writersIncompatibleQos % 2 ^ 64
  writersAnnounced := stats.writersAnnounced % 2 ^ 64
  writersHeard := stats.writersHeard % 2 ^ 64
  measuredInstances := stats.measuredInstances % 2 ^ 64
  measurablePairs := stats.measurablePairs % 2 ^ 64
  settled := stats.settled
  settledAtS := if 0 ≤ stats.settledAtS then stats.settledAtS else -1
  pairsDelivered := stats.pairsDelivered % 2 ^ 64
  pairsDeliveredUnmeasured := stats.pairsDeliveredUnmeasured % 2 ^ 64
  pairsDeliveredAbsent := stats.pairsDeliveredAbsent % 2 ^ 64
  warnings := stats.warnings

def savedShm (shm : ShmInfo) : ShmInfo :=
  if shm.available then
    { available := true
      path := shm.path
      totalBytes := shm.totalBytes % 2 ^ 64
      usedBytes := shm.usedBytes % 2 ^ 64
      freeBytes := shm.freeBytes % 2 ^ 64
      fastddsBytes := shm.fastddsBytes % 2 ^ 64
      segments := shm.segments % 2 ^ 64
      staleSegments := shm.staleSegments % 2 ^ 64
      ports := shm.ports % 2 ^ 64
      stalePorts := shm.stalePorts % 2 ^ 64
      datasharingHistories := shm.datasharingHistories % 2 ^ 64
      datasharingUnmatched := shm.datasharingUnmatched % 2 ^ 64
      datasharingNotifications := shm.datasharingNotifications % 2 ^ 64
      checkedPorts := shm.checkedPorts.map (· % 2 ^ 32)
      missingPorts := shm.missingPorts.map (· % 2 ^ 32)
      unknownPorts := shm.unknownPorts.map (· % 2 ^ 32)
      otherHostParticipants := shm.otherHostParticipants % 2 ^ 64
      nodesVisible := shm.nodesVisible
      warnings := shm.warnings }
  else { path := shm.path, warnings := shm.warnings }

section Statistics

theorem trafficSample_trafficJson (s : TrafficSample) (place : String) :
    trafficSample (trafficJson s) "src_participant_guid_prefix" "dst_locator" place =
      .ok (savedTraffic s) := by
  simp [trafficSample, trafficJson, trafficMembers, List.lookup_cons, locator_locatorJson, savedTraffic,
    savedLost]

theorem trafficSample_lostJson (s : TrafficSample) (place : String) :
    trafficSample (lostJson s) "src_participant_guid_prefix" "dst_locator" place =
      .ok (savedTraffic s) := by
  simp [trafficSample, lostJson, trafficMembers, List.lookup_cons, locator_locatorJson, savedTraffic,
    savedLost]

theorem lostSample_lostJson (s : TrafficSample) : lostSample (lostJson s) = .ok (savedLost s) := by
  have hkeys : (member? (lostJson s) "src_participant_guid_prefix").isNone = false := by
    simp [lostJson, trafficMembers, List.lookup_cons]
  have hreporter : valueOr string (lostJson s) "reporter_participant_guid_prefix" "" =
      .ok s.reporterParticipantPrefix := by
    simp [lostJson]
  simp [lostSample, hkeys, trafficSample_lostJson, hreporter, savedTraffic, savedLost]

theorem hostInfo_json (name : String) (info : HostInfo) :
    hostInfo (name, hostInfoJson info) = .ok (name, info) := by
  simp [hostInfo, hostInfoJson, List.lookup_cons]

theorem dataCountSample_json (guid : String) (s : DataCountSample) :
    dataCountSample (guid, dataCountJson s) = .ok (guid, savedDataCount s) := by
  simp [dataCountSample, dataCountJson, List.lookup_cons, savedDataCount]

theorem statisticsWriter_json (entry : String × String) :
    statisticsWriter (statisticsWriterJson entry) = .ok entry := by
  simp [statisticsWriter, statisticsWriterJson, List.lookup_cons]

theorem toFinset_sortedPairs (s : Finset (String × String)) : (sortedPairs s).toFinset = s := by
  ext entry
  simp [sortedPairs]

theorem stats_statsJson (s : StatsData) : stats (statsJson s) = .ok (savedStats s) := by
  have hparticipants := vector_string (s.participantsWithStats.sort (· ≤ ·))
  have hwarnings := vector_string s.warnings
  have hphysical : (s.physical.entries.map fun e ↦ (e.1, hostInfoJson e.2)).mapM hostInfo =
      .ok (s.physical.entries.map id) :=
    mapM_written fun e _ ↦ hostInfo_json e.1 e.2
  have hcounts : (s.dataCount.entries.map fun e ↦ (e.1, dataCountJson e.2)).mapM dataCountSample =
      .ok (s.dataCount.entries.map fun e ↦ (e.1, savedDataCount e.2)) :=
    mapM_written fun e _ ↦ dataCountSample_json e.1 e.2
  have htraffic : (s.traffic.map trafficJson).mapM (fun t ↦
      trafficSample t "src_participant_guid_prefix" "dst_locator" "stats.traffic") =
        .ok (s.traffic.map savedTraffic) :=
    mapM_written fun t _ ↦ trafficSample_trafficJson t _
  have hlost : (s.lost.map lostJson).mapM lostSample = .ok (s.lost.map savedLost) :=
    mapM_written fun t _ ↦ lostSample_lostJson t
  have hwriters : ((sortedPairs s.statisticsWriters).map statisticsWriterJson).mapM
      statisticsWriter = .ok ((sortedPairs s.statisticsWriters).map id) :=
    mapM_written fun entry _ ↦ statisticsWriter_json entry
  rw [vector_array] at hparticipants hwarnings
  rw [List.map_id] at hphysical hwriters
  simp [stats, statsJson, List.lookup_cons, texts, hparticipants, hwarnings, hphysical, hcounts,
    htraffic, hlost, hwriters, getD_optionalNumber, OrderedMap.ofList_entries,
    OrderedMap.ofList_mapValues, toFinset_sortedPairs, savedStats]

theorem shm_shmJson (s : ShmInfo) : shm (shmJson s) = .ok (savedShm s) := by
  cases havailable : s.available <;>
  · simp [shm, shmJson, havailable, List.lookup_cons, texts, numbers, savedShm]

end Statistics

/-! ## Participants and discovery -/

def savedShmPort (sp : ShmPort) : ShmPort :=
  { sp with
    port := sp.port % 2 ^ 32
    announcedBy := sp.announcedBy % 2 ^ 64 }

def savedParticipant (p : Participant) : Participant :=
  { p with
    shmPorts := p.shmPorts.map savedShmPort
    metatrafficLocators := p.metatrafficLocators.map savedLocator }

/-- Without an observation nothing is written. -/
def savedDiscovery (d : DiscoveryStatus) : DiscoveryStatus :=
  if d.stoppedOn = "" then {}
  else
    { d with
      events := d.events % 2 ^ 64
      endpoints := d.endpoints % 2 ^ 64
      announcedNotDiscovered := d.announcedNotDiscovered % 2 ^ 64
      discoveryServers := d.discoveryServers.map savedLocator }

section Participants

theorem shmPort_json (sp : ShmPort) (place : String) :
    shmPort (shmPortJson sp) place = .ok (savedShmPort sp) := by
  simp [shmPort, shmPortJson, List.lookup_cons, portLock_text, savedShmPort]

theorem text?_optionalText (s : Option String) : text? (optionalText s) = s := by
  cases s <;> rfl

theorem flag?_optionalBool (b : Option Bool) : flag? (optionalBool b) = b := by
  cases b <;> rfl

theorem participant_json (snap : Snapshot) (p : Participant) (opt : RenderOptions) (index : ℕ) :
    participant (participantJson snap p opt) index = .ok (savedParticipant p) := by
  have hports (place : String) : (p.shmPorts.map shmPortJson).mapM (shmPort · place) =
      .ok (p.shmPorts.map savedShmPort) :=
    mapM_written fun sp _ ↦ shmPort_json sp place
  have hlocators (place : String) := locators_locatorsJson place p.metatrafficLocators
  unfold locatorsJson at hlocators
  simp [participant, participantJson, List.lookup_cons, hostId_hostIdHex, optionalLocators, hports,
    hlocators, locatorsJson, text?_optionalText, shmVisibility_text, savedParticipant]

theorem discoveryStatus_json (d : DiscoveryStatus) (h : d.stoppedOn ≠ "") :
    discoveryStatus (discoveryJson d) = .ok (savedDiscovery d) := by
  have hlocators (place : String) := locators_locatorsJson place d.discoveryServers
  unfold locatorsJson at hlocators
  simp [discoveryStatus, discoveryJson, List.lookup_cons, optionalLocators, hlocators, locatorsJson,
    flag?_optionalBool, savedDiscovery, h]

end Participants

end TransportViz.Json
