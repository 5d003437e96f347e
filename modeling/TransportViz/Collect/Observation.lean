import TransportViz.Collect.Participants
import TransportViz.Decision.Completeness
import TransportViz.Decision.DiscoveryServers
import TransportViz.Decision.Partition
import TransportViz.Json.Produced
import TransportViz.Observer.Discovery
import TransportViz.Observer.Matches
import TransportViz.Stats.MeasurablePairs

/-!
# One observation

`collect` puts a snapshot together from what the observers know: the endpoints of discovery, the counters
of the statistics, the names of the nodes and the files of the shared memory. Whatever callbacks and
samples came before, the snapshot lists the endpoints that discovery announced last, is measured against
their destinations, and can be saved without a loss.
-/

namespace TransportViz.Collect

open Decision RosNames Shm Stats

open TransportViz.Observer (ParticipantData announcement Announced)

/-! ## Model -/

/-- The node of the ROS graph, or else of the discovery information. -/
def mergeNodeName (graphName discoveryName : String) : String :=
  let name := normalizeNodeName graphName
  if name = "" then normalizeNodeName discoveryName else name

/-- What Fast DDS reads of the environment; a variable that is not set is like an empty one. -/
structure Environment where
  rosDiscoveryServer : String := ""
  rosSuperClient : String := ""
  ros2EasyMode : String := ""

def envIsTrue (value : String) : Bool :=
  let v := String.ofList (value.toList.map Char.toLower)
  v = "true" || v = "1"

/-- The host names that the system knows. -/
class HostNames where
  /-- `inet_pton`: the text is an address of the family, IPv6 or IPv4. -/
  isAddress : Bool → String → Bool
  /-- The first address that `getaddrinfo` finds. -/
  lookup : Bool → String → Option String

def isV6 (l : Locator) : Bool := l.kind = .udpv6 || l.kind = .tcpv6

def resolveDiscoveryServers [HostNames] (servers : List Locator) : List Locator :=
  servers.map fun l ↦
    if HostNames.isAddress (isV6 l) l.address then l
    else { l with address := (HostNames.lookup (isV6 l) l.address).getD l.address }

/-- How the tool's own participants take part in discovery. -/
def noteEnvironment [HostNames] (env : Environment) (discovery : DiscoveryStatus) : DiscoveryStatus :=
  let discovery :=
    if env.rosDiscoveryServer = "" then discovery
    else { discovery with
      discoveryServerEnv := env.rosDiscoveryServer
      discoveryServers :=
        resolveDiscoveryServers (DiscoveryServerEnv.parseDiscoveryServerEnv env.rosDiscoveryServer)
      observerProtocol := if envIsTrue env.rosSuperClient then "SUPER_CLIENT" else "CLIENT" }
  if env.ros2EasyMode = "" then discovery
  else { discovery with
    easyMode := env.ros2EasyMode
    observerProtocol := "SUPER_CLIENT" }

/-- What is read from the observers and the system, in this order. -/
structure Readings where
  /-- The snapshot of the discovery observer. -/
  endpoints : List Endpoint
  /-- The snapshot of the statistics observer, when there is one. -/
  stats : Option StatsData := none
  localAddresses : Finset String := ∅
  /-- The node that the ROS graph has for a GUID. -/
  graphNode : GuidBytes → String := fun _ ↦ ""
  /-- The table of the ros_discovery_info observer, when there is one. -/
  names : Option NodeNameTable := none
  liveParticipants : Finset ParticipantPrefix := ∅
  eventCount : ℕ := 0
  environment : Environment := {}
  participantData : OrderedMap String ParticipantData := .empty
  observedAt : String := ""
  directory : Option ShmDirectory := none

section Collect

variable [Fnmatch] [HostNames] (observer : Observer) (o : ViewOptions) (r : Readings)

/-- A negative time stands for statistics that did not settle. -/
def readStats (settledAtS : ℚ) : StatsData :=
  match r.stats with
  | none => {}
  | some stats =>
    { stats with
      localAddresses := r.localAddresses
      settled := 0 ≤ settledAtS
      settledAtS := settledAtS
      measurablePairs := countMeasurablePairs r.endpoints observer.ownPrefixes }

/-- The node and the process of an endpoint. -/
def describeEndpoint (physical : OrderedMap String HostInfo) (e : Endpoint) : Endpoint :=
  let e := { e with
    nodeName := mergeNodeName (r.graphNode e.guidBytes)
      ((r.names.map fun names ↦ names.lookup e.guidBytes).getD "") }
  match physical.find? e.participantGuidPrefix with
  | none => e
  | some host => { e with
      hostName := host.host
      process := host.process }

/-- Every discovered endpoint, linked before any filter drops its parent or companions. -/
def describedEndpoints (physical : OrderedMap String HostInfo) : List Endpoint :=
  (linkBufferCompanions r.endpoints).map (describeEndpoint r physical)

/-- Which statistics topics each participant publishes. -/
def noteStatisticsWriters (endpoints : List Endpoint) (stats : StatsData) : StatsData :=
  { stats with
    statisticsWriters := stats.statisticsWriters ∪
      ((endpoints.filter fun e ↦ e.isWriter && startsWith e.ddsTopic "_fastdds_statistics_").map
        fun e ↦ (e.participantGuidPrefix, e.ddsTopic)).toFinset }

def readDiscovery (stoppedOn : String) : DiscoveryStatus :=
  let discovery := discoveryCompleteness
    ((r.names.map NodeNameTable.announcedByParticipant).getD .empty) r.liveParticipants r.endpoints
  noteEnvironment r.environment { discovery.toDiscoveryStatus with
    stoppedOn := stoppedOn
    events := r.eventCount }

def collect (domain : ℤ) (observationSeconds : ℚ) (stoppedOn : String) (settledAtS : ℚ) : Snapshot :=
  let stats := readStats observer r settledAtS
  let endpoints := describedEndpoints r stats.physical
  let stats := noteStatisticsWriters endpoints stats
  let discovery := readDiscovery r stoppedOn
  let shm := collectShm observer endpoints r.directory o
  let kept := attributedEndpoints observer endpoints shm o
  let topics := applyNodeFilter (applyDefaultView (summarize kept) o) o
  let topics := applyStats topics stats
  { domain := domain
    observedAt := r.observedAt
    observationSeconds := observationSeconds
    localHostId := observer.localHost
    endpoints := kept
    participants :=
      collectParticipants observer r.participantData endpoints shm (discovery.easyMode ≠ "")
    topics := topics
    stats := noteUnmeasuredPairs topics stats
    shm := shm
    discovery := discovery }

end Collect

/-! ## Specification -/

/-- Not every endpoint of the topic is folded into a parent, and the node of the endpoint or of one on the
other side is asked for. -/
structure Shown (o : ViewOptions) (endpoints : List Endpoint) (e : Endpoint) : Prop where
  view : o.all = true ∨ ∃ f ∈ endpoints, f.ddsTopic = e.ddsTopic ∧ f.bufferParentGuid = ""
  node : nodeShown o e = true ∨
    ∃ f ∈ endpoints, f.ddsTopic = e.ddsTopic ∧ f.isWriter ≠ e.isWriter ∧ nodeShown o f = true

/-! ## The endpoints -/

section Endpoints

variable {observer : Observer} {o : ViewOptions} {r : Readings} {shm : ShmInfo}

theorem announcement_describeEndpoint (physical : OrderedMap String HostInfo) (e : Endpoint) :
    announcement (describeEndpoint r physical e) = announcement e := by
  unfold describeEndpoint
  simp only
  cases physical.find? e.participantGuidPrefix <;> rfl

theorem announcement_attributeSegment (e : Endpoint) :
    announcement (attributeSegment observer shm e) = announcement e := by
  unfold attributeSegment
  cases shm.datasharingByWriter.find? e.guid <;> simp only <;> split_ifs <;> rfl

theorem announcement_attributePorts (endpoints : List Endpoint) (e : Endpoint) :
    announcement (attributePorts observer endpoints shm e) = announcement e := by
  unfold attributePorts
  cases (shmPortsByParticipant observer endpoints).find? e.participantGuidPrefix <;> rfl

/-- Linking the companions adds to what was announced. -/
theorem map_announcement_linkBufferCompanions (endpoints : List Endpoint) :
    (linkBufferCompanions endpoints).map announcement = endpoints.map announcement := by
  have hlinks (l : List Endpoint) : l.map announcement = (l.map clearLinks).map announcement := by
    rw [List.map_map]
    rfl
  rw [hlinks, map_clearLinks_linkBufferCompanions, ← hlinks]

theorem map_announcement_describedEndpoints (physical : OrderedMap String HostInfo) :
    (describedEndpoints r physical).map announcement = r.endpoints.map announcement := by
  rw [describedEndpoints, List.map_map, ← map_announcement_linkBufferCompanions]
  exact List.map_congr_left fun e _ ↦ announcement_describeEndpoint physical e

/-- Which endpoints are kept is decided by what they announced. -/
theorem map_announcement_attributedEndpoints (endpoints : List Endpoint) :
    (attributedEndpoints observer endpoints shm o).map announcement =
      keptEndpoints observer (endpoints.map announcement) o := by
  rw [attributedEndpoints, List.map_map]
  have heach : (keptEndpoints observer endpoints o).map (announcement ∘ fun e ↦
      attributePorts observer endpoints shm (attributeSegment observer shm e)) =
      (keptEndpoints observer endpoints o).map announcement :=
    List.map_congr_left fun e _ ↦
      (announcement_attributePorts endpoints _).trans (announcement_attributeSegment e)
  rw [heach, keptEndpoints, keptEndpoints, nodeEndpoints, nodeEndpoints, List.filter_map, List.filter_map]
  rfl

end Endpoints

/-! ## What the topics list -/

section Listed

variable [Fnmatch] {endpoints : List Endpoint} {o : ViewOptions} {t : TopicSummary}

omit [Fnmatch] in
theorem mem_listedGuids_iff {topics : List TopicSummary} {guid : String} :
    guid ∈ Json.listedGuids topics ↔ ∃ t ∈ topics, ∃ e ∈ t.writers ++ t.readers, e.guid = guid := by
  simp only [Json.listedGuids, List.mem_flatMap, List.mem_map]

/-- The node filter leaves an endpoint when its node is asked for or that of a partner. -/
theorem exists_filterTopic_iff (h : Complete t) (nodeMatches : Endpoint → Bool) (e : EndpointPtr) :
    (∃ u, filterTopic nodeMatches t = some u ∧ e ∈ u.writers ++ u.readers) ↔
      e ∈ t.writers ++ t.readers ∧ (nodeMatches e.toEndpoint = true ∨
        ∃ f ∈ t.writers ++ t.readers, f.isWriter ≠ e.isWriter ∧ nodeMatches f.toEndpoint = true) := by
  have hkept : (∃ u, filterTopic nodeMatches t = some u ∧ e ∈ u.writers ++ u.readers) ↔
      e ∈ t.writers ++ t.readers ∧ e ∈ Decision.keptEndpoints nodeMatches t := by
    unfold filterTopic
    split_ifs with hempty
    · simp [hempty]
    · simp [← or_and_right]
  rw [hkept]
  apply and_congr_right
  intro he
  have hother (f : EndpointPtr) (hf : f ∈ t.writers ++ t.readers) :
      f ∈ t.writers ∧ f.isWriter = true ∨ f ∈ t.readers ∧ f.isWriter = false :=
    (List.mem_append.mp hf).imp (fun hw ↦ ⟨hw, h.writers f hw⟩) fun hr ↦ ⟨hr, h.readers f hr⟩
  rcases hother e he with ⟨hw, hside⟩ | ⟨hr, hside⟩
  · rw [h.writer_mem_keptEndpoints hw, Bool.or_eq_true, List.any_eq_true]
    refine or_congr_right ⟨fun ⟨f, hf, hmatches⟩ ↦ ?_, fun ⟨f, hf, hne, hmatches⟩ ↦ ?_⟩
    · exact ⟨f, List.mem_append_right _ hf, by rw [hside, h.readers f hf]; decide, hmatches⟩
    · rcases hother f hf with ⟨-, htrue⟩ | ⟨hreader, -⟩
      · exact absurd (htrue.trans hside.symm) hne
      · exact ⟨f, hreader, hmatches⟩
  · rw [h.reader_mem_keptEndpoints hr, Bool.or_eq_true, List.any_eq_true]
    refine or_congr_right ⟨fun ⟨f, hf, hmatches⟩ ↦ ?_, fun ⟨f, hf, hne, hmatches⟩ ↦ ?_⟩
    · exact ⟨f, List.mem_append_left _ hf, by rw [hside, h.writers f hf]; decide, hmatches⟩
    · rcases hother f hf with ⟨hwriter, -⟩ | ⟨-, hfalse⟩
      · exact ⟨f, hwriter, hmatches⟩
      · exact absurd (hfalse.trans hside.symm) hne

/-- The topics that pass the filters list the endpoints that are shown. -/
theorem mem_listedGuids_filtered (hnames : NamesDemangled endpoints)
    (hros : o.all = false → ∀ e ∈ endpoints, e.rosTopic ≠ "" ∧ startsWith e.ddsTopic "rt/" = true)
    (guid : String) :
    guid ∈ Json.listedGuids (applyNodeFilter (applyDefaultView (summarize endpoints) o) o) ↔
      ∃ e ∈ endpoints, e.guid = guid ∧ Shown o endpoints e := by
  have hview (t : TopicSummary) (ht : t ∈ summarize endpoints) : (o.all || inDefaultView t) = true ↔
      o.all = true ∨ ∃ f ∈ endpoints, f.ddsTopic = t.ddsTopic ∧ f.bufferParentGuid = "" := by
    cases hall : o.all with
    | true => simp
    | false => simp [inDefaultView_iff hnames (hros hall) ht, ← exists_mem_topic_iff ht]
  have hlisted : guid ∈ Json.listedGuids (applyNodeFilter (applyDefaultView (summarize endpoints) o) o) ↔
      ∃ t ∈ summarize endpoints, (o.all || inDefaultView t) = true ∧ ∃ e ∈ t.writers ++ t.readers,
        e.guid = guid ∧ (nodeShown o e.toEndpoint = true ∨ ∃ f ∈ t.writers ++ t.readers,
          f.isWriter ≠ e.isWriter ∧ nodeShown o f.toEndpoint = true) := by
    rw [applyDefaultView_eq, mem_listedGuids_iff]
    unfold applyNodeFilter nodeShown
    cases o.nodeMatches with
    | none => simp [and_assoc]
    | some re =>
      simp only [filterByNode, List.mem_filterMap, List.mem_filter]
      constructor
      · rintro ⟨u, ⟨t, ⟨ht, hshown⟩, hfilter⟩, e, he, hguid⟩
        obtain ⟨hin, hnode⟩ := (exists_filterTopic_iff (complete_of_mem ht) _ e).mp ⟨u, hfilter, he⟩
        exact ⟨t, ht, hshown, e, hin, hguid, hnode⟩
      · rintro ⟨t, ht, hshown, e, hin, hguid, hnode⟩
        obtain ⟨u, hfilter, he⟩ := (exists_filterTopic_iff (complete_of_mem ht)
          (fun e ↦ e.nodeName ≠ "" && re e.nodeName) e).mpr ⟨hin, hnode⟩
        exact ⟨u, ⟨t, ⟨ht, hshown⟩, hfilter⟩, e, he, hguid⟩
  rw [hlisted]
  constructor
  · rintro ⟨t, ht, hshown, e, he, hguid, hnode⟩
    obtain ⟨hpointer, htopic⟩ := (mem_topic_iff ht e).mp he
    refine ⟨e.toEndpoint, mem_of_mem_pointers hpointer, hguid, ?_, hnode.imp_right fun hpartner ↦ ?_⟩
    · rw [htopic]
      exact (hview t ht).mp hshown
    · rw [htopic]
      exact (exists_mem_topic_iff ht fun f ↦ f.isWriter ≠ e.isWriter ∧ nodeShown o f = true).mp hpartner
  · rintro ⟨e, he, hguid, hshown, hnode⟩
    obtain ⟨t, ht, htopic, pointer, hpointer, rfl⟩ := exists_topic he
    refine ⟨t, ht, (hview t ht).mpr (htopic ▸ hshown), pointer, hpointer, hguid,
      hnode.imp_right fun hpartner ↦ ?_⟩
    rw [← htopic] at hpartner
    exact (exists_mem_topic_iff ht fun f ↦ f.isWriter ≠ pointer.isWriter ∧ nodeShown o f = true).mpr
      hpartner

end Listed

/-! ## What a saved document needs -/

section Saved

variable {observer : Observer} {o : ViewOptions} {r : Readings} {shm : ShmInfo}

theorem normalizeNodeName_mergeNodeName (graphName discoveryName : String) :
    normalizeNodeName (mergeNodeName graphName discoveryName) =
      mergeNodeName graphName discoveryName := by
  unfold mergeNodeName
  simp only
  split_ifs
  · exact normalizeNodeName_normalizeNodeName discoveryName
  · exact normalizeNodeName_normalizeNodeName graphName

theorem nodeName_describeEndpoint (physical : OrderedMap String HostInfo) (e : Endpoint) :
    (describeEndpoint r physical e).nodeName = mergeNodeName (r.graphNode e.guidBytes)
      ((r.names.map fun names ↦ names.lookup e.guidBytes).getD "") := by
  unfold describeEndpoint
  simp only
  cases physical.find? e.participantGuidPrefix <;> rfl

theorem nodeName_attributed (endpoints : List Endpoint) (e : Endpoint) :
    (attributePorts observer endpoints shm (attributeSegment observer shm e)).nodeName = e.nodeName := by
  have hsegment : (attributeSegment observer shm e).nodeName = e.nodeName := by
    unfold attributeSegment
    cases shm.datasharingByWriter.find? e.guid <;> simp only <;> split_ifs <;> rfl
  rw [← hsegment]
  unfold attributePorts
  cases (shmPortsByParticipant observer endpoints).find?
    (attributeSegment observer shm e).participantGuidPrefix <;> rfl

/-- What of the statistics the last two steps leave alone. -/
theorem stats_left (topics : List TopicSummary) (endpoints : List Endpoint) (stats : StatsData) :
    (noteUnmeasuredPairs topics (noteStatisticsWriters endpoints stats)).measuredInstances =
        stats.measuredInstances ∧
      (noteUnmeasuredPairs topics (noteStatisticsWriters endpoints stats)).measurablePairs =
        stats.measurablePairs ∧
      (noteUnmeasuredPairs topics (noteStatisticsWriters endpoints stats)).writersHeard =
        stats.writersHeard ∧
      (noteUnmeasuredPairs topics (noteStatisticsWriters endpoints stats)).writersAnnounced =
        stats.writersAnnounced := by
  unfold noteUnmeasuredPairs
  simp only [foldl_notePair]
  exact ⟨rfl, rfl, rfl, rfl⟩

theorem host_attributed (endpoints : List Endpoint) (e : Endpoint) :
    let attributed := attributePorts observer endpoints shm (attributeSegment observer shm e)
    (attributed.hostName, attributed.process) = (e.hostName, e.process) := by
  have hsegment : (attributeSegment observer shm e).hostName = e.hostName ∧
      (attributeSegment observer shm e).process = e.process := by
    unfold attributeSegment
    cases shm.datasharingByWriter.find? e.guid <;> simp only <;> split_ifs <;> exact ⟨rfl, rfl⟩
  rw [← hsegment.1, ← hsegment.2]
  unfold attributePorts
  cases (shmPortsByParticipant observer endpoints).find?
    (attributeSegment observer shm e).participantGuidPrefix <;> rfl

theorem normalizeNodeName_of_mem {physical : OrderedMap String HostInfo} {e : Endpoint}
    (he : e ∈ attributedEndpoints observer (describedEndpoints r physical) shm o) :
    normalizeNodeName e.nodeName = e.nodeName := by
  obtain ⟨kept, hkept, rfl⟩ := List.mem_map.mp he
  obtain ⟨hnode, -⟩ := List.mem_filter.mp hkept
  obtain ⟨linked, -, rfl⟩ := List.mem_map.mp (List.mem_filter.mp hnode).1
  rw [nodeName_attributed, nodeName_describeEndpoint, normalizeNodeName_mergeNodeName]

/-- Endpoints that announce what others do are as plain as these. -/
theorem plain_of_announcements {endpoints others : List Endpoint} (h : Json.Plain endpoints)
    (hsub : (others.map announcement).Sublist (endpoints.map announcement))
    (hnode : ∀ e ∈ others, normalizeNodeName e.nodeName = e.nodeName) : Json.Plain others where
  distinct := by
    have hguids := hsub.map Endpoint.guid
    rw [List.map_map, List.map_map] at hguids
    exact h.distinct.sublist hguids
  node := hnode
  port e he := by
    obtain ⟨f, hf, hsame⟩ := List.mem_map.mp (hsub.subset (List.mem_map_of_mem he))
    have hunicast : f.unicast = e.unicast := congrArg (fun e ↦ e.unicast) hsame
    have hmulticast : f.multicast = e.multicast := congrArg (fun e ↦ e.multicast) hsame
    rw [← hunicast, ← hmulticast]
    exact h.port f hf

theorem plain_attributedEndpoints (h : Json.Plain r.endpoints) (physical : OrderedMap String HostInfo) :
    Json.Plain (attributedEndpoints observer (describedEndpoints r physical) shm o) := by
  refine plain_of_announcements h ?_ fun e he ↦ normalizeNodeName_of_mem he
  rw [map_announcement_attributedEndpoints, map_announcement_describedEndpoints, keptEndpoints,
    nodeEndpoints]
  exact List.filter_sublist.trans List.filter_sublist

variable {endpoints : List Endpoint} {stats : StatsData}

/-- What `collect` does to the topics keeps a document lossless. -/
theorem lossless_topics [Fnmatch] (h : Json.Plain endpoints) (hstats : Json.FiniteStats stats) :
    Json.Lossless
      (applyStats (applyNodeFilter (applyDefaultView (summarize endpoints) o) o) stats) := by
  have hsummary : Json.Produced { topics := summarize endpoints, endpoints := endpoints, stats := stats } :=
    .summarize (s := { endpoints := endpoints, stats := stats }) (.found h)
  have hview := hsummary.applyDefaultView o
  unfold applyNodeFilter
  cases o.nodeMatches with
  | none => exact (hview.applyStats hstats).lossless
  | some re => exact ((hview.filterByNode _).applyStats hstats).lossless

theorem finiteStats_readStats (hstats : ∀ stats, r.stats = some stats → Json.FiniteStats stats)
    (settledAtS : ℚ) (endpoints : List Endpoint) :
    Json.FiniteStats (noteStatisticsWriters endpoints (readStats observer r settledAtS)) := by
  unfold readStats
  cases hread : r.stats with
  | none => exact ⟨fun e he ↦ absurd he List.not_mem_nil, fun t ht ↦ absurd ht List.not_mem_nil⟩
  | some stats => exact ⟨(hstats stats hread).latency, (hstats stats hread).port⟩

end Saved

end TransportViz.Collect
