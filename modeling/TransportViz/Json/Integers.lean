import TransportViz.Decision.Fresh
import TransportViz.Json.Produced
import TransportViz.Json.RoundTrip
import TransportViz.Library.IntegerFields

/-!
# The integers of a saved document

`documentFields` lists the integers that `parseJson` reads, with their types, `snapshotIntegers` those
of the snapshot that comes back. They are read without a check of their range, so that a document is
read exactly when all of its fields are integers within their types.
-/

namespace TransportViz.Json

open Decision JsonReader
open Script (Value)

/-! ## The fields of a document -/

section Fields

variable (j : Value)

def locatorFields : List Field := [fieldAt .uint32 j "port" 0]

def locatorsFields : List Field := (elements j).flatMap locatorFields

def endpointFields : List Field :=
  locatorsFields (child j "unicast_locators" .null) ++
    locatorsFields (child j "multicast_locators" .null) ++
    elementFields .uint64 (child (child j "qos" .null) "data_sharing_domain_ids" .null) ++
    [optionalField (child j "datasharing_history_bytes" .null)]

def measuredLocatorFields : List Field := locatorFields j ++ [fieldAt .uint64 j "packets" 0]

def latencyFields : List Field := [fieldAt .uint64 (objectOnly j) "samples" 0]

def reliabilityFields : List Field :=
  [optionalField (child (objectOnly j) "lost_packets" .null),
    fieldAt .uint64 (objectOnly j) "resent_datas" 0,
    fieldAt .uint64 (objectOnly j) "heartbeats" 0,
    fieldAt .uint64 (objectOnly j) "gaps" 0,
    fieldAt .uint64 (objectOnly j) "acknacks" 0,
    fieldAt .uint64 (objectOnly j) "nackfrags" 0]

def measurementFields : List Field :=
  (elements (child j "locators" .null)).flatMap measuredLocatorFields ++
    [fieldAt .uint64 j "packets" 0, fieldAt .uint64 j "packets_total" 0] ++
    latencyFields (child j "latency_s" .null) ++ [fieldAt .uint64 j "delivered_samples" 0] ++
    reliabilityFields (child j "reliability" .null) ++ [optionalField (child j "data_submessages" .null)]

def trafficFields (locatorKey : String) : List Field :=
  locatorFields (child j locatorKey .null) ++
    [fieldAt .uint64 j "packets" 0, fieldAt .uint64 j "packets_first" 0]

/-- Older documents name the locator in another way. -/
def lostFields : List Field :=
  if (member? j "src_participant_guid_prefix").isNone &&
      (member? j "receiver_participant_guid_prefix").isSome
  then trafficFields j "from_locator"
  else trafficFields j "dst_locator"

def dataCountFields : List Field :=
  [fieldAt .uint64 j "first" 0, fieldAt .uint64 j "last" 0, fieldAt .uint64 j "samples" 0]

def statsFields : List Field :=
  [fieldAt .uint64 j "samples" 0] ++
    (elements (child j "traffic" .null)).flatMap (trafficFields · "dst_locator") ++
    (elements (child j "lost" (.array []))).flatMap lostFields ++
    (OrderedMap.ofList (items (child j "data_count" (.object [])))).values.flatMap dataCountFields ++
    ["samples_lost", "samples_lost_at_start", "samples_rejected", "writers_incompatible_qos",
      "writers_announced", "writers_heard", "measured_instances", "measurable_pairs",
      "samples_lost_latency", "pairs_delivered", "pairs_delivered_unmeasured",
      "pairs_delivered_absent"].map (fieldAt .uint64 j · 0)

def shmFields : List Field :=
  ["total_bytes", "used_bytes", "free_bytes", "fastdds_bytes", "segments", "stale_segments", "ports",
      "stale_ports", "datasharing_histories", "datasharing_unmatched",
      "datasharing_notifications"].map (fieldAt .uint64 j · 0) ++
    elementFields .uint32 (child j "checked_ports" .null) ++
    elementFields .uint32 (child j "missing_ports" .null) ++
    elementFields .uint32 (child j "unknown_ports" .null) ++
    [fieldAt .uint64 j "other_host_participants" 0]

def shmPortFields : List Field := [fieldAt .uint32 j "port" 0, fieldAt .uint64 j "announced_by" 1]

/-- A value that is read only if it is an array. -/
def arrayOnly : Value → Value
  | .array values => .array values
  | _ => .array []

def participantFields : List Field :=
  locatorsFields (arrayOnly (child j "metatraffic_locators" .null)) ++
    (elements (child j "shm_ports" (.array []))).flatMap shmPortFields

def discoveryFields : List Field :=
  ["events", "endpoints", "announced_not_discovered"].map (fieldAt .uint64 j · 0) ++
    locatorsFields (arrayOnly (child j "discovery_servers" .null))

def pairFields : List Field :=
  locatorFields (objectOnly (child j "locator" .null)) ++ measurementFields (child j "measured" .null)

def topicEndpointFields : List Field :=
  (elements (child j "writers" .null)).flatMap endpointFields ++
    (elements (child j "readers" .null)).flatMap endpointFields

def topicFields : List Field :=
  (elements (child j "pairs" .null)).flatMap pairFields ++
    [optionalField (child j "lost_packets" .null), optionalField (child j "resent_datas" .null)]

end Fields

/-- The integers that are read, in order, with those that older documents leave out. -/
def documentFields (doc : Value) : List Field :=
  [fieldAt .int32 doc "schema_version" 0, fieldAt .int32 doc "domain" 0] ++
    (elements (child doc "topics" .null)).flatMap topicEndpointFields ++
    (elements (child doc "topics" .null)).flatMap topicFields ++ statsFields (child doc "stats" .null) ++
    discoveryFields (objectOnly (child doc "discovery" .null)) ++
    shmFields (objectOnly (child doc "shm" .null)) ++
    (elements (arrayOnly (child doc "participants" .null))).flatMap participantFields

/-! ## The integers of a snapshot -/

def locatorIntegers (l : Locator) : List ℤ := [(l.port : ℤ)]

def endpointIntegers (e : Endpoint) : List ℤ :=
  e.unicast.flatMap locatorIntegers ++ e.multicast.flatMap locatorIntegers ++
    e.qos.dataSharingDomains.map Nat.cast ++ [(e.datasharingHistoryBytes : ℤ)]

def measuredLocatorIntegers (ml : MeasuredLocator) : List ℤ :=
  locatorIntegers ml.locator ++ [(ml.packets : ℤ)]

def reliabilityIntegers (r : Reliability) : List ℤ :=
  [(r.lostPackets : ℤ), (r.resent : ℤ), (r.heartbeats : ℤ), (r.gaps : ℤ), (r.acknacks : ℤ),
    (r.nackfrags : ℤ)]

def measurementIntegers (m : Measurement) : List ℤ :=
  m.locators.flatMap measuredLocatorIntegers ++ [(m.packets : ℤ), (m.packetsTotal : ℤ)] ++
    [(m.latency.samples : ℤ)] ++ [(m.deliveredSamples : ℤ)] ++ reliabilityIntegers m.reliability ++
    [(m.dataSubmessages : ℤ)]

def trafficIntegers (sample : TrafficSample) : List ℤ :=
  locatorIntegers sample.dst ++ [(sample.packets : ℤ), (sample.packetsFirst : ℤ)]

def dataCountIntegers (sample : DataCountSample) : List ℤ :=
  [(sample.first : ℤ), (sample.last : ℤ), (sample.samples : ℤ)]

def statsIntegers (s : StatsData) : List ℤ :=
  [(s.samples : ℤ)] ++ s.traffic.flatMap trafficIntegers ++ s.lost.flatMap trafficIntegers ++
    s.dataCount.values.flatMap dataCountIntegers ++
    [(s.samplesLost : ℤ), (s.samplesLostAtStart : ℤ), (s.samplesRejected : ℤ),
      (s.writersIncompatibleQos : ℤ), (s.writersAnnounced : ℤ), (s.writersHeard : ℤ),
      (s.measuredInstances : ℤ), (s.measurablePairs : ℤ), (s.samplesLostLatency : ℤ),
      (s.pairsDelivered : ℤ), (s.pairsDeliveredUnmeasured : ℤ), (s.pairsDeliveredAbsent : ℤ)]

def shmIntegers (s : ShmInfo) : List ℤ :=
  [(s.totalBytes : ℤ), (s.usedBytes : ℤ), (s.freeBytes : ℤ), (s.fastddsBytes : ℤ), (s.segments : ℤ),
      (s.staleSegments : ℤ), (s.ports : ℤ), (s.stalePorts : ℤ), (s.datasharingHistories : ℤ),
      (s.datasharingUnmatched : ℤ), (s.datasharingNotifications : ℤ)] ++
    s.checkedPorts.map Nat.cast ++ s.missingPorts.map Nat.cast ++ s.unknownPorts.map Nat.cast ++
    [(s.otherHostParticipants : ℤ)]

def shmPortIntegers (sp : ShmPort) : List ℤ := [(sp.port : ℤ), (sp.announcedBy : ℤ)]

def participantIntegers (p : Participant) : List ℤ :=
  p.metatrafficLocators.flatMap locatorIntegers ++ p.shmPorts.flatMap shmPortIntegers

def discoveryIntegers (d : DiscoveryStatus) : List ℤ :=
  [(d.events : ℤ), (d.endpoints : ℤ), (d.announcedNotDiscovered : ℤ)] ++
    d.discoveryServers.flatMap locatorIntegers

def pairIntegers (p : Pair) : List ℤ :=
  locatorIntegers p.verdict.locator ++ measurementIntegers p.measured

def topicIntegers (t : TopicSummary) : List ℤ :=
  t.pairs.flatMap pairIntegers ++ [(t.lostPackets : ℤ), (t.resent : ℤ)]

/-- The integers that are stored; the version is the one that is supported. -/
def snapshotIntegers (s : Snapshot) : List ℤ :=
  [1, s.domain] ++ s.endpoints.flatMap endpointIntegers ++ s.topics.flatMap topicIntegers ++
    statsIntegers s.stats ++ discoveryIntegers s.discovery ++ shmIntegers s.shm ++
    s.participants.flatMap participantIntegers

/-- Every integer that is stored is the document's, and the version is 1. -/
structure ReadExactly (doc : Value) (s : Snapshot) : Prop where
  version : member? doc "schema_version" = some (.number 1)
  integers : (documentFields doc).map Field.value = (snapshotIntegers s).map fun z ↦ .number z

/-! ## What is stored of a field -/

section Stored

variable {j v : Value} {place : String}

theorem stored_optionalField (v : Value) : (optionalField v).stored = counter v := by
  cases v <;> first | rfl | exact stored_natCast (by decide)

theorem locator_stores (j : Value) (place : String) :
    Stores (locatorFields j) locatorIntegers (locator j place) := by
  unfold locator
  iterate 5 refine .skip fun _ ↦ ?_
  refine .bind fun v hv ↦ .bind fun port hport ↦ .pure ?_
  rw [locatorFields, List.map_singleton, stored_fieldAt hv (stored_of_uint32 hport), locatorIntegers]

theorem locators_stores (j : Value) (place : String) :
    Stores (locatorsFields j) (List.flatMap locatorIntegers) (locators j place) :=
  fun _ h ↦ flatMap_of_mapM (locator_stores · place) h

theorem endpointQos_stores (j : Value) (place : String) :
    Stores (elementFields .uint64 (child j "data_sharing_domain_ids" .null))
      (fun qos ↦ qos.dataSharingDomains.map Nat.cast) (endpointQos j place) := by
  unfold endpointQos
  iterate 6 refine .skip fun _ ↦ ?_
  refine .bind fun domains hdomains ↦ ?_
  iterate 5 refine .skip fun _ ↦ ?_
  exact .pure (map_of_valueOr (fun _ _ ↦ stored_of_uint64) hdomains)

theorem endpoint_stores (j : Value) (isWriter : Bool) (place : String) :
    Stores (endpointFields j) endpointIntegers (endpoint j isWriter place) := by
  unfold endpoint
  iterate 23 refine .skip fun _ ↦ ?_
  refine .bind fun unicast hunicast ↦ .bind fun ls hls ↦ ?_
  refine .bind fun multicast hmulticast ↦ .bind fun ms hms ↦ ?_
  refine .skip fun _ ↦ .bind fun qos hqos ↦ .bind fun q hq ↦ .pure ?_
  rw [endpointFields, child_of_atKey hunicast, child_of_atKey hmulticast, child_of_atKey hqos]
  simp only [List.map_append, locators_stores _ _ _ hls, locators_stores _ _ _ hms,
    endpointQos_stores _ _ _ hq, List.map_singleton, stored_optionalField]
  rfl

theorem measuredLocator_stores (j : Value) (place : String) :
    Stores (measuredLocatorFields j) measuredLocatorIntegers (measuredLocator j place) := by
  unfold measuredLocator
  refine .bind fun l hl ↦ .bind fun packets hpackets ↦ .skip fun _ ↦ .pure ?_
  rw [measuredLocatorFields, List.map_append, locator_stores _ _ _ hl, List.map_singleton,
    stored_of_valueOr (by decide) hpackets, measuredLocatorIntegers]

theorem optionalLatency_stores (j : Value) :
    Stores (latencyFields j) (fun stat ↦ [(stat.samples : ℤ)]) (optionalLatency j) := by
  rw [optionalLatency, latencyFields, objectOnly]
  split_ifs
  · unfold latencyStat
    refine .bind fun samples hsamples ↦ ?_
    iterate 4 refine .skip fun _ ↦ ?_
    refine .pure ?_
    rw [List.map_singleton, stored_of_valueOr (by decide) hsamples]
  · exact .pure rfl

theorem optionalReliability_stores (j : Value) :
    Stores (reliabilityFields j) reliabilityIntegers (optionalReliability j) := by
  rw [optionalReliability, reliabilityFields, objectOnly]
  split_ifs
  · unfold reliability
    refine .bind fun lost hlost ↦ .bind fun resent hresent ↦ .bind fun heartbeats hheartbeats ↦ ?_
    refine .bind fun gaps hgaps ↦ .bind fun acknacks hacknacks ↦ .bind fun nackfrags hnackfrags ↦ .pure ?_
    simp only [List.map_cons, List.map_nil, child_of_valueOr hlost, stored_optionalField,
      stored_of_valueOr (by decide) hresent, stored_of_valueOr (by decide) hheartbeats,
      stored_of_valueOr (by decide) hgaps, stored_of_valueOr (by decide) hacknacks,
      stored_of_valueOr (by decide) hnackfrags, reliabilityIntegers]
  · exact .pure rfl

theorem measurement_stores (j : Value) (place : String) :
    Stores (measurementFields j) measurementIntegers (measurement j place) := by
  unfold measurement
  iterate 4 refine .skip fun _ ↦ ?_
  refine .bind fun locators hlocators ↦ .bind fun ml hml ↦ ?_
  refine .bind fun packets hpackets ↦ .bind fun n hn ↦ ?_
  iterate 2 refine .skip fun _ ↦ ?_
  refine .bind fun total htotal ↦ .skip fun _ ↦ .bind fun latency hlatency ↦ .bind fun stat hstat ↦ ?_
  iterate 2 refine .skip fun _ ↦ ?_
  refine .bind fun samples hsamples ↦ ?_
  iterate 3 refine .skip fun _ ↦ ?_
  refine .bind fun reliable hreliable ↦ .bind fun r hr ↦ .bind fun submessages hsubmessages ↦ .pure ?_
  rw [measurementFields, child_of_atKey hlocators, child_of_valueOr hlatency, child_of_valueOr hreliable,
    child_of_valueOr hsubmessages]
  simp only [List.map_append, flatMap_of_mapM (measuredLocator_stores · place) hml,
    optionalLatency_stores _ _ hstat, optionalReliability_stores _ _ hr, List.map_cons, List.map_nil,
    stored_fieldAt hpackets (stored_of_uint64 hn), stored_of_valueOr (by decide) htotal,
    stored_of_valueOr (by decide) hsamples, stored_optionalField, measurementIntegers]

/-! ## The rest of a document -/

theorem trafficSample_stores (j : Value) (prefixKey locatorKey place : String) :
    Stores (trafficFields j locatorKey) trafficIntegers (trafficSample j prefixKey locatorKey place) := by
  unfold trafficSample
  iterate 2 refine .skip fun _ ↦ ?_
  refine .bind fun dst hdst ↦ .bind fun l hl ↦ .bind fun packets hpackets ↦ .bind fun n hn ↦ ?_
  iterate 2 refine .skip fun _ ↦ ?_
  refine .bind fun first hfirst ↦ .skip fun _ ↦ .pure ?_
  rw [trafficFields, child_of_atKey hdst]
  simp only [List.map_append, locator_stores _ _ _ hl, List.map_cons, List.map_nil,
    stored_fieldAt hpackets (stored_of_uint64 hn), stored_of_valueOr (by decide) hfirst, trafficIntegers]

theorem lostSample_stores (j : Value) : Stores (lostFields j) trafficIntegers (lostSample j) := by
  simp only [lostSample, lostFields]
  split_ifs
  · refine .bind fun sample hsample ↦ .skip fun _ ↦ .pure ?_
    have hstored := trafficSample_stores _ _ _ _ _ hsample
    exact hstored
  · refine .bind fun sample hsample ↦ .skip fun _ ↦ .pure ?_
    have hstored := trafficSample_stores _ _ _ _ _ hsample
    exact hstored

theorem dataCountSample_stores (entry : String × Value) :
    Ensures (fun entry' ↦ entry.1 = entry'.1 ∧
      (dataCountFields entry.2).map Field.stored = dataCountIntegers entry'.2) (dataCountSample entry) := by
  unfold dataCountSample
  refine .bind fun first hfirst ↦ .bind fun last hlast ↦ .bind fun samples hsamples ↦ .pure ⟨rfl, ?_⟩
  simp only [dataCountFields, List.map_cons, List.map_nil, stored_of_valueOr (by decide) hfirst,
    stored_of_valueOr (by decide) hlast, stored_of_valueOr (by decide) hsamples, dataCountIntegers]

/-- The map keeps the last entry of a key on both sides. -/
theorem dataCount_stores {entries : List (String × Value)} {samples : List (String × DataCountSample)}
    (h : entries.mapM dataCountSample = .ok samples) :
    ((OrderedMap.ofList entries).values.flatMap dataCountFields).map Field.stored =
      (OrderedMap.ofList samples).values.flatMap dataCountIntegers := by
  have hentries := OrderedMap.forall₂_entries_ofList
    (fun _ v sample ↦ (dataCountFields v).map Field.stored = dataCountIntegers sample)
    ((mapM_eq_ok h).imp dataCountSample_stores)
  apply flatMap_of_forall₂
  rw [OrderedMap.values, OrderedMap.values, List.forall₂_map_left_iff, List.forall₂_map_right_iff]
  exact hentries.imp fun _ _ hboth ↦ hboth.2

theorem stats_stores (j : Value) : Stores (statsFields j) statsIntegers (stats j) := by
  unfold stats
  iterate 2 refine .skip fun _ ↦ ?_
  refine .bind fun samples hsamples ↦ .bind fun n hn ↦ ?_
  iterate 4 refine .skip fun _ ↦ ?_
  refine .bind fun traffic htraffic ↦ .bind fun ts hts ↦ .bind fun lost hlost ↦ .bind fun ls hls ↦ ?_
  refine .bind fun counts hcounts ↦ .bind fun ds hds ↦ ?_
  refine .bind fun _ h₁ ↦ .bind fun _ h₂ ↦ .bind fun _ h₃ ↦ .bind fun _ h₄ ↦ .bind fun _ h₅ ↦ ?_
  refine .bind fun _ h₆ ↦ .bind fun _ h₇ ↦ .bind fun _ h₈ ↦ .skip fun _ ↦ ?_
  refine .bind fun _ h₉ ↦ .bind fun _ h₁₀ ↦ .bind fun _ h₁₁ ↦ .bind fun _ h₁₂ ↦ ?_
  iterate 4 refine .skip fun _ ↦ ?_
  refine .pure ?_
  rw [statsFields, child_of_atKey htraffic, child_of_valueOr hlost, child_of_valueOr hcounts]
  simp only [List.map_append, List.map_cons, List.map_nil, stored_fieldAt hsamples (stored_of_uint64 hn),
    flatMap_of_mapM (fun t ↦ trafficSample_stores t _ _ _) hts, flatMap_of_mapM lostSample_stores hls,
    dataCount_stores hds, stored_of_valueOr (by decide) h₁, stored_of_valueOr (by decide) h₂,
    stored_of_valueOr (by decide) h₃, stored_of_valueOr (by decide) h₄, stored_of_valueOr (by decide) h₅,
    stored_of_valueOr (by decide) h₆, stored_of_valueOr (by decide) h₇, stored_of_valueOr (by decide) h₈,
    stored_of_valueOr (by decide) h₉, stored_of_valueOr (by decide) h₁₀,
    stored_of_valueOr (by decide) h₁₁, stored_of_valueOr (by decide) h₁₂, statsIntegers]

theorem shm_stores (j : Value) : Stores (shmFields j) shmIntegers (shm j) := by
  unfold shm
  iterate 4 refine .skip fun _ ↦ ?_
  refine .bind fun _ h₁ ↦ .bind fun _ h₂ ↦ .bind fun _ h₃ ↦ .bind fun _ h₄ ↦ .bind fun _ h₅ ↦ ?_
  refine .bind fun _ h₆ ↦ .bind fun _ h₇ ↦ .bind fun _ h₈ ↦ .bind fun _ h₉ ↦ .bind fun _ h₁₀ ↦ ?_
  refine .bind fun _ h₁₁ ↦ .bind fun _ hchecked ↦ .bind fun _ hmissing ↦ .bind fun _ hunknown ↦ ?_
  refine .bind fun _ h₁₂ ↦ ?_
  iterate 3 refine .skip fun _ ↦ ?_
  refine .pure ?_
  have hread (v : Value) (n : ℕ) : uint32 v = .ok n → Field.stored ⟨.uint32, v⟩ = n := stored_of_uint32
  rw [shmFields]
  simp only [List.map_append, List.map_cons, List.map_nil, map_of_valueOr hread hchecked,
    map_of_valueOr hread hmissing, map_of_valueOr hread hunknown, stored_of_valueOr (by decide) h₁,
    stored_of_valueOr (by decide) h₂, stored_of_valueOr (by decide) h₃, stored_of_valueOr (by decide) h₄,
    stored_of_valueOr (by decide) h₅, stored_of_valueOr (by decide) h₆, stored_of_valueOr (by decide) h₇,
    stored_of_valueOr (by decide) h₈, stored_of_valueOr (by decide) h₉,
    stored_of_valueOr (by decide) h₁₀, stored_of_valueOr (by decide) h₁₁,
    stored_of_valueOr (by decide) h₁₂, shmIntegers]

theorem shmPort_stores (j : Value) (place : String) :
    Stores (shmPortFields j) shmPortIntegers (shmPort j place) := by
  unfold shmPort
  refine .bind fun port hport ↦ .bind fun n hn ↦ .skip fun _ ↦ .bind fun announced hannounced ↦ ?_
  refine .skip fun _ ↦ .pure ?_
  simp only [shmPortFields, List.map_cons, List.map_nil, stored_fieldAt hport (stored_of_uint32 hn),
    stored_of_valueOr (by decide) hannounced, shmPortIntegers]

theorem optionalLocators_stores (j : Value) (key place : String) :
    Stores (locatorsFields (arrayOnly (child j key .null))) (List.flatMap locatorIntegers)
      (optionalLocators j key place) := by
  rw [optionalLocators, child]
  cases member? j key with
  | none => exact .pure rfl
  | some v =>
    cases v with
    | array values => exact locators_stores _ place
    | _ => exact .pure rfl

theorem participant_stores (j : Value) (index : ℕ) :
    Stores (participantFields j) participantIntegers (participant j index) := by
  unfold participant
  iterate 11 refine .skip fun _ ↦ ?_
  refine .bind fun ls hls ↦ .bind fun ports hports ↦ .bind fun ps hps ↦ .pure ?_
  rw [participantFields, child_of_valueOr hports, List.map_append, optionalLocators_stores _ _ _ _ hls,
    flatMap_of_mapM (fun sp ↦ shmPort_stores sp _) hps, participantIntegers]

theorem discoveryStatus_stores (j : Value) :
    Stores (discoveryFields j) discoveryIntegers (discoveryStatus j) := by
  unfold discoveryStatus
  iterate 2 refine .skip fun _ ↦ ?_
  refine .bind fun events hevents ↦ .bind fun endpoints hendpoints ↦ .bind fun announced hannounced ↦ ?_
  refine .skip fun _ ↦ .bind fun servers hservers ↦ ?_
  iterate 2 refine .skip fun _ ↦ ?_
  refine .pure ?_
  simp only [discoveryFields, List.map_append, List.map_cons, List.map_nil,
    stored_of_valueOr (by decide) hevents, stored_of_valueOr (by decide) hendpoints,
    stored_of_valueOr (by decide) hannounced, optionalLocators_stores _ _ _ _ hservers, discoveryIntegers]

/-! ## Topics -/

theorem selectedLocator_stores (j : Value) (place : String) :
    Stores (locatorFields (objectOnly j)) (fun selected ↦ locatorIntegers selected.1)
      (selectedLocator j place) := by
  rw [selectedLocator, objectOnly]
  split_ifs
  · exact .bind fun _ hl ↦ .skip fun _ ↦ .pure (locator_stores _ _ _ hl)
  · exact .pure rfl

theorem pair_stores (endpoints : List Endpoint) (j : Value) (place : String) :
    Stores (pairFields j) pairIntegers (pair endpoints j place) := by
  unfold pair
  refine Ensures.within ?_
  iterate 4 refine .skip fun _ ↦ ?_
  split
  · iterate 6 refine .skip fun _ ↦ ?_
    refine .bind fun locator hlocator ↦ .bind fun selected hselected ↦ ?_
    iterate 4 refine .skip fun _ ↦ ?_
    refine .bind fun measured hmeasured ↦ .bind fun m hm ↦ .pure ?_
    rw [pairFields, child_of_atKey hlocator, child_of_atKey hmeasured, List.map_append,
      selectedLocator_stores _ _ _ hselected, measurement_stores _ _ _ hm, pairIntegers]
  · exact .error

theorem topicSummary_stores (endpoints : List Endpoint) (refs : TopicRefs) (j : Value) :
    Stores (topicFields j) (fun summary ↦ topicIntegers summary.1) (topicSummary endpoints refs j) := by
  unfold topicSummary
  iterate 11 refine .skip fun _ ↦ ?_
  refine .skip fun _ ↦ .bind fun lost hlost ↦ .bind fun resent hresent ↦ .skip fun _ ↦ ?_
  refine .bind fun pairs hpairs ↦ .bind fun ps hps ↦ .pure ?_
  rw [topicFields, child_of_atKey hpairs, child_of_valueOr hlost, child_of_valueOr hresent]
  simp only [List.map_append, List.map_cons, List.map_nil,
    flatMap_of_mapM (fun pj ↦ pair_stores endpoints pj _) hps, stored_optionalField, topicIntegers]

theorem topicEndpoints_stores (before : List Endpoint) (j : Value) (place : String) :
    Ensures (fun found ↦ before.flatMap endpointIntegers ++ (topicEndpointFields j).map Field.stored =
      found.1.flatMap endpointIntegers) (topicEndpoints before j place) := by
  unfold topicEndpoints
  refine Ensures.within ?_
  refine .bind fun writers hwriters ↦ .bind fun ws hws ↦ ?_
  refine .bind fun readers hreaders ↦ .bind fun rs hrs ↦ .pure ?_
  rw [topicEndpointFields, child_of_atKey hwriters, child_of_atKey hreaders, List.map_append,
    flatMap_of_mapM (endpoint_stores · true place) hws,
    flatMap_of_mapM (endpoint_stores · false place) hrs, List.flatMap_append, List.flatMap_append,
    List.append_assoc]

/-- The endpoints of the topics follow each other. -/
theorem foldlM_addTopicEndpoints_stores (topics : List Value) (state : List Endpoint × List TopicRefs) :
    Ensures (fun found ↦ found.2.length = state.2.length + topics.length ∧
      state.1.flatMap endpointIntegers ++ (topics.flatMap topicEndpointFields).map Field.stored =
        found.1.flatMap endpointIntegers) (topics.foldlM addTopicEndpoints state) := by
  induction topics generalizing state with
  | nil => exact .pure ⟨rfl, List.append_nil _⟩
  | cons tj rest ih =>
    have hstep : Ensures (fun next ↦ next.2.length = state.2.length + 1 ∧
        state.1.flatMap endpointIntegers ++ (topicEndpointFields tj).map Field.stored =
          next.1.flatMap endpointIntegers) (addTopicEndpoints state tj) := by
      unfold addTopicEndpoints
      refine .skip fun _ ↦ .bind fun found hfound ↦ .pure ⟨?_, topicEndpoints_stores _ _ _ _ hfound⟩
      rw [List.length_append, List.length_singleton]
    rw [List.foldlM_cons]
    refine .bind fun next hnext ↦ fun found hfound ↦ ?_
    obtain ⟨hlength, hintegers⟩ := hstep next hnext
    obtain ⟨hlength', hintegers'⟩ := ih next found hfound
    constructor
    · rw [hlength', hlength, List.length_cons]
      omega
    · rw [List.flatMap_cons, List.map_append, ← List.append_assoc, hintegers, hintegers']

theorem KindOnly.topicIntegers_eq {a b : TopicSummary} (h : KindOnly a b) :
    topicIntegers a = topicIntegers b := by
  rw [h]
  rfl

theorem classified_integers (summaries : List (TopicSummary × Bool)) :
    (classified summaries).flatMap topicIntegers = (summaries.map Prod.fst).flatMap topicIntegers := by
  rw [classified]
  split_ifs
  · rfl
  · have hkind := forall₂_classifyTopics (summaries.map Prod.fst)
    generalize classifyTopics (summaries.map Prod.fst) = named at hkind ⊢
    generalize summaries.map Prod.fst = topics at hkind ⊢
    induction hkind with
    | nil => rfl
    | cons hhead _ ih => rw [List.flatMap_cons, List.flatMap_cons, KindOnly.topicIntegers_eq hhead, ih]

theorem linkCompanions_integers (endpoints : List Endpoint) :
    (linkCompanions endpoints).flatMap endpointIntegers = endpoints.flatMap endpointIntegers := by
  have hmap := congrArg (List.flatMap endpointIntegers) (map_unlinked_linkCompanions endpoints)
  rwa [List.flatMap_map, List.flatMap_map] at hmap

theorem participants_stores (doc : Value) :
    Stores ((elements (arrayOnly (child doc "participants" .null))).flatMap participantFields)
      (List.flatMap participantIntegers) (participants doc) := by
  rw [participants, child]
  cases member? doc "participants" with
  | none => exact .pure rfl
  | some v =>
    cases v with
    | array values =>
      intro ps hps
      have hflat := @flatMap_of_mapM (Value × ℕ) _ _ (fun it ↦ participantFields it.1) participantIntegers
        (fun it ↦ Ensures.within (participant_stores it.1 it.2)) _ _ hps
      rw [← List.flatMap_map, List.zipIdx_map_fst] at hflat
      exact hflat
    | _ => exact .pure rfl

theorem objectMember_stores {α : Type} {read : Value → Read α} {fields : Value → List Field}
    {integers : α → List ℤ} {absent : α} (hread : ∀ v, Stores (fields v) integers (read v))
    (habsent : (fields (.object [])).map Field.stored = integers absent) (doc : Value) (key : String) :
    Stores (fields (objectOnly (child doc key .null))) integers (objectMember read doc key absent) := by
  rw [objectMember, child]
  cases member? doc key with
  | none => exact .pure habsent
  | some v =>
    simp only [Option.getD_some, objectOnly]
    split_ifs
    · exact hread v
    · exact .pure habsent

theorem documentStats_stores (doc : Value) :
    Stores (statsFields (child doc "stats" .null)) statsIntegers
      (within "stats: " (do stats (← atKey doc "stats" "document"))) := by
  refine Ensures.within (.bind fun v hv ↦ ?_)
  rw [child_of_atKey hv]
  exact stats_stores v

/-- The topics are those of the list, one by one. -/
theorem mapM_topicSummary_integers {endpoints : List Endpoint} {topics : List Value}
    {refs : List TopicRefs}
    {summaries : List (TopicSummary × Bool)} (hlength : refs.length = topics.length)
    (h : (topics.zip refs).mapM (fun it ↦ topicSummary endpoints it.2 it.1) = .ok summaries) :
    (topics.flatMap topicFields).map Field.stored = (classified summaries).flatMap topicIntegers := by
  have hflat := @flatMap_of_mapM (Value × TopicRefs) _ _ (fun it ↦ topicFields it.1)
    (fun summary ↦ topicIntegers summary.1) (fun it ↦ topicSummary_stores _ it.2 it.1) _ _ h
  have hzip : (topics.zip refs).map Prod.fst = topics := List.map_fst_zip hlength.ge
  rw [← List.flatMap_map, hzip] at hflat
  rw [hflat, classified_integers, List.flatMap_map]

section Document

variable [Dump]

theorem checkVersion_stores (doc : Value) :
    Ensures (fun _ ↦ (fieldAt .int32 doc "schema_version" 0).stored = 1) (checkVersion doc) := by
  unfold checkVersion
  refine .bind fun version hversion ↦ ?_
  simp only
  split_ifs
  · refine .bind fun z hz ↦ ?_
    split_ifs with hone
    · exact .error
    · rw [not_not] at hone
      exact .pure (stored_fieldAt hversion (hone ▸ stored_of_int hz))
  · exact .error

theorem snapshot_stores (doc : Value) : Stores (documentFields doc) snapshotIntegers (snapshot doc) := by
  unfold snapshot
  simp only
  split_ifs
  · refine .bind fun _ hversion ↦ .bind fun domain hdomain ↦ .bind fun z hz ↦ ?_
    iterate 7 refine .skip fun _ ↦ ?_
    refine .bind fun topics htopics ↦ .bind fun found hfound ↦ .bind fun summaries hsummaries ↦ ?_
    refine .bind fun stats hstats ↦ .bind fun discovery hdiscovery ↦ ?_
    refine .bind fun shm hshm ↦ .bind fun ps hps ↦ .pure ?_
    obtain ⟨hlength, hendpoints⟩ := foldlM_addTopicEndpoints_stores _ _ _ hfound
    have htopic := mapM_topicSummary_integers (by rw [hlength, List.length_nil, Nat.zero_add]) hsummaries
    have hd := objectMember_stores discoveryStatus_stores rfl doc "discovery" _ hdiscovery
    have hs := objectMember_stores (fun v ↦ Ensures.withinAll (shm_stores v)) rfl doc "shm" _ hshm
    rw [List.flatMap_nil, List.nil_append] at hendpoints
    rw [documentFields, child_of_atKey htopics]
    simp only [List.map_append, List.map_cons, List.map_nil, checkVersion_stores doc _ hversion,
      stored_fieldAt hdomain (stored_of_int hz), hendpoints, htopic, documentStats_stores doc _ hstats, hd, hs,
      participants_stores doc _ hps, snapshotIntegers, linkCompanions_integers]
  · exact .error

/-- A document is read exactly when all its integers are within their types. -/
theorem readExactly_iff {doc : Value} {s : Snapshot} (h : parseJson doc = .ok s) :
    ReadExactly doc s ↔ ∀ field ∈ documentFields doc, field.Fits := by
  have hstored := Ensures.within (snapshot_stores doc) s h
  have hexact : (documentFields doc).map Field.value = (snapshotIntegers s).map (fun z : ℤ ↦ .number z) ↔
      ∀ field ∈ documentFields doc, field.Fits := by
    rw [← hstored, List.map_map, List.map_inj_left]
    exact forall₂_congr fun field _ ↦ field.exact_iff_fits
  constructor
  · intro hread
    exact hexact.mp hread.integers
  · intro hfits
    refine ⟨?_, hexact.mpr hfits⟩
    have hversion := (Field.exact_iff_fits _).mpr
      (hfits (fieldAt .int32 doc "schema_version" 0) (by simp [documentFields]))
    have hone : (fieldAt .int32 doc "schema_version" 0).stored = 1 := (List.cons.inj hstored).1
    rw [Field.Exact, hone, fieldAt, child] at hversion
    cases hmember : member? doc "schema_version" with
    | none => simp [hmember] at hversion
    | some v => simpa [hmember] using hversion

end Document

/-- The document of a measured pair. -/
def chatterDocument : Value := Web.renderJson chatterSnapshot {}

theorem readExactly_iff_chatterDocument :
    ∃ s, @parseJson integerDump chatterDocument = .ok s ∧
      (ReadExactly chatterDocument s ↔ ∀ field ∈ documentFields chatterDocument, field.Fits) := by
  have hlossless := @Produced.lossless literalFnmatch chatterSnapshot produced_chatterSnapshot
  have hparse := @parseJson_renderJson chatterSnapshot integerDump hlossless.savable {}
  exact ⟨_, hparse, @readExactly_iff integerDump _ _ hparse⟩

/-- A document without topics. -/
def emptyDocument (version domain : ℚ) : Value :=
  .object [
    ("schema_version", .number version),
    ("domain", .number domain),
    ("observed_at", .string ""),
    ("observation_seconds", .number 0),
    ("local_host_id", .string "00000000"),
    ("topics", .array []),
    ("stats", .object [
      ("enabled", .bool false),
      ("samples", .number 0),
      ("participants_with_stats", .array []),
      ("physical", .object []),
      ("traffic", .array [])])]

/-- A version of 2³² + 1 is taken for 1, and a domain of 2³² for 0. -/
theorem wrappedVersion_not_readExactly :
    ∃ s, @parseJson ⟨fun _ ↦ ""⟩ (emptyDocument 4294967297 4294967296) = .ok s ∧ s.domain = 0 ∧
      ¬ReadExactly (emptyDocument 4294967297 4294967296) s := by
  refine ⟨_, rfl, rfl, fun h ↦ ?_⟩
  have hversion := h.version
  simp [emptyDocument] at hversion

end Stored

end TransportViz.Json
