import TransportViz.Decision.Companions
import TransportViz.Json.Saved

/-!
# A snapshot after a round trip

The document lists the endpoints of each topic, and the reader finds the ends of the pairs again by
their GUIDs. `saved` is the snapshot that comes back; it comes back unchanged from a second round, and
neither comparison sees a difference.
-/

namespace TransportViz.Json

open JsonReader RosNames Web
open Script (Value)

/-! ## The endpoints of a document -/

/-- The endpoints of a topic, as the reader gets them. -/
def listedOf (t : TopicSummary) : List Endpoint :=
  t.writers.map (fun w ↦ savedEndpoint true w.toEndpoint) ++
    t.readers.map fun r ↦ savedEndpoint false r.toEndpoint

def listed (topics : List TopicSummary) : List Endpoint := topics.flatMap listedOf

/-- The places of each topic's endpoints. -/
def refsFrom (start : ℕ) : List TopicSummary → List TopicRefs
  | [] => []
  | t :: rest =>
      { writers := List.range' start t.writers.length
        readers := List.range' (start + t.writers.length) t.readers.length } ::
        refsFrom (start + (listedOf t).length) rest

section Listing

variable (snap : Snapshot) (opt : RenderOptions)

theorem topicPlace_topicJson (t : TopicSummary) :
    topicPlace (topicJson snap t opt) = .ok ("topic " ++ t.displayTopic) := by
  simp [topicPlace, topicJson]

theorem addTopicEndpoints_topicJson (state : List Endpoint × List TopicRefs) (t : TopicSummary) :
    addTopicEndpoints state (topicJson snap t opt) =
      .ok (state.1 ++ listedOf t, state.2 ++ refsFrom state.1.length [t]) := by
  have hside (isWriter : Bool) (side : List EndpointPtr) (place : String) :
      (side.map fun e ↦ endpointJson snap e.toEndpoint opt).mapM
          (fun v ↦ endpoint v isWriter place) =
        .ok (side.map fun e ↦ savedEndpoint isWriter e.toEndpoint) :=
    mapM_written fun e _ ↦ endpoint_endpointJson place snap e.toEndpoint opt isWriter
  unfold addTopicEndpoints topicEndpoints
  rw [topicPlace_topicJson]
  simp [topicJson, List.lookup_cons, hside, listedOf, refsFrom]

/-- The loop over the topics lists their endpoints one after the other. -/
theorem foldlM_addTopicEndpoints (topics : List TopicSummary)
    (state : List Endpoint × List TopicRefs) :
    (topics.map fun t ↦ topicJson snap t opt).foldlM addTopicEndpoints state =
      .ok (state.1 ++ listed topics, state.2 ++ refsFrom state.1.length topics) := by
  induction topics generalizing state with
  | nil => simp [listed, refsFrom, pure, Except.pure]
  | cons t rest ih =>
    rw [List.map_cons, List.foldlM_cons, addTopicEndpoints_topicJson, ok_bind, ih]
    simp [listed, refsFrom, List.append_assoc]

end Listing

/-! ## Finding an endpoint again -/

/-- An endpoint without what its companions say of it. -/
def unlinked (e : Endpoint) : Endpoint := { e with bufferCompanionGuids := [] }

/-- The endpoint of the document that has the GUID. -/
def savedPointer (endpoints : List Endpoint) (e : Endpoint) : EndpointPtr :=
  (endpointOf endpoints e.guid).getD { toEndpoint := e, address := 0 }

section Links

/-- Linking changes nothing but the lists of companions. -/
theorem map_unlinked_linkCompanions (endpoints : List Endpoint) :
    (linkCompanions endpoints).map unlinked = endpoints.map unlinked := by
  unfold linkCompanions
  refine List.foldlRecOn endpoints _
    (motive := fun out : List Endpoint ↦ out.map unlinked = endpoints.map unlinked) rfl
    fun out hout e _ ↦ ?_
  rw [← hout]
  split
  · split_ifs
    · exact Decision.map_modify_of_eq (by exact fun _ ↦ rfl) _ _
    · rfl
  · rfl

theorem map_guid_linkCompanions (endpoints : List Endpoint) :
    (linkCompanions endpoints).map Endpoint.guid = endpoints.map Endpoint.guid := by
  have hmap := congrArg (List.map Endpoint.guid) (map_unlinked_linkCompanions endpoints)
  rwa [List.map_map, List.map_map] at hmap

variable {endpoints : List Endpoint}

theorem endpointAt_eq {index : ℕ} {e : Endpoint} (he : endpoints[index]? = some e) :
    endpointAt endpoints index = some { toEndpoint := e, address := index } := by
  simp [endpointAt, Decision.pointers, he]

/-- With distinct GUIDs the place of an endpoint is found by its GUID. -/
theorem endpointOf_eq (hdistinct : (endpoints.map Endpoint.guid).Nodup) {index : ℕ} {e : Endpoint}
    (he : endpoints[index]? = some e) :
    endpointOf endpoints e.guid = some { toEndpoint := e, address := index } := by
  have hplace : (byGuid endpoints).find? e.guid = some index := by
    refine OrderedMap.find?_foldl_set_of_mem _ _ ?_ (e.guid, index) ?_
    · have hguids : (endpoints.zipIdx.map Prod.fst).map Endpoint.guid =
          endpoints.map Endpoint.guid := by rw [List.zipIdx_map_fst]
      rw [List.map_map] at hguids ⊢
      exact hguids ▸ hdistinct
    · exact List.mem_map.mpr ⟨(e, index), List.mem_zipIdx_iff_getElem?.mpr he, rfl⟩
  rw [endpointOf, hplace, Option.bind_some, endpointAt_eq he]

/-- The endpoints at consecutive places are those with the GUIDs that stand there. -/
theorem filterMap_endpointAt (hdistinct : (endpoints.map Endpoint.guid).Nodup)
    (before items after : List Endpoint)
    (h : endpoints.map Endpoint.guid = (before ++ items ++ after).map Endpoint.guid) :
    (List.range' before.length items.length).filterMap (endpointAt endpoints) =
      items.map (savedPointer endpoints) := by
  induction items generalizing before with
  | nil => rfl
  | cons item rest ih =>
    have hget : (endpoints.map Endpoint.guid)[before.length]? = some item.guid := by
      rw [h]
      simp
    rw [List.getElem?_map, Option.map_eq_some_iff] at hget
    obtain ⟨e, he, hguid⟩ := hget
    have hpointer : savedPointer endpoints item = { toEndpoint := e, address := before.length } := by
      rw [savedPointer, ← hguid, endpointOf_eq hdistinct he]
      rfl
    have hrest := ih (before ++ [item]) (by simpa using h)
    rw [List.length_append, List.length_singleton] at hrest
    rw [List.length_cons, List.range'_succ, List.filterMap_cons_some (endpointAt_eq he), hrest,
      List.map_cons, hpointer]

/-- An endpoint of the list is found again, with the companions it is linked to. -/
theorem exists_endpointOf (hdistinct : (endpoints.map Endpoint.guid).Nodup) {e : Endpoint}
    (he : e ∈ endpoints) :
    ∃ pointer, endpointOf (linkCompanions endpoints) e.guid = some pointer ∧
      unlinked pointer.toEndpoint = unlinked e := by
  obtain ⟨index, hindex⟩ := List.getElem?_of_mem he
  have hget := congrArg (·[index]?) (map_unlinked_linkCompanions endpoints)
  simp only [List.getElem?_map, hindex, Option.map_some, Option.map_eq_some_iff] at hget
  obtain ⟨linked, hlinked, hsame⟩ := hget
  have hguid : (unlinked linked).guid = (unlinked e).guid := congrArg Endpoint.guid hsame
  rw [← map_guid_linkCompanions] at hdistinct
  have hfound := endpointOf_eq hdistinct hlinked
  rw [show linked.guid = e.guid from hguid] at hfound
  exact ⟨_, hfound, hsame⟩

end Links

/-! ## Topics and pairs -/

def savedPair (seconds : ℚ) (endpoints : List Endpoint) (p : Pair) : Pair where
  writer := savedPointer endpoints p.writer.toEndpoint
  reader := savedPointer endpoints p.reader.toEndpoint
  verdict := savedVerdict p.verdict
  measured := savedMeasurement seconds p.measured

/-- The type of the topic is found out anew. -/
def savedTopic (seconds : ℚ) (endpoints : List Endpoint) (t : TopicSummary) : TopicSummary :=
  let writers := t.writers.map fun w ↦ savedPointer endpoints w.toEndpoint
  let readers := t.readers.map fun r ↦ savedPointer endpoints r.toEndpoint
  { t with
    ddsType := firstType writers readers
    writers := writers
    readers := readers
    pairs := t.pairs.map (savedPair seconds endpoints)
    latency := if t.latencyAvailable then t.latency else 0
    reliabilityAvailable := t.reliabilityAvailable || t.lostAvailable
    lostPackets := if t.lostAvailable then t.lostPackets % 2 ^ 64 else 0
    resent := if t.reliabilityAvailable then t.resent % 2 ^ 64 else 0 }

/-- What a pair needs for its document to be read. -/
structure ReadablePair (endpoints : List Endpoint) (p : Pair) : Prop where
  writer : (endpointOf endpoints p.writer.guid).isSome
  reader : (endpointOf endpoints p.reader.guid).isSome
  latency : FiniteLatency p.measured

section Topics

variable (snap : Snapshot) (opt : RenderOptions) {endpoints : List Endpoint}

theorem pair_pairJson {p : Pair} (h : ReadablePair endpoints p) (place : String) :
    pair endpoints (pairJson snap p opt) place =
      .ok (savedPair snap.observationSeconds endpoints p) := by
  obtain ⟨writer, hwriter⟩ := Option.isSome_iff_exists.mp h.writer
  obtain ⟨reader, hreader⟩ := Option.isSome_iff_exists.mp h.reader
  simp [pair, pairJson, List.lookup_cons, hwriter, hreader, transport_text, confidence_text,
    selectedLocator_json, texts, measurement_measuredJson place snap p.measured h.latency, savedPair,
    savedPointer]
  exact (savedVerdict_eq p.verdict).symm

theorem topicSummary_topicJson {t : TopicSummary} (hpairs : ∀ p ∈ t.pairs, ReadablePair endpoints p)
    {refs : TopicRefs}
    (hwriters : refs.writers.filterMap (endpointAt endpoints) =
      t.writers.map fun w ↦ savedPointer endpoints w.toEndpoint)
    (hreaders : refs.readers.filterMap (endpointAt endpoints) =
      t.readers.map fun r ↦ savedPointer endpoints r.toEndpoint) :
    topicSummary endpoints refs (topicJson snap t opt) =
      .ok (savedTopic snap.observationSeconds endpoints t, true) := by
  have hread (place : String) : (t.pairs.map fun p ↦ pairJson snap p opt).mapM
      (pair endpoints · place) = .ok (t.pairs.map (savedPair snap.observationSeconds endpoints)) :=
    mapM_written fun p hp ↦ pair_pairJson snap opt (hpairs p hp) place
  unfold topicSummary
  rw [topicPlace_topicJson]
  simp [topicJson, List.lookup_cons, texts, classification, topicKind_text, groupDirection_text, hread,
    isSome_optionalNumber, getD_optionalNumber, counter_optionalNumber, hwriters, hreaders,
    savedTopic]

/-- The loop over the topics, from a place where the endpoints of those before end. -/
theorem mapM_topicSummary (hdistinct : (endpoints.map Endpoint.guid).Nodup)
    (before rest : List TopicSummary)
    (hlisted : endpoints.map Endpoint.guid = (listed (before ++ rest)).map Endpoint.guid)
    (hpairs : ∀ t ∈ rest, ∀ p ∈ t.pairs, ReadablePair endpoints p) :
    ((rest.map fun t ↦ topicJson snap t opt).zip (refsFrom (listed before).length rest)).mapM
        (fun it ↦ topicSummary endpoints it.2 it.1) =
      .ok (rest.map fun t ↦ (savedTopic snap.observationSeconds endpoints t, true)) := by
  induction rest generalizing before with
  | nil => rfl
  | cons t rest ih =>
    have hnext := ih (before ++ [t]) (by simpa using hlisted)
      fun u hu ↦ hpairs u (List.mem_cons_of_mem t hu)
    have hstart : (listed (before ++ [t])).length =
        (listed before).length + (listedOf t).length := by simp [listed]
    have hwriters := filterMap_endpointAt hdistinct (listed before)
      (t.writers.map EndpointPtr.toEndpoint)
      (t.readers.map EndpointPtr.toEndpoint ++ listed rest)
      (by simpa [listed, listedOf, savedEndpoint, Function.comp_def] using hlisted)
    have hreaders := filterMap_endpointAt hdistinct
      (listed before ++ t.writers.map EndpointPtr.toEndpoint)
      (t.readers.map EndpointPtr.toEndpoint) (listed rest)
      (by simpa [listed, listedOf, savedEndpoint, Function.comp_def] using hlisted)
    simp only [List.length_append, List.length_map, List.map_map] at hwriters hreaders
    rw [hstart] at hnext
    rw [List.map_cons, refsFrom, List.zip_cons_cons, List.mapM_cons,
      topicSummary_topicJson snap opt (hpairs t (List.mem_cons_self ..)) hwriters hreaders, hnext]
    rfl

end Topics

/-! ## Snapshots -/

/-- The endpoints of the snapshot that comes back. -/
def savedEndpoints (topics : List TopicSummary) : List Endpoint := linkCompanions (listed topics)

def saved (s : Snapshot) : Snapshot :=
  { s with
    domain := s.domain.bmod (2 ^ 32)
    endpoints := savedEndpoints s.topics
    participants := s.participants.map savedParticipant
    topics := s.topics.map (savedTopic s.observationSeconds (savedEndpoints s.topics))
    stats := savedStats s.stats
    shm := savedShm s.shm
    discovery := savedDiscovery s.discovery }

/-- What a snapshot needs for its document to be read: the document tells the endpoints apart and
lists the ends of every pair. -/
structure Savable (s : Snapshot) : Prop where
  distinct : ((listed s.topics).map Endpoint.guid).Nodup
  writer : ∀ t ∈ s.topics, ∀ p ∈ t.pairs, p.writer ∈ t.writers
  reader : ∀ t ∈ s.topics, ∀ p ∈ t.pairs, p.reader ∈ t.readers
  latency : ∀ t ∈ s.topics, ∀ p ∈ t.pairs, FiniteLatency p.measured

section Snapshots

variable {s : Snapshot}

theorem mem_listed_writer {topics : List TopicSummary} {t : TopicSummary} (ht : t ∈ topics)
    {w : EndpointPtr} (hw : w ∈ t.writers) : savedEndpoint true w.toEndpoint ∈ listed topics :=
  List.mem_flatMap.mpr ⟨t, ht, List.mem_append_left _
    (List.mem_map_of_mem (f := fun w ↦ savedEndpoint true w.toEndpoint) hw)⟩

theorem mem_listed_reader {topics : List TopicSummary} {t : TopicSummary} (ht : t ∈ topics)
    {r : EndpointPtr} (hr : r ∈ t.readers) : savedEndpoint false r.toEndpoint ∈ listed topics :=
  List.mem_flatMap.mpr ⟨t, ht, List.mem_append_right _
    (List.mem_map_of_mem (f := fun r ↦ savedEndpoint false r.toEndpoint) hr)⟩

theorem Savable.readablePair (h : Savable s) {t : TopicSummary} (ht : t ∈ s.topics) {p : Pair}
    (hp : p ∈ t.pairs) : ReadablePair (savedEndpoints s.topics) p := by
  obtain ⟨writer, hwriter, -⟩ :=
    exists_endpointOf h.distinct (mem_listed_writer ht (h.writer t ht p hp))
  obtain ⟨reader, hreader, -⟩ :=
    exists_endpointOf h.distinct (mem_listed_reader ht (h.reader t ht p hp))
  exact ⟨Option.isSome_iff_exists.mpr ⟨writer, hwriter⟩,
    Option.isSome_iff_exists.mpr ⟨reader, hreader⟩, h.latency t ht p hp⟩

/-- Topics that are all classified stay as they are. -/
theorem classified_map {α : Type} (value : α → TopicSummary) (l : List α) :
    classified (l.map fun a ↦ (value a, true)) = l.map value := by
  simp [classified, Function.comp_def]

theorem mapM_participant (snap : Snapshot) (opt : RenderOptions) (l : List Participant)
    (start : ℕ) :
    ((l.map fun p ↦ participantJson snap p opt).zipIdx start).mapM
        (fun it ↦ within ("participants[" ++ toString it.2 ++ "]: ") (participant it.1 it.2)) =
      .ok (l.map savedParticipant) := by
  induction l generalizing start with
  | nil => rfl
  | cons p rest ih =>
    rw [List.map_cons, List.zipIdx_cons, List.mapM_cons, participant_json, within_ok, ok_bind, ih]
    rfl

theorem participants_renderJson (snap : Snapshot) (opt : RenderOptions) :
    participants (renderJson snap opt) = .ok (snap.participants.map savedParticipant) := by
  have hmember : member? (renderJson snap opt) "participants" =
      if snap.participants ≠ [] then
        some (.array (snap.participants.map fun p ↦ participantJson snap p opt))
      else none := by
    by_cases hstopped : snap.discovery.stoppedOn = "" <;>
    by_cases hnone : snap.participants = [] <;>
      simp [renderJson, List.lookup_cons, hstopped, hnone]
  rw [participants, hmember]
  by_cases hnone : snap.participants = []
  · simp [hnone]
  · rw [if_pos hnone]
    exact mapM_participant snap opt snap.participants 0

/-- An observation that stopped on nothing is not written, and not read. -/
theorem discovery_renderJson (snap : Snapshot) (opt : RenderOptions) :
    objectMember discoveryStatus (renderJson snap opt) "discovery" {} =
      .ok (savedDiscovery snap.discovery) := by
  by_cases hstopped : snap.discovery.stoppedOn = ""
  · have hmember : member? (renderJson snap opt) "discovery" = none := by
      by_cases hnone : snap.participants = [] <;>
        simp [renderJson, List.lookup_cons, hstopped, hnone]
    rw [objectMember, hmember, savedDiscovery, if_pos hstopped]
  · have hmember : member? (renderJson snap opt) "discovery" =
        some (discoveryJson snap.discovery) := by
      simp [renderJson, List.lookup_cons, hstopped]
    rw [objectMember, hmember]
    exact discoveryStatus_json snap.discovery hstopped

theorem shm_renderJson (snap : Snapshot) (opt : RenderOptions) :
    objectMember (fun v ↦ withinAll "shm: " (shm v)) (renderJson snap opt) "shm" {} =
      .ok (savedShm snap.shm) := by
  have hmember : member? (renderJson snap opt) "shm" = some (shmJson snap.shm) := by
    simp [renderJson, List.lookup_cons]
  simp only [objectMember, hmember, shm_shmJson, withinAll_ok]
  rfl

/-- Reading what was written. -/
theorem parseJson_renderJson [Dump] (h : Savable s) (opt : RenderOptions) :
    parseJson (renderJson s opt) = .ok (saved s) := by
  have hdistinct := h.distinct
  rw [← map_guid_linkCompanions] at hdistinct
  have htopics := mapM_topicSummary s opt hdistinct [] s.topics
    (map_guid_linkCompanions (listed s.topics)) fun t ht p hp ↦ h.readablePair ht hp
  have hlisted := foldlM_addTopicEndpoints s opt s.topics ([], [])
  have hversion : int (.number 1) = .ok 1 := int_number 1
  simp only [listed, List.flatMap_nil, List.length_nil, List.nil_append] at htopics hlisted
  unfold parseJson snapshot
  rw [participants_renderJson, discovery_renderJson, shm_renderJson]
  simp [renderJson, List.lookup_cons, isObject, checkVersion, isInteger, hversion, hostId_hostIdHex,
    hlisted, htopics, stats_statsJson, classified_map]
  rfl

end Snapshots

end TransportViz.Json
