import TransportViz.Collect.Observation

/-!
# Observations of running observers

An observation is taken while callbacks and samples keep coming, and its parts are read one after the other.
It still tells what was announced last when the discovery observer was read, counts what moved towards the
readers that it lists, and is saved without a loss.
-/

namespace TransportViz.Collect

open Decision LastWrite RosNames Shm Stats

open TransportViz.Observer (ParticipantData announcement FastDds DiscoveryCallback discovered endpointNews
  participantNews prefixText StatisticsStep ingested destinationsSet TrafficKey trafficEntry trafficSummary
  latencyEntry latencySummary physicalEntry)

/-! ## Model -/

/-- What happens to the observers until everything is read. -/
structure Runs where
  start : ℚ := 0
  /-- Until the endpoints are read. -/
  callbacks : List (ℚ × DiscoveryCallback)
  /-- And then until the live participants are, the number of events, and the participants' data. -/
  untilLive : List (ℚ × DiscoveryCallback) := []
  untilCounted : List (ℚ × DiscoveryCallback) := []
  untilData : List (ℚ × DiscoveryCallback) := []
  /-- Until the destinations of the readers are set. -/
  steps : List StatisticsStep := []
  /-- Until the last drain is over. -/
  drained : List StatisticsStep := []
  /-- Between the settle status and the copy. -/
  between : List StatisticsStep := []

namespace Runs

variable [FastDds] (runs : Runs) (observer : Observer)

def endpoints : List Endpoint := (discovered runs.start runs.callbacks).snapshot

/-- The steps until the settle status is taken. -/
def settleSteps : List StatisticsStep :=
  runs.steps ++ .setReaderDestinations (readerDestinations runs.endpoints observer.ownPrefixes) ::
    runs.drained

def stats (writerInstanceLimit : Bool) : StatsData :=
  (ingested (runs.settleSteps observer ++ runs.between)).copy writerInstanceLimit
    (ingested (runs.settleSteps observer)).settleStatus

/-- The readings of a moment; the rest of them does not come from the observers. -/
def read (statistics : Option Bool) (rest : Readings) : Readings :=
  let live := discovered runs.start (runs.callbacks ++ runs.untilLive)
  let counted := discovered runs.start (runs.callbacks ++ runs.untilLive ++ runs.untilCounted)
  let last := discovered runs.start
    (runs.callbacks ++ runs.untilLive ++ runs.untilCounted ++ runs.untilData)
  { rest with
    endpoints := runs.endpoints
    stats := statistics.map (runs.stats observer)
    liveParticipants := live.liveParticipants
    eventCount := counted.eventCount
    participantData := last.participantData }

/-- All callbacks until the participants' data are read. -/
def allCallbacks : List DiscoveryCallback :=
  (runs.callbacks ++ runs.untilLive ++ runs.untilCounted ++ runs.untilData).map Prod.snd

end Runs

/-- An observation: what ran, what else was read, and what `collect` is called with. -/
structure Observation where
  observer : Observer := {}
  view : ViewOptions := {}
  runs : Runs
  /-- With statistics, whether the writers of Fast DDS are limited in instances. -/
  statistics : Option Bool := none
  rest : Readings := { endpoints := [] }
  domain : ℤ := 0
  observationSeconds : ℚ := 0
  stoppedOn : String := ""
  settledAtS : ℚ := -1

namespace Observation

variable [FastDds] (x : Observation)

def readings : Readings := x.runs.read x.observer x.statistics x.rest

def snapshot [Fnmatch] [HostNames] : Snapshot :=
  collect x.observer x.view x.readings x.domain x.observationSeconds x.stoppedOn x.settledAtS

end Observation

/-! ## Specification -/

section Specification

variable [Fnmatch] [HostNames] [FastDds] (x : Observation)

/-- The snapshot tells what was announced last, of the endpoints that the view keeps. -/
structure TellsAnnounced : Prop where
  sorted : (x.snapshot.endpoints.map Endpoint.guid).Pairwise (· < ·)
  endpoint : ∀ e, e ∈ x.snapshot.endpoints.map announcement ↔
    Latest endpointNews (x.runs.callbacks.map Prod.snd) e.guidBytes (some e) ∧
      isOwn x.observer e = false ∧ keepsEndpoint x.view e = true
  listed_once : (Json.listedGuids x.snapshot.topics).Nodup
  listed : ∀ guid, guid ∈ Json.listedGuids x.snapshot.topics ↔
    ∃ e ∈ x.snapshot.endpoints, e.guid = guid ∧ Shown x.view x.snapshot.endpoints e
  participant : ∀ text, text ∈ x.snapshot.participants.map Participant.guidPrefix ↔
    (∃ p d, Latest participantNews x.runs.allCallbacks p (some d) ∧ prefixText p = text) ∨
      ∃ e, Latest endpointNews (x.runs.callbacks.map Prod.snd) e.guidBytes (some e) ∧
        e.participantGuidPrefix = text

/-- What the statistics say is about the endpoints of the snapshot. -/
structure TellsMeasured : Prop where
  /-- Exactly the counters that moved towards a reader of the same discovery snapshot are counted. -/
  measured : ∃ keys : Finset TrafficKey, x.snapshot.stats.measuredInstances = keys.card ∧
    ∀ key, key ∈ keys ↔ ∃ t,
      trafficSummary (written trafficEntry key (x.runs.settleSteps x.observer)) = some t ∧
        measuresAPair t (readerDestinations x.runs.endpoints x.observer.ownPrefixes) = true
  measurable : x.snapshot.stats.measurablePairs =
    countMeasurablePairs x.runs.endpoints x.observer.ownPrefixes
  heard : x.snapshot.stats.writersHeard ≤ x.snapshot.stats.writersAnnounced
  host : ∀ e ∈ x.snapshot.endpoints, (e.hostName, e.process) =
    (((written physicalEntry e.participantGuidPrefix
      (x.runs.settleSteps x.observer ++ x.runs.between)).getLast?).map
        fun host ↦ (host.host, host.process)).getD ("", "")

end Specification

/-! ## The statistics of a run -/

section Statistics

variable [FastDds] (steps : List StatisticsStep)

omit [FastDds] in
/-- A latency that was added is a number. -/
theorem finite_foldl_add (latencies : List ℚ) (stat : LatencyStat)
    (h : 0 < stat.samples → stat.min ≠ ⊤ ∧ stat.max ≠ ⊥)
    (hsamples : 0 < (latencies.foldl LatencyStat.add stat).samples) :
    (latencies.foldl LatencyStat.add stat).min ≠ ⊤ ∧
      (latencies.foldl LatencyStat.add stat).max ≠ ⊥ := by
  induction latencies generalizing stat with
  | nil => exact h hsamples
  | cons latency rest ih =>
    refine ih (stat.add latency) (fun _ ↦ ?_) hsamples
    unfold LatencyStat.add
    constructor
    · simp only
      split_ifs with hmin
      · exact WithTop.coe_ne_top
      · exact ((not_lt.mp hmin).trans_lt (WithTop.coe_lt_top latency)).ne
    · simp only
      split_ifs with hmax
      · exact WithBot.coe_ne_bot
      · exact ((WithBot.bot_lt_coe latency).trans_le (not_lt.mp hmax)).ne'

/-- What a run summarises can be written down. -/
theorem finiteStats_copy (writerInstanceLimit : Bool) (settle : TransportViz.Observer.Settle) :
    Json.FiniteStats ((ingested steps).copy writerInstanceLimit settle) where
  latency e he hsamples := by
    have hfind := (OrderedMap.mem_entries_iff (ingested steps).data.latency e.1 e.2).mp he
    rw [TransportViz.Observer.latency_ingested, latencySummary] at hfind
    split_ifs at hfind
    rw [← Option.some.inj hfind] at hsamples ⊢
    exact finite_foldl_add _ {} (by simp) hsamples
  port t ht := by
    obtain ⟨entry, hentry, heq⟩ := List.mem_map.mp ht
    have hfind := (OrderedMap.mem_entries_iff (ingested steps).traffic entry.1 entry.2).mp hentry
    rw [TransportViz.Observer.traffic_ingested, trafficSummary, Option.map_eq_some_iff] at hfind
    obtain ⟨last, hlast, hsummary⟩ := hfind
    obtain ⟨step, -, hstep⟩ := mem_written_iff.mp (List.mem_of_getLast? hlast)
    have hdst : t.dst = last.dst := by rw [← heq, ← hsummary]
    rw [hdst]
    cases step with
    | takeTraffic info traffic =>
      simp only [trafficEntry, Option.ite_none_right_eq_some, Option.some.injEq, Prod.mk.injEq] at hstep
      rw [← hstep.2.2]
      exact TransportViz.Observer.portFits_convertLocator traffic.dstLocator
    | _ => cases hstep

end Statistics

/-! ## The endpoints of a run -/

section Endpoints

variable [FastDds] (x : Observation)

theorem map_announcement_endpoints : x.runs.endpoints.map announcement = x.runs.endpoints := by
  conv_rhs => rw [← List.map_id x.runs.endpoints]
  apply List.map_congr_left
  intro e he
  exact (TransportViz.Observer.announced_of_mem he).bare

theorem map_announcement_described (physical : OrderedMap String HostInfo) :
    (describedEndpoints x.readings physical).map announcement = x.runs.endpoints := by
  rw [map_announcement_describedEndpoints]
  exact map_announcement_endpoints x

theorem mem_keptEndpoints_runs (e : Endpoint) :
    e ∈ keptEndpoints x.observer x.runs.endpoints x.view ↔
      Latest endpointNews (x.runs.callbacks.map Prod.snd) e.guidBytes (some e) ∧
        isOwn x.observer e = false ∧ keepsEndpoint x.view e = true := by
  rw [keptEndpoints, nodeEndpoints, List.mem_filter, List.mem_filter, Bool.not_eq_true', and_assoc,
    Runs.endpoints, TransportViz.Observer.mem_snapshot_iff_latest]

/-- What is found out about an endpoint is not there when the companions are linked. -/
theorem bare_of_mem_linked {e : Endpoint} (he : e ∈ linkBufferCompanions x.runs.endpoints) :
    announcement e = clearLinks e := by
  obtain ⟨f, hf, hsame⟩ : ∃ f ∈ x.runs.endpoints, clearLinks f = clearLinks e := by
    have hmem := List.mem_map_of_mem (f := clearLinks) he
    rw [map_clearLinks_linkBufferCompanions] at hmem
    exact List.mem_map.mp hmem
  calc announcement e
      = announcement (clearLinks e) := rfl
    _ = announcement (clearLinks f) := by rw [hsame]
    _ = clearLinks (announcement f) := rfl
    _ = clearLinks f := by rw [(TransportViz.Observer.announced_of_mem hf).bare]
    _ = clearLinks e := hsame

theorem finiteStats_readings (endpoints : List Endpoint) :
    Json.FiniteStats (noteStatisticsWriters endpoints (readStats x.observer x.readings x.settledAtS)) := by
  apply finiteStats_readStats
  intro stats hstats
  obtain ⟨limit, -, rfl⟩ := Option.map_eq_some_iff.mp hstats
  exact finiteStats_copy _ limit _

variable [Fnmatch] [HostNames]

/-- What the endpoints of the snapshot announced is what discovery found, as far as it is kept. -/
theorem map_announcement_snapshot : x.snapshot.endpoints.map announcement =
    keptEndpoints x.observer x.runs.endpoints x.view := by
  change (attributedEndpoints _ _ _ _).map announcement = _
  rw [map_announcement_attributedEndpoints, map_announcement_described]

/-- The names of what is kept, and of which topics it is. -/
theorem name_of_mem_snapshot {e : Endpoint} (he : e ∈ x.snapshot.endpoints) :
    e.rosTopic = (demangleTopic e.ddsTopic).name ∧
      (x.view.all = false → e.rosTopic ≠ "" ∧ startsWith e.ddsTopic "rt/" = true) := by
  have hmem : announcement e ∈ keptEndpoints x.observer x.runs.endpoints x.view := by
    rw [← map_announcement_snapshot]
    exact List.mem_map_of_mem he
  have hkept := ((mem_keptEndpoints_runs x _).mp hmem).2.2
  have hfound : announcement e ∈ x.runs.endpoints :=
    List.mem_of_mem_filter (List.mem_of_mem_filter hmem)
  refine ⟨(TransportViz.Observer.announced_of_mem hfound).rosTopic_eq, fun hall ↦ ?_⟩
  have hros : ¬(¬x.view.all = true ∧ (e.rosTopic = "" ∨ ¬startsWith e.ddsTopic "rt/" = true)) := by
    intro h
    exact Bool.false_ne_true ((if_pos h).symm.trans hkept)
  rwa [hall, Bool.false_eq_true, not_false_eq_true, true_and, not_or, not_not] at hros

theorem lossless_snapshot : Json.Lossless x.snapshot.topics :=
  lossless_topics
    (plain_attributedEndpoints (r := x.readings)
      (TransportViz.Observer.handsOut_snapshot x.runs.start x.runs.callbacks).plain _)
    (finiteStats_readings x _)

/-- The participants are those that announced themselves or an endpoint. -/
theorem mem_participants_snapshot (text : String) :
    text ∈ x.snapshot.participants.map Participant.guidPrefix ↔
      text ∈ x.readings.participantData.keys ∨
        text ∈ x.runs.endpoints.map Endpoint.participantGuidPrefix := by
  have hparticipants (physical : OrderedMap String HostInfo) :
      (describedEndpoints x.readings physical).map Endpoint.participantGuidPrefix =
        x.runs.endpoints.map Endpoint.participantGuidPrefix := by
    have hmap := congrArg (List.map Endpoint.participantGuidPrefix)
      (map_announcement_described x physical)
    rw [List.map_map] at hmap
    exact hmap
  have hdata : (x.readings.participantData.entries.map fun row ↦
      (row.1, announcedParticipant x.observer row.1 row.2)).map Prod.fst =
      x.readings.participantData.keys := by
    rw [List.map_map]
    rfl
  change text ∈ (collectParticipants _ _ _ _ _).map _ ↔ _
  rw [map_guidPrefix_collectParticipants, discoveredParticipants, OrderedMap.mem_keys_foldl_alter,
    OrderedMap.mem_keys_ofList, hparticipants, hdata, or_comm]

/-- The topics list what is shown. -/
theorem mem_listedGuids_snapshot (guid : String) : guid ∈ Json.listedGuids x.snapshot.topics ↔
    ∃ e ∈ x.snapshot.endpoints, e.guid = guid ∧ Shown x.view x.snapshot.endpoints e := by
  change guid ∈ Json.listedGuids (applyStats _ _) ↔ _
  rw [Json.listedGuids_applyStats]
  exact mem_listedGuids_filtered (fun e he ↦ (name_of_mem_snapshot x he).1)
    (fun hall e he ↦ (name_of_mem_snapshot x he).2 hall) guid

/-- At any moment of any run the snapshot tells what was announced last. -/
theorem tellsAnnounced : TellsAnnounced x := by
  have hmap := map_announcement_snapshot x
  constructor
  · have hguids : x.snapshot.endpoints.map Endpoint.guid =
        (keptEndpoints x.observer x.runs.endpoints x.view).map Endpoint.guid := by
      rw [← hmap, List.map_map]
      rfl
    have hsub : ((keptEndpoints x.observer x.runs.endpoints x.view).map Endpoint.guid).Sublist
        (x.runs.endpoints.map Endpoint.guid) :=
      (List.filter_sublist.trans List.filter_sublist).map _
    rw [hguids]
    exact (TransportViz.Observer.sorted_guids_snapshot x.runs.start x.runs.callbacks).sublist hsub
  · intro e
    rw [hmap, mem_keptEndpoints_runs]
  · exact (lossless_snapshot x).distinct
  · exact mem_listedGuids_snapshot x
  · intro text
    rw [mem_participants_snapshot]
    apply or_congr
    · exact TransportViz.Observer.mem_keys_participantData x.runs.start _ text
    · rw [List.mem_map]
      apply exists_congr
      intro e
      rw [Runs.endpoints, TransportViz.Observer.mem_snapshot_iff_latest]

end Endpoints

/-! ## The measurements of a run -/

section Measured

variable [FastDds] (x : Observation)

/-- The last destinations that were set are those of the readers of the snapshot. -/
theorem readerDestinations_settleSteps
    (hdrained : ∀ step ∈ x.runs.drained, destinationsSet step = none) :
    (ingested (x.runs.settleSteps x.observer)).readerDestinations =
      readerDestinations x.runs.endpoints x.observer.ownPrefixes := by
  have hlast : x.runs.drained.filterMap destinationsSet = [] := List.filterMap_eq_nil_iff.mpr hdrained
  have hset : (x.runs.settleSteps x.observer).filterMap destinationsSet =
      x.runs.steps.filterMap destinationsSet ++
        [readerDestinations x.runs.endpoints x.observer.ownPrefixes] := by
    rw [Runs.settleSteps, List.filterMap_append, List.filterMap_cons, hlast]
    rfl
  rw [TransportViz.Observer.readerDestinations_ingested, hset, List.getLast?_concat, Option.getD_some]

theorem host_describeEndpoint {physical : OrderedMap String HostInfo} {e : Endpoint}
    (he : e ∈ linkBufferCompanions x.runs.endpoints) :
    ((describeEndpoint x.readings physical e).hostName, (describeEndpoint x.readings physical e).process) =
      ((physical.find? e.participantGuidPrefix).map fun host ↦ (host.host, host.process)).getD
        ("", "") := by
  have hbare := bare_of_mem_linked x he
  have hhost : "" = e.hostName := congrArg (fun e ↦ e.hostName) hbare
  have hprocess : "" = e.process := congrArg (fun e ↦ e.process) hbare
  unfold describeEndpoint
  simp only
  cases physical.find? e.participantGuidPrefix with
  | none => exact Prod.ext hhost.symm hprocess.symm
  | some host => rfl

variable [Fnmatch] [HostNames]

/-- At any moment of any run the statistics are about the endpoints that the snapshot was made of. -/
theorem tellsMeasured (hstatistics : x.statistics.isSome = true)
    (hdrained : ∀ step ∈ x.runs.drained, destinationsSet step = none) : TellsMeasured x := by
  obtain ⟨limit, hlimit⟩ := Option.isSome_iff_exists.mp hstatistics
  have hstats : readStats x.observer x.readings x.settledAtS =
      { x.runs.stats x.observer limit with
        localAddresses := x.rest.localAddresses
        settled := 0 ≤ x.settledAtS
        settledAtS := x.settledAtS
        measurablePairs := countMeasurablePairs x.runs.endpoints x.observer.ownPrefixes } := by
    have hread : x.readings.stats = some (x.runs.stats x.observer limit) :=
      congrArg (Option.map _) hlimit
    rw [readStats, hread]
    rfl
  obtain ⟨hmeasured, hmeasurable, hheard, hannounced⟩ := stats_left x.snapshot.topics
    (describedEndpoints x.readings (readStats x.observer x.readings x.settledAtS).physical)
    (readStats x.observer x.readings x.settledAtS)
  constructor
  · obtain ⟨keys, hkeys, hcard⟩ := TransportViz.Observer.exists_measuredInstances
      (ingested (x.runs.settleSteps x.observer))
    refine ⟨keys, ?_, fun key ↦ ?_⟩
    · rw [← hcard]
      exact hmeasured.trans (by rw [hstats]; rfl)
    · rw [hkeys, readerDestinations_settleSteps x hdrained, TransportViz.Observer.traffic_ingested]
  · exact hmeasurable.trans (by rw [hstats])
  · have hle := TransportViz.Observer.heard_le_announced (ingested (x.runs.settleSteps x.observer))
    calc x.snapshot.stats.writersHeard
        = (ingested (x.runs.settleSteps x.observer)).settleStatus.heard :=
          hheard.trans (by rw [hstats]; rfl)
      _ ≤ (ingested (x.runs.settleSteps x.observer)).settleStatus.announced := hle
      _ = x.snapshot.stats.writersAnnounced := (hannounced.trans (by rw [hstats]; rfl)).symm
  · intro e he
    obtain ⟨kept, hkept, rfl⟩ := List.mem_map.mp he
    have hnode := (List.mem_filter.mp (List.mem_filter.mp hkept).1).1
    obtain ⟨linked, hlinked, rfl⟩ := List.mem_map.mp hnode
    have hparticipant (endpoints : List Endpoint) (shm : ShmInfo) (physical : OrderedMap String HostInfo) :
        (attributePorts x.observer endpoints shm (attributeSegment x.observer shm
          (describeEndpoint x.readings physical linked))).participantGuidPrefix =
            linked.participantGuidPrefix :=
      congrArg (fun e ↦ e.participantGuidPrefix) ((announcement_attributePorts endpoints _).trans
        ((announcement_attributeSegment _).trans (announcement_describeEndpoint physical linked)))
    rw [host_attributed, host_describeEndpoint x hlinked, hparticipant, hstats]
    exact congrArg (fun host ↦ (Option.map _ host).getD ("", ""))
      (TransportViz.Observer.physical_ingested _ linked.participantGuidPrefix)

end Measured

/-! ## The shared memory of a run -/

section SharedMemory

theorem oneLockListed_announcement (observer : Observer) (o : ViewOptions) (endpoints : List Endpoint)
    (directory : Option ShmDirectory) :
    OneLockListed observer (endpoints.map announcement) directory o ↔
      OneLockListed observer endpoints directory o := by
  have hports (es : List Endpoint) : shmPorts (es.map announcement) = shmPorts es := by
    rw [shmPorts, shmPorts, List.flatMap_map]
    rfl
  have hfilter (p : Endpoint → Bool) (es : List Endpoint) (h : ∀ e, p (announcement e) = p e) :
      (es.map announcement).filter p = (es.filter p).map announcement := by
    rw [List.filter_map]
    exact congrArg _ (List.filter_congr fun e _ ↦ h e)
  unfold OneLockListed OneLock scanInput nodeEndpoints
  simp only
  rw [hfilter (isOwn observer) endpoints fun _ ↦ rfl,
    hfilter (fun e ↦ !isOwn observer e) endpoints fun _ ↦ rfl,
    hfilter (fun e ↦ e.hostId = observer.localHost) _ fun _ ↦ rfl, hports, hports]

variable [FastDds] [Fnmatch] [HostNames] (x : Observation)

/-- At any moment of any run the participants are reported with what their verdicts rest on. -/
theorem portsExplained
    (hone : OneLockListed x.observer x.runs.endpoints x.rest.directory x.view) :
    PortsExplained x.snapshot.shm x.snapshot.endpoints x.snapshot.participants := by
  apply portsExplained_collectParticipants
  · rw [← oneLockListed_announcement, map_announcement_described]
    exact hone
  · intro e he
    obtain ⟨linked, hlinked, rfl⟩ := List.mem_map.mp he
    have hbare := bare_of_mem_linked x hlinked
    have hports : ∅ = linked.participantShmPorts := congrArg (fun e ↦ e.participantShmPorts) hbare
    have hvisibility : ShmVisibility.unprobed = linked.participantShmVisibility :=
      congrArg (fun e ↦ e.participantShmVisibility) hbare
    unfold describeEndpoint
    simp only
    split
    · exact ⟨hports.symm, hvisibility.symm⟩
    · exact ⟨hports.symm, hvisibility.symm⟩

end SharedMemory

/-! ## The document of a run -/

section Documents

variable [FastDds] [Fnmatch] [HostNames] [JsonReader.Dump] (x : Observation)

/-- The document of an observation is read back without a loss, and lists what was shown. -/
theorem document_readBack (opt again : Web.RenderOptions) : ∃ back,
    Json.parseJson (Web.renderJson x.snapshot opt) = .ok back ∧
    (∀ mode, Diff.diffSnapshots x.snapshot back mode = { key := mode }) ∧
    Json.parseJson (Web.renderJson back again) = .ok back ∧
    ∀ guid, guid ∈ Json.listedGuids back.topics ↔
      ∃ e ∈ x.snapshot.endpoints, e.guid = guid ∧ Shown x.view x.snapshot.endpoints e := by
  have hlossless := lossless_snapshot x
  have hsavable := hlossless.savable
  refine ⟨Json.saved x.snapshot, Json.parseJson_renderJson hsavable opt, fun mode ↦ ?_, ?_, fun guid ↦ ?_⟩
  · exact Json.diffSnapshots_saved hsavable.distinct hlossless.kept mode
  · calc Json.parseJson (Web.renderJson (Json.saved x.snapshot) again)
        = .ok (Json.saved (Json.saved x.snapshot)) := Json.parseJson_renderJson hsavable.saved again
      _ = .ok (Json.saved x.snapshot) := by rw [Json.saved_saved hsavable]
  · rw [← Json.map_guid_listed, Json.saved, Json.listed_map_savedTopic _ hsavable.distinct,
      Json.map_guid_listed]
    exact mem_listedGuids_snapshot x guid

end Documents

/-! ## A talker -/

abbrev literalHostNames : HostNames where
  isAddress _ _ := true
  lookup _ _ := none

/-- A talker whose port is held here, observed with statistics. -/
def talkerObservation : Observation where
  observer := { localHost := sampleHostId }
  runs :=
    { callbacks := [(1, .writer .discovered
        { guid := guidOnHost 1 1
          topic := "rt/chatter"
          unicast := [{ kind := .shm, port := 7413 }] })]
      drained := [.pruneRateWindow] }
  statistics := some true
  rest :=
    { endpoints := []
      directory := some { files := some [{ name := "fastdds_port7413", lock := .held }] } }

/-- The talker is measured towards a listener, in another process and with statistics of its own. -/
def measuredObservation : Observation where
  observer := { localHost := sampleHostId }
  runs :=
    { callbacks := [(1, TransportViz.Observer.talkerFound), (2, TransportViz.Observer.listenerFound)]
      steps := [TransportViz.Observer.writerMatched, TransportViz.Observer.packetsSent 3]
      drained := TransportViz.Observer.drainSteps
        { rtpsSent :=
            [({ writerGuid := guidOnHost 1 1 },
              { srcGuid := guidOnHost 1 0
                dstLocator := { kind := .shm, port := 7413 }
                packetCount := 8
                byteCount := 900 })]
          physicalData :=
            [({ writerGuid := guidOnHost 2 1 },
              { participantGuid := guidOnHost 2 0
                host := "robot:1"
                user := "ros:1000"
                process := "listener:42" })] }
      between := [TransportViz.Observer.packetsSent 9] }
  statistics := some true
  rest := { endpoints := [] }

theorem tellsMeasured_listener :
    @TellsMeasured literalFnmatch literalHostNames TransportViz.Observer.sampleFastDds measuredObservation ∧
      let s := @Observation.snapshot TransportViz.Observer.sampleFastDds measuredObservation
        literalFnmatch literalHostNames
      s.stats.measuredInstances = 1 ∧ s.stats.measurablePairs = 1 ∧ s.stats.writersHeard = 1 ∧
        s.endpoints.map Endpoint.process = ["", "listener:42"] := by
  constructor
  · exact @tellsMeasured TransportViz.Observer.sampleFastDds measuredObservation literalFnmatch
      literalHostNames rfl (TransportViz.Observer.destinationsSet_drainSteps _)
  · decide +kernel

theorem portsExplained_talker :
    let s := @Observation.snapshot TransportViz.Observer.sampleFastDds talkerObservation literalFnmatch
      literalHostNames
    PortsExplained s.shm s.endpoints s.participants ∧
      s.participants.map Participant.shmVisibility = [.visible] := by
  constructor
  · apply @portsExplained TransportViz.Observer.sampleFastDds literalFnmatch literalHostNames
      talkerObservation
    unfold OneLockListed OneLock
    decide +kernel
  · decide +kernel

end TransportViz.Collect
