import TransportViz.Json.RoundTrip

/-!
# A second round trip

What is kept of a record is kept once and for all, and so is the snapshot that came back from a
document: written and read again, it is the same.
-/

namespace TransportViz.Json

open RosNames

/-! ## Records -/

section Records

theorem savedLocator_savedLocator (l : Locator) :
    savedLocator (savedLocator l) = savedLocator l := by
  simp [savedLocator]

theorem savedQos_savedQos (qos : EndpointQos) : savedQos (savedQos qos) = savedQos qos := by
  simp [savedQos, Function.comp_def]

theorem map_idempotent {α : Type} {f : α → α} (h : ∀ a, f (f a) = f a) (l : List α) :
    (l.map f).map f = l.map f := by
  rw [List.map_map]
  exact List.map_congr_left fun a _ ↦ h a

theorem savedEndpoint_savedEndpoint (isWriter : Bool) (e : Endpoint) :
    savedEndpoint isWriter (savedEndpoint isWriter e) = savedEndpoint isWriter e := by
  unfold savedEndpoint
  simp only [normalizeNodeName_normalizeNodeName, map_idempotent savedLocator_savedLocator,
    savedQos_savedQos]
  cases e.datasharingHistoryAvailable <;> simp

theorem savedVerdict_savedVerdict (v : Verdict) :
    savedVerdict (savedVerdict v) = savedVerdict v := by
  by_cases hkind : v.locator.kind = .invalid
  · simp [savedVerdict, hkind]
  · simp [savedVerdict, savedLocator, hkind]

/-- The mean that is written is the mean that was read. -/
theorem savedLatency_savedLatency (stat : LatencyStat) :
    savedLatency (savedLatency stat) = savedLatency stat := by
  have hsum : (savedLatency stat).mean * (stat.samples % 2 ^ 64 : ℕ) =
      stat.mean * (stat.samples % 2 ^ 64 : ℕ) := by
    by_cases hnone : stat.samples % 2 ^ 64 = 0
    · rw [hnone, Nat.cast_zero, mul_zero, mul_zero]
    · have hmean : (savedLatency stat).mean = stat.mean := by
        rw [LatencyStat.mean, savedLatency, if_neg hnone]
        exact mul_div_cancel_right₀ _ (Nat.cast_ne_zero.mpr hnone)
      rw [hmean]
  calc savedLatency (savedLatency stat)
      = { savedLatency stat with
          sum := (savedLatency stat).mean * (stat.samples % 2 ^ 64 % 2 ^ 64 : ℕ)
          samples := stat.samples % 2 ^ 64 % 2 ^ 64 } := rfl
    _ = savedLatency stat := by rw [Nat.mod_mod, hsum]; rfl

theorem savedReliability_savedReliability (r : Reliability) :
    savedReliability (savedReliability r) = savedReliability r := by
  unfold savedReliability
  cases r.available <;> cases r.lostAvailable <;> simp

theorem savedMeasuredLocator_savedMeasuredLocator (ml : MeasuredLocator) :
    savedMeasuredLocator (savedMeasuredLocator ml) = savedMeasuredLocator ml := by
  simp [savedMeasuredLocator, savedLocator_savedLocator]

theorem savedMeasurement_savedMeasurement (seconds : ℚ) (m : Measurement) :
    savedMeasurement seconds (savedMeasurement seconds m) = savedMeasurement seconds m := by
  have hlocators : (m.locators.map savedMeasuredLocator).map savedMeasuredLocator =
      m.locators.map savedMeasuredLocator :=
    map_idempotent savedMeasuredLocator_savedMeasuredLocator m.locators
  have hwindow : (if 0 < (if 0 < m.rateWindowS then m.rateWindowS else seconds) then
      if 0 < m.rateWindowS then m.rateWindowS else seconds else seconds) =
        if 0 < m.rateWindowS then m.rateWindowS else seconds := by
    by_cases hset : 0 < m.rateWindowS <;> simp [hset]
  unfold savedMeasurement
  simp only [hlocators, hwindow, savedReliability_savedReliability, Nat.mod_mod]
  cases m.latencyAvailable <;> cases m.rateAvailable <;> cases m.dataCountAvailable <;>
    simp [savedLatency_savedLatency]

theorem savedLost_savedLost (sample : TrafficSample) :
    savedLost (savedLost sample) = savedLost sample := by
  simp [savedLost, savedLocator_savedLocator]

theorem savedTraffic_savedTraffic (sample : TrafficSample) :
    savedTraffic (savedTraffic sample) = savedTraffic sample := by
  simp [savedTraffic, savedLost, savedLocator_savedLocator]

theorem savedDataCount_savedDataCount (sample : DataCountSample) :
    savedDataCount (savedDataCount sample) = savedDataCount sample := by
  simp [savedDataCount]

theorem savedStats_savedStats (stats : StatsData) :
    savedStats (savedStats stats) = savedStats stats := by
  have htraffic : (stats.traffic.map savedTraffic).map savedTraffic =
      stats.traffic.map savedTraffic := map_idempotent savedTraffic_savedTraffic stats.traffic
  have hlost : (stats.lost.map savedLost).map savedLost = stats.lost.map savedLost :=
    map_idempotent savedLost_savedLost stats.lost
  have hcounts : (stats.dataCount.mapValues savedDataCount).mapValues savedDataCount =
      stats.dataCount.mapValues savedDataCount := by
    rw [OrderedMap.mapValues_mapValues]
    exact congrArg _ (funext savedDataCount_savedDataCount)
  have hsettled : (if 0 ≤ (if 0 ≤ stats.settledAtS then stats.settledAtS else -1) then
      if 0 ≤ stats.settledAtS then stats.settledAtS else -1 else -1) =
        if 0 ≤ stats.settledAtS then stats.settledAtS else -1 := by
    by_cases hset : 0 ≤ stats.settledAtS <;> simp [hset]
  unfold savedStats
  simp only [htraffic, hlost, hcounts, hsettled, Nat.mod_mod]

theorem savedShm_savedShm (shm : ShmInfo) : savedShm (savedShm shm) = savedShm shm := by
  unfold savedShm
  cases shm.available <;> simp [Function.comp_def]

theorem savedParticipant_savedParticipant (p : Participant) :
    savedParticipant (savedParticipant p) = savedParticipant p := by
  unfold savedParticipant savedShmPort
  simp [Function.comp_def, savedLocator]

theorem savedDiscovery_savedDiscovery (d : DiscoveryStatus) :
    savedDiscovery (savedDiscovery d) = savedDiscovery d := by
  unfold savedDiscovery
  by_cases hstopped : d.stoppedOn = "" <;> simp [hstopped, savedLocator, Function.comp_def]

end Records

/-! ## Endpoints and topics -/

section Topics

variable {endpoints : List Endpoint}

/-- What a found endpoint says of itself; only its companions are new. -/
theorem savedEndpoint_savedPointer {topics : List TopicSummary}
    (hdistinct : ((listed topics).map Endpoint.guid).Nodup) {isWriter : Bool} {e : Endpoint}
    (he : savedEndpoint isWriter e ∈ listed topics) :
    savedEndpoint isWriter (savedPointer (savedEndpoints topics) e).toEndpoint =
      savedEndpoint isWriter e := by
  obtain ⟨pointer, hpointer, hsame⟩ := exists_endpointOf hdistinct he
  have hfound : savedPointer (savedEndpoints topics) e = pointer := by
    rw [savedPointer, savedEndpoints, show e.guid = (savedEndpoint isWriter e).guid from rfl,
      hpointer, Option.getD_some]
  calc savedEndpoint isWriter (savedPointer (savedEndpoints topics) e).toEndpoint
      = savedEndpoint isWriter (unlinked pointer.toEndpoint) := by rw [hfound]; rfl
    _ = savedEndpoint isWriter (savedEndpoint isWriter e) := by rw [hsame]; rfl
    _ = savedEndpoint isWriter e := savedEndpoint_savedEndpoint isWriter e

/-- The document of what came back lists the same endpoints. -/
theorem listed_map_savedTopic (seconds : ℚ) {topics : List TopicSummary}
    (hdistinct : ((listed topics).map Endpoint.guid).Nodup) :
    listed (topics.map (savedTopic seconds (savedEndpoints topics))) = listed topics := by
  unfold listed
  rw [List.flatMap_map]
  refine List.flatMap_congr fun t ht ↦ ?_
  unfold listedOf savedTopic
  simp only [List.map_map, Function.comp_def]
  congr 1
  · exact List.map_congr_left fun w hw ↦
      savedEndpoint_savedPointer hdistinct (mem_listed_writer ht hw)
  · exact List.map_congr_left fun r hr ↦
      savedEndpoint_savedPointer hdistinct (mem_listed_reader ht hr)

/-- A found endpoint is found again in its own place. -/
theorem savedPointer_savedPointer {topics : List TopicSummary}
    (hdistinct : ((listed topics).map Endpoint.guid).Nodup) {isWriter : Bool} {e : Endpoint}
    (he : savedEndpoint isWriter e ∈ listed topics) :
    savedPointer (savedEndpoints topics) (savedPointer (savedEndpoints topics) e).toEndpoint =
      savedPointer (savedEndpoints topics) e := by
  have hguid := congrArg Endpoint.guid (savedEndpoint_savedPointer hdistinct he)
  change (savedPointer (savedEndpoints topics) e).guid = e.guid at hguid
  obtain ⟨pointer, hpointer, -⟩ := exists_endpointOf hdistinct he
  change endpointOf (savedEndpoints topics) e.guid = some pointer at hpointer
  rw [savedPointer, hguid, hpointer, Option.getD_some, savedPointer, hpointer, Option.getD_some]

end Topics

section Snapshots

variable {s : Snapshot}

theorem savedPair_savedPair (h : Savable s) {t : TopicSummary} (ht : t ∈ s.topics) {p : Pair}
    (hp : p ∈ t.pairs) :
    savedPair s.observationSeconds (savedEndpoints s.topics)
        (savedPair s.observationSeconds (savedEndpoints s.topics) p) =
      savedPair s.observationSeconds (savedEndpoints s.topics) p := by
  have hwriter := savedPointer_savedPointer h.distinct (mem_listed_writer ht (h.writer t ht p hp))
  have hreader := savedPointer_savedPointer h.distinct (mem_listed_reader ht (h.reader t ht p hp))
  unfold savedPair
  simp only [hwriter, hreader, savedVerdict_savedVerdict, savedMeasurement_savedMeasurement]

theorem savedTopic_savedTopic (h : Savable s) {t : TopicSummary} (ht : t ∈ s.topics) :
    savedTopic s.observationSeconds (savedEndpoints s.topics)
        (savedTopic s.observationSeconds (savedEndpoints s.topics) t) =
      savedTopic s.observationSeconds (savedEndpoints s.topics) t := by
  have hwriters : (t.writers.map fun w ↦ savedPointer (savedEndpoints s.topics)
      (savedPointer (savedEndpoints s.topics) w.toEndpoint).toEndpoint) =
        t.writers.map fun w ↦ savedPointer (savedEndpoints s.topics) w.toEndpoint :=
    List.map_congr_left fun w hw ↦
      savedPointer_savedPointer h.distinct (mem_listed_writer ht hw)
  have hreaders : (t.readers.map fun r ↦ savedPointer (savedEndpoints s.topics)
      (savedPointer (savedEndpoints s.topics) r.toEndpoint).toEndpoint) =
        t.readers.map fun r ↦ savedPointer (savedEndpoints s.topics) r.toEndpoint :=
    List.map_congr_left fun r hr ↦
      savedPointer_savedPointer h.distinct (mem_listed_reader ht hr)
  have hpairs : (t.pairs.map fun p ↦ savedPair s.observationSeconds (savedEndpoints s.topics)
      (savedPair s.observationSeconds (savedEndpoints s.topics) p)) =
        t.pairs.map (savedPair s.observationSeconds (savedEndpoints s.topics)) :=
    List.map_congr_left fun p hp ↦ savedPair_savedPair h ht hp
  unfold savedTopic
  simp only [List.map_map, Function.comp_def, hwriters, hreaders, hpairs]
  cases t.latencyAvailable <;> cases t.reliabilityAvailable <;> cases t.lostAvailable <;> simp

/-- What came back from a document comes back from the next one as it is. -/
theorem saved_saved (h : Savable s) : saved (saved s) = saved s := by
  have hendpoints : savedEndpoints (saved s).topics = savedEndpoints s.topics :=
    congrArg linkCompanions (listed_map_savedTopic s.observationSeconds h.distinct)
  have htopics : (saved s).topics.map
      (savedTopic s.observationSeconds (savedEndpoints s.topics)) = (saved s).topics := by
    unfold saved
    rw [List.map_map]
    exact List.map_congr_left fun t ht ↦ savedTopic_savedTopic h ht
  rw [saved, hendpoints]
  change { saved s with
    domain := (saved s).domain.bmod (2 ^ 32)
    endpoints := savedEndpoints s.topics
    participants := (saved s).participants.map savedParticipant
    topics := (saved s).topics.map (savedTopic s.observationSeconds (savedEndpoints s.topics))
    stats := savedStats (savedStats s.stats)
    shm := savedShm (savedShm s.shm)
    discovery := savedDiscovery (savedDiscovery s.discovery) } = saved s
  rw [htopics, savedStats_savedStats, savedShm_savedShm, savedDiscovery_savedDiscovery]
  simp only [saved, map_idempotent savedParticipant_savedParticipant, Int.bmod_bmod]

theorem Savable.saved (h : Savable s) : Savable (saved s) where
  distinct := by
    change ((listed (s.topics.map (savedTopic _ _))).map Endpoint.guid).Nodup
    rw [listed_map_savedTopic _ h.distinct]
    exact h.distinct
  writer t ht p hp := by
    obtain ⟨live, hlive, rfl⟩ := List.mem_map.mp ht
    obtain ⟨pair, hpair, rfl⟩ := List.mem_map.mp hp
    exact List.mem_map_of_mem (h.writer live hlive pair hpair)
  reader t ht p hp := by
    obtain ⟨live, hlive, rfl⟩ := List.mem_map.mp ht
    obtain ⟨pair, hpair, rfl⟩ := List.mem_map.mp hp
    exact List.mem_map_of_mem (h.reader live hlive pair hpair)
  latency t ht p hp := by
    obtain ⟨live, hlive, rfl⟩ := List.mem_map.mp ht
    obtain ⟨pair, hpair, rfl⟩ := List.mem_map.mp hp
    intro havailable
    have hkept : (savedMeasurement s.observationSeconds pair.measured).latency =
        savedLatency pair.measured.latency := if_pos havailable
    have hfinite := h.latency live hlive pair hpair havailable
    change (savedMeasurement s.observationSeconds pair.measured).latency.min ≠ ⊤ ∧
      (savedMeasurement s.observationSeconds pair.measured).latency.max ≠ ⊥
    rwa [hkept]

end Snapshots

end TransportViz.Json
