import TransportViz.Collect.ViewFilters
import TransportViz.Decision.Companions
import TransportViz.Json.Comparison
import TransportViz.Stats.Aggregates
import TransportViz.Stats.FilterOrder
import TransportViz.Stats.LossNumbers

/-!
# Snapshots as the tool makes them

From discovered endpoints with GUIDs of their own, through any number of filters and overlays, a topic
keeps its pairs among its endpoints and all numbers that are compared within their types. So every such
snapshot is saved without a loss.
-/

namespace TransportViz.Json

open Decision Diff RosNames Stats Web

/-! ## Endpoints and statistics -/

/-- What discovery says of the endpoints. -/
structure Plain (endpoints : List Endpoint) : Prop where
  distinct : (endpoints.map Endpoint.guid).Nodup
  node : ∀ e ∈ endpoints, normalizeNodeName e.nodeName = e.nodeName
  port : ∀ e ∈ endpoints, ∀ l ∈ e.unicast ++ e.multicast, PortFits l

/-- Endpoints on their way from discovery to the summary. -/
inductive Observed : List Endpoint → Prop
  | found {endpoints : List Endpoint} (h : Plain endpoints) : Observed endpoints
  | linked {endpoints : List Endpoint} (h : Observed endpoints) :
      Observed (linkBufferCompanions endpoints)
  | filtered {endpoints : List Endpoint} (h : Observed endpoints) (keeps : Endpoint → Bool) :
      Observed (endpoints.filter keeps)

/-- Every latency that was sampled is finite, and every port is one. -/
structure FiniteStats (stats : StatsData) : Prop where
  latency : ∀ e ∈ stats.latency.entries, 0 < e.2.samples → e.2.min ≠ ⊤ ∧ e.2.max ≠ ⊥
  port : ∀ sample ∈ stats.traffic, PortFits sample.dst

theorem FiniteStats.of_mem {stats : StatsData} (h : FiniteStats stats) {writer reader : Endpoint}
    {stat : LatencyStat} (hstat : stat ∈ ((guidPairs writer reader).filterMap
      stats.latency.find?).filter fun stat ↦ 0 < stat.samples) : stat.min ≠ ⊤ ∧ stat.max ≠ ⊥ := by
  obtain ⟨hmem, hsamples⟩ := List.mem_filter.mp hstat
  obtain ⟨key, -, hfind⟩ := List.mem_filterMap.mp hmem
  exact h.latency (key, stat) ((stats.latency.mem_entries_iff key stat).mpr hfind)
    (of_decide_eq_true hsamples)

section Endpoints

theorem Plain.of_clearLinks {endpoints linked : List Endpoint} (h : Plain endpoints)
    (hlinked : linked.map clearLinks = endpoints.map clearLinks) : Plain linked := by
  have hfrom {e : Endpoint} (he : e ∈ linked) : ∃ f ∈ endpoints, clearLinks f = clearLinks e :=
    List.mem_map.mp (hlinked ▸ List.mem_map_of_mem he)
  refine ⟨?_, fun e he ↦ ?_, fun e he ↦ ?_⟩
  · have hguids := congrArg (List.map Endpoint.guid) hlinked
    rw [List.map_map, List.map_map] at hguids
    change linked.map Endpoint.guid = endpoints.map Endpoint.guid at hguids
    exact hguids ▸ h.distinct
  · obtain ⟨f, hf, hsame⟩ := hfrom he
    have hname : f.nodeName = e.nodeName := congrArg (fun e ↦ e.nodeName) hsame
    exact hname ▸ h.node f hf
  · obtain ⟨f, hf, hsame⟩ := hfrom he
    have hunicast : f.unicast = e.unicast := congrArg (fun e ↦ e.unicast) hsame
    have hmulticast : f.multicast = e.multicast := congrArg (fun e ↦ e.multicast) hsame
    exact hunicast ▸ hmulticast ▸ h.port f hf

theorem Observed.plain {endpoints : List Endpoint} (h : Observed endpoints) : Plain endpoints := by
  induction h with
  | found h => exact h
  | linked _ ih => exact ih.of_clearLinks (map_clearLinks_linkBufferCompanions _)
  | filtered _ keeps ih =>
    exact ⟨ih.distinct.sublist (List.filter_sublist.map _),
      fun e he ↦ ih.node e (List.mem_of_mem_filter he),
      fun e he ↦ ih.port e (List.mem_of_mem_filter he)⟩

theorem portFits_default : PortFits {} := by
  unfold PortFits
  decide

/-- The selected locator is one of the reader's. -/
theorem portFits_decide [Fnmatch] (writer reader : Endpoint)
    (h : ∀ l ∈ reader.unicast ++ reader.multicast, PortFits l) :
    PortFits (Decision.decide writer reader).locator := by
  by_cases htypes : TypesMatch writer reader
  · rw [decide_locator writer reader htypes]
    have hverdict := sameTypeVerdict_decideSameType writer reader
    revert hverdict
    generalize decideSameType writer reader = v
    intro hverdict
    cases hverdict with
    | shm =>
      cases hfind : findLocator reader .shm with
      | none => exact portFits_default
      | some l => exact h l (List.mem_of_find?_eq_some hfind)
    | network _ _ selected _ _ _ _ _ hfirst =>
      obtain ⟨earlier, later, hlist, -⟩ := hfirst
      exact h selected (by simp [hlist])
    | _ => exact portFits_default
  · rw [decide_of_not_typesMatch writer reader htypes]
    exact portFits_default

end Endpoints

/-! ## Measurements -/

section Measurements

/-- Samples that are joined are finite as soon as there is one. -/
theorem foldl_combine_finite (entries : List LatencyStat) (start : LatencyStat)
    (hentries : ∀ stat ∈ entries, stat.min ≠ ⊤ ∧ stat.max ≠ ⊥)
    (hstart : 0 < start.samples → start.min ≠ ⊤ ∧ start.max ≠ ⊥)
    (hsamples : 0 < (entries.foldl LatencyStat.combine start).samples) :
    (entries.foldl LatencyStat.combine start).min ≠ ⊤ ∧
      (entries.foldl LatencyStat.combine start).max ≠ ⊥ := by
  induction entries generalizing start with
  | nil => exact hstart hsamples
  | cons stat rest ih =>
    obtain ⟨hmin, hmax⟩ := hentries stat (List.mem_cons_self ..)
    refine ih _ (fun other hother ↦ hentries other (List.mem_cons_of_mem _ hother)) (fun _ ↦ ?_)
      hsamples
    exact ⟨fun htop ↦ hmin (inf_eq_top_iff.mp htop).2, fun hbot ↦ hmax (sup_eq_bot_iff.mp hbot).2⟩

variable {stats : StatsData} (h : FiniteStats stats) (writer reader : Endpoint)
include h

theorem finiteLatency_measureDelivery {m : Measurement} (hm : FiniteLatency m) :
    FiniteLatency (measureDelivery stats writer reader m) := by
  unfold measureDelivery
  simp only
  by_cases hsamples : 0 < ((((guidPairs writer reader).filterMap stats.latency.find?).filter
      fun stat ↦ 0 < stat.samples).foldl LatencyStat.combine {}).samples
  · rw [if_pos hsamples]
    exact fun _ ↦ foldl_combine_finite _ {} (fun stat hstat ↦ h.of_mem hstat) (by simp) hsamples
  · rw [if_neg hsamples]
    split_ifs
    · exact hm
    · exact hm

theorem finiteLatency_measure {m : Measurement} (hm : FiniteLatency m) :
    FiniteLatency (Stats.measure stats writer reader m) := by
  have hdelivery := finiteLatency_measureDelivery h writer reader
    (m := { m with available := writer.participantGuidPrefix ∈ stats.participantsWithStats }) hm
  unfold Stats.measure measureTraffic measureDataCount
  simp only [foldl_addTraffic]
  unfold FiniteLatency at hdelivery ⊢
  simp only [measureRate_kept]
  exact hdelivery

theorem portFits_measure {m : Measurement} (hm : ∀ ml ∈ m.locators, PortFits ml.locator) :
    ∀ ml ∈ (Stats.measure stats writer reader m).locators, PortFits ml.locator := by
  intro ml hml
  unfold Stats.measure measureTraffic measureDataCount at hml
  simp only [foldl_addTraffic, (beforeTraffic_measureRate stats writer reader _).locators_eq,
    (beforeTraffic_measureDelivery stats writer reader _).locators_eq] at hml
  rcases List.mem_append.mp hml with hml | hml
  · exact hm ml hml
  · obtain ⟨sample, hsample, rfl⟩ := List.mem_map.mp hml
    exact h.port sample (List.mem_of_mem_filter hsample)

end Measurements

/-! ## Topics -/

section Topics

theorem kept_of_mem_summarize [Fnmatch] {endpoints : List Endpoint} (h : Plain endpoints)
    {t : TopicSummary} (ht : t ∈ summarize endpoints) : Kept t := by
  have hsummary := isSummary_of_mem endpoints t ht
  have hpair {p : Pair} (hp : p ∈ t.pairs) := (mem_freshPairs _ _ p).mp (hsummary.pairs_eq ▸ hp)
  have hwriter {w : EndpointPtr} (hw : w ∈ t.writers) : w.toEndpoint ∈ endpoints :=
    mem_of_mem_pointers ((mem_sideOf _ _ _ _).mp (hsummary.writers_eq ▸ hw)).1
  have hreader {r : EndpointPtr} (hr : r ∈ t.readers) : r.toEndpoint ∈ endpoints :=
    mem_of_mem_pointers ((mem_sideOf _ _ _ _).mp (hsummary.readers_eq ▸ hr)).1
  refine ⟨fun p hp ↦ (hpair hp).1, fun p hp ↦ (hpair hp).2.1, fun e he ↦ ?_, fun p hp ↦ ?_,
    fun p hp ↦ ?_, fun p hp ↦ ?_⟩
  · exact h.node _ ((List.mem_append.mp he).elim hwriter hreader)
  · obtain ⟨-, hr, heq⟩ := hpair hp
    rw [heq]
    exact ⟨selected_decide _ _, portFits_decide _ _ (h.port _ (hreader hr))⟩
  · rw [(hpair hp).2.2]
    exact fun ml hml ↦ absurd hml (List.not_mem_nil)
  · rw [(hpair hp).2.2]
    exact fun hnone ↦ absurd hnone (by simp [freshPair])

theorem kept_filterTopic {t u : TopicSummary} (h : Kept t) (nodeMatches : Endpoint → Bool)
    (hu : filterTopic nodeMatches t = some u) : Kept u := by
  unfold filterTopic at hu
  split_ifs at hu
  cases hu
  have hpair {p : Pair} (hp : p ∈ keptPairs nodeMatches t) : p ∈ t.pairs := List.mem_of_mem_filter hp
  refine ⟨fun p hp ↦ ?_, fun p hp ↦ ?_, fun e he ↦ ?_, fun p hp ↦ h.selected p (hpair hp),
    fun p hp ↦ h.measured p (hpair hp), fun p hp ↦ h.latency p (hpair hp)⟩
  · exact List.mem_filter.mpr
      ⟨h.writer p (hpair hp), decide_eq_true (mem_keptEndpoints_of_pair hp).1⟩
  · exact List.mem_filter.mpr
      ⟨h.reader p (hpair hp), decide_eq_true (mem_keptEndpoints_of_pair hp).2⟩
  · rw [← List.filter_append] at he
    exact h.node e (List.mem_of_mem_filter he)

/-- The walk leaves every pair as the overlay makes it. -/
theorem exists_of_mem_overlayPairs (stats : StatsData) (rest : List Pair) (progress : TopicProgress)
    (done : List Pair) {q : Pair} (hq : q ∈ (overlayPairs stats progress done rest).pairs) :
    q ∈ done ∨ ∃ p ∈ rest, ∃ all, q = overlayPair stats all p := by
  induction rest generalizing progress done with
  | nil => exact .inl hq
  | cons p rest ih =>
    rcases ih _ _ hq with hdone | ⟨other, hother, hall⟩
    · rcases List.mem_append.mp hdone with hdone | hlast
      · exact .inl hdone
      · exact .inr ⟨p, List.mem_cons_self .., _, List.mem_singleton.mp hlast⟩
    · exact .inr ⟨other, List.mem_cons_of_mem p hother, hall⟩

theorem kept_overlayTopic {stats : StatsData} (hstats : FiniteStats stats) {t : TopicSummary}
    (h : Kept t) : Kept (overlayTopic stats t) := by
  have hpair {q : Pair} (hq : q ∈ (overlayTopic stats t).pairs) :
      ∃ p ∈ t.pairs, ∃ all, q = overlayPair stats all p :=
    (exists_of_mem_overlayPairs stats t.pairs _ [] hq).resolve_left List.not_mem_nil
  obtain ⟨hwriters, hreaders, -⟩ := overlayTopic_kept stats t
  refine ⟨fun q hq ↦ ?_, fun q hq ↦ ?_, fun e he ↦ ?_, fun q hq ↦ ?_, fun q hq ↦ ?_, fun q hq ↦ ?_⟩
  · obtain ⟨p, hp, all, rfl⟩ := hpair hq
    exact hwriters ▸ h.writer p hp
  · obtain ⟨p, hp, all, rfl⟩ := hpair hq
    exact hreaders ▸ h.reader p hp
  · rw [hwriters, hreaders] at he
    exact h.node e he
  · obtain ⟨p, hp, all, rfl⟩ := hpair hq
    rw [overlayPair_locator]
    exact h.selected p hp
  · obtain ⟨p, hp, all, rfl⟩ := hpair hq
    exact portFits_measure hstats _ _ (h.measured p hp)
  · obtain ⟨p, hp, all, rfl⟩ := hpair hq
    exact finiteLatency_measure hstats _ _ (h.latency p hp)

end Topics

/-! ## Whole snapshots -/

/-- The GUIDs that a document of the topics lists. -/
def listedGuids (topics : List TopicSummary) : List String :=
  topics.flatMap fun t ↦ (t.writers ++ t.readers).map fun e ↦ e.guid

/-- The snapshot can be saved and compared without a loss. -/
structure Lossless (topics : List TopicSummary) : Prop where
  distinct : (listedGuids topics).Nodup
  kept : ∀ t ∈ topics, Kept t

/-- Snapshots the tool makes: a summary of observed endpoints, then filters and overlays in any order. -/
inductive Produced [Fnmatch] : Snapshot → Prop
  | summarize {s : Snapshot} (h : Observed s.endpoints) :
      Produced { s with topics := Decision.summarize s.endpoints }
  | applyDefaultView {s : Snapshot} (h : Produced s) (o : Collect.ViewOptions) :
      Produced { s with topics := Collect.applyDefaultView s.topics o }
  | filterByNode {s : Snapshot} (h : Produced s) (nodeMatches : Endpoint → Bool) :
      Produced { s with topics := Decision.filterByNode s.topics nodeMatches }
  | applyStats {s : Snapshot} (h : Produced s) (hstats : FiniteStats s.stats) :
      Produced { s with topics := Stats.applyStats s.topics s.stats }
  | noteUnmeasuredPairs {s : Snapshot} (h : Produced s) :
      Produced { s with stats := Stats.noteUnmeasuredPairs s.topics s.stats }

section Lossless

theorem map_guid_listed (topics : List TopicSummary) :
    (listed topics).map Endpoint.guid = listedGuids topics := by
  unfold listed listedGuids listedOf
  rw [List.map_flatMap]
  refine List.flatMap_congr fun t _ ↦ ?_
  simp only [List.map_append, List.map_map]
  rfl

theorem Lossless.savable {s : Snapshot} (h : Lossless s.topics) : Savable s where
  distinct := map_guid_listed s.topics ▸ h.distinct
  writer t ht := (h.kept t ht).writer
  reader t ht := (h.kept t ht).reader
  latency t ht := (h.kept t ht).latency

/-- No endpoint is listed twice. -/
theorem nodup_listedGuids_summarize [Fnmatch] {endpoints : List Endpoint}
    (hdistinct : (endpoints.map Endpoint.guid).Nodup) :
    (listedGuids (summarize endpoints)).Nodup := by
  have hguids : ((pointers endpoints).map fun e ↦ e.guid).Nodup := by
    have heq : (pointers endpoints).map (fun e ↦ e.guid) = endpoints.map Endpoint.guid := by
      rw [pointers, List.map_map]
      calc endpoints.zipIdx.map (fun it ↦ it.1.guid)
          = (endpoints.zipIdx.map Prod.fst).map Endpoint.guid := (List.map_map ..).symm
        _ = endpoints.map Endpoint.guid := by rw [List.zipIdx_map_fst]
    exact heq ▸ hdistinct
  have hinj := List.inj_on_of_nodup_map hguids
  refine List.nodup_flatMap.mpr ⟨fun t ht ↦ ?_, ?_⟩
  · exact List.Nodup.map_on
      (fun e he f hf ↦ hinj ((mem_topic_iff ht e).mp he).1 ((mem_topic_iff ht f).mp hf).1)
      (nodup_sides endpoints t ht)
  · have htopics := List.pairwise_map.mp (nodup_ddsTopic_summarize endpoints)
    refine htopics.imp_of_mem fun {t u} ht hu hne guid hguidT hguidU ↦ hne ?_
    obtain ⟨e, he, rfl⟩ := List.mem_map.mp hguidT
    obtain ⟨f, hf, hsame⟩ := List.mem_map.mp hguidU
    obtain ⟨hfmem, hftopic⟩ := (mem_topic_iff hu f).mp hf
    obtain ⟨hemem, hetopic⟩ := (mem_topic_iff ht e).mp he
    obtain rfl := hinj hfmem hemem hsame
    exact hetopic.symm.trans hftopic

theorem Lossless.filter {topics : List TopicSummary} (h : Lossless topics)
    (keeps : TopicSummary → Bool) : Lossless (topics.filter keeps) where
  distinct := h.distinct.sublist (List.filter_sublist.flatMap _)
  kept t ht := h.kept t (List.mem_of_mem_filter ht)

theorem sublist_flatMap_filterMap {α β : Type} {f : α → Option α} {g : α → List β}
    (h : ∀ a b, f a = some b → (g b).Sublist (g a)) (l : List α) :
    ((l.filterMap f).flatMap g).Sublist (l.flatMap g) := by
  induction l with
  | nil => exact List.Sublist.refl []
  | cons a rest ih =>
    rw [List.flatMap_cons]
    cases hf : f a with
    | none =>
      rw [List.filterMap_cons_none hf]
      exact ih.trans (List.sublist_append_right _ _)
    | some b =>
      rw [List.filterMap_cons_some hf, List.flatMap_cons]
      exact (h a b hf).append ih

theorem Lossless.filterByNode {topics : List TopicSummary} (h : Lossless topics)
    (nodeMatches : Endpoint → Bool) : Lossless (filterByNode topics nodeMatches) where
  distinct := h.distinct.sublist (sublist_flatMap_filterMap (fun t u hu ↦ by
    unfold filterTopic at hu
    split_ifs at hu
    cases hu
    exact (List.filter_sublist.append List.filter_sublist).map _) topics)
  kept u hu := by
    obtain ⟨t, ht, hfilter⟩ := List.mem_filterMap.mp hu
    exact kept_filterTopic (h.kept t ht) nodeMatches hfilter

/-- The overlay lists the same endpoints. -/
theorem listedGuids_applyStats (topics : List TopicSummary) (stats : StatsData) :
    listedGuids (Stats.applyStats topics stats) = listedGuids topics := by
  unfold Stats.applyStats listedGuids
  split_ifs
  · rw [List.flatMap_map]
    refine List.flatMap_congr fun t _ ↦ ?_
    obtain ⟨hwriters, hreaders, -⟩ := overlayTopic_kept stats t
    rw [hwriters, hreaders]
  · rfl

theorem Lossless.applyStats {topics : List TopicSummary} (h : Lossless topics) {stats : StatsData}
    (hstats : FiniteStats stats) : Lossless (applyStats topics stats) where
  distinct := (listedGuids_applyStats topics stats).symm ▸ h.distinct
  kept u hu := by
    rcases applyStats_cases hu with ⟨-, t, ht, rfl⟩ | ⟨-, ht⟩
    · exact kept_overlayTopic hstats (h.kept t ht)
    · exact h.kept u ht

theorem Produced.lossless [Fnmatch] {s : Snapshot} (h : Produced s) : Lossless s.topics := by
  induction h with
  | summarize h =>
    exact ⟨nodup_listedGuids_summarize h.plain.distinct, fun t ht ↦ kept_of_mem_summarize h.plain ht⟩
  | applyDefaultView _ o ih =>
    unfold Collect.applyDefaultView
    split_ifs
    · exact ih
    · exact ih.filter _
  | filterByNode _ nodeMatches ih => exact ih.filterByNode nodeMatches
  | applyStats _ hstats ih => exact ih.applyStats hstats
  | noteUnmeasuredPairs _ ih => exact ih

end Lossless

/-- A saved snapshot is read back, no comparison tells it from the live one, and saving it again
changes nothing. -/
theorem parseJson_of_produced [Fnmatch] [JsonReader.Dump] {s : Snapshot} (h : Produced s)
    (opt again : RenderOptions) :
    ∃ back, parseJson (renderJson s opt) = .ok back ∧
      (∀ mode, diffSnapshots s back mode = { key := mode }) ∧
      parseJson (renderJson back again) = .ok back := by
  have hlossless := h.lossless
  have hsavable := hlossless.savable
  refine ⟨saved s, parseJson_renderJson hsavable opt, fun mode ↦ ?_, ?_⟩
  · exact diffSnapshots_saved hsavable.distinct hlossless.kept mode
  · calc parseJson (renderJson (saved s) again)
        = .ok (saved (saved s)) := parseJson_renderJson hsavable.saved again
      _ = .ok (saved s) := by rw [saved_saved hsavable]

section Chatter

/-- An endpoint of a node that announces one UDP locator. -/
def chatterEndpoint (isWriter : Bool) (node : String) (process entity : UInt8) : Endpoint :=
  let guid : GuidBytes := ⟨[1, 15, process, 7, process, 0, 0, 0, 1, 0, 0, 0, 0, 0, entity, 3], rfl⟩
  { isWriter := isWriter
    guid := guidToString guid
    guidBytes := guid
    hostId := ⟨[1, 15, process, 7], rfl⟩
    participantGuidPrefix := prefixToString guid
    ddsTopic := "rt/chatter"
    ddsType := "std_msgs::msg::dds_::String_"
    rosTopic := "/chatter"
    nodeName := node
    unicast := [{ kind := .udpv4, address := "192.168.0.2", port := 7411 }] }

def chatterTalker : Endpoint := chatterEndpoint true "/talker" 1 0x12

def chatterListener : Endpoint := chatterEndpoint false "/listener" 2 0x22

/-- Packets to the listener and two samples that took a while. -/
def chatterStats : StatsData where
  enabled := true
  traffic := [{
    srcParticipantPrefix := chatterTalker.participantGuidPrefix
    dst := { kind := .udpv4, address := "192.168.0.2", port := 7411 }
    packets := 8
    bytes := 1024 }]
  delivered := .ofList [(toLex (chatterTalker.guid, chatterListener.guid), 2)]
  latency := .ofList [(toLex (chatterTalker.guid, chatterListener.guid),
    (LatencyStat.add {} (1 / 4)).add (1 / 2))]
  participantsWithStats := {chatterTalker.participantGuidPrefix}

/-- What is observed before anything is summarized. -/
def chatterObserved : Snapshot where
  observedAt := "2026-01-01T00:00:00Z"
  observationSeconds := 5
  endpoints := linkBufferCompanions [chatterTalker, chatterListener]
  stats := chatterStats

def chatterSummarized : Snapshot :=
  { chatterObserved with topics := @summarize literalFnmatch chatterObserved.endpoints }

def chatterFiltered : Snapshot :=
  { chatterSummarized with
    topics := filterByNode chatterSummarized.topics fun e ↦ e.nodeName = "/talker" }

def chatterMeasured : Snapshot :=
  { chatterFiltered with topics := applyStats chatterFiltered.topics chatterFiltered.stats }

def chatterSnapshot : Snapshot :=
  { chatterMeasured with
    stats := noteUnmeasuredPairs chatterMeasured.topics chatterMeasured.stats }

/-- Integers are spelled with their digits. -/
abbrev integerDump : JsonReader.Dump where
  dump
    | .number x => toString x.num
    | _ => ""

theorem produced_chatterSnapshot : @Produced literalFnmatch chatterSnapshot := by
  have hplain : Plain [chatterTalker, chatterListener] :=
    ⟨by decide +kernel, by decide +kernel, by unfold PortFits; decide +kernel⟩
  have hstats : FiniteStats chatterStats := ⟨by decide +kernel, by unfold PortFits; decide +kernel⟩
  have hsummarized : @Produced literalFnmatch chatterSummarized :=
    @Produced.summarize literalFnmatch chatterObserved (.linked (.found hplain))
  have hfiltered : @Produced literalFnmatch chatterFiltered :=
    @Produced.filterByNode literalFnmatch chatterSummarized hsummarized _
  have hmeasured : @Produced literalFnmatch chatterMeasured :=
    @Produced.applyStats literalFnmatch chatterFiltered hfiltered hstats
  exact @Produced.noteUnmeasuredPairs literalFnmatch chatterMeasured hmeasured

theorem parseJson_of_produced_chatter :
    ∃ back, @parseJson integerDump (renderJson chatterSnapshot {}) = .ok back ∧
      (∀ mode, diffSnapshots chatterSnapshot back mode = { key := mode }) ∧
      @parseJson integerDump (renderJson back {}) = .ok back :=
  @parseJson_of_produced literalFnmatch integerDump chatterSnapshot produced_chatterSnapshot {} {}

end Chatter

end TransportViz.Json
