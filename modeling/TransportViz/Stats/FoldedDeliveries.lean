import TransportViz.Decision.CompanionLinks
import TransportViz.Library.GroupSums
import TransportViz.Stats.FilteredTopics
import TransportViz.Stats.WordCounters

/-!
# Each delivery counts once

An endpoint and its companions are measured as one entity. Since every companion has one parent, which
is on another topic, no GUID belongs to two entities of a topic: a delivery between two GUIDs counts
for one pair of it at most, and the pairs of a topic share its deliveries out among them.
-/

namespace TransportViz.Stats

open Decision

/-! ## Specification -/

/-- The GUIDs of all entities on one side of a topic. -/
def sideGuids (side : List EndpointPtr) : List String := side.flatMap fun e ↦ entityGuids e.toEndpoint

/-- The deliveries between the GUIDs of two sides. -/
def deliveriesBetween (stats : StatsData) (writers readers : List String) : List ℕ :=
  (stats.delivered.entries.filter fun entry ↦
    (ofLex entry.1).1 ∈ writers && (ofLex entry.1).2 ∈ readers).map Prod.snd

/-- The statistics differ in nothing but the deliveries, latencies and rates of other keys. -/
structure AgreeOn (keys : List GuidPair) (stats other : StatsData) : Prop where
  delivered_eq : ∀ key ∈ keys, other.delivered.find? key = stats.delivered.find? key
  latency_eq : ∀ key ∈ keys, other.latency.find? key = stats.latency.find? key
  window_eq : ∀ key ∈ keys, other.deliveryWindow.find? key = stats.deliveryWindow.find? key
  rest_eq : other = { stats with
    delivered := other.delivered
    latency := other.latency
    deliveryWindow := other.deliveryWindow }

/-- The deliveries of a measured topic, each one counted once. -/
structure DeliveriesOnce (stats : StatsData) (u : TopicSummary) : Prop where
  own_keys : stats.enabled = true → ∀ q ∈ u.pairs, ∀ other,
    AgreeOn (guidPairs q.writer.toEndpoint q.reader.toEndpoint) stats other →
      q.measured = measured other q.writer.toEndpoint q.reader.toEndpoint
  -- no key twice, neither in two pairs nor in one
  once : (u.pairs.flatMap fun q ↦ guidPairs q.writer.toEndpoint q.reader.toEndpoint).Nodup
  pair_eq : stats.enabled = true → ∀ q ∈ u.pairs, q.measured.deliveredSamples =
    (deliveriesBetween stats (entityGuids q.writer.toEndpoint) (entityGuids q.reader.toEndpoint)).sum
  total_eq : stats.enabled = true → (u.pairs.map fun q ↦ q.measured.deliveredSamples).sum =
    (deliveriesBetween stats (sideGuids u.writers) (sideGuids u.readers)).sum
  disabled : stats.enabled = false → ∀ q ∈ u.pairs, q.measured = {}

/-- In every topic each delivery is counted once. -/
def AllDeliveriesOnce (stats : StatsData) (topics : List TopicSummary) : Prop :=
  ∀ u ∈ topics, DeliveriesOnce stats u

/-! ## No GUID in two entities -/

section Entities

variable {endpoints : List Endpoint} {a b : EndpointPtr}

/-- An entity's GUID is its own, or that of an endpoint it has adopted. -/
theorem mem_entityGuids_linkedOf (e : EndpointPtr) (guid : String) :
    guid ∈ entityGuids (linkedOf endpoints e) ↔ guid = e.guid ∨
      ∃ c ∈ pointers (bare endpoints), adoptedBy (bare endpoints) c = some e ∧ c.guid = guid := by
  rw [entityGuids, List.mem_cons, mem_companions_iff]
  rfl

variable (hdistinct : (endpoints.map Endpoint.guid).Nodup)

include hdistinct

/-- A companion is on another topic than its parent. -/
theorem topic_ne_of_child {c e : EndpointPtr} (hc : c ∈ pointers (bare endpoints))
    (hadopted : adoptedBy (bare endpoints) c = some e) {f : EndpointPtr}
    (hf : f ∈ pointers (bare endpoints)) (hguid : c.guid = f.guid) :
    f.ddsTopic ≠ e.ddsTopic := by
  rw [← eq_of_bare_guid hdistinct hc hf hguid]
  exact (companionOf_of_adoptedBy hc hadopted).topic_ne

/-- Two entities of one topic with a GUID in common are one. -/
theorem eq_of_common_guid {e f : EndpointPtr} (he : e ∈ pointers (bare endpoints))
    (hf : f ∈ pointers (bare endpoints)) (htopic : e.ddsTopic = f.ddsTopic) {guid : String}
    (hfirst : guid ∈ entityGuids (linkedOf endpoints e))
    (hsecond : guid ∈ entityGuids (linkedOf endpoints f)) : e = f := by
  rw [mem_entityGuids_linkedOf] at hfirst hsecond
  rcases hfirst with hown | ⟨c, hc, hadopted, hguid⟩
  · rcases hsecond with hown' | ⟨d, hd, hadopted', hguid'⟩
    · exact eq_of_bare_guid hdistinct he hf (hown.symm.trans hown')
    · exact absurd htopic (topic_ne_of_child hdistinct hd hadopted' he (hguid'.trans hown))
  · rcases hsecond with hown' | ⟨d, hd, hadopted', hguid'⟩
    · exact absurd htopic.symm (topic_ne_of_child hdistinct hc hadopted hf (hguid.trans hown'))
    · rw [eq_of_bare_guid hdistinct hc hd (hguid.trans hguid'.symm)] at hadopted
      exact Option.some.inj (hadopted.symm.trans hadopted')

theorem nodup_entityGuids {e : EndpointPtr} (he : e ∈ pointers (bare endpoints)) :
    (entityGuids (linkedOf endpoints e)).Nodup := by
  rw [entityGuids, List.nodup_cons]
  constructor
  · intro hchild
    obtain ⟨c, hc, hadopted, hguid⟩ := (mem_companions_iff _).mp hchild
    exact topic_ne_of_child hdistinct hc hadopted he hguid rfl
  · exact nodup_companions hdistinct

end Entities

/-! ## The keys of a topic -/

section Keys

/-- Entities that have no GUID in common. -/
structure Separate (side : List EndpointPtr) : Prop where
  nodup : side.Nodup
  inner : ∀ e ∈ side, (entityGuids e.toEndpoint).Nodup
  apart : ∀ a ∈ side, ∀ b ∈ side, ∀ guid ∈ entityGuids a.toEndpoint,
    guid ∈ entityGuids b.toEndpoint → a = b

theorem separate_sideOf {endpoints : List Endpoint} (hdistinct : (endpoints.map Endpoint.guid).Nodup)
    (ddsTopic : String) (isWriter : Bool) :
    Separate (sideOf (linkBufferCompanions endpoints) ddsTopic isWriter) where
  nodup := (nodup_pointers _).filter _
  inner e he := by
    have hin := ((mem_sideOf _ _ _ e).mp he).1
    obtain ⟨source, hsource, heq⟩ := (mem_linked_iff _).mp (mem_of_mem_pointers hin)
    rw [← heq]
    exact nodup_entityGuids hdistinct hsource
  apart a ha b hb guid hfirst hsecond := by
    obtain ⟨hain, hatopic, -⟩ := (mem_sideOf _ _ _ a).mp ha
    obtain ⟨hbin, hbtopic, -⟩ := (mem_sideOf _ _ _ b).mp hb
    obtain ⟨e, he, hea⟩ := (mem_linked_iff _).mp (mem_of_mem_pointers hain)
    obtain ⟨f, hf, hfb⟩ := (mem_linked_iff _).mp (mem_of_mem_pointers hbin)
    have htopic : (linkedOf endpoints e).ddsTopic = (linkedOf endpoints f).ddsTopic := by
      rw [hea, hfb, hatopic, hbtopic]
    rw [← hea] at hfirst
    rw [← hfb] at hsecond
    have hsame := eq_of_common_guid hdistinct he hf htopic hfirst hsecond
    apply eq_of_pointer_guid (map_guid_linked.symm ▸ hdistinct) hain hbin
    rw [← hea, ← hfb, hsame]

theorem guidPairs_eq (writer reader : Endpoint) :
    guidPairs writer reader = ((entityGuids writer).product (entityGuids reader)).map toLex := by
  rw [guidPairs, List.product, List.map_flatMap]
  simp only [List.map_map]
  rfl

theorem mem_guidPairs_iff {writer reader : Endpoint} (key : GuidPair) :
    key ∈ guidPairs writer reader ↔
      (ofLex key).1 ∈ entityGuids writer ∧ (ofLex key).2 ∈ entityGuids reader := by
  rw [mem_guidPairs]
  constructor
  · intro ⟨wg, hwg, rg, hrg, heq⟩
    rw [← heq]
    exact ⟨hwg, hrg⟩
  · intro ⟨hwg, hrg⟩
    exact ⟨_, hwg, _, hrg, rfl⟩

/-- The keys of all combinations of a writer and a reader. -/
def sideKeys (writers readers : List EndpointPtr) : List GuidPair :=
  (writers.product readers).flatMap fun ends ↦ guidPairs ends.1.toEndpoint ends.2.toEndpoint

variable {writers readers : List EndpointPtr}

theorem nodup_guidPairs {writer reader : Endpoint} (hwriter : (entityGuids writer).Nodup)
    (hreader : (entityGuids reader).Nodup) : (guidPairs writer reader).Nodup := by
  rw [guidPairs_eq]
  exact (hwriter.product hreader).map toLex.injective

theorem nodup_sideKeys (hwriters : Separate writers) (hreaders : Separate readers) :
    (sideKeys writers readers).Nodup := by
  apply List.nodup_flatMap.mpr
  constructor
  · intro ends hends
    obtain ⟨hw, hr⟩ := List.mem_product.mp hends
    exact nodup_guidPairs (hwriters.inner _ hw) (hreaders.inner _ hr)
  · apply (hwriters.nodup.product hreaders.nodup).pairwise_of_forall_ne
    intro ends hends others hothers hne key hkey hkey'
    obtain ⟨hw, hr⟩ := List.mem_product.mp hends
    obtain ⟨hw', hr'⟩ := List.mem_product.mp hothers
    obtain ⟨hwg, hrg⟩ := (mem_guidPairs_iff key).mp hkey
    obtain ⟨hwg', hrg'⟩ := (mem_guidPairs_iff key).mp hkey'
    apply hne
    exact Prod.ext (hwriters.apart _ hw _ hw' _ hwg hwg') (hreaders.apart _ hr _ hr' _ hrg hrg')

theorem mem_sideKeys_iff (key : GuidPair) : key ∈ sideKeys writers readers ↔
    (ofLex key).1 ∈ sideGuids writers ∧ (ofLex key).2 ∈ sideGuids readers := by
  rw [sideKeys, sideGuids, sideGuids, List.mem_flatMap, List.mem_flatMap, List.mem_flatMap]
  constructor
  · intro ⟨ends, hends, hkey⟩
    obtain ⟨hw, hr⟩ := List.mem_product.mp hends
    obtain ⟨hwg, hrg⟩ := (mem_guidPairs_iff key).mp hkey
    exact ⟨⟨ends.1, hw, hwg⟩, ends.2, hr, hrg⟩
  · intro ⟨⟨w, hw, hwg⟩, r, hr, hrg⟩
    exact ⟨(w, r), List.mem_product.mpr ⟨hw, hr⟩, (mem_guidPairs_iff key).mpr ⟨hwg, hrg⟩⟩

theorem flatMap_guidPairs {u : TopicSummary} (h : CrossPaired u) :
    (u.pairs.flatMap fun q ↦ guidPairs q.writer.toEndpoint q.reader.toEndpoint) =
      sideKeys u.writers u.readers := by
  rw [sideKeys, ← h.ends_eq, List.flatMap_map]

/-- Distinct keys find the deliveries between the GUIDs they are made of. -/
theorem sum_deliveries (stats : StatsData) {keys : List GuidPair} (hkeys : keys.Nodup)
    {first second : List String} (hmem : ∀ key, key ∈ keys ↔
      (ofLex key).1 ∈ first ∧ (ofLex key).2 ∈ second) :
    (keys.filterMap stats.delivered.find?).sum = (deliveriesBetween stats first second).sum := by
  rw [GroupSums.sum_find? _ hkeys, deliveriesBetween]
  simp only [hmem, Bool.decide_and]

end Keys

/-! ## What a pair is measured from -/

section Own

variable {stats other : StatsData} {writer reader : Endpoint}

/-- Only the deliveries, latencies and rates of its own keys reach a pair. -/
theorem measured_of_agreeOn (h : AgreeOn (guidPairs writer reader) stats other) :
    measured other writer reader = measured stats writer reader := by
  have hdelivered : (guidPairs writer reader).filterMap other.delivered.find? =
      (guidPairs writer reader).filterMap stats.delivered.find? := List.filterMap_congr h.delivered_eq
  have hlatency : (guidPairs writer reader).filterMap other.latency.find? =
      (guidPairs writer reader).filterMap stats.latency.find? := List.filterMap_congr h.latency_eq
  have hwindow : (guidPairs writer reader).filterMap other.deliveryWindow.find? =
      (guidPairs writer reader).filterMap stats.deliveryWindow.find? := List.filterMap_congr h.window_eq
  have hdelivery (m : Measurement) :
      measureDelivery other writer reader m = measureDelivery stats writer reader m := by
    rw [measureDelivery, measureDelivery, hdelivered, hlatency]
  have hrest := h.rest_eq
  have hrate (m : Measurement) :
      measureRate other writer reader m = measureRate stats writer reader m := by
    have hseconds : other.rateWindowS = stats.rateWindowS := by rw [hrest]
    have hgaps : other.latencyGaps = stats.latencyGaps := by rw [hrest]
    rw [measureRate, measureRate, hwindow, hseconds, hgaps]
  rw [measured, measured, measure, measure]
  simp only [hdelivery, hrate]
  rw [hrest]
  rfl

end Own

/-! ## Deliveries -/

/-- Deliveries between endpoints with companions count once. -/
theorem deliveriesOnce_applyStats [Fnmatch] (endpoints : List Endpoint) (stats : StatsData)
    (hdistinct : (endpoints.map Endpoint.guid).Nodup) :
    AllDeliveriesOnce stats (applyStats (summarize (linkBufferCompanions endpoints)) stats) := by
  intro u hu
  have hcross := crossPaired_of_mem_applyStats hu
  obtain ⟨hwriters, hreaders⟩ := sides_of_mem_applyStats hu
  have hw : Separate u.writers := hwriters ▸ separate_sideOf hdistinct u.ddsTopic true
  have hr : Separate u.readers := hreaders ▸ separate_sideOf hdistinct u.ddsTopic false
  have hmeasured (henabled : stats.enabled = true) (q : Pair) (hq : q ∈ u.pairs) :
      q.measured = measured stats q.writer.toEndpoint q.reader.toEndpoint := by
    rw [measured_of_mem_applyStats hu hq, if_pos henabled]
  have hkeys := flatMap_guidPairs hcross
  refine ⟨?_, ?_, ?_, ?_, ?_⟩
  · intro henabled q hq other hagree
    rw [hmeasured henabled q hq, measured_of_agreeOn hagree]
  · rw [hkeys]
    exact nodup_sideKeys hw hr
  · intro henabled q hq
    obtain ⟨hwriter, hreader⟩ := hcross.mem_ends hq
    rw [hmeasured henabled q hq, measured_deliveredSamples]
    exact sum_deliveries stats (nodup_guidPairs (hw.inner _ hwriter) (hr.inner _ hreader))
      mem_guidPairs_iff
  · intro henabled
    calc
      (u.pairs.map fun q ↦ q.measured.deliveredSamples).sum
          = (u.pairs.map fun q ↦ ((guidPairs q.writer.toEndpoint q.reader.toEndpoint).filterMap
              stats.delivered.find?).sum).sum := by
        congr 1
        apply List.map_congr_left
        intro q hq
        rw [hmeasured henabled q hq, measured_deliveredSamples]
      _ = ((sideKeys u.writers u.readers).filterMap stats.delivered.find?).sum := by
        rw [← hkeys, List.filterMap_flatMap, List.flatMap_def, List.sum_flatten, List.map_map]
        rfl
      _ = _ := sum_deliveries stats (nodup_sideKeys hw hr) mem_sideKeys_iff
  · intro hdisabled q hq
    rw [measured_of_mem_applyStats hu hq, if_neg (Bool.eq_false_iff.mp hdisabled)]

section Folded

/-- A reader of another participant, by its entity key. -/
def bufferReader (ddsTopic : String) (key : UInt8) : Endpoint where
  guid := guidToString (guidOnHost 2 key)
  guidBytes := guidOnHost 2 key
  participantGuidPrefix := prefixToString (guidOnHost 2 key)
  ddsTopic := ddsTopic

/-- A writer and a reader, each with its companion. -/
def foldedArray : List Endpoint :=
  largeArray ++ [bufferReader "rt/large_array" 1, bufferReader "rt/large_array/_buf_cpu" 2]

/-- Five samples went through the companions, one from the writer to the reader. -/
def foldedStats : StatsData where
  enabled := true
  delivered := .ofList
    [(toLex (guidToString (guidOnHost 1 1), guidToString (guidOnHost 2 1)), 1),
     (toLex (guidToString (guidOnHost 1 2), guidToString (guidOnHost 2 2)), 5)]

/-- All six count for the pair of the parents. -/
theorem deliveriesOnce_foldedArray :
    AllDeliveriesOnce foldedStats
      (applyStats (@summarize literalFnmatch (linkBufferCompanions foldedArray)) foldedStats) ∧
    (applyStats (@summarize literalFnmatch (linkBufferCompanions foldedArray)) foldedStats).map
      (fun u ↦ u.pairs.map fun q ↦ q.measured.deliveredSamples) = [[6], [5]] :=
  ⟨@deliveriesOnce_applyStats literalFnmatch foldedArray foldedStats (by decide), by decide +kernel⟩

/-- With the statistics off, none of them counts for a pair. -/
theorem foldedStats_disabled : (foldedArray.map Endpoint.guid).Nodup ∧
    ¬∀ u ∈ applyStats (@summarize literalFnmatch (linkBufferCompanions foldedArray))
        { foldedStats with enabled := false }, ∀ q ∈ u.pairs, q.measured.deliveredSamples =
      (deliveriesBetween foldedStats (entityGuids q.writer.toEndpoint)
        (entityGuids q.reader.toEndpoint)).sum := by
  constructor
  · decide
  · decide +kernel

end Folded

end TransportViz.Stats
