import TransportViz.Stats.OrderIndependence

/-!
# Measured verdicts under the node filter

The node filter runs before the statistics are applied, so the question about the writer's other
readers is asked of the kept pairs only, while the writer's DATA count includes what the hidden readers
received. `nodeFilterSound_iff` says for which filters this makes no difference.
-/

namespace TransportViz.Stats

open Decision

/-- One side of the pair belongs to a matching node. -/
def KeptByNode (nodeMatches : Endpoint → Bool) (p : Pair) : Prop :=
  nodeMatches p.writer.toEndpoint = true ∨ nodeMatches p.reader.toEndpoint = true

/-- A data-sharing pair the statistics speak against, leaving the writer's other readers aside. The
packets and the growth are those that the 64-bit sums show. -/
structure Suspected (stats : StatsData) (p : Pair) : Prop where
  enabled : stats.enabled = true
  predicted : p.verdict.transport = .dataSharing
  published : PublishesStats stats p.writer.toEndpoint
  outside : "intra-process" ∈ p.verdict.reasons →
    PacketsCounted stats p.writer.toEndpoint p.reader.toEndpoint
  delivered : DeliveryProven stats p.writer.toEndpoint p.reader.toEndpoint
  carried : ∃ s, Carried stats p.writer.toEndpoint p.reader.toEndpoint s
  grew : GrowthCounted stats p.writer.toEndpoint

variable [Fnmatch]

/-- A pair of the filtered pipeline loses data-sharing only if every reader discovered for its writer
was predicted on data-sharing or split from it. -/
def NodeFilterSound (endpoints : List Endpoint) (nodeMatches : Endpoint → Bool)
    (stats : StatsData) : Prop :=
  ∀ u ∈ applyStats (filterByNode (summarize endpoints) nodeMatches) stats, ∀ q ∈ u.pairs,
    "datasharing-data-submessages-sent" ∈ q.verdict.reasons ∨
        "datasharing-not-used" ∈ q.verdict.warnings →
      ∀ t ∈ summarize endpoints, ∀ p ∈ t.pairs, p.writer = q.writer →
        onDatasharing (Decision.decide p.writer.toEndpoint p.reader.toEndpoint) = true

/-- Where the kept readers of a suspected pair's writer are all on data-sharing, so are the hidden
ones. -/
def HiddenReadersAgree (endpoints : List Endpoint) (nodeMatches : Endpoint → Bool)
    (stats : StatsData) : Prop :=
  ∀ t ∈ summarize endpoints, ∀ p ∈ t.pairs, KeptByNode nodeMatches p → Suspected stats p →
    (∀ q ∈ t.pairs, KeptByNode nodeMatches q → q.writer = p.writer →
      onDatasharing (Decision.decide q.writer.toEndpoint q.reader.toEndpoint) = true) →
    ∀ q ∈ t.pairs, q.writer = p.writer →
      onDatasharing (Decision.decide q.writer.toEndpoint q.reader.toEndpoint) = true

section Filter

variable {endpoints : List Endpoint} {nodeMatches : Endpoint → Bool}

instance (p : Pair) : Decidable (KeptByNode nodeMatches p) := inferInstanceAs (Decidable (_ ∨ _))

/-- The filter keeps, of the pairs of a topic, those with a matching node on either side. -/
theorem mem_keptPairs {t : TopicSummary} (ht : IsSummary endpoints t) (p : Pair) :
    p ∈ keptPairs nodeMatches t ↔ p ∈ t.pairs ∧ KeptByNode nodeMatches p := by
  rw [keptPairs_of_ends ht.mem_ends, List.mem_filter, Bool.or_eq_true]
  exact Iff.rfl

omit [Fnmatch] in
theorem filterTopic_pairs {t u : TopicSummary} (h : filterTopic nodeMatches t = some u) :
    u.pairs = keptPairs nodeMatches t := by
  unfold filterTopic at h
  split_ifs at h
  cases h
  rfl

omit [Fnmatch] in
theorem exists_filterTopic {t : TopicSummary} {p : Pair} (hp : p ∈ keptPairs nodeMatches t) :
    ∃ u, filterTopic nodeMatches t = some u := by
  have hkept : p.writer ∈ keptEndpoints nodeMatches t := by
    refine Finset.mem_union_right _ (List.mem_toFinset.mpr ?_)
    exact List.mem_flatMap.mpr ⟨p, hp, by simp⟩
  unfold filterTopic
  rw [if_neg (Finset.ne_empty_of_mem hkept)]
  exact ⟨_, rfl⟩

omit [Fnmatch] in
theorem mem_filterByNode (topics : List TopicSummary) (u : TopicSummary) :
    u ∈ filterByNode topics nodeMatches ↔ ∃ t ∈ topics, filterTopic nodeMatches t = some u :=
  List.mem_filterMap

end Filter

section Sound

variable {endpoints : List Endpoint} {nodeMatches : Endpoint → Bool} {stats : StatsData}

theorem IsFresh.onDatasharing_eq {p : Pair} (h : IsFresh p) :
    onDatasharing p.verdict =
      onDatasharing (Decision.decide p.writer.toEndpoint p.reader.toEndpoint) := by
  refine onDatasharing_congr h.transport_eq ?_ (h.mem_reasons _ (by decide))
  unfold Split
  rw [h.warnings_eq]

theorem suspected_iff {p : Pair} (h : IsFresh p) :
    Suspected stats p ↔ stats.enabled = true ∧ contestedPair stats p = true := by
  rw [contestedPair_iff h]
  constructor
  · rintro ⟨henabled, hpredicted, hpublished, houtside, hdelivered, hcarried, hgrew⟩
    exact ⟨henabled, hpredicted, hpublished, houtside, hdelivered, hcarried, hgrew⟩
  · rintro ⟨henabled, hpredicted, hpublished, houtside, hdelivered, hcarried, hgrew⟩
    exact ⟨henabled, hpredicted, hpublished, houtside, hdelivered, hcarried, hgrew⟩

/-- A writer has its pairs in one topic. -/
theorem eq_topic_of_writer {t u : TopicSummary} (ht : t ∈ summarize endpoints)
    (hu : u ∈ summarize endpoints) {p q : Pair} (hp : p ∈ t.pairs) (hq : q ∈ u.pairs)
    (hwriter : p.writer = q.writer) : t = u := by
  have hname {v : TopicSummary} (hv : v ∈ summarize endpoints) {r : Pair} (hr : r ∈ v.pairs) :
      r.writer.ddsTopic = v.ddsTopic := by
    have hsummary := isSummary_of_mem endpoints v hv
    rw [hsummary.pairs_eq, mem_freshPairs, hsummary.writers_eq, mem_sideOf] at hr
    exact hr.1.2.1
  refine List.inj_on_of_nodup_map (nodup_ddsTopic_summarize endpoints) ht hu ?_
  rw [← hname ht hp, ← hname hu hq, hwriter]

/-- The topics the statistics are applied to hold the kept pairs of one summarized topic. -/
theorem exists_summarized {f : TopicSummary} (hf : f ∈ filterByNode (summarize endpoints) nodeMatches) :
    ∃ t ∈ summarize endpoints, ∀ p, p ∈ f.pairs ↔ p ∈ t.pairs ∧ KeptByNode nodeMatches p := by
  obtain ⟨t, ht, hfilter⟩ := (mem_filterByNode _ f).mp hf
  refine ⟨t, ht, fun p ↦ ?_⟩
  rw [filterTopic_pairs hfilter, mem_keptPairs (isSummary_of_mem endpoints t ht)]

theorem nodeFilterSound_of_agree (h : HiddenReadersAgree endpoints nodeMatches stats) :
    NodeFilterSound endpoints nodeMatches stats := by
  intro u hu q hq hcode t ht p hp hwriter
  unfold applyStats at hu
  by_cases henabled : stats.enabled = true
  · rw [if_pos henabled] at hu
    obtain ⟨f, hf, rfl⟩ := List.mem_map.mp hu
    obtain ⟨source, hsource, hpairs⟩ := exists_summarized hf
    have hfresh : ∀ r ∈ f.pairs, IsFresh r := fun r hr ↦ isFresh_of_mem hsource ((hpairs r).mp hr).1
    obtain ⟨judged, hjudged, all, rfl, halone⟩ :=
      exists_of_mem_right (forall₂_overlayTopic stats f hfresh) hq
    have hcontested : all = true ∧ contestedPair stats judged = true := by
      have hcodes := notUsed_mem_overlayPair_iff stats (hfresh judged hjudged) all
      rcases hcode with hcode | hcode
      · exact hcodes.2.mp hcode
      · exact hcodes.1.mp hcode
    obtain ⟨hmem, hkept⟩ := (hpairs judged).mp hjudged
    obtain rfl := eq_topic_of_writer ht hsource hp hmem hwriter
    refine h t ht judged hmem hkept
      ((suspected_iff (hfresh judged hjudged)).mpr ⟨henabled, hcontested.2⟩) ?_ p hp hwriter
    intro r hr hkeptr hsame
    have hr' := (hpairs r).mpr ⟨hr, hkeptr⟩
    rw [← (hfresh r hr').onDatasharing_eq]
    exact halone hcontested.1 r hr' hsame
  · rw [if_neg henabled] at hu
    obtain ⟨source, hsource, hpairs⟩ := exists_summarized hu
    have hfresh := isFresh_of_mem hsource ((hpairs q).mp hq).1
    rcases hcode with hcode | hcode
    · exact absurd hcode hfresh.notMem_lostCodes.1
    · exact absurd hcode hfresh.notMem_lostCodes.2

theorem agree_of_nodeFilterSound (h : NodeFilterSound endpoints nodeMatches stats) :
    HiddenReadersAgree endpoints nodeMatches stats := by
  intro t ht p hp hkept hsuspected halone q hq hwriter
  obtain ⟨henabled, hcontested⟩ := (suspected_iff (isFresh_of_mem ht hp)).mp hsuspected
  have hsummary := isSummary_of_mem endpoints t ht
  obtain ⟨f, hfilter⟩ := exists_filterTopic ((mem_keptPairs hsummary p).mpr ⟨hp, hkept⟩)
  have hpairs (r : Pair) : r ∈ f.pairs ↔ r ∈ t.pairs ∧ KeptByNode nodeMatches r := by
    rw [filterTopic_pairs hfilter, mem_keptPairs hsummary]
  have hfresh : ∀ r ∈ f.pairs, IsFresh r := fun r hr ↦ isFresh_of_mem ht ((hpairs r).mp hr).1
  have hflagged : InPlace.groupFlagged Pair.writer (fun p ↦ onDatasharing p.verdict) p.writer
      f.pairs = true := by
    rw [InPlace.groupFlagged_iff]
    intro r hr hsame
    rw [(hfresh r hr).onDatasharing_eq]
    exact halone r ((hpairs r).mp hr).1 ((hpairs r).mp hr).2 hsame
  -- the first contested pair of the writer is the one that loses data-sharing
  obtain ⟨judged, hjudged, hsame, hcontested', htold⟩ := InPlace.exists_told_contested
    (overlayPair stats) f.pairs p ((hpairs p).mpr ⟨hp, hkept⟩) hflagged hcontested
  rw [← InPlace.rewriteAll_eq_outcomes f.pairs fun r hr ↦ isRule_overlayPair (hfresh r hr),
    ← overlayTopic_pairs] at htold
  have hmem : overlayTopic stats f ∈
      applyStats (filterByNode (summarize endpoints) nodeMatches) stats := by
    unfold applyStats
    rw [if_pos henabled]
    exact List.mem_map_of_mem ((mem_filterByNode _ f).mpr ⟨t, ht, hfilter⟩)
  have hcode := (notUsed_mem_overlayPair_iff stats (hfresh judged hjudged) true).1.mpr ⟨rfl, hcontested'⟩
  exact h _ hmem _ htold (.inr hcode) t ht q hq (hwriter.trans hsame.symm)

end Sound

/-- The filtered pipeline takes data-sharing away soundly exactly when the readers the filter hides
agree with the kept ones. -/
theorem nodeFilterSound_iff (endpoints : List Endpoint) (nodeMatches : Endpoint → Bool)
    (stats : StatsData) :
    NodeFilterSound endpoints nodeMatches stats ↔ HiddenReadersAgree endpoints nodeMatches stats :=
  ⟨agree_of_nodeFilterSound, nodeFilterSound_of_agree⟩

omit [Fnmatch] in
/-- A filter on the viewer's node hides the logger, whose DATA is then held against the viewer. -/
theorem hiddenLogger_not_nodeFilterSound :
    ¬@NodeFilterSound literalFnmatch
      [imageWriter, { imageReader 2 with nodeName := "/viewer" },
        { imageReader 3 with nodeName := "/logger", qos := { dataSharing := .off } }]
      (fun e ↦ e.nodeName = "/viewer") zeroCopyStats := by
  intro h
  have hjudged : ∃ u ∈ applyStats (filterByNode (@summarize literalFnmatch
        [imageWriter, { imageReader 2 with nodeName := "/viewer" },
          { imageReader 3 with nodeName := "/logger", qos := { dataSharing := .off } }])
        (fun e ↦ e.nodeName = "/viewer")) zeroCopyStats,
      ∃ q ∈ u.pairs, "datasharing-not-used" ∈ q.verdict.warnings ∧
        ∃ t ∈ @summarize literalFnmatch
          [imageWriter, { imageReader 2 with nodeName := "/viewer" },
            { imageReader 3 with nodeName := "/logger", qos := { dataSharing := .off } }],
        ∃ p ∈ t.pairs, p.writer = q.writer ∧ onDatasharing
          (@Decision.decide literalFnmatch p.writer.toEndpoint p.reader.toEndpoint) = false := by
    decide +kernel
  obtain ⟨u, hu, q, hq, hcode, t, ht, p, hp, hwriter, hnot⟩ := hjudged
  have hon := h u hu q hq (.inr hcode) t ht p hp hwriter
  rw [hnot] at hon
  cases hon

end TransportViz.Stats
