import TransportViz.Model.Text
import TransportViz.Stats.Walk

/-!
# When the order of the pairs matters

The data-sharing rule asks about the writer's other pairs while they are being rewritten, so a pair
that has just lost data-sharing answers no for the pairs after it. `Contested` names the pairs this can
happen to, in terms of the prediction and the statistics. The verdicts are independent of the order,
and every contested pair is judged alike, exactly when no writer has two of them and their 64-bit sums
have not wrapped to zero.
-/

namespace TransportViz.Stats

open Decision

/-- A data-sharing pair that the DATA count speaks against: its delivery is proven, packets went to its
reader, its writer sent DATA and has data-sharing readers only. -/
structure Contested (stats : StatsData) (t : TopicSummary) (p : Pair) : Prop where
  enabled : stats.enabled = true
  predicted : p.verdict.transport = .dataSharing
  published : PublishesStats stats p.writer.toEndpoint
  outside : "intra-process" ∈ p.verdict.reasons →
    CarriedInWindow stats p.writer.toEndpoint p.reader.toEndpoint
  delivered : DeliveryProven stats p.writer.toEndpoint p.reader.toEndpoint
  carried : ∃ s, Carried stats p.writer.toEndpoint p.reader.toEndpoint s
  grew : CountGrew stats p.writer.toEndpoint
  alone : ∀ q ∈ t.pairs, q.writer = p.writer → onDatasharing q.verdict = true

/-- The sums the overlay reads for the pair show what was sent. -/
structure SumsTell (stats : StatsData) (p : Pair) : Prop where
  outside : "intra-process" ∈ p.verdict.reasons →
    PacketsCounted stats p.writer.toEndpoint p.reader.toEndpoint
  grew : GrowthCounted stats p.writer.toEndpoint

/-- A contested pair that the overlay takes for one. -/
def Judgeable (stats : StatsData) (t : TopicSummary) (p : Pair) : Prop :=
  Contested stats t p ∧ SumsTell stats p

/-- The same transport and confidence, the same set of reasons and of warnings. -/
structure SameOutcome (v w : Verdict) : Prop where
  transport_eq : v.transport = w.transport
  confidence_eq : v.confidence = w.confidence
  reasons_eq : v.reasons.toFinset = w.reasons.toFinset
  warnings_eq : v.warnings.toFinset = w.warnings.toFinset

/-- Every writer and reader have the same outcome in both topics. -/
def SameVerdicts (t u : TopicSummary) : Prop :=
  ∀ p ∈ t.pairs, ∀ q ∈ u.pairs, p.writer = q.writer → p.reader = q.reader →
    SameOutcome p.verdict q.verdict

/-- The same topic with its pairs in another order. -/
def PairsPermuted (t u : TopicSummary) : Prop :=
  ∃ pairs : List Pair, pairs.Perm t.pairs ∧ u = { t with pairs := pairs }

/-- Permuting the pairs of the topics changes no verdict. -/
def OrderIndependent (topics : List TopicSummary) (stats : StatsData) : Prop :=
  ∀ permuted, List.Forall₂ PairsPermuted topics permuted →
    List.Forall₂ SameVerdicts (applyStats topics stats) (applyStats permuted stats)

/-- Every contested pair is judged not to use data-sharing. -/
def ContestedJudged (topics : List TopicSummary) (stats : StatsData) : Prop :=
  List.Forall₂
    (fun t u ↦ ∀ p ∈ t.pairs, Contested stats t p → ∀ q ∈ u.pairs,
      q.writer = p.writer → q.reader = p.reader → "datasharing-not-used" ∈ q.verdict.warnings)
    topics (applyStats topics stats)

/-- No writer has two contested pairs in one topic. -/
def NoRivals (topics : List TopicSummary) (stats : StatsData) : Prop :=
  ∀ t ∈ topics, ∀ p ∈ t.pairs, ∀ q ∈ t.pairs, Contested stats t p → Contested stats t q →
    p.writer = q.writer → p.reader = q.reader

/-- No sum of a contested pair has wrapped to zero. -/
def ContestedTold (topics : List TopicSummary) (stats : StatsData) : Prop :=
  ∀ t ∈ topics, ∀ p ∈ t.pairs, Contested stats t p → SumsTell stats p

section Contested

variable [Fnmatch] {stats : StatsData}

theorem contestedPair_iff {p : Pair} (h : IsFresh p) :
    contestedPair stats p = true ↔
      p.verdict.transport = .dataSharing ∧ PublishesStats stats p.writer.toEndpoint ∧
        ("intra-process" ∈ p.verdict.reasons →
          PacketsCounted stats p.writer.toEndpoint p.reader.toEndpoint) ∧
        DeliveryProven stats p.writer.toEndpoint p.reader.toEndpoint ∧
        (∃ s, Carried stats p.writer.toEndpoint p.reader.toEndpoint s) ∧
        GrowthCounted stats p.writer.toEndpoint := by
  have hloud : ¬SilentIntraProcess (counted stats p)
        (measured stats p.writer.toEndpoint p.reader.toEndpoint) ↔
      ("intra-process" ∈ p.verdict.reasons →
        PacketsCounted stats p.writer.toEndpoint p.reader.toEndpoint) := by
    rw [silentIntraProcess_counted, not_and, not_not]
  have hasks : AsksReaders (measured stats p.writer.toEndpoint p.reader.toEndpoint) ∧
        0 < (measured stats p.writer.toEndpoint p.reader.toEndpoint).dataSubmessages ↔
      DeliveryProven stats p.writer.toEndpoint p.reader.toEndpoint ∧
        (∃ s, Carried stats p.writer.toEndpoint p.reader.toEndpoint s) ∧
        GrowthCounted stats p.writer.toEndpoint := by
    rw [AsksReaders, measured_delivered, measured_transports_ne_nil, measured_dataCountAvailable,
      measured_dataSubmessages]
    constructor
    · rintro ⟨⟨hdelivered, hcarried, -⟩, hgrew⟩
      exact ⟨hdelivered, hcarried, hgrew⟩
    · rintro ⟨hdelivered, hcarried, hgrew⟩
      exact ⟨⟨hdelivered, hcarried, hgrew.grew.known⟩, hgrew⟩
  rw [contestedPair, decide_eq_true_eq, Contests, measured_available, hloud, hasks]
  constructor
  · rintro ⟨-, -, hpublished, houtside, htransport, hrest⟩
    exact ⟨htransport, hpublished, houtside, hrest⟩
  · rintro ⟨htransport, hpublished, houtside, hrest⟩
    exact ⟨(h.served htransport).1, (h.served htransport).2, hpublished, houtside, htransport, hrest⟩

theorem judgeable_iff {t : TopicSummary} {p : Pair} (h : IsFresh p) :
    Judgeable stats t p ↔ stats.enabled = true ∧ contestedPair stats p = true ∧
      InPlace.groupFlagged Pair.writer (fun p ↦ onDatasharing p.verdict) p.writer t.pairs =
        true := by
  rw [contestedPair_iff h, InPlace.groupFlagged_iff]
  constructor
  · rintro ⟨hcontested, houtside, hgrew⟩
    exact ⟨hcontested.enabled, ⟨hcontested.predicted, hcontested.published, houtside,
      hcontested.delivered, hcontested.carried, hgrew⟩, hcontested.alone⟩
  · rintro ⟨henabled, ⟨hpredicted, hpublished, houtside, hdelivered, hcarried, hgrew⟩, halone⟩
    exact ⟨⟨henabled, hpredicted, hpublished, fun hintra ↦ (houtside hintra).inWindow, hdelivered,
      hcarried, hgrew.grew, halone⟩, houtside, hgrew⟩

end Contested

section Order

variable [Fnmatch] {stats : StatsData}

/-- Where another pair of the writer is contested, a pair that is not does not ask. -/
theorem overlayPair_true_eq_false {p q : Pair} (hp : IsFresh p) (hq : IsFresh q)
    (hwriter : q.writer = p.writer) (hcontested : contestedPair stats q = true)
    (hquiet : contestedPair stats p = false) :
    overlayPair stats true p = overlayPair stats false p := by
  have hgrew : GrowthCounted stats p.writer.toEndpoint :=
    hwriter ▸ ((contestedPair_iff hq).mp hcontested).2.2.2.2.2
  have hcount : 0 < (measured stats p.writer.toEndpoint p.reader.toEndpoint).dataSubmessages :=
    (measured_dataSubmessages stats _ _).mpr hgrew
  have hverdict : overlay stats true p.writer.participantGuidPrefix (measurePair stats p).verdict
        (measurePair stats p).measured =
      overlay stats false p.writer.participantGuidPrefix (measurePair stats p).verdict
        (measurePair stats p).measured := by
    rw [measurePair_verdict hp, measurePair_measured hp]
    refine overlay_true_eq_false fun htransport hloud havailable hmatched hsplit hasks ↦ ?_
    exact of_decide_eq_false hquiet
      ⟨hmatched, hsplit, havailable, hloud, htransport, hasks, hcount⟩
  exact congrArg (fun v ↦ { measurePair stats p with verdict := v }) hverdict

/-- Without rivals the walk is a map, whatever order the pairs are in. -/
theorem overlayTopic_pairs_eq_map (t : TopicSummary) (hfresh : ∀ p ∈ t.pairs, IsFresh p)
    (hnodup : (t.pairs.map fun p ↦ (p.writer, p.reader)).Nodup) (henabled : stats.enabled = true)
    (hrivals : ∀ p ∈ t.pairs, ∀ q ∈ t.pairs, Judgeable stats t p → Judgeable stats t q →
      p.writer = q.writer → p.reader = q.reader) :
    (overlayTopic stats t).pairs = t.pairs.map fun p ↦
      overlayPair stats (InPlace.groupFlagged Pair.writer (fun p ↦ onDatasharing p.verdict) p.writer
        t.pairs) p := by
  rw [overlayTopic_pairs]
  refine InPlace.rewriteAll_eq_map t.pairs (fun p hp ↦ isRule_overlayPair (hfresh p hp)) ?_ ?_
  · intro p hp q hq hwriter hcontested hquiet
    exact overlayPair_true_eq_false (hfresh p hp) (hfresh q hq) hwriter hcontested hquiet
  · refine (List.Pairwise.and_mem.mp (List.pairwise_map.mp hnodup)).imp ?_
    rintro p q ⟨hp, hq, hne⟩ ⟨hwriter, hflagged, hcontestedp, hcontestedq⟩
    have hreader := hrivals p hp q hq
      ((judgeable_iff (hfresh p hp)).mpr ⟨henabled, hcontestedp, hflagged⟩)
      ((judgeable_iff (hfresh q hq)).mpr ⟨henabled, hcontestedq, hwriter ▸ hflagged⟩) hwriter
    exact hne (by rw [hwriter, hreader])

/-- A contested pair after another one of its writer keeps data-sharing. -/
theorem exists_notJudged (t : TopicSummary) (hfresh : ∀ p ∈ t.pairs, IsFresh p)
    (before after : List Pair) (p q : Pair) (hpairs : t.pairs = before ++ q :: after)
    (hp : p ∈ before) (hwriter : p.writer = q.writer) (hcontested : contestedPair stats p = true) :
    overlayPair stats false q ∈ (overlayTopic stats t).pairs := by
  have hpassed : InPlace.groupQuiet Pair.writer (contestedPair stats) q.writer before = false := by
    rw [← Bool.not_eq_true]
    intro hquiet
    have hnot := List.all_eq_true.mp hquiet p hp
    simp [hwriter, hcontested] at hnot
  rw [overlayTopic_pairs, InPlace.rewriteAll_eq_outcomes t.pairs
    fun p hp ↦ isRule_overlayPair (hfresh p hp)]
  conv in InPlace.outcomes _ _ _ _ _ _ _ => rw [hpairs, InPlace.outcomes_eq_append]
  rw [List.nil_append, hpassed, Bool.and_false]
  simp

end Order

section Main

variable [Fnmatch]

theorem judged_of_mem {endpoints : List Endpoint} {stats : StatsData} {t : TopicSummary} {p q : Pair}
    (h : ContestedJudged (summarize endpoints) stats) (ht : t ∈ summarize endpoints)
    (hp : p ∈ t.pairs) (hcontested : Contested stats t p) (hq : q ∈ (overlayTopic stats t).pairs)
    (hwriter : q.writer = p.writer) (hreader : q.reader = p.reader) :
    "datasharing-not-used" ∈ q.verdict.warnings := by
  rw [ContestedJudged, applyStats, if_pos hcontested.enabled, List.forall₂_map_right_iff,
    List.forall₂_same] at h
  exact h t ht p hp hcontested q hq hwriter hreader

/-- A pair is judged by its sums. -/
theorem told_of_judged {endpoints : List Endpoint} {stats : StatsData}
    (h : ContestedJudged (summarize endpoints) stats) : ContestedTold (summarize endpoints) stats := by
  intro t ht p hp hcontested
  have hfresh := isFresh_of_mem ht hp
  obtain ⟨q, hq, all, rfl, -⟩ :=
    exists_of_mem_left (forall₂_overlayTopic stats t fun p hp ↦ isFresh_of_mem ht hp) hp
  have hcode := judged_of_mem h ht hp hcontested hq rfl rfl
  have hpair := ((notUsed_mem_overlayPair_iff stats hfresh all).1.mp hcode).2
  obtain ⟨-, -, houtside, -, -, hgrew⟩ := (contestedPair_iff hfresh).mp hpair
  exact ⟨houtside, hgrew⟩

theorem noRivals_of_judged {endpoints : List Endpoint} {stats : StatsData}
    (h : ContestedJudged (summarize endpoints) stats) : NoRivals (summarize endpoints) stats := by
  intro t ht p hp q hq hcontestedp hcontestedq hwriter
  by_contra hreader
  have hfresh : ∀ p ∈ t.pairs, IsFresh p := fun p hp ↦ isFresh_of_mem ht hp
  have hkept (before after : List Pair) (first second : Pair)
      (hpairs : t.pairs = before ++ second :: after) (hfirst : first ∈ before)
      (hcontested : Contested stats t first) (hsecond : Contested stats t second)
      (hsame : first.writer = second.writer) : False := by
    have hmem : second ∈ t.pairs := by simp [hpairs]
    have hfirstmem : first ∈ t.pairs := hpairs ▸ List.mem_append_left _ hfirst
    have hcontestedfirst := ((judgeable_iff (hfresh first hfirstmem)).mp
      ⟨hcontested, told_of_judged h t ht first hfirstmem hcontested⟩).2.1
    have hresult := exists_notJudged t hfresh before after first second hpairs hfirst hsame
      hcontestedfirst
    have hcode := judged_of_mem h ht hmem hsecond hresult rfl rfl
    exact absurd ((notUsed_mem_overlayPair_iff stats (hfresh second hmem) false).1.mp hcode).1 (by decide)
  obtain ⟨before, after, hpairs⟩ := List.append_of_mem hp
  have hother : q ∈ before ∨ q ∈ after := by
    rw [hpairs, List.mem_append, List.mem_cons] at hq
    rcases hq with hq | rfl | hq
    · exact .inl hq
    · exact absurd rfl hreader
    · exact .inr hq
  rcases hother with hbefore | hafter
  · exact hkept before after q p hpairs hbefore hcontestedq hcontestedp hwriter.symm
  · obtain ⟨between, rest, hafter'⟩ := List.append_of_mem hafter
    refine hkept (before ++ p :: between) rest p q ?_ (by simp) hcontestedp hcontestedq hwriter
    rw [hpairs, hafter']
    simp

omit [Fnmatch] in
theorem SameOutcome.refl (v : Verdict) : SameOutcome v v := ⟨rfl, rfl, rfl, rfl⟩

omit [Fnmatch] in
/-- A pair of a topic is named by its ends. -/
theorem eq_of_ends {t : TopicSummary} (hnodup : (t.pairs.map fun p ↦ (p.writer, p.reader)).Nodup)
    {p q : Pair} (hp : p ∈ t.pairs) (hq : q ∈ t.pairs) (hwriter : p.writer = q.writer)
    (hreader : p.reader = q.reader) : p = q :=
  List.inj_on_of_nodup_map hnodup hp hq (by rw [hwriter, hreader])

theorem judged_of_noRivals {endpoints : List Endpoint} {stats : StatsData}
    (h : NoRivals (summarize endpoints) stats) (htold : ContestedTold (summarize endpoints) stats) :
    ContestedJudged (summarize endpoints) stats := by
  unfold ContestedJudged applyStats
  by_cases henabled : stats.enabled = true
  swap
  · rw [if_neg henabled, List.forall₂_same]
    exact fun t _ p _ hcontested ↦ absurd hcontested.enabled henabled
  rw [if_pos henabled, List.forall₂_map_right_iff, List.forall₂_same]
  intro t ht p hp hcontested q hq hwriter hreader
  have hfresh : ∀ p ∈ t.pairs, IsFresh p := fun p hp ↦ isFresh_of_mem ht hp
  have hnodup := (isSummary_of_mem endpoints t ht).nodup_pairs
  rw [overlayTopic_pairs_eq_map t hfresh hnodup henabled fun p hp q hq hfirst hsecond ↦
    h t ht p hp q hq hfirst.1 hsecond.1] at hq
  obtain ⟨other, hother, rfl⟩ := List.mem_map.mp hq
  obtain rfl := eq_of_ends hnodup hother hp hwriter hreader
  obtain ⟨-, hpair, hflagged⟩ := (judgeable_iff (hfresh other hother)).mp
    ⟨hcontested, htold t ht other hother hcontested⟩
  exact (notUsed_mem_overlayPair_iff stats (hfresh other hother) _).1.mpr ⟨hflagged, hpair⟩

theorem sameVerdicts_of_permuted {stats : StatsData} {t u : TopicSummary}
    (hfresh : ∀ p ∈ t.pairs, IsFresh p)
    (hnodup : (t.pairs.map fun p ↦ (p.writer, p.reader)).Nodup) (henabled : stats.enabled = true)
    (hrivals : ∀ p ∈ t.pairs, ∀ q ∈ t.pairs, Judgeable stats t p → Judgeable stats t q →
      p.writer = q.writer → p.reader = q.reader) (hpermuted : PairsPermuted t u) :
    SameVerdicts (overlayTopic stats t) (overlayTopic stats u) := by
  obtain ⟨pairs, hperm, rfl⟩ := hpermuted
  have hcontested {p : Pair} (hp : Judgeable stats { t with pairs := pairs } p) :
      Judgeable stats t p :=
    ⟨{ hp.1 with alone := fun q hq ↦ hp.1.alone q (hperm.mem_iff.mpr hq) }, hp.2⟩
  have hpairs := overlayTopic_pairs_eq_map t hfresh hnodup henabled hrivals
  have hpairs' := overlayTopic_pairs_eq_map { t with pairs := pairs }
    (fun p hp ↦ hfresh p (hperm.mem_iff.mp hp)) ((hperm.map _).nodup_iff.mpr hnodup) henabled
    fun p hp q hq hcp hcq ↦ hrivals p (hperm.mem_iff.mp hp) q (hperm.mem_iff.mp hq)
      (hcontested hcp) (hcontested hcq)
  intro p hp q hq hwriter hreader
  rw [hpairs] at hp
  rw [hpairs'] at hq
  obtain ⟨first, hfirst, rfl⟩ := List.mem_map.mp hp
  obtain ⟨second, hsecond, rfl⟩ := List.mem_map.mp hq
  obtain rfl := eq_of_ends hnodup hfirst (hperm.mem_iff.mp hsecond) hwriter hreader
  rw [InPlace.groupFlagged_perm hperm]
  exact SameOutcome.refl _

theorem orderIndependent_of_noRivals {endpoints : List Endpoint} {stats : StatsData}
    (h : NoRivals (summarize endpoints) stats) : OrderIndependent (summarize endpoints) stats := by
  intro permuted hpermuted
  have hsummaries : List.Forall₂ (fun t u ↦ t ∈ summarize endpoints ∧ PairsPermuted t u)
      (summarize endpoints) permuted :=
    (List.forall₂_and_left _ _).mpr ⟨fun _ ht ↦ ht, hpermuted⟩
  unfold applyStats
  by_cases henabled : stats.enabled = true
  · rw [if_pos henabled, if_pos henabled, List.forall₂_map_left_iff, List.forall₂_map_right_iff]
    refine hsummaries.imp fun t u ⟨ht, hpair⟩ ↦ ?_
    exact sameVerdicts_of_permuted (fun p hp ↦ isFresh_of_mem ht hp)
      (isSummary_of_mem endpoints t ht).nodup_pairs henabled
      (fun p hp q hq hfirst hsecond ↦ h t ht p hp q hq hfirst.1 hsecond.1) hpair
  · rw [if_neg henabled, if_neg henabled]
    refine hsummaries.imp fun t u ⟨ht, pairs, hperm, hu⟩ ↦ ?_
    intro p hp q hq hwriter hreader
    rw [hu] at hq
    obtain rfl := eq_of_ends (isSummary_of_mem endpoints t ht).nodup_pairs hp
      (hperm.mem_iff.mp hq) hwriter hreader
    exact SameOutcome.refl _

/-- The verdicts are independent of the order of the pairs, with every contested pair judged alike,
exactly when no writer has two contested pairs in one topic and no sum of one has wrapped to zero. -/
theorem orderIndependent_iff (endpoints : List Endpoint) (stats : StatsData) :
    OrderIndependent (summarize endpoints) stats ∧ ContestedJudged (summarize endpoints) stats ↔
      NoRivals (summarize endpoints) stats ∧ ContestedTold (summarize endpoints) stats := by
  constructor
  · rintro ⟨-, hjudged⟩
    exact ⟨noRivals_of_judged hjudged, told_of_judged hjudged⟩
  · rintro ⟨hrivals, htold⟩
    exact ⟨orderIndependent_of_noRivals hrivals, judged_of_noRivals hrivals htold⟩

end Main

section ZeroCopy

/-- An endpoint of one host's zero-copy image topic. -/
def zeroCopyEndpoint (isWriter : Bool) (process entity : UInt8) : Endpoint :=
  let guid := guidOnHost process entity
  { isWriter := isWriter
    guid := guidToString guid
    guidBytes := guid
    hostId := sampleHostId
    participantGuidPrefix := prefixToString guid
    ddsTopic := "rt/image"
    ddsType := "sensor_msgs::msg::dds_::Image_"
    rosTopic := "/image"
    nodeName := "/camera"
    unicast := [{ kind := .udpv4, address := "10.0.0.1", port := 7411 }]
    qos := { dataSharing := .on } }

def imageWriter : Endpoint := zeroCopyEndpoint true 1 0x12

def imageReader (process : UInt8) : Endpoint := zeroCopyEndpoint false process 0x22

/-- Both readers receive, packets go to their locator, and the writer sends DATA. -/
def zeroCopyStats : StatsData where
  enabled := true
  traffic := [{ srcParticipantPrefix := imageWriter.participantGuidPrefix
                dst := { kind := .udpv4, address := "10.0.0.1", port := 7411 }
                packets := 9
                packetsFirst := 4 }]
  delivered := .ofList [(toLex (imageWriter.guid, (imageReader 2).guid), 3),
    (toLex (imageWriter.guid, (imageReader 3).guid), 3)]
  dataCount := .ofList [(imageWriter.guid, { first := 1, last := 4, samples := 2 })]
  participantsWithStats := {imageWriter.participantGuidPrefix}

/-- Of two zero-copy readers only the first is judged not to use data-sharing, whichever it is. -/
theorem zeroCopy_not_orderIndependent :
    ¬OrderIndependent (@summarize literalFnmatch [imageWriter, imageReader 2, imageReader 3])
        zeroCopyStats ∧
      ¬ContestedJudged (@summarize literalFnmatch [imageWriter, imageReader 2, imageReader 3])
        zeroCopyStats := by
  generalize htopics :
    @summarize literalFnmatch [imageWriter, imageReader 2, imageReader 3] = topics
  constructor
  · intro h
    have hdiffer : ∀ t ∈ applyStats topics zeroCopyStats,
        ∀ u ∈ applyStats (topics.map fun t ↦ { t with pairs := t.pairs.reverse }) zeroCopyStats,
        ∃ p ∈ t.pairs, ∃ q ∈ u.pairs, p.writer = q.writer ∧ p.reader = q.reader ∧
          p.verdict.transport ≠ q.verdict.transport := by
      subst htopics
      decide +kernel
    have hsome : applyStats topics zeroCopyStats ≠ [] := by
      subst htopics
      decide +kernel
    have hsame := h (topics.map fun t ↦ { t with pairs := t.pairs.reverse }) (by
      rw [List.forall₂_map_right_iff, List.forall₂_same]
      exact fun t _ ↦ ⟨t.pairs.reverse, t.pairs.reverse_perm, rfl⟩)
    obtain ⟨t, ht⟩ := List.exists_mem_of_ne_nil _ hsome
    obtain ⟨u, hu, hverdicts⟩ := exists_of_mem_left hsame ht
    obtain ⟨p, hp, q, hq, hwriter, hreader, htransport⟩ := hdiffer t ht u hu
    exact htransport (hverdicts p hp q hq hwriter hreader).transport_eq
  · intro h
    have hcontested : ∀ t ∈ topics, ∀ u ∈ applyStats topics zeroCopyStats,
        ∃ p ∈ t.pairs, ∃ q ∈ u.pairs, (q.writer = p.writer ∧ q.reader = p.reader) ∧
          contestedPair zeroCopyStats p = true ∧
          InPlace.groupFlagged Pair.writer (fun p ↦ onDatasharing p.verdict) p.writer t.pairs =
            true ∧ "datasharing-not-used" ∉ q.verdict.warnings := by
      subst htopics
      decide +kernel
    have hsome : topics ≠ [] := by
      subst htopics
      decide +kernel
    obtain ⟨t, ht⟩ := List.exists_mem_of_ne_nil _ hsome
    obtain ⟨u, hu, hjudged⟩ := exists_of_mem_left h ht
    obtain ⟨p, hp, q, hq, hends, hpair, hflagged, hcode⟩ := hcontested t ht u hu
    have hfresh : @IsFresh literalFnmatch p := @isFresh_of_mem literalFnmatch _ t (htopics ▸ ht) p hp
    exact hcode (hjudged p hp ((@judgeable_iff literalFnmatch _ t p hfresh).mpr
      ⟨rfl, hpair, hflagged⟩).1 q hq hends.1 hends.2)

end ZeroCopy

end TransportViz.Stats
