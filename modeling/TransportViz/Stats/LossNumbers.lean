import TransportViz.Library.Words
import TransportViz.Model.Text
import TransportViz.Stats.Unserved

/-!
# The loss numbers of a document

`noteUnmeasuredPairs` counts the pairs with a proven delivery and those of them without a measured
packet. Pairs Fast DDS never matches should be in neither number. The pairs with incompatible QoS and
the split ones are not; the pairs with different types are, as soon as a delivery of theirs is proven.
-/

namespace TransportViz.Stats

open Decision

/-! ## Model -/

def statisticsCounterSamplesLost (stats : StatsData) : ℕ :=
  if stats.samplesLostLatency < stats.samplesLost then
    Words.sub stats.samplesLost stats.samplesLostLatency
  else 0

/-- Counter samples the tool did not get: lost or rejected. -/
def statisticsLost (stats : StatsData) : ℕ :=
  Words.add (statisticsCounterSamplesLost stats) stats.samplesRejected

def statisticsSamplesWereLost (stats : StatsData) : Bool :=
  0 < statisticsLost stats && stats.pairsDeliveredAbsent < stats.pairsDeliveredUnmeasured

/-- The pairs that are in the loss numbers. -/
def countsDelivered (p : Pair) : Bool :=
  !(!p.measured.available || !p.measured.delivered || p.verdict.transport = .dataSharing ||
    "intra-process" ∈ p.verdict.reasons || "qos-incompatible" ∈ p.verdict.warnings ||
    "shm-ipc-namespace-split" ∈ p.verdict.warnings ||
    "stats-writer-instance-limit-suspected" ∈ p.verdict.warnings)

/-- What one pair adds to the numbers; `lost` says that samples were lost. -/
def notePair (lost : Bool) (stats : StatsData) (p : Pair) : StatsData :=
  if countsDelivered p then
    let stats := { stats with pairsDelivered := stats.pairsDelivered + 1 }
    if p.measured.packets = 0 then
      let stats := { stats with pairsDeliveredUnmeasured := stats.pairsDeliveredUnmeasured + 1 }
      -- a lost sample can only explain a pair whose RTPS_SENT instance was seen
      if !lost || p.measured.packetsTotal = 0 then
        { stats with pairsDeliveredAbsent := stats.pairsDeliveredAbsent + 1 }
      else stats
    else stats
  else stats

/-- The warning `code`, given anew. -/
def renewWarning (stats : StatsData) (code : String) (holds : Bool) : StatsData :=
  { stats with
    warnings := stats.warnings.filter (· ≠ code) ++ if holds then [code] else [] }

def noteUnmeasuredPairs (topics : List TopicSummary) (stats : StatsData) : StatsData :=
  let stats := { stats with
    pairsDelivered := 0
    pairsDeliveredUnmeasured := 0
    pairsDeliveredAbsent := 0 }
  let lost : Bool := 0 < statisticsLost stats
  let stats := (topics.flatMap TopicSummary.pairs).foldl (notePair lost) stats
  let stats := renewWarning stats "stats-samples-lost" (statisticsSamplesWereLost stats)
  renewWarning stats "rtps-sent-absent" (0 < stats.pairsDeliveredAbsent)

/-! ## Pairs that are not served -/

instance (v : Verdict) : Decidable (Unserved v) := inferInstanceAs (Decidable (_ ∨ _))

/-- The topics without the pairs that Fast DDS does not serve. -/
def servedOnly (topics : List TopicSummary) : List TopicSummary :=
  topics.map fun t ↦ { t with pairs := t.pairs.filter fun p ↦ ¬Unserved p.verdict }

/-- Pairs that are not served contribute to none of the loss numbers and raise no loss warning. -/
def LossNumbersServedOnly (topics : List TopicSummary) (stats : StatsData) : Prop :=
  noteUnmeasuredPairs topics stats = noteUnmeasuredPairs (servedOnly topics) stats

theorem notePair_of_not_counted (lost : Bool) (stats : StatsData) {p : Pair}
    (h : countsDelivered p = false) : notePair lost stats p = stats := by
  simp [notePair, h]

/-- Counted without a measured packet. -/
def countsUnmeasured (p : Pair) : Bool := countsDelivered p && p.measured.packets = 0

/-- Counted without a measured packet, and no lost sample explains it. -/
def countsAbsent (lost : Bool) (p : Pair) : Bool :=
  countsUnmeasured p && (!lost || p.measured.packetsTotal = 0)

theorem notePair_eq (lost : Bool) (stats : StatsData) (p : Pair) :
    notePair lost stats p = { stats with
      pairsDelivered := stats.pairsDelivered + if countsDelivered p then 1 else 0
      pairsDeliveredUnmeasured :=
        stats.pairsDeliveredUnmeasured + if countsUnmeasured p then 1 else 0
      pairsDeliveredAbsent := stats.pairsDeliveredAbsent + if countsAbsent lost p then 1 else 0 } := by
  unfold notePair countsAbsent countsUnmeasured
  cases countsDelivered p with
  | false => rfl
  | true =>
    by_cases hpackets : p.measured.packets = 0
    · by_cases habsent : (!lost || decide (p.measured.packetsTotal = 0)) = true
      · simp [hpackets, habsent]
      · simp [hpackets, habsent]
    · simp [hpackets]

/-- The numbers count pairs, and nothing else changes. -/
theorem foldl_notePair (lost : Bool) (stats : StatsData) (pairs : List Pair) :
    pairs.foldl (notePair lost) stats = { stats with
      pairsDelivered := stats.pairsDelivered + pairs.countP countsDelivered
      pairsDeliveredUnmeasured := stats.pairsDeliveredUnmeasured + pairs.countP countsUnmeasured
      pairsDeliveredAbsent := stats.pairsDeliveredAbsent + pairs.countP (countsAbsent lost) } := by
  induction pairs generalizing stats with
  | nil => rfl
  | cons p rest ih =>
    rw [List.foldl_cons, ih, notePair_eq, List.countP_cons, List.countP_cons, List.countP_cons]
    simp only [Nat.add_assoc, Nat.add_comm (rest.countP _)]

/-- Pairs that are not counted can be left out. -/
theorem foldl_notePair_filter (lost : Bool) (stats : StatsData) (pairs : List Pair)
    (kept : Pair → Bool) (h : ∀ p ∈ pairs, kept p = false → countsDelivered p = false) :
    (pairs.filter kept).foldl (notePair lost) stats = pairs.foldl (notePair lost) stats := by
  induction pairs generalizing stats with
  | nil => rfl
  | cons p rest ih =>
    have hrest := fun stats ↦ ih stats fun q hq ↦ h q (List.mem_cons_of_mem p hq)
    cases hkept : kept p with
    | true => rw [List.filter_cons_of_pos hkept, List.foldl_cons, List.foldl_cons, hrest]
    | false =>
      have hnot := h p (List.mem_cons_self ..) hkept
      rw [List.filter_cons_of_neg (by simp [hkept]), List.foldl_cons, hrest,
        notePair_of_not_counted lost stats hnot]

theorem flatMap_servedOnly (topics : List TopicSummary) :
    (servedOnly topics).flatMap TopicSummary.pairs =
      (topics.flatMap TopicSummary.pairs).filter fun p ↦ ¬Unserved p.verdict := by
  rw [servedOnly, List.flatMap_map, List.filter_flatMap]

theorem noteUnmeasuredPairs_pairsDelivered (topics : List TopicSummary) (stats : StatsData) :
    (noteUnmeasuredPairs topics stats).pairsDelivered =
      (topics.flatMap TopicSummary.pairs).countP countsDelivered := by
  simp [noteUnmeasuredPairs, renewWarning, foldl_notePair]

/-- The numbers show the pairs that are not served exactly when they count one of them. -/
theorem lossNumbersServedOnly_iff_counted (topics : List TopicSummary) (stats : StatsData) :
    LossNumbersServedOnly topics stats ↔
      ∀ t ∈ topics, ∀ p ∈ t.pairs, Unserved p.verdict → countsDelivered p = false := by
  constructor
  · intro h t ht p hp hunserved
    have hcount := congrArg StatsData.pairsDelivered h
    rw [noteUnmeasuredPairs_pairsDelivered, noteUnmeasuredPairs_pairsDelivered,
      flatMap_servedOnly, List.countP_eq_countP_filter_add _ _ fun p ↦ ¬Unserved p.verdict] at hcount
    have hzero := List.countP_eq_zero.mp (Nat.add_eq_left.mp hcount)
    refine Bool.not_eq_true _ ▸ hzero p (List.mem_filter.mpr ⟨List.mem_flatMap.mpr ⟨t, ht, hp⟩, ?_⟩)
    simpa using hunserved
  · intro h
    have hskipped : ∀ p ∈ topics.flatMap TopicSummary.pairs,
        decide (¬Unserved p.verdict) = false → countsDelivered p = false := by
      intro p hp hdecide
      obtain ⟨t, ht, hmem⟩ := List.mem_flatMap.mp hp
      exact h t ht p hmem (by simpa using hdecide)
    unfold LossNumbersServedOnly noteUnmeasuredPairs
    simp only [flatMap_servedOnly]
    rw [foldl_notePair_filter _ _ _ _ hskipped]

section Pairs

variable [Fnmatch] {stats : StatsData} {t : TopicSummary} {p q : Pair}

/-- A pair whose types differ, whose writer publishes statistics and whose delivery is proven. -/
def DeliveredAcrossTypes (stats : StatsData) (p : Pair) : Prop :=
  ¬TypesMatch p.writer.toEndpoint p.reader.toEndpoint ∧
    PublishesStats stats p.writer.toEndpoint ∧ Proven stats p

theorem unserved_of_ruled (hfresh : IsFresh p) (hruled : Ruled stats t p q)
    (hunserved : Unserved q.verdict) : Unserved p.verdict := by
  obtain ⟨all, rfl, -⟩ := hruled
  have hoverlaid := overlaid_overlayPair stats hfresh all
  by_contra hserved
  have hserved' : ¬Unserved (counted stats p) := by
    rwa [Unserved, unmatched_counted, split_counted]
  obtain ⟨hreasons, hwarnings⟩ := hoverlaid.codes_subset
  have hreason (code : String) (hcode : code ∉ overlayReasons ++ ["datasharing-data-submessages-sent"])
      (hmem : code ∈ (overlayPair stats all p).verdict.reasons) : code ∈ (counted stats p).reasons :=
    (List.mem_append.mp (hreasons hmem)).resolve_right hcode
  have hwarning (code : String) (hcode : code ∉ overlayWarnings ++ ["datasharing-not-used"])
      (hmem : code ∈ (overlayPair stats all p).verdict.warnings) : code ∈ (counted stats p).warnings :=
    (List.mem_append.mp (hwarnings hmem)).resolve_right hcode
  rcases hunserved with (hqos | hname | hinformation) | hsplit
  · exact hserved' (.inl (.inl (hwarning _ (by decide) hqos)))
  · exact hserved' (.inl (.inr (.inl (hreason _ (by decide) hname))))
  · exact hserved' (.inl (.inr (.inr (hreason _ (by decide) hinformation))))
  · exact hserved' (.inr (hwarning _ (by decide) hsplit))

/-- A pair with one type is out of the numbers when it is not served. -/
theorem notCounted_of_typesMatch (henabled : stats.enabled = true) (hfresh : IsFresh p)
    (hruled : Ruled stats t p q) (htypes : TypesMatch p.writer.toEndpoint p.reader.toEndpoint)
    (hunserved : Unserved q.verdict) : countsDelivered q = false := by
  rcases unserved_of_ruled hfresh hruled hunserved with (hqos | hname | hinformation) | hsplit
  · obtain ⟨_, _, _, _, _, _, hwarnings, -⟩ :=
      unmatchedKept_of_ruled henabled hfresh hruled .qosIncompatible hqos
    have hmem : "qos-incompatible" ∈ q.verdict.warnings := by
      rw [hwarnings]
      exact List.mem_append_left _ (List.mem_append_left _ hqos)
    simp [countsDelivered, hmem]
  · rw [hfresh.mem_reasons _ (by decide), typeNameMismatch_mem_iff] at hname
    exact absurd htypes hname.1
  · rw [hfresh.mem_reasons _ (by decide), typeInformationMismatch_mem_iff] at hinformation
    exact absurd htypes hinformation.1
  · have hmem := (splitKept_of_ruled henabled hfresh hruled hsplit).warnings.subset hsplit
    simp [countsDelivered, hmem]

/-- The kind of a pair whose types differ. -/
theorem IsFresh.exists_judged (h : IsFresh p)
    (htypes : ¬TypesMatch p.writer.toEndpoint p.reader.toEndpoint) :
    ∃ kind : UnmatchedKind, kind.Judged p.verdict := by
  by_cases hnames : p.writer.ddsType = p.reader.ddsType
  · refine ⟨.typeInformation, (h.mem_reasons _ (by decide)).mpr ?_⟩
    exact (typeInformationMismatch_mem_iff _ _).mpr ⟨htypes, hnames⟩
  · refine ⟨.typeName, (h.mem_reasons _ (by decide)).mpr ?_⟩
    exact (typeNameMismatch_mem_iff _ _).mpr ⟨htypes, hnames⟩

omit [Fnmatch] in
theorem UnmatchedKept.unserved {kind : UnmatchedKind} (h : UnmatchedKept stats kind p q)
    (hkind : kind.Judged p.verdict) : Unserved q.verdict := by
  obtain ⟨_, _, _, hreasons, _, _, hwarnings, -⟩ := h
  refine .inl ((unmatched_iff_exists _).mpr ⟨kind, ?_⟩)
  cases kind with
  | qosIncompatible =>
    simp only [UnmatchedKind.Judged, hwarnings]
    exact List.mem_append_left _ (List.mem_append_left _ hkind)
  | typeName | typeInformation =>
    simp only [UnmatchedKind.Judged, hreasons]
    exact hkind

omit [Fnmatch] in
theorem UnmatchedKept.mem_warnings {kind : UnmatchedKind} (h : UnmatchedKept stats kind p q)
    (code : String) (hcounters : code ∉ ["rtps-packets-lost", "latency-clock-skew-suspected"])
    (htold : code ≠ kind.butDelivered) (hmem : code ∈ q.verdict.warnings) :
    code ∈ p.verdict.warnings := by
  obtain ⟨counters, told, hwarnings, hsublist, htoldEq⟩ := h.warnings
  rw [hwarnings, List.mem_append, List.mem_append] at hmem
  rcases hmem with (hmem | hmem) | hmem
  · exact hmem
  · exact absurd (hsublist.subset hmem) hcounters
  · rcases htoldEq with ⟨rfl, -⟩ | ⟨rfl, -⟩
    · exact absurd (List.mem_singleton.mp hmem) htold
    · cases hmem

/-- A pair with two types is in the numbers as soon as its delivery is proven. -/
theorem counted_iff_of_not_typesMatch (henabled : stats.enabled = true) (hfresh : IsFresh p)
    (hruled : Ruled stats t p q)
    (htypes : ¬TypesMatch p.writer.toEndpoint p.reader.toEndpoint) :
    (Unserved q.verdict ∧ countsDelivered q = true) ↔
      PublishesStats stats p.writer.toEndpoint ∧ Proven stats p := by
  obtain ⟨kind, hkind⟩ := hfresh.exists_judged htypes
  have hkept := unmatchedKept_of_ruled henabled hfresh hruled kind hkind
  have hmeasured : q.measured = measured stats p.writer.toEndpoint p.reader.toEndpoint := by
    obtain ⟨all, rfl, -⟩ := hruled
    exact measurePair_measured hfresh
  have hwarning (code : String)
      (hcounters : code ∉ ["rtps-packets-lost", "latency-clock-skew-suspected"])
      (htold : code ≠ kind.butDelivered) (hhash : code ≠ "type-hash-mismatch") :
      code ∉ q.verdict.warnings := fun hmem ↦
    htypes (hfresh.typesMatch_of_warning code hhash (hkept.mem_warnings code hcounters htold hmem))
  have hqos := hwarning "qos-incompatible" (by decide) (by cases kind <;> decide) (by decide)
  have hsplit := hwarning "shm-ipc-namespace-split" (by decide) (by cases kind <;> decide) (by decide)
  have hlimit := hwarning "stats-writer-instance-limit-suspected" (by decide)
    (by cases kind <;> decide) (by decide)
  have hintra : "intra-process" ∉ p.verdict.reasons := by
    rw [hfresh.mem_reasons _ (by decide), decide_of_not_typesMatch _ _ htypes]
    split_ifs <;> simp
  rw [and_iff_right (hkept.unserved hkind), Proven, and_iff_right henabled, ← measured_available,
    ← measured_delivered, ← hmeasured]
  simp [countsDelivered, hkept.transport, hkept.reasons, hqos, hsplit, hlimit, hintra]

/-- What the loss numbers count of the pairs that are not served. -/
theorem counted_applyStats (endpoints : List Endpoint) (stats : StatsData) :
    List.Forall₂ (fun t u ↦ List.Forall₂ (fun p q ↦
        (Unserved q.verdict ∧ countsDelivered q = true) ↔ DeliveredAcrossTypes stats p)
        t.pairs u.pairs)
      (summarize endpoints) (applyStats (summarize endpoints) stats) := by
  refine forall₂_applyStats endpoints stats (fun _ p q ↦
    (Unserved q.verdict ∧ countsDelivered q = true) ↔ DeliveredAcrossTypes stats p) ?_ ?_
  · intro henabled t ht p hp q hruled
    have hfresh := isFresh_of_mem ht hp
    by_cases htypes : TypesMatch p.writer.toEndpoint p.reader.toEndpoint
    · refine iff_of_false (fun h ↦ ?_) fun h ↦ h.1 htypes
      rw [notCounted_of_typesMatch henabled hfresh hruled htypes h.1] at h
      cases h.2
    · rw [counted_iff_of_not_typesMatch henabled hfresh hruled htypes, DeliveredAcrossTypes,
        and_iff_right htypes]
  · intro hdisabled t ht p hp
    have havailable : p.measured.available = false := by
      rw [isFresh_of_mem ht hp]
      rfl
    refine iff_of_false (fun h ↦ ?_) fun h ↦ ?_
    · simp [countsDelivered, havailable] at h
    · simp [DeliveredAcrossTypes, Proven, hdisabled] at h

/-- The loss numbers leave the pairs out that are not served, exactly when no delivery is proven of a
pair whose types differ and whose writer publishes statistics. -/
theorem lossNumbersServedOnly_iff (endpoints : List Endpoint) (stats : StatsData) :
    LossNumbersServedOnly (applyStats (summarize endpoints) stats) stats ↔
      ∀ t ∈ summarize endpoints, ∀ p ∈ t.pairs, ¬DeliveredAcrossTypes stats p := by
  have hcounted := counted_applyStats endpoints stats
  rw [lossNumbersServedOnly_iff_counted]
  constructor
  · intro h t ht p hp hacross
    obtain ⟨u, hu, hpairs⟩ := exists_of_mem_left hcounted ht
    obtain ⟨q, hq, hiff⟩ := exists_of_mem_left hpairs hp
    obtain ⟨hunserved, hcounts⟩ := hiff.mpr hacross
    rw [h u hu q hq hunserved] at hcounts
    cases hcounts
  · intro h u hu q hq hunserved
    obtain ⟨t, ht, hpairs⟩ := exists_of_mem_right hcounted hu
    obtain ⟨p, hp, hiff⟩ := exists_of_mem_right hpairs hq
    rw [← Bool.not_eq_true]
    exact fun hcounts ↦ h t ht p hp (hiff.mp ⟨hunserved, hcounts⟩)

end Pairs

section Recompiled

/-- A node of one host on an image topic, with the given message type. -/
def typedEndpoint (isWriter : Bool) (ddsType : String) (process entity : UInt8) : Endpoint :=
  let guid := guidOnHost process entity
  { isWriter := isWriter
    guid := guidToString guid
    guidBytes := guid
    hostId := sampleHostId
    participantGuidPrefix := prefixToString guid
    ddsTopic := "rt/image"
    ddsType := ddsType
    rosTopic := "/image"
    nodeName := "/camera" }

def typedWriter : Endpoint := typedEndpoint true "sensor_msgs::msg::dds_::Image_" 1 0x12

def typedReader : Endpoint := typedEndpoint false "sensor_msgs::msg::dds_::CompressedImage_" 2 0x22

/-- The two are never matched, and a delivery is reported all the same. -/
def typedStats : StatsData where
  enabled := true
  delivered := .ofList [(toLex (typedWriter.guid, typedReader.guid), 1)]
  participantsWithStats := {typedWriter.participantGuidPrefix}

/-- A delivery across two types is counted, and reported as one without a measured packet. -/
theorem typed_not_lossNumbersServedOnly :
    ¬LossNumbersServedOnly (applyStats (@summarize literalFnmatch [typedWriter, typedReader])
        typedStats) typedStats ∧
      (noteUnmeasuredPairs (applyStats (@summarize literalFnmatch [typedWriter, typedReader])
        typedStats) typedStats).warnings = ["rtps-sent-absent"] := by
  have hwarnings : (noteUnmeasuredPairs (applyStats
      (@summarize literalFnmatch [typedWriter, typedReader]) typedStats) typedStats).warnings =
        ["rtps-sent-absent"] := by decide +kernel
  have hserved : (noteUnmeasuredPairs (servedOnly (applyStats
      (@summarize literalFnmatch [typedWriter, typedReader]) typedStats)) typedStats).warnings =
        [] := by decide +kernel
  refine ⟨fun h ↦ ?_, hwarnings⟩
  have hsame := congrArg StatsData.warnings h
  rw [hwarnings, hserved] at hsame
  cases hsame

end Recompiled

end TransportViz.Stats
