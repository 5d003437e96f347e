import TransportViz.Decision.Documented
import TransportViz.Decision.Fresh
import TransportViz.Library.InPlace
import TransportViz.Stats.Branches
import TransportViz.Stats.Evidence

/-!
# The walk over the pairs of a topic

The pairs are rewritten in place, and the data-sharing rule asks about the writer's other pairs while
that happens. `overlayTopic_pairs` shows the walk as an instance of `InPlace.rewriteAll`: the group of
a pair is its writer, the flag says that the pair is on data-sharing, and a pair is contested when the
rule finds DATA submessages that only data-sharing readers can have caused.
-/

namespace TransportViz.Stats

open Decision

/-- On data-sharing, or split from it by the IPC namespace. -/
def onDatasharing (v : Verdict) : Bool := v.transport = .dataSharing || isDatasharingSplit v

/-- The branch that takes data-sharing away, but for the question about the other readers. -/
def Contests (v : Verdict) (m : Measurement) : Prop :=
  ¬Unmatched v ∧ ¬Split v ∧ m.available = true ∧ ¬SilentIntraProcess v m ∧
    v.transport = .dataSharing ∧ AsksReaders m ∧ 0 < m.dataSubmessages

instance (v : Verdict) : Decidable (Unmatched v) := inferInstanceAs (Decidable (_ ∨ _ ∨ _))

instance (v : Verdict) : Decidable (Split v) := inferInstanceAs (Decidable (_ ∈ _))

instance (v : Verdict) (m : Measurement) : Decidable (SilentIntraProcess v m) :=
  inferInstanceAs (Decidable (_ ∧ _))

instance (m : Measurement) : Decidable (AsksReaders m) := inferInstanceAs (Decidable (_ ∧ _ ∧ _))

instance (v : Verdict) (m : Measurement) : Decidable (Contests v m) :=
  inferInstanceAs (Decidable (_ ∧ _ ∧ _ ∧ _ ∧ _ ∧ _ ∧ _))

/-- The prediction with the warnings of the pair's counters: what the overlay starts from. -/
def counted (stats : StatsData) (p : Pair) : Verdict :=
  p.verdict.addWarnings
    (counterWarnings (measured stats p.writer.toEndpoint p.reader.toEndpoint))

def contestedPair (stats : StatsData) (p : Pair) : Bool :=
  Contests (counted stats p) (measured stats p.writer.toEndpoint p.reader.toEndpoint)

section Flag

theorem isDatasharingSplit_iff (v : Verdict) :
    isDatasharingSplit v = true ↔ Split v ∧ "datasharing-qos-enabled-both" ∈ v.reasons := by
  simp only [isDatasharingSplit, Split, Bool.and_eq_true, decide_eq_true_eq]

theorem onDatasharing_iff (v : Verdict) :
    onDatasharing v = true ↔ v.transport = .dataSharing ∨ isDatasharingSplit v = true := by
  simp only [onDatasharing, Bool.or_eq_true, decide_eq_true_eq]

/-- The flag reads the transport and two codes. -/
theorem onDatasharing_congr {v w : Verdict} (htransport : v.transport = w.transport)
    (hsplit : Split v ↔ Split w)
    (hreason : "datasharing-qos-enabled-both" ∈ v.reasons ↔
      "datasharing-qos-enabled-both" ∈ w.reasons) : onDatasharing v = onDatasharing w := by
  rw [Bool.eq_iff_iff, onDatasharing_iff, onDatasharing_iff, isDatasharingSplit_iff,
    isDatasharingSplit_iff, htransport, hsplit, hreason]

theorem onDatasharing_addWarnings (v : Verdict) (codes : List String)
    (h : "shm-ipc-namespace-split" ∉ codes) :
    onDatasharing (v.addWarnings codes) = onDatasharing v :=
  onDatasharing_congr rfl (by simp [Split, h]) Iff.rfl

theorem split_notMem_counterWarnings (m : Measurement) :
    "shm-ipc-namespace-split" ∉ counterWarnings m := by
  unfold counterWarnings
  split_ifs <;> decide

theorem onDatasharing_overlayUnmatched (v : Verdict) (m : Measurement) :
    onDatasharing (overlayUnmatched v m) = onDatasharing v := by
  unfold overlayUnmatched
  split_ifs <;> first | rfl | exact onDatasharing_addWarnings v _ (by decide)

theorem onDatasharing_overlaySplit (v : Verdict) (m : Measurement) :
    onDatasharing (overlaySplit v m) = onDatasharing v := by
  have hreason : "datasharing-qos-enabled-both" ∉ m.transports.map measuredReason := fun hmem ↦
    absurd (measuredReasons_subset m.transports hmem) (by decide)
  unfold overlaySplit
  simp only
  rw [onDatasharing_addWarnings, onDatasharing_addWarnings]
  · exact onDatasharing_congr rfl Iff.rfl (by simp [hreason])
  · split_ifs <;> decide
  · split_ifs <;> decide

theorem not_split_overlayTransport (stats : StatsData) (src : String) (v : Verdict)
    (m : Measurement) (h : ¬Split v) : ¬Split (overlayTransport stats src v m) := by
  obtain ⟨added, hadded, hwarnings⟩ := overlayTransport_warnings stats src v m
  rw [Split, hwarnings, List.mem_append, not_or]
  exact ⟨h, fun hmem ↦ absurd (hadded hmem) (by decide)⟩

theorem onDatasharing_overlayTransport (stats : StatsData) (src : String) (v : Verdict)
    (m : Measurement) (h : ¬Split v) :
    onDatasharing (overlayTransport stats src v m) = onDatasharing v := by
  rw [Bool.eq_iff_iff, onDatasharing_iff, onDatasharing_iff, isDatasharingSplit_iff,
    isDatasharingSplit_iff, overlayTransport_transport]
  simp [h, not_split_overlayTransport stats src v m h]

end Flag

/-- The reasons the overlay adds without taking data-sharing away. -/
def overlayReasons : List String :=
  measuredReasons ++
    ["datasharing-confirmed-no-traffic", "datasharing-ambiguous-mixed-readers",
      "datasharing-confirmed-no-data-submessages", "datasharing-ambiguous-participant-traffic",
      "datasharing-no-delivery-observed"]

/-- The warnings the overlay adds without taking data-sharing away. -/
def overlayWarnings : List String :=
  transportWarnings ++
    ["qos-incompatible-but-delivered", "type-name-mismatch-but-delivered",
      "type-information-mismatch-but-delivered", "shm-ipc-namespace-split-but-delivered",
      "shm-ipc-namespace-split-but-non-shm-traffic", "stats-not-enabled-on-writer"]

section Rule

variable {stats : StatsData} {all : Bool} {src : String} {v w : Verdict} {m : Measurement}

theorem DatasharingRuling.kept (h : DatasharingRuling all v m w)
    (hno : ¬(all = true ∧ AsksReaders m ∧ 0 < m.dataSubmessages)) :
    w.transport = v.transport ∧ w.warnings = v.warnings := by
  cases h with
  | silent | mixed | still | unproven => exact ⟨rfl, rfl⟩
  | notUsed hasks hall hcount => exact absurd ⟨hall, hasks, hcount⟩ hno

theorem DatasharingRuling.reasons_kept (h : DatasharingRuling all v m w)
    (hno : ¬(all = true ∧ AsksReaders m ∧ 0 < m.dataSubmessages)) :
    w.reasons ⊆ v.reasons ++ overlayReasons := by
  have hsettled (code : String) (hcode : code ∈ overlayReasons) :
      (settled v code).reasons ⊆ v.reasons ++ overlayReasons := by
    intro other hother
    rcases mem_of_mem_replaceCode _ _ _ _ hother with rfl | hmem
    · exact List.mem_append_right _ hcode
    · exact List.mem_append_left _ hmem
  cases h with
  | silent | mixed | still => exact hsettled _ (by decide)
  | unproven _ _ _ hcode => rcases hcode with rfl | rfl <;> exact hsettled _ (by decide)
  | notUsed hasks hall hcount => exact absurd ⟨hall, hasks, hcount⟩ hno

theorem DatasharingRuling.eq_notUsed (h : DatasharingRuling true v m w) (hasks : AsksReaders m)
    (hcount : 0 < m.dataSubmessages) : w = datasharingNotUsed v m := by
  cases h with
  | silent _ hquiet => exact absurd hquiet hasks.2.1
  | mixed _ hall => exact absurd hall (by decide)
  | still _ _ hstill => exact absurd hstill hcount.ne'
  | notUsed => rfl
  | unproven _ hnot => exact absurd hasks hnot

/-- Whatever the overlay does to a pair, it leaves the flag alone unless it contests the pair. -/
theorem Overlaid.onDatasharing_eq (h : Overlaid stats all src v m w)
    (hno : ¬(all = true ∧ Contests v m)) : onDatasharing w = onDatasharing v := by
  cases h with
  | unmatched => exact onDatasharing_overlayUnmatched v m
  | split => exact onDatasharing_overlaySplit v m
  | unpublished => exact onDatasharing_addWarnings v _ (by decide)
  | intraProcess => exact onDatasharing_addWarnings v _ (by split_ifs <;> decide)
  | dataSharing hmatched hsplit havailable hloud htransport =>
    have hkept := (datasharingRuling_overlayDataSharing all (dropIntraProcess v) m).kept
      fun hruled ↦ hno ⟨hruled.1, hmatched, hsplit, havailable, hloud, htransport, hruled.2⟩
    rw [(onDatasharing_iff v).mpr (.inl htransport)]
    exact (onDatasharing_iff _).mpr (.inl (hkept.1.trans htransport))
  | transport _ hsplit =>
    have hdropped : ¬Split (dropIntraProcess v) := hsplit
    rw [onDatasharing_overlayTransport stats src _ m hdropped, Bool.eq_iff_iff, onDatasharing_iff,
      onDatasharing_iff, isDatasharingSplit_iff, isDatasharingSplit_iff]
    simp only [hsplit, hdropped, false_and, or_false]
    exact Iff.rfl

/-- A contested pair loses data-sharing once its writer has data-sharing readers only. -/
theorem Overlaid.eq_notUsed (h : Overlaid stats true src v m w) (hcontests : Contests v m) :
    w = datasharingNotUsed (dropIntraProcess v) m := by
  obtain ⟨hmatched, hsplit, havailable, hloud, htransport, hasks, hcount⟩ := hcontests
  cases h with
  | unmatched hnot => exact absurd hnot hmatched
  | split _ hnot => exact absurd hnot hsplit
  | unpublished _ _ hnot => exact absurd havailable (by simp [hnot])
  | intraProcess _ _ _ hnot => exact absurd hnot hloud
  | dataSharing =>
    exact (datasharingRuling_overlayDataSharing true (dropIntraProcess v) m).eq_notUsed hasks hcount
  | transport _ _ _ _ hnot => exact absurd htransport hnot

/-- Short of taking data-sharing away, the overlay only adds codes of two fixed lists. -/
theorem Overlaid.codes_kept (h : Overlaid stats all src v m w)
    (hno : ¬(all = true ∧ Contests v m)) :
    w.reasons ⊆ v.reasons ++ overlayReasons ∧ w.warnings ⊆ v.warnings ++ overlayWarnings := by
  have hreasons : v.reasons ⊆ v.reasons ++ overlayReasons := List.subset_append_left _ _
  have hwarnings : v.warnings ⊆ v.warnings ++ overlayWarnings := List.subset_append_left _ _
  have hmeasured : m.transports.map measuredReason ⊆ v.reasons ++ overlayReasons :=
    List.Subset.trans (measuredReasons_subset _)
      (List.Subset.trans (by decide : measuredReasons ⊆ overlayReasons) (List.subset_append_right _ _))
  have hadded (added : List String) (hsub : added ⊆ overlayWarnings) :
      v.warnings ++ added ⊆ v.warnings ++ overlayWarnings :=
    List.append_subset.mpr ⟨hwarnings, List.Subset.trans hsub (List.subset_append_right _ _)⟩
  have hdropped : (dropIntraProcess v).reasons ⊆ v.reasons := List.filter_subset_self _
  cases h with
  | unmatched =>
    unfold overlayUnmatched
    split_ifs
    · exact ⟨hreasons, hadded _ (by decide)⟩
    · exact ⟨hreasons, hadded _ (by decide)⟩
    · exact ⟨hreasons, hadded _ (by decide)⟩
    · exact ⟨hreasons, hwarnings⟩
  | split =>
    unfold overlaySplit
    simp only [Verdict.addWarnings_reasons, Verdict.addReasons_reasons, Verdict.addWarnings_warnings,
      Verdict.addReasons_warnings, List.append_assoc]
    exact ⟨List.append_subset.mpr ⟨hreasons, hmeasured⟩, hadded _ (List.append_subset.mpr
      ⟨singletonIf_subset _ _ _ (by decide), singletonIf_subset _ _ _ (by decide)⟩)⟩
  | unpublished => exact ⟨hreasons, hadded _ (by decide)⟩
  | intraProcess => exact ⟨hreasons, hadded _ (by split_ifs <;> decide)⟩
  | dataSharing hmatched hsplit havailable hloud htransport =>
    have hruling := datasharingRuling_overlayDataSharing all (dropIntraProcess v) m
    have hnot : ¬(all = true ∧ AsksReaders m ∧ 0 < m.dataSubmessages) := fun hruled ↦
      hno ⟨hruled.1, hmatched, hsplit, havailable, hloud, htransport, hruled.2⟩
    refine ⟨List.Subset.trans (hruling.reasons_kept hnot) (List.append_subset.mpr
      ⟨List.Subset.trans hdropped hreasons, List.subset_append_right _ _⟩), ?_⟩
    rw [(hruling.kept hnot).2]
    exact hwarnings
  | transport =>
    obtain ⟨added, hsub, heq⟩ := overlayTransport_warnings stats src (dropIntraProcess v) m
    rw [heq, overlayTransport_reasons]
    exact ⟨List.append_subset.mpr ⟨List.Subset.trans hdropped hreasons, hmeasured⟩,
      hadded _ (List.Subset.trans hsub (by decide))⟩

theorem Overlaid.codes_subset (h : Overlaid stats all src v m w) :
    w.reasons ⊆ v.reasons ++ (overlayReasons ++ ["datasharing-data-submessages-sent"]) ∧
      w.warnings ⊆ v.warnings ++ (overlayWarnings ++ ["datasharing-not-used"]) := by
  by_cases hruled : all = true ∧ Contests v m
  · obtain ⟨rfl, hcontests⟩ := hruled
    rw [h.eq_notUsed hcontests]
    refine ⟨List.append_subset.mpr ⟨fun code hcode ↦ ?_, ?_⟩, List.append_subset.mpr ⟨?_, ?_⟩⟩
    · rcases mem_of_mem_replaceCode _ _ _ _ hcode with rfl | hmem
      · exact List.mem_append_right _ (by decide)
      · exact List.mem_append_left _ (List.mem_of_mem_filter hmem)
    · exact List.Subset.trans (measuredReasons_subset _) (List.Subset.trans
        (by decide : measuredReasons ⊆ overlayReasons ++ ["datasharing-data-submessages-sent"])
        (List.subset_append_right _ _))
    · exact List.subset_append_left _ _
    · exact List.Subset.trans (by decide : ["datasharing-not-used"] ⊆
        overlayWarnings ++ ["datasharing-not-used"]) (List.subset_append_right _ _)
  · obtain ⟨hreasons, hwarnings⟩ := h.codes_kept hruled
    rw [← List.append_assoc, ← List.append_assoc]
    exact ⟨List.Subset.trans hreasons (List.subset_append_left _ _),
      List.Subset.trans hwarnings (List.subset_append_left _ _)⟩

theorem onDatasharing_notUsed (v : Verdict) (m : Measurement) (hsplit : ¬Split v)
    (hkinds : Transport.dataSharing ∉ m.transports) :
    onDatasharing (datasharingNotUsed v m) = false := by
  have htransport : (datasharingNotUsed v m).transport ≠ .dataSharing := by
    cases hm : m.transports with
    | nil => simp [datasharingNotUsed, hm]
    | cons t rest =>
      rintro heq
      simp only [datasharingNotUsed, hm, List.headD_cons] at heq
      exact hkinds (by simp [hm, heq])
  have hno : ¬Split (datasharingNotUsed v m) := by
    simpa [Split, datasharingNotUsed] using hsplit
  rw [← Bool.not_eq_true, onDatasharing_iff, isDatasharingSplit_iff]
  simp [htransport, hno]

/-- The other readers matter only where the rule asks about them. -/
theorem overlay_true_eq_false (h : v.transport = .dataSharing → ¬SilentIntraProcess v m →
    m.available = true → ¬Unmatched v → ¬Split v → ¬AsksReaders m) :
    overlay stats true src v m = overlay stats false src v m := by
  have hrule (hasks : ¬AsksReaders m) : overlayDataSharing true (dropIntraProcess v) m =
      overlayDataSharing false (dropIntraProcess v) m := by
    unfold overlayDataSharing
    simp only
    by_cases hsilent : m.delivered = true ∧ m.transports = []
    · rw [if_pos hsilent, if_pos hsilent]
    · have hcount : ¬(m.delivered = true ∧ m.dataCountAvailable = true) := fun hcount ↦
        hasks ⟨hcount.1, fun hquiet ↦ hsilent ⟨hcount.1, hquiet⟩, hcount.2⟩
      rw [if_neg hsilent, if_neg hsilent, if_neg hcount, if_neg hcount]
  unfold overlay
  split_ifs with hunmatched hsplit havailable hsilent
  any_goals rfl
  · simp only
    by_cases htransport : v.transport = .dataSharing
    · rw [if_pos htransport, if_pos htransport]
      exact hrule (h htransport hsilent havailable
        (fun hnot ↦ hunmatched ((unmatched_iff v).mpr hnot)) hsplit)
    · rw [if_neg htransport, if_neg htransport]

end Rule

section Pairs

variable [Fnmatch]

/-- The pair is as `summarize` made it. -/
def IsFresh (p : Pair) : Prop := p = freshPair p.writer p.reader

theorem isFresh_of_mem {endpoints : List Endpoint} {t : TopicSummary}
    (ht : t ∈ summarize endpoints) {p : Pair} (hp : p ∈ t.pairs) : IsFresh p := by
  rw [(isSummary_of_mem endpoints t ht).pairs_eq, mem_freshPairs] at hp
  exact hp.2.2

section Fresh

variable {p : Pair}

omit [Fnmatch] in
theorem bufferCodes_subset (endpoints : List EndpointPtr) :
    bufferCodes endpoints ⊆
      ["buffer-companion-folded", "buffer-companion", "buffer-companion-unmatched"] := by
  unfold bufferCodes
  refine List.append_subset.mpr ⟨List.append_subset.mpr ⟨?_, ?_⟩, ?_⟩ <;> split_ifs <;> simp

/-- The native-buffer codes are no other reason. -/
theorem IsFresh.mem_reasons (h : IsFresh p) (code : String)
    (hcode : code ∉ ["buffer-companion-folded", "buffer-companion", "buffer-companion-unmatched"]) :
    code ∈ p.verdict.reasons ↔
      code ∈ (Decision.decide p.writer.toEndpoint p.reader.toEndpoint).reasons := by
  rw [h]
  simp only [freshPair, Verdict.addReasons_reasons, List.mem_append]
  exact or_iff_left fun hmem ↦ hcode (bufferCodes_subset _ hmem)

theorem IsFresh.warnings_eq (h : IsFresh p) :
    p.verdict.warnings = (Decision.decide p.writer.toEndpoint p.reader.toEndpoint).warnings := by
  rw [h]
  rfl

theorem IsFresh.transport_eq (h : IsFresh p) :
    p.verdict.transport = (Decision.decide p.writer.toEndpoint p.reader.toEndpoint).transport := by
  rw [h]
  rfl

theorem IsFresh.confidence_eq (h : IsFresh p) :
    p.verdict.confidence =
      (Decision.decide p.writer.toEndpoint p.reader.toEndpoint).confidence := by
  rw [h]
  rfl

/-- Unmatched and split pairs have no transport. -/
theorem IsFresh.none_certain (h : IsFresh p) (hcode : Unmatched p.verdict ∨ Split p.verdict) :
    p.verdict.transport = .none ∧ p.verdict.confidence = .certain := by
  rw [h.transport_eq, h.confidence_eq]
  refine decide_none_certain _ _ ?_
  unfold Unmatched Split at hcode
  rw [h.warnings_eq, h.mem_reasons _ (by decide), h.mem_reasons _ (by decide),
    typeNameMismatch_mem_iff, typeInformationMismatch_mem_iff] at hcode
  tauto

theorem IsFresh.likely (h : IsFresh p) (htransport : p.verdict.transport = .dataSharing) :
    p.verdict.confidence = .likely := by
  rw [h.transport_eq] at htransport
  rw [h.confidence_eq]
  by_cases htypes : TypesMatch p.writer.toEndpoint p.reader.toEndpoint
  · rw [decide_transport _ _ htypes] at htransport
    rw [decide_confidence _ _ htypes]
    exact (sameTypeVerdict_decideSameType _ _).dataSharing_likely htransport
  · rw [decide_of_not_typesMatch _ _ htypes] at htransport
    cases htransport

/-- No prediction says that data-sharing is not used. -/
theorem IsFresh.notMem_lostCodes (h : IsFresh p) :
    "datasharing-data-submessages-sent" ∉ p.verdict.reasons ∧
      "datasharing-not-used" ∉ p.verdict.warnings := by
  rw [h.mem_reasons _ (by decide), h.warnings_eq]
  exact ⟨fun hmem ↦ absurd (decide_reasons_subset _ _ hmem) (by decide),
    fun hmem ↦ absurd (decide_warnings_subset _ _ hmem) (by decide)⟩

end Fresh

variable {stats : StatsData}

theorem measurePair_measured {p : Pair} (h : IsFresh p) :
    (measurePair stats p).measured = measured stats p.writer.toEndpoint p.reader.toEndpoint := by
  rw [h]
  rfl

theorem measurePair_verdict {p : Pair} (h : IsFresh p) :
    (measurePair stats p).verdict = counted stats p := by
  rw [counted, ← measurePair_measured h]
  rfl

theorem overlaid_overlayPair (stats : StatsData) {p : Pair} (h : IsFresh p) (all : Bool) :
    Overlaid stats all p.writer.participantGuidPrefix (counted stats p)
      (measured stats p.writer.toEndpoint p.reader.toEndpoint)
      (overlayPair stats all p).verdict := by
  rw [← measurePair_verdict h, ← measurePair_measured h]
  exact overlaid_overlay _ _ _ _ _

omit [Fnmatch] in
theorem counterWarnings_subset (m : Measurement) :
    counterWarnings m ⊆ ["rtps-packets-lost", "latency-clock-skew-suspected"] :=
  List.append_subset.mpr ⟨singletonIf_subset _ _ _ (by decide), singletonIf_subset _ _ _ (by decide)⟩

omit [Fnmatch] in
theorem mem_counted_warnings (p : Pair) (code : String)
    (h : code ∉ ["rtps-packets-lost", "latency-clock-skew-suspected"]) :
    code ∈ (counted stats p).warnings ↔ code ∈ p.verdict.warnings := by
  rw [counted, Verdict.addWarnings_warnings, List.mem_append]
  exact or_iff_left fun hmem ↦ h (counterWarnings_subset _ hmem)

omit [Fnmatch] in
theorem unmatched_counted (p : Pair) : Unmatched (counted stats p) ↔ Unmatched p.verdict := by
  unfold Unmatched
  rw [mem_counted_warnings p _ (by decide)]
  exact Iff.rfl

omit [Fnmatch] in
theorem split_counted (p : Pair) : Split (counted stats p) ↔ Split p.verdict :=
  mem_counted_warnings p _ (by decide)

/-- A pair on data-sharing is matched and not split. -/
theorem IsFresh.served {p : Pair} (h : IsFresh p) (htransport : p.verdict.transport = .dataSharing) :
    ¬Unmatched (counted stats p) ∧ ¬Split (counted stats p) := by
  have hnone (hcode : Unmatched p.verdict ∨ Split p.verdict) : False := by
    rw [(h.none_certain hcode).1] at htransport
    cases htransport
  rw [unmatched_counted, split_counted]
  exact ⟨fun hcode ↦ hnone (.inl hcode), fun hcode ↦ hnone (.inr hcode)⟩

omit [Fnmatch] in
theorem silentIntraProcess_counted (p : Pair) :
    SilentIntraProcess (counted stats p)
        (measured stats p.writer.toEndpoint p.reader.toEndpoint) ↔
      "intra-process" ∈ p.verdict.reasons ∧
        ¬PacketsCounted stats p.writer.toEndpoint p.reader.toEndpoint := by
  rw [SilentIntraProcess, ← measured_packets_pos, Nat.pos_iff_ne_zero, not_not]
  exact Iff.rfl

/-- No prediction carries a code of the overlay. -/
theorem IsFresh.notMem_counted {p : Pair} (h : IsFresh p) (code : String)
    (hcode : code ∉ predictionWarnings ++ ["rtps-packets-lost", "latency-clock-skew-suspected"]) :
    code ∉ (counted stats p).warnings := by
  rw [List.mem_append, not_or] at hcode
  rw [mem_counted_warnings p code hcode.2, h.warnings_eq]
  exact fun hmem ↦ hcode.1 (decide_warnings_subset _ _ hmem)

omit [Fnmatch] in
theorem onDatasharing_measurePair (p : Pair) :
    onDatasharing (measurePair stats p).verdict = onDatasharing p.verdict :=
  onDatasharing_addWarnings _ _ (split_notMem_counterWarnings _)

omit [Fnmatch] in
theorem onDatasharing_counted (p : Pair) :
    onDatasharing (counted stats p) = onDatasharing p.verdict :=
  onDatasharing_addWarnings _ _ (split_notMem_counterWarnings _)

theorem isRule_overlayPair {p : Pair} (h : IsFresh p) :
    InPlace.IsRule Pair.writer (fun p ↦ onDatasharing p.verdict) (contestedPair stats)
      (overlayPair stats) p := by
  have hkinds := dataSharing_notMem_measured stats p.writer.toEndpoint p.reader.toEndpoint
  refine ⟨fun _ ↦ rfl, ?_, ?_⟩
  · rw [(overlaid_overlayPair stats h false).onDatasharing_eq (by simp), onDatasharing_counted]
  · by_cases hcontests : Contests (counted stats p)
        (measured stats p.writer.toEndpoint p.reader.toEndpoint)
    · have hcontested : contestedPair stats p = true := decide_eq_true hcontests
      rw [(overlaid_overlayPair stats h true).eq_notUsed hcontests, hcontested, Bool.not_true,
        Bool.and_false]
      exact onDatasharing_notUsed _ _ hcontests.2.1 hkinds
    · have hcontested : contestedPair stats p = false := decide_eq_false hcontests
      rw [hcontested, Bool.not_false, Bool.and_true, ← onDatasharing_counted p]
      exact (overlaid_overlayPair stats h true).onDatasharing_eq fun h ↦ hcontests h.2

omit [Fnmatch] in
theorem allReadersDatasharing_eq (pairs : List Pair) (p : Pair) :
    allReadersDatasharing pairs p =
      InPlace.groupFlagged Pair.writer (fun p ↦ onDatasharing p.verdict) p.writer pairs := by
  unfold allReadersDatasharing InPlace.groupFlagged onDatasharing
  simp only [Bool.or_assoc]

omit [Fnmatch] in
/-- The walk of the source is the in-place walk of the library. -/
theorem overlayPairs_pairs (progress : TopicProgress) (done rest : List Pair) :
    (overlayPairs stats progress done rest).pairs =
      InPlace.rewriteAll Pair.writer (fun p ↦ onDatasharing p.verdict) (overlayPair stats) done
        rest := by
  induction rest generalizing progress done with
  | nil => rfl
  | cons p rest ih =>
    have hasked : allReadersDatasharing (done ++ measurePair stats p :: rest) p =
        InPlace.groupFlagged Pair.writer (fun p ↦ onDatasharing p.verdict) p.writer
          (done ++ p :: rest) := by
      rw [allReadersDatasharing_eq, InPlace.groupFlagged_append, InPlace.groupFlagged_append]
      simp only [InPlace.groupFlagged, List.all_cons, onDatasharing_measurePair]
      rfl
    rw [overlayPairs, ih, hasked, InPlace.rewriteAll]

omit [Fnmatch] in
theorem overlayTopic_pairs (t : TopicSummary) :
    (overlayTopic stats t).pairs =
      InPlace.rewriteAll Pair.writer (fun p ↦ onDatasharing p.verdict) (overlayPair stats) []
        t.pairs := overlayPairs_pairs _ [] t.pairs

/-- `q` is what the walk over the topic `t` makes of its pair `p`: when the rule was told so, the
writer's readers were all on data-sharing. -/
def Ruled (stats : StatsData) (t : TopicSummary) (p q : Pair) : Prop :=
  ∃ all, q = overlayPair stats all p ∧
    (all = true → ∀ other ∈ t.pairs, other.writer = p.writer → onDatasharing other.verdict = true)

theorem forall₂_overlayTopic (stats : StatsData) (t : TopicSummary) (hfresh : ∀ p ∈ t.pairs, IsFresh p) :
    List.Forall₂ (Ruled stats t) t.pairs (overlayTopic stats t).pairs := by
  rw [overlayTopic_pairs, InPlace.rewriteAll_eq_outcomes t.pairs
    fun p hp ↦ isRule_overlayPair (hfresh p hp)]
  refine (InPlace.forall₂_outcomes t.pairs [] t.pairs).imp fun p q ⟨all, heq, hall⟩ ↦ ?_
  exact ⟨all, heq, fun h ↦ (InPlace.groupFlagged_iff p.writer t.pairs).mp (hall h)⟩

/-- What holds of every ruled pair, and of every pair as it was without statistics, holds of the
whole pipeline. -/
theorem forall₂_applyStats (endpoints : List Endpoint) (stats : StatsData)
    (relation : TopicSummary → Pair → Pair → Prop)
    (henabled : stats.enabled = true → ∀ t ∈ summarize endpoints, ∀ p ∈ t.pairs, ∀ q,
      Ruled stats t p q → relation t p q)
    (hdisabled : stats.enabled = false → ∀ t ∈ summarize endpoints, ∀ p ∈ t.pairs,
      relation t p p) :
    List.Forall₂ (fun t u ↦ List.Forall₂ (relation t) t.pairs u.pairs) (summarize endpoints)
      (applyStats (summarize endpoints) stats) := by
  unfold applyStats
  cases hswitch : stats.enabled with
  | true =>
    rw [if_pos rfl, List.forall₂_map_right_iff, List.forall₂_same]
    intro t ht
    have hruled := forall₂_overlayTopic stats t fun p hp ↦ isFresh_of_mem ht hp
    refine ((List.forall₂_and_left _ _).mpr ⟨fun _ hp ↦ hp, hruled⟩).imp fun p q ⟨hp, hq⟩ ↦ ?_
    exact henabled hswitch t ht p hp q hq
  | false =>
    rw [if_neg (by decide), List.forall₂_same]
    exact fun t ht ↦ List.forall₂_same.mpr (hdisabled hswitch t ht)

/-- The walk leaves the pairs between the endpoints they are between. -/
theorem map_ends_overlayTopic (stats : StatsData) (t : TopicSummary)
    (hfresh : ∀ p ∈ t.pairs, IsFresh p) :
    (overlayTopic stats t).pairs.map (fun p ↦ (p.writer, p.reader)) =
      t.pairs.map fun p ↦ (p.writer, p.reader) := by
  apply Eq.symm
  apply map_eq_map_of_forall₂ (forall₂_overlayTopic stats t hfresh)
  intro p q ⟨all, heq, _⟩
  rw [heq]
  rfl

omit [Fnmatch] in
/-- What `applyStats` makes of a list of topics, one by one. -/
theorem applyStats_cases {topics : List TopicSummary} {stats : StatsData} {u : TopicSummary}
    (hu : u ∈ applyStats topics stats) :
    (stats.enabled = true ∧ ∃ t ∈ topics, overlayTopic stats t = u) ∨
      (stats.enabled = false ∧ u ∈ topics) := by
  unfold applyStats at hu
  cases henabled : stats.enabled with
  | true =>
    rw [if_pos henabled] at hu
    exact .inl ⟨rfl, List.mem_map.mp hu⟩
  | false =>
    rw [if_neg (Bool.eq_false_iff.mp henabled)] at hu
    exact .inr ⟨rfl, hu⟩

/-- Every pair carries what the statistics say of its two ends, and nothing without statistics. -/
theorem measured_of_mem_applyStats {endpoints : List Endpoint} {stats : StatsData} {u : TopicSummary}
    (hu : u ∈ applyStats (summarize endpoints) stats) {q : Pair} (hq : q ∈ u.pairs) :
    q.measured =
      if stats.enabled then measured stats q.writer.toEndpoint q.reader.toEndpoint else {} := by
  rcases applyStats_cases hu with ⟨henabled, t, ht, htopic⟩ | ⟨hdisabled, ht⟩
  · rw [← htopic] at hq
    have hruled := forall₂_overlayTopic stats t fun p hp ↦ isFresh_of_mem ht hp
    obtain ⟨p, hp, all, heq, -⟩ := exists_of_mem_right hruled hq
    rw [if_pos henabled, heq]
    exact measurePair_measured (isFresh_of_mem ht hp)
  · rw [if_neg (Bool.eq_false_iff.mp hdisabled), isFresh_of_mem ht hq]
    rfl

/-- The codes of a lost data-sharing verdict: given to contested pairs, and to each of them that is
told of no other reader. -/
theorem notUsed_mem_overlayPair_iff (stats : StatsData) {p : Pair} (h : IsFresh p) (all : Bool) :
    ("datasharing-not-used" ∈ (overlayPair stats all p).verdict.warnings ↔
      all = true ∧ contestedPair stats p = true) ∧
    ("datasharing-data-submessages-sent" ∈ (overlayPair stats all p).verdict.reasons ↔
      all = true ∧ contestedPair stats p = true) := by
  have hoverlaid := overlaid_overlayPair stats h all
  rw [contestedPair, decide_eq_true_eq]
  by_cases hruled : all = true ∧ Contests (counted stats p)
      (measured stats p.writer.toEndpoint p.reader.toEndpoint)
  · obtain ⟨rfl, hcontests⟩ := hruled
    rw [hoverlaid.eq_notUsed hcontests]
    refine ⟨iff_of_true ?_ ⟨rfl, hcontests⟩, iff_of_true ?_ ⟨rfl, hcontests⟩⟩
    · simp [datasharingNotUsed]
    · exact List.mem_append_left _ (mem_replaceCode_new _ _ _)
  · obtain ⟨hkeptReasons, hkeptWarnings⟩ := hoverlaid.codes_kept hruled
    refine ⟨iff_of_false (fun hmem ↦ ?_) hruled, iff_of_false (fun hmem ↦ ?_) hruled⟩
    · rcases List.mem_append.mp (hkeptWarnings hmem) with hmem | hmem
      · exact h.notMem_counted _ (by decide) hmem
      · exact absurd hmem (by decide)
    · rcases List.mem_append.mp (hkeptReasons hmem) with hmem | hmem
      · exact h.notMem_lostCodes.1 hmem
      · exact absurd hmem (by decide)

end Pairs

end TransportViz.Stats
