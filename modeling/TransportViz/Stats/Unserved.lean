import TransportViz.Stats.MeasuredVerdicts

/-!
# Pairs Fast DDS cannot serve

Whatever is measured of a pair that Fast DDS never matches, or that the IPC namespace splits, its
prediction stays. `UnmatchedKept` and `SplitKept` say what is kept and which codes are added to it.
-/

namespace TransportViz.Stats

open Decision

/-- Why Fast DDS never matches a pair. -/
inductive UnmatchedKind where
  | qosIncompatible
  | typeName
  | typeInformation
  deriving DecidableEq, Repr

/-- The prediction `v` is of this kind. -/
def UnmatchedKind.Judged (v : Verdict) : UnmatchedKind → Prop
  | .qosIncompatible => "qos-incompatible" ∈ v.warnings
  | .typeName => "type-name-mismatch" ∈ v.reasons
  | .typeInformation => "type-information-mismatch" ∈ v.reasons

/-- The code for a pair of this kind whose data arrived all the same. -/
def UnmatchedKind.butDelivered : UnmatchedKind → String
  | .qosIncompatible => "qos-incompatible-but-delivered"
  | .typeName => "type-name-mismatch-but-delivered"
  | .typeInformation => "type-information-mismatch-but-delivered"

/-- A delivery of the pair is measured and proven. -/
def Proven (stats : StatsData) (p : Pair) : Prop :=
  stats.enabled = true ∧ DeliveryProven stats p.writer.toEndpoint p.reader.toEndpoint

/-- `q` is the never-matched pair `p` with warnings added to it. -/
structure UnmatchedKept (stats : StatsData) (kind : UnmatchedKind) (p q : Pair) : Prop where
  transport : q.verdict.transport = .none
  confidence : q.verdict.confidence = .certain
  locator : q.verdict.locator = p.verdict.locator
  reasons : q.verdict.reasons = p.verdict.reasons
  warnings : ∃ counters told,
    q.verdict.warnings = p.verdict.warnings ++ counters ++ told ∧
      counters.Sublist ["rtps-packets-lost", "latency-clock-skew-suspected"] ∧
      ((told = [kind.butDelivered] ∧ Proven stats p) ∨ (told = [] ∧ ¬Proven stats p))

/-- `q` is the split pair `p` with the measured kinds added to it. -/
structure SplitKept (stats : StatsData) (p q : Pair) : Prop where
  transport : q.verdict.transport = .none
  confidence : q.verdict.confidence = .certain
  locator : q.verdict.locator = p.verdict.locator
  reasons : ∃ kinds : List Transport,
    q.verdict.reasons = p.verdict.reasons ++ kinds.map measuredReason ∧ kinds.Nodup ∧
      ∀ t, t ∈ kinds ↔ stats.enabled = true ∧
        ∃ s, Carried stats p.writer.toEndpoint p.reader.toEndpoint s ∧
          transportForKind s.dst.kind = t
  warnings : p.verdict.warnings <+: q.verdict.warnings
  delivered : "shm-ipc-namespace-split-but-delivered" ∈ q.verdict.warnings ↔ Proven stats p
  nonShm : "shm-ipc-namespace-split-but-non-shm-traffic" ∈ q.verdict.warnings ↔
    stats.enabled = true ∧ BothShm p.writer.toEndpoint p.reader.toEndpoint ∧
      ∃ s, Carried stats p.writer.toEndpoint p.reader.toEndpoint s ∧ s.dst.kind ≠ .shm ∧
        s.packetsFirst < s.packets

/-- The overlay leaves a pair that is not served as it was predicted. -/
structure UnservedKept (stats : StatsData) (p q : Pair) : Prop where
  writer_eq : q.writer = p.writer
  reader_eq : q.reader = p.reader
  unmatched : ∀ kind, kind.Judged p.verdict → UnmatchedKept stats kind p q
  split : Split p.verdict → SplitKept stats p q

theorem unmatched_iff_exists (v : Verdict) : Unmatched v ↔ ∃ kind, UnmatchedKind.Judged v kind := by
  constructor
  · rintro (hqos | hname | hinformation)
    · exact ⟨.qosIncompatible, hqos⟩
    · exact ⟨.typeName, hname⟩
    · exact ⟨.typeInformation, hinformation⟩
  · rintro ⟨kind, hkind⟩
    cases kind with
    | qosIncompatible => exact .inl hkind
    | typeName => exact .inr (.inl hkind)
    | typeInformation => exact .inr (.inr hkind)

theorem counterWarnings_sublist (m : Measurement) :
    (counterWarnings m).Sublist ["rtps-packets-lost", "latency-clock-skew-suspected"] := by
  unfold counterWarnings
  split_ifs <;> simp

section Fresh

variable [Fnmatch] {p : Pair}

theorem IsFresh.typesMatch_of_warning (h : IsFresh p) (code : String)
    (hcode : code ≠ "type-hash-mismatch") (hmem : code ∈ p.verdict.warnings) :
    TypesMatch p.writer.toEndpoint p.reader.toEndpoint := by
  by_contra htypes
  rw [h.warnings_eq, decide_of_not_typesMatch _ _ htypes] at hmem
  split_ifs at hmem <;> simp [hcode] at hmem

/-- A prediction names one reason why a pair is not served. -/
theorem IsFresh.judged_unique (h : IsFresh p) {kind other : UnmatchedKind}
    (hkind : kind.Judged p.verdict) (hother : other.Judged p.verdict) : kind = other := by
  have hpolicy := h.typesMatch_of_warning "qos-incompatible" (by decide)
  have hname := typeNameMismatch_mem_iff p.writer.toEndpoint p.reader.toEndpoint
  have hinformation := typeInformationMismatch_mem_iff p.writer.toEndpoint p.reader.toEndpoint
  rw [← h.mem_reasons _ (by decide)] at hname hinformation
  cases kind <;> cases other <;> simp only [UnmatchedKind.Judged, hname, hinformation] at * <;> tauto

theorem IsFresh.not_unmatched_of_split (h : IsFresh p) (hsplit : Split p.verdict) :
    ¬Unmatched p.verdict ∧ TypesMatch p.writer.toEndpoint p.reader.toEndpoint := by
  have htypes := h.typesMatch_of_warning _ (by decide) hsplit
  refine ⟨?_, htypes⟩
  rintro (hqos | hname | hinformation)
  · have hshape := sameTypeVerdict_decideSameType p.writer.toEndpoint p.reader.toEndpoint
    rw [Split, h.warnings_eq, mem_decide_warnings _ _ htypes _ (by decide)] at hsplit
    rw [h.warnings_eq, mem_decide_warnings _ _ htypes _ (by decide)] at hqos
    exact hshape.not_split_of_qosIncompatible hqos hsplit
  · rw [h.mem_reasons _ (by decide), typeNameMismatch_mem_iff] at hname
    exact hname.1 htypes
  · rw [h.mem_reasons _ (by decide), typeInformationMismatch_mem_iff] at hinformation
    exact hinformation.1 htypes

theorem IsFresh.bothShmCode_iff (h : IsFresh p) (hsplit : Split p.verdict) :
    "both-shm-locators" ∈ p.verdict.reasons ↔
      BothShm p.writer.toEndpoint p.reader.toEndpoint := by
  have htypes := (h.not_unmatched_of_split hsplit).2
  rw [Split, h.warnings_eq, mem_decide_warnings _ _ htypes _ (by decide)] at hsplit
  rw [h.mem_reasons _ (by decide), mem_decide_reasons _ _ htypes _ (by decide) (by decide) (by decide)]
  exact (sameTypeVerdict_decideSameType _ _).bothShmCode_iff hsplit

end Fresh

section Overlaid

variable {stats : StatsData} {all : Bool} {src : String} {v w : Verdict} {m : Measurement}

theorem Overlaid.eq_overlayUnmatched (h : Overlaid stats all src v m w) (hunmatched : Unmatched v) :
    w = overlayUnmatched v m := by
  cases h with
  | unmatched => rfl
  | split hmatched | unpublished hmatched | intraProcess hmatched | dataSharing hmatched
  | transport hmatched => exact absurd hunmatched hmatched

theorem Overlaid.eq_overlaySplit (h : Overlaid stats all src v m w) (hmatched : ¬Unmatched v)
    (hsplit : Split v) : w = overlaySplit v m := by
  cases h with
  | unmatched hunmatched => exact absurd hunmatched hmatched
  | split => rfl
  | unpublished _ hnot | intraProcess _ hnot | dataSharing _ hnot | transport _ hnot =>
    exact absurd hsplit hnot

theorem overlayUnmatched_eq (v : Verdict) (m : Measurement) (kind : UnmatchedKind)
    (hkind : kind.Judged v) (hunique : ∀ other : UnmatchedKind, other.Judged v → other = kind) :
    overlayUnmatched v m = v.addWarnings (if m.delivered then [kind.butDelivered] else []) := by
  have hqos : qosUnmatched v = true ↔ kind = .qosIncompatible := by
    rw [qosUnmatched, decide_eq_true_eq]
    exact ⟨fun h ↦ (hunique .qosIncompatible h).symm, by rintro rfl; exact hkind⟩
  have hname : nameUnmatched v = true ↔ kind = .typeName := by
    rw [nameUnmatched, decide_eq_true_eq]
    exact ⟨fun h ↦ (hunique .typeName h).symm, by rintro rfl; exact hkind⟩
  unfold overlayUnmatched
  cases m.delivered with
  | true => cases kind <;> simp [hqos, hname, UnmatchedKind.butDelivered]
  | false => simp [Verdict.addWarnings]

theorem overlaySplit_reasons (v : Verdict) (m : Measurement) :
    (overlaySplit v m).reasons = v.reasons ++ m.transports.map measuredReason := by
  simp [overlaySplit]

theorem overlaySplit_warnings (v : Verdict) (m : Measurement) :
    (overlaySplit v m).warnings = v.warnings ++
      (if m.delivered then ["shm-ipc-namespace-split-but-delivered"] else []) ++
        if "both-shm-locators" ∈ v.reasons ∧ m.locators.any nonShmInWindow then
          ["shm-ipc-namespace-split-but-non-shm-traffic"] else [] := by
  have hmeasured : "both-shm-locators" ∉ m.transports.map measuredReason := fun hmem ↦
    absurd (measuredReasons_subset m.transports hmem) (by decide)
  simp only [overlaySplit, Verdict.addWarnings_warnings, Verdict.addReasons_warnings,
    Verdict.addWarnings_reasons, Verdict.addReasons_reasons, List.mem_append, hmeasured, or_false]

theorem mem_overlaySplit_warnings (v : Verdict) (m : Measurement) (code : String)
    (hcode : code ∉ v.warnings) :
    code ∈ (overlaySplit v m).warnings ↔
      (code = "shm-ipc-namespace-split-but-delivered" ∧ m.delivered = true) ∨
        (code = "shm-ipc-namespace-split-but-non-shm-traffic" ∧
          "both-shm-locators" ∈ v.reasons ∧ m.locators.any nonShmInWindow = true) := by
  rw [overlaySplit_warnings]
  simp only [List.mem_append, hcode, false_or]
  refine or_congr ?_ ?_
  · split_ifs with hdelivered <;> simp [hdelivered]
  · split_ifs with hnon
    · simp [hnon]
    · simp only [List.not_mem_nil, false_iff]
      exact fun h ↦ hnon h.2

end Overlaid

section Pairs

variable [Fnmatch] {stats : StatsData} {t : TopicSummary} {p q : Pair}

omit [Fnmatch] in
theorem judged_counted (kind : UnmatchedKind) :
    kind.Judged (counted stats p) ↔ kind.Judged p.verdict := by
  cases kind with
  | qosIncompatible => exact mem_counted_warnings p _ (by decide)
  | typeName | typeInformation => exact Iff.rfl

theorem unmatchedKept_of_ruled (henabled : stats.enabled = true) (hfresh : IsFresh p)
    (hruled : Ruled stats t p q) (kind : UnmatchedKind) (hkind : kind.Judged p.verdict) :
    UnmatchedKept stats kind p q := by
  obtain ⟨all, rfl, -⟩ := hruled
  have hunmatched : Unmatched p.verdict := (unmatched_iff_exists _).mpr ⟨kind, hkind⟩
  obtain ⟨htransport, hconfidence⟩ := hfresh.none_certain (.inl hunmatched)
  have hverdict : (overlayPair stats all p).verdict = (counted stats p).addWarnings
      (if (measured stats p.writer.toEndpoint p.reader.toEndpoint).delivered then
        [kind.butDelivered] else []) := by
    rw [(overlaid_overlayPair stats hfresh all).eq_overlayUnmatched
      ((unmatched_counted p).mpr hunmatched)]
    refine overlayUnmatched_eq _ _ kind ((judged_counted kind).mpr hkind) fun other hother ↦ ?_
    exact hfresh.judged_unique ((judged_counted other).mp hother) hkind
  have hdelivered := measured_delivered stats p.writer.toEndpoint p.reader.toEndpoint
  rw [← and_iff_right henabled (b := DeliveryProven _ _ _)] at hdelivered
  refine ⟨?_, ?_, ?_, ?_, _, _, congrArg Verdict.warnings hverdict, counterWarnings_sublist _, ?_⟩
  · rw [hverdict]
    exact htransport
  · rw [hverdict]
    exact hconfidence
  · rw [hverdict]
    rfl
  · rw [hverdict]
    rfl
  · by_cases hproven : Proven stats p
    · exact .inl ⟨if_pos (hdelivered.mpr hproven), hproven⟩
    · exact .inr ⟨if_neg (mt hdelivered.mp hproven), hproven⟩

omit [Fnmatch] in
theorem any_nonShmInWindow_iff (writer reader : Endpoint) :
    (measured stats writer reader).locators.any nonShmInWindow = true ↔
      ∃ s, Carried stats writer reader s ∧ s.dst.kind ≠ .shm ∧ s.packetsFirst < s.packets := by
  simp only [List.any_eq_true, mem_measured_locators, nonShmInWindow, Bool.and_eq_true,
    decide_eq_true_eq]
  constructor
  · rintro ⟨_, ⟨s, hs, rfl⟩, hkind, hpackets⟩
    exact ⟨s, hs, hkind, (windowPackets_pos_iff s).mp hpackets⟩
  · rintro ⟨s, hs, hkind, hpackets⟩
    exact ⟨_, ⟨s, hs, rfl⟩, hkind, (windowPackets_pos_iff s).mpr hpackets⟩

theorem splitKept_of_ruled (henabled : stats.enabled = true) (hfresh : IsFresh p)
    (hruled : Ruled stats t p q) (hsplit : Split p.verdict) : SplitKept stats p q := by
  obtain ⟨all, rfl, -⟩ := hruled
  obtain ⟨htransport, hconfidence⟩ := hfresh.none_certain (.inr hsplit)
  have hverdict := (overlaid_overlayPair stats hfresh all).eq_overlaySplit
    (mt (unmatched_counted p).mp (hfresh.not_unmatched_of_split hsplit).1)
    ((split_counted p).mpr hsplit)
  refine ⟨?_, ?_, ?_, ⟨_, ?_, nodup_measured_transports stats p.writer.toEndpoint
    p.reader.toEndpoint, fun t ↦ ?_⟩, ?_, ?_, ?_⟩
  · rw [hverdict]
    exact htransport
  · rw [hverdict]
    exact hconfidence
  · rw [hverdict]
    rfl
  · rw [hverdict, overlaySplit_reasons]
    rfl
  · rw [mem_measured_transports, and_iff_right henabled]
  · rw [hverdict, overlaySplit_warnings]
    have hcounted : p.verdict.warnings <+: (counted stats p).warnings := List.prefix_append _ _
    exact hcounted.trans ((List.prefix_append _ _).trans (List.prefix_append _ _))
  · rw [hverdict, mem_overlaySplit_warnings _ _ _ (hfresh.notMem_counted _ (by decide)),
      measured_delivered, Proven, and_iff_right henabled]
    simp
  · have hreasons : (counted stats p).reasons = p.verdict.reasons := rfl
    rw [hverdict, mem_overlaySplit_warnings _ _ _ (hfresh.notMem_counted _ (by decide)), hreasons,
      hfresh.bothShmCode_iff hsplit, any_nonShmInWindow_iff, and_iff_right henabled]
    simp

theorem unmatchedKept_of_disabled (hdisabled : stats.enabled = false) (hfresh : IsFresh p)
    (kind : UnmatchedKind) (hkind : kind.Judged p.verdict) : UnmatchedKept stats kind p p := by
  have hnone := hfresh.none_certain (.inl ((unmatched_iff_exists _).mpr ⟨kind, hkind⟩))
  have hunproven : ¬Proven stats p := fun hproven ↦ by
    simp [Proven, hdisabled] at hproven
  exact ⟨hnone.1, hnone.2, rfl, rfl, [], [], by simp, List.nil_sublist _, .inr ⟨rfl, hunproven⟩⟩

theorem splitKept_of_disabled (hdisabled : stats.enabled = false) (hfresh : IsFresh p)
    (hsplit : Split p.verdict) : SplitKept stats p p := by
  have hnone := hfresh.none_certain (.inr hsplit)
  have hno (code : String) (hcode : code ∉ predictionWarnings) : code ∉ p.verdict.warnings := by
    rw [hfresh.warnings_eq]
    exact fun hmem ↦ hcode (decide_warnings_subset _ _ hmem)
  refine ⟨hnone.1, hnone.2, rfl, ⟨[], by simp, List.nodup_nil, by simp [hdisabled]⟩,
    List.prefix_refl _, ?_, ?_⟩
  · exact iff_of_false (hno _ (by decide)) fun hproven ↦ by simp [Proven, hdisabled] at hproven
  · exact iff_of_false (hno _ (by decide)) fun hnon ↦ by simp [hdisabled] at hnon

/-- What is measured of a pair that is not served changes nothing of its prediction. -/
theorem unservedKept_applyStats (endpoints : List Endpoint) (stats : StatsData) :
    List.Forall₂ (fun t u ↦ List.Forall₂ (UnservedKept stats) t.pairs u.pairs)
      (summarize endpoints) (applyStats (summarize endpoints) stats) := by
  refine forall₂_applyStats endpoints stats (fun _ ↦ UnservedKept stats) ?_ ?_
  · intro henabled t ht p hp q hruled
    have hfresh := isFresh_of_mem ht hp
    refine ⟨?_, ?_, unmatchedKept_of_ruled henabled hfresh hruled,
      splitKept_of_ruled henabled hfresh hruled⟩ <;>
    · obtain ⟨all, rfl, -⟩ := hruled
      rfl
  · intro hdisabled t ht p hp
    exact ⟨rfl, rfl, unmatchedKept_of_disabled hdisabled (isFresh_of_mem ht hp),
      splitKept_of_disabled hdisabled (isFresh_of_mem ht hp)⟩

end Pairs

end TransportViz.Stats
