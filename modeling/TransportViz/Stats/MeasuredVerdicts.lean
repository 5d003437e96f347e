import TransportViz.Stats.OrderIndependence

/-!
# What a measurement may change

`MeasurementProves` relates the verdict on a pair before and after `applyStats` to the statistics: the
transport only leaves data-sharing, and only for a kind that carried packets; certainty is never lost;
data-sharing becomes certain on proof only; and the mismatch warning has an exact condition. Two of the
proofs are sums over the observation. The overlay knows them in 64 bits, so a reading of the counts comes
with the relation: by the sums it always holds, by the entries wherever the sums fit.
-/

namespace TransportViz.Stats

open Decision

/-- The pair is never matched by Fast DDS, or split by the IPC namespace. -/
def Unserved (v : Verdict) : Prop := Unmatched v ∨ Split v

/-- How the counts of the observation are read: whether packets of the pair were sent in the window, and
whether the DATA count of the writer grew. -/
structure WindowReading where
  carried : StatsData → Endpoint → Endpoint → Prop
  grew : StatsData → Endpoint → Prop

/-- Entry by entry. -/
def byEntries : WindowReading where
  carried := CarriedInWindow
  grew := CountGrew

/-- By the sums in 64 bits. -/
def bySums : WindowReading where
  carried := PacketsCounted
  grew := GrowthCounted

/-- The sums of the pair fit their fields. -/
structure SumsFit (stats : StatsData) (p : Pair) : Prop where
  packets : ((stats.traffic.filter (carries stats p.writer.toEndpoint p.reader.toEndpoint)).map
    TrafficSample.windowPackets).sum < Words.modulus
  growth : (((entityGuids p.writer.toEndpoint).filterMap stats.dataCount.find?).map
    DataCountSample.delta).sum < Words.modulus

/-- Intra-process delivery is predicted, and no packet in the window contradicts it. -/
def StaysInProcess (reading : WindowReading) (stats : StatsData) (p : Pair) : Prop :=
  "intra-process" ∈ p.verdict.reasons ∧
    ¬reading.carried stats p.writer.toEndpoint p.reader.toEndpoint

/-- The verdict of `q` against the prediction of `p`, the same pair of the topic `t`. -/
structure MeasurementProves (reading : WindowReading) (stats : StatsData) (t : TopicSummary)
    (p q : Pair) : Prop where
  writer_eq : q.writer = p.writer
  reader_eq : q.reader = p.reader
  /-- The transport only leaves data-sharing, for a kind that carried packets to the reader. -/
  transport : q.verdict.transport ≠ p.verdict.transport →
    p.verdict.transport = .dataSharing ∧ "datasharing-not-used" ∈ q.verdict.warnings ∧
      ∃ s, Carried stats p.writer.toEndpoint p.reader.toEndpoint s ∧
        transportForKind s.dst.kind = q.verdict.transport
  confidence : p.verdict.confidence = .certain → q.verdict.confidence = .certain
  /-- Data-sharing is certain only on a proven delivery, without packets that could have carried it. -/
  dataSharing : q.verdict.transport = .dataSharing → q.verdict.confidence = .certain →
    DeliveryProven stats p.writer.toEndpoint p.reader.toEndpoint ∧
      ((∀ s, ¬Carried stats p.writer.toEndpoint p.reader.toEndpoint s) ∨
        (CountKnown stats p.writer.toEndpoint ∧ ¬reading.grew stats p.writer.toEndpoint ∧
          ∀ other ∈ t.pairs, other.writer = p.writer →
            other.verdict.transport = .dataSharing ∨ isDatasharingSplit other.verdict = true))
  mismatch : "measured-transport-mismatch" ∈ q.verdict.warnings ↔
    stats.enabled = true ∧ ¬Unserved p.verdict ∧ PublishesStats stats p.writer.toEndpoint ∧
      ¬StaysInProcess reading stats p ∧ p.verdict.transport ≠ .dataSharing ∧
      (∃ s, Carried stats p.writer.toEndpoint p.reader.toEndpoint s) ∧
      ∀ s, Carried stats p.writer.toEndpoint p.reader.toEndpoint s →
        transportForKind s.dst.kind ≠ p.verdict.transport

section Overlaid

variable {stats : StatsData} {all : Bool} {src : String} {v w : Verdict} {m : Measurement}

theorem DatasharingRuling.certain (h : DatasharingRuling all v m w)
    (hcertain : v.confidence = .certain) : w.confidence = .certain := by
  cases h with
  | silent | still => rfl
  | mixed | unproven => exact hcertain
  | notUsed hasks => simp [datasharingNotUsed, hasks.2.1]

theorem overlayTransport_certain (hcertain : v.confidence = .certain) :
    (overlayTransport stats src v m).confidence = .certain := by
  unfold overlayTransport
  by_cases hquiet : m.transports = []
  · rw [if_pos hquiet]
    exact hcertain
  · rw [if_neg hquiet]
    by_cases hmatches : v.transport ∈ m.transports <;> simp [hmatches, hcertain]

/-- The overlay never takes certainty back. -/
theorem Overlaid.certain (h : Overlaid stats all src v m w) (hcertain : v.confidence = .certain) :
    w.confidence = .certain := by
  cases h with
  | unmatched =>
    unfold overlayUnmatched
    split_ifs <;> exact hcertain
  | split | unpublished | intraProcess => exact hcertain
  | dataSharing =>
    exact (datasharingRuling_overlayDataSharing all (dropIntraProcess v) m).certain hcertain
  | transport => exact overlayTransport_certain hcertain

/-- Only a contested pair changes its transport. -/
theorem Overlaid.transport_kept (h : Overlaid stats all src v m w)
    (hno : ¬(all = true ∧ Contests v m)) : w.transport = v.transport := by
  cases h with
  | unmatched =>
    unfold overlayUnmatched
    split_ifs <;> rfl
  | split | unpublished | intraProcess => rfl
  | dataSharing hmatched hsplit havailable hloud htransport =>
    exact ((datasharingRuling_overlayDataSharing all (dropIntraProcess v) m).kept fun hruled ↦
      hno ⟨hruled.1, hmatched, hsplit, havailable, hloud, htransport, hruled.2⟩).1
  | transport => exact overlayTransport_transport stats src _ m

/-- Data-sharing becomes certain in silence, or by a still DATA count of a writer with data-sharing
readers only. -/
theorem Overlaid.dataSharing_certain (h : Overlaid stats all src v m w)
    (hkinds : Transport.dataSharing ∉ m.transports) (hmatched : ¬Unmatched v) (hsplit : ¬Split v)
    (hlikely : v.confidence = .likely) (htransport : v.transport = .dataSharing)
    (hstays : w.transport = .dataSharing) (hcertain : w.confidence = .certain) :
    m.delivered = true ∧ (m.transports = [] ∨
      (m.dataCountAvailable = true ∧ m.dataSubmessages = 0 ∧ all = true)) := by
  have hopen (hsame : w.confidence = v.confidence) : False := by
    rw [hsame, hlikely] at hcertain
    cases hcertain
  cases h with
  | unmatched hnot => exact absurd hnot hmatched
  | split _ hnot => exact absurd hnot hsplit
  | unpublished | intraProcess => exact (hopen rfl).elim
  | dataSharing =>
    revert hstays hcertain hopen
    generalize hruling : overlayDataSharing all (dropIntraProcess v) m = result
    intro hstays hcertain hopen
    cases hruling ▸ datasharingRuling_overlayDataSharing all (dropIntraProcess v) m with
    | silent hdelivered hquiet => exact ⟨hdelivered, .inl hquiet⟩
    | still hasks hall hcount => exact ⟨hasks.1, .inr ⟨hasks.2.2, hcount, hall⟩⟩
    | mixed | unproven => exact (hopen rfl).elim
    | notUsed hasks =>
      have hlost := onDatasharing_notUsed (dropIntraProcess v) m hsplit hkinds
      rw [(onDatasharing_iff _).mpr (.inl hstays)] at hlost
      cases hlost
  | transport _ _ _ _ hnot => exact absurd htransport hnot

theorem mismatch_mem_overlayTransport (hno : "measured-transport-mismatch" ∉ v.warnings) :
    "measured-transport-mismatch" ∈ (overlayTransport stats src v m).warnings ↔
      m.transports ≠ [] ∧ v.transport ∉ m.transports := by
  have hdelivered : "measured-transport-mismatch" ≠ "delivered-without-measured-traffic" := by decide
  have hlocator : "measured-transport-mismatch" ≠ "measured-locator-mismatch" := by decide
  unfold overlayTransport
  by_cases hquiet : m.transports = []
  · rw [if_pos hquiet]
    refine iff_of_false (fun hmem ↦ ?_) fun h ↦ h.1 hquiet
    rcases List.mem_append.mp hmem with hmem | hmem
    · exact hno hmem
    · split_ifs at hmem <;> simp at hmem
  · rw [if_neg hquiet]
    simp only [Verdict.addWarnings_warnings, List.mem_append, notMem_singletonIf _ hdelivered,
      notMem_singletonIf _ hlocator, or_false]
    by_cases hmatches : v.transport ∈ m.transports <;> simp [hmatches, hno, hquiet]

/-- The mismatch warning is given on the transport branch, and on no other. -/
theorem Overlaid.mismatch_mem_iff (h : Overlaid stats all src v m w)
    (hno : "measured-transport-mismatch" ∉ v.warnings) :
    "measured-transport-mismatch" ∈ w.warnings ↔
      ¬Unmatched v ∧ ¬Split v ∧ m.available = true ∧ ¬SilentIntraProcess v m ∧
        v.transport ≠ .dataSharing ∧ m.transports ≠ [] ∧ v.transport ∉ m.transports := by
  cases h with
  | unmatched hunmatched =>
    refine iff_of_false ?_ fun hr ↦ hr.1 hunmatched
    unfold overlayUnmatched
    split_ifs <;> simp [hno]
  | split _ hsplit =>
    refine iff_of_false ?_ fun hr ↦ hr.2.1 hsplit
    unfold overlaySplit
    simp only [Verdict.addWarnings_warnings, Verdict.addReasons_warnings, List.mem_append, not_or]
    refine ⟨⟨hno, ?_⟩, ?_⟩ <;> split_ifs <;> decide
  | unpublished _ _ havailable =>
    refine iff_of_false (by simp [hno]) fun hr ↦ ?_
    exact absurd hr.2.2.1 (by simp [havailable])
  | intraProcess _ _ _ hsilent =>
    refine iff_of_false ?_ fun hr ↦ hr.2.2.2.1 hsilent
    split_ifs <;> simp [hno]
  | dataSharing _ _ _ _ htransport =>
    refine iff_of_false ?_ fun hr ↦ hr.2.2.2.2.1 htransport
    have hruling := datasharingRuling_overlayDataSharing all (dropIntraProcess v) m
    by_cases hruled : all = true ∧ AsksReaders m ∧ 0 < m.dataSubmessages
    · obtain ⟨rfl, hasks, hcount⟩ := hruled
      rw [hruling.eq_notUsed hasks hcount]
      simpa [datasharingNotUsed, dropIntraProcess] using hno
    · rw [(hruling.kept hruled).2]
      exact hno
  | transport hmatched hsplit havailable hloud htransport =>
    have hdropped : "measured-transport-mismatch" ∉ (dropIntraProcess v).warnings := hno
    rw [mismatch_mem_overlayTransport hdropped]
    constructor
    · rintro ⟨hcarried, hother⟩
      exact ⟨hmatched, hsplit, havailable, hloud, htransport, hcarried, hother⟩
    · rintro ⟨-, -, -, -, -, hcarried, hother⟩
      exact ⟨hcarried, hother⟩

end Overlaid

section Pairs

variable [Fnmatch] {stats : StatsData} {t : TopicSummary} {p q : Pair}

/-- Only a contested pair changes its transport, to that of the first kind that carried packets. -/
theorem transport_overlayPair (hfresh : IsFresh p) (all : Bool)
    (hchanged : (overlayPair stats all p).verdict.transport ≠ p.verdict.transport) :
    p.verdict.transport = .dataSharing ∧
      "datasharing-not-used" ∈ (overlayPair stats all p).verdict.warnings ∧
        ∃ s, Carried stats p.writer.toEndpoint p.reader.toEndpoint s ∧
          transportForKind s.dst.kind = (overlayPair stats all p).verdict.transport := by
  have hoverlaid := overlaid_overlayPair stats hfresh all
  have hruled : all = true ∧ Contests (counted stats p)
      (measured stats p.writer.toEndpoint p.reader.toEndpoint) := by
    by_contra hno
    exact hchanged (hoverlaid.transport_kept hno)
  obtain ⟨rfl, hcontests⟩ := hruled
  rw [hoverlaid.eq_notUsed hcontests]
  refine ⟨hcontests.2.2.2.2.1, by simp [datasharingNotUsed], ?_⟩
  obtain ⟨first, rest, hfirst⟩ := List.exists_cons_of_ne_nil hcontests.2.2.2.2.2.1.2.1
  have hmem := (mem_measured_transports stats p.writer.toEndpoint p.reader.toEndpoint first).mp
    (hfirst ▸ List.mem_cons_self ..)
  simpa [datasharingNotUsed, hfirst] using hmem

/-- A pair that ends certain of data-sharing was predicted so, and its delivery is proven. -/
theorem dataSharing_overlayPair (hfresh : IsFresh p) (all : Bool)
    (hstays : (overlayPair stats all p).verdict.transport = .dataSharing)
    (hcertain : (overlayPair stats all p).verdict.confidence = .certain) :
    DeliveryProven stats p.writer.toEndpoint p.reader.toEndpoint ∧
      ((∀ s, ¬Carried stats p.writer.toEndpoint p.reader.toEndpoint s) ∨
        (CountKnown stats p.writer.toEndpoint ∧ ¬GrowthCounted stats p.writer.toEndpoint ∧
          all = true)) := by
  have hoverlaid := overlaid_overlayPair stats hfresh all
  have htransport : p.verdict.transport = .dataSharing := by
    by_contra hother
    have hkept := hoverlaid.transport_kept fun hruled ↦ hother hruled.2.2.2.2.2.1
    exact hother (hkept.symm.trans hstays)
  obtain ⟨hmatched, hsplit⟩ := hfresh.served htransport
  have hproof := hoverlaid.dataSharing_certain
    (dataSharing_notMem_measured stats p.writer.toEndpoint p.reader.toEndpoint) hmatched hsplit
    (hfresh.likely htransport) htransport hstays hcertain
  rw [measured_delivered, measured_dataCountAvailable] at hproof
  refine ⟨hproof.1, hproof.2.imp (fun hquiet s hs ↦ ?_) fun hcounted ↦ ?_⟩
  · exact (measured_transports_ne_nil stats _ _).mpr ⟨s, hs⟩ hquiet
  · obtain ⟨hknown, hstill, hall⟩ := hcounted
    refine ⟨hknown, fun hgrew ↦ ?_, hall⟩
    exact ((measured_dataSubmessages stats _ p.reader.toEndpoint).mpr hgrew).ne' hstill

theorem mismatch_overlayPair (henabled : stats.enabled = true) (hfresh : IsFresh p) (all : Bool) :
    "measured-transport-mismatch" ∈ (overlayPair stats all p).verdict.warnings ↔
      stats.enabled = true ∧ ¬Unserved p.verdict ∧ PublishesStats stats p.writer.toEndpoint ∧
        ¬StaysInProcess bySums stats p ∧ p.verdict.transport ≠ .dataSharing ∧
        (∃ s, Carried stats p.writer.toEndpoint p.reader.toEndpoint s) ∧
        ∀ s, Carried stats p.writer.toEndpoint p.reader.toEndpoint s →
          transportForKind s.dst.kind ≠ p.verdict.transport := by
  have hoverlaid := overlaid_overlayPair stats hfresh all
  rw [hoverlaid.mismatch_mem_iff (hfresh.notMem_counted _ (by decide)), unmatched_counted,
    split_counted, measured_available, silentIntraProcess_counted, measured_transports_ne_nil,
    mem_measured_transports, Unserved, not_or, StaysInProcess, and_assoc, and_iff_right henabled]
  simp only [not_exists, not_and]
  exact Iff.rfl

theorem measurementProves_of_ruled (henabled : stats.enabled = true) (hfresh : IsFresh p)
    (hruled : Ruled stats t p q) : MeasurementProves bySums stats t p q := by
  obtain ⟨all, rfl, halone⟩ := hruled
  exact
    { writer_eq := rfl
      reader_eq := rfl
      transport := transport_overlayPair hfresh all
      confidence := (overlaid_overlayPair stats hfresh all).certain
      dataSharing := fun hstays hcertain ↦ by
        obtain ⟨hdelivered, hproof⟩ := dataSharing_overlayPair hfresh all hstays hcertain
        refine ⟨hdelivered, hproof.imp_right ?_⟩
        rintro ⟨hknown, hstill, hall⟩
        refine ⟨hknown, hstill, fun other hother hwriter ↦ ?_⟩
        exact (onDatasharing_iff _).mp (halone hall other hother hwriter)
      mismatch := mismatch_overlayPair henabled hfresh all }

theorem measurementProves_of_disabled (hdisabled : stats.enabled = false) (hfresh : IsFresh p) :
    MeasurementProves bySums stats t p p := by
  refine ⟨rfl, rfl, fun hchanged ↦ absurd rfl hchanged, id, fun htransport hcertain ↦ ?_, ?_⟩
  · rw [hfresh.likely htransport] at hcertain
    cases hcertain
  · refine iff_of_false (fun hmem ↦ ?_) fun h ↦ absurd h.1 (by simp [hdisabled])
    rw [hfresh.warnings_eq] at hmem
    exact absurd (decide_warnings_subset _ _ hmem) (by decide)

omit [Fnmatch] in
/-- As long as the packets of the window fit, their sum shows each of them. -/
theorem packetsCounted_iff (hfit : SumsFit stats p) :
    PacketsCounted stats p.writer.toEndpoint p.reader.toEndpoint ↔
      CarriedInWindow stats p.writer.toEndpoint p.reader.toEndpoint := by
  refine ⟨PacketsCounted.inWindow, ?_⟩
  rintro ⟨s, hs, hmoved⟩
  rw [PacketsCounted, Words.sum_eq hfit.packets, sum_pos_iff]
  exact ⟨_, List.mem_map_of_mem ((carries_iff stats _ _ s).mpr hs), (windowPackets_pos_iff s).mpr hmoved⟩

omit [Fnmatch] in
theorem growthCounted_iff (hfit : SumsFit stats p) :
    GrowthCounted stats p.writer.toEndpoint ↔ CountGrew stats p.writer.toEndpoint := by
  refine ⟨GrowthCounted.grew, ?_⟩
  rintro ⟨guid, hguid, sample, hsample, hgrew⟩
  rw [GrowthCounted, Words.sum_eq hfit.growth, sum_pos_iff]
  exact ⟨_, List.mem_map_of_mem ((mem_counters _ _ _).mpr ⟨guid, hguid, hsample⟩),
    (delta_pos_iff sample).mpr hgrew⟩

omit [Fnmatch] in
theorem MeasurementProves.of_fit (h : MeasurementProves bySums stats t p q) (hfit : SumsFit stats p) :
    MeasurementProves byEntries stats t p q where
  writer_eq := h.writer_eq
  reader_eq := h.reader_eq
  transport := h.transport
  confidence := h.confidence
  dataSharing hstays hcertain := by
    obtain ⟨hdelivered, hproof⟩ := h.dataSharing hstays hcertain
    refine ⟨hdelivered, hproof.imp_right ?_⟩
    rintro ⟨hknown, hstill, halone⟩
    exact ⟨hknown, fun hgrew ↦ hstill ((growthCounted_iff hfit).mpr hgrew), halone⟩
  mismatch := by
    have hstays : StaysInProcess byEntries stats p ↔ StaysInProcess bySums stats p :=
      and_congr_right fun _ ↦ not_congr (packetsCounted_iff hfit).symm
    rw [hstays]
    exact h.mismatch

/-- Nothing but a contradicting measurement changes a verdict, the counts of the observation read off
their sums, or entry by entry where the sums fit. -/
theorem measurementProves_applyStats (endpoints : List Endpoint) (stats : StatsData) :
    List.Forall₂
      (fun t u ↦ List.Forall₂
        (fun p q ↦ MeasurementProves bySums stats t p q ∧
          (SumsFit stats p → MeasurementProves byEntries stats t p q))
        t.pairs u.pairs)
      (summarize endpoints) (applyStats (summarize endpoints) stats) := by
  have hsums := forall₂_applyStats endpoints stats (MeasurementProves bySums stats)
    (fun henabled _ ht _ hp _ hruled ↦
      measurementProves_of_ruled henabled (isFresh_of_mem ht hp) hruled)
    (fun hdisabled _ ht _ hp ↦ measurementProves_of_disabled hdisabled (isFresh_of_mem ht hp))
  exact hsums.imp fun _ _ hpairs ↦ hpairs.imp fun _ _ h ↦ ⟨h, h.of_fit⟩

end Pairs

section Wrapped

/-- An endpoint of one process that talks over shared memory and at two addresses. -/
def twoWayEndpoint (isWriter : Bool) (entity : UInt8) : Endpoint :=
  { zeroCopyEndpoint isWriter 1 entity with
    qos := {}
    unicast := [⟨.shm, "", 7411⟩, ⟨.udpv4, "10.0.0.1", 7411⟩, ⟨.udpv4, "10.1.0.1", 7411⟩] }

/-- The packets of the window add up to one more than the largest word. -/
def wrappedTraffic : StatsData where
  enabled := true
  traffic := [⟨.udpv4, "10.0.0.1", 7411⟩, ⟨.udpv4, "10.1.0.1", 7411⟩].map fun dst ↦
    { srcParticipantPrefix := imageWriter.participantGuidPrefix, dst := dst, packets := 2 ^ 63 }
  participantsWithStats := {imageWriter.participantGuidPrefix}

/-- And so do the DATA submessages of a writer and its companion. -/
def wrappedCounts : StatsData :=
  { zeroCopyStats with
    dataCount := .ofList [(imageWriter.guid, { last := 2 ^ 63 }), ("companion", { last := 2 ^ 63 })] }

theorem exists_related {topics measured : List TopicSummary} {relation : TopicSummary → Pair → Pair → Prop}
    (h : List.Forall₂ (fun t u ↦ List.Forall₂ (relation t) t.pairs u.pairs) topics measured)
    {t : TopicSummary} (ht : t ∈ topics) {p : Pair} (hp : p ∈ t.pairs) :
    ∃ u ∈ measured, ∃ q ∈ u.pairs, relation t p q := by
  obtain ⟨u, hu, hpairs⟩ := exists_of_mem_left h ht
  obtain ⟨q, hq, hrelated⟩ := exists_of_mem_left hpairs hp
  exact ⟨u, hu, q, hq, hrelated⟩

/-- Packets whose sum wrapped to zero contradict the prediction unseen. -/
theorem wrappedTraffic_not_byEntries :
    ¬List.Forall₂
      (fun t u ↦ List.Forall₂ (MeasurementProves byEntries wrappedTraffic t) t.pairs u.pairs)
      (@summarize literalFnmatch [twoWayEndpoint true 0x12, twoWayEndpoint false 0x22])
      (applyStats (@summarize literalFnmatch [twoWayEndpoint true 0x12, twoWayEndpoint false 0x22])
        wrappedTraffic) := by
  intro h
  have hfacts : ∃ t ∈ @summarize literalFnmatch [twoWayEndpoint true 0x12, twoWayEndpoint false 0x22],
      ∃ p ∈ t.pairs, (p.verdict.transport = .shm ∧ p.verdict.warnings = [] ∧
        "type-name-mismatch" ∉ p.verdict.reasons ∧
        "type-information-mismatch" ∉ p.verdict.reasons ∧
        p.writer.participantGuidPrefix ∈ wrappedTraffic.participantsWithStats ∧
        wrappedTraffic.traffic.filter
          (carries wrappedTraffic p.writer.toEndpoint p.reader.toEndpoint) =
            wrappedTraffic.traffic) ∧
      ∀ u ∈ applyStats
        (@summarize literalFnmatch [twoWayEndpoint true 0x12, twoWayEndpoint false 0x22])
        wrappedTraffic, ∀ q ∈ u.pairs, "measured-transport-mismatch" ∉ q.verdict.warnings := by
    decide +kernel
  obtain ⟨t, ht, p, hp, ⟨hshm, hquiet, hname, hinformation, hpublished, hcarried⟩, hnone⟩ := hfacts
  obtain ⟨u, hu, q, hq, hproves⟩ := exists_related h ht hp
  have hsent (s : TrafficSample) :
      Carried wrappedTraffic p.writer.toEndpoint p.reader.toEndpoint s ↔ s ∈ wrappedTraffic.traffic := by
    rw [← carries_iff, hcarried]
  refine hnone u hu q hq (hproves.mismatch.mpr ⟨rfl, ?_, hpublished, ?_, ?_, ?_, ?_⟩)
  · rw [Unserved, Unmatched, Split, hquiet]
    simp [hname, hinformation]
  · rintro ⟨-, hsilent⟩
    exact hsilent ⟨_, (hsent _).mpr (List.mem_cons_self ..), by decide⟩
  · rw [hshm]
    decide
  · exact ⟨_, (hsent _).mpr (List.mem_cons_self ..)⟩
  · intro s hs
    have hkind : ∀ s ∈ wrappedTraffic.traffic, transportForKind s.dst.kind ≠ .shm := by decide
    rw [hshm]
    exact hkind s ((hsent s).mp hs)

/-- DATA submessages whose sum wrapped to zero leave data-sharing certain. -/
theorem wrappedCounts_not_byEntries :
    ¬List.Forall₂
      (fun t u ↦ List.Forall₂ (MeasurementProves byEntries wrappedCounts t) t.pairs u.pairs)
      (@summarize literalFnmatch
        [{ imageWriter with bufferCompanionGuids := ["companion"] }, imageReader 2])
      (applyStats (@summarize literalFnmatch
        [{ imageWriter with bufferCompanionGuids := ["companion"] }, imageReader 2]) wrappedCounts) := by
  intro h
  have hfacts : ∃ t ∈ @summarize literalFnmatch
        [{ imageWriter with bufferCompanionGuids := ["companion"] }, imageReader 2],
      ∃ p ∈ t.pairs, (imageWriter.guid ∈ entityGuids p.writer.toEndpoint ∧
        wrappedCounts.traffic.filter
          (carries wrappedCounts p.writer.toEndpoint p.reader.toEndpoint) ≠ []) ∧
      ∀ u ∈ applyStats (@summarize literalFnmatch
        [{ imageWriter with bufferCompanionGuids := ["companion"] }, imageReader 2]) wrappedCounts,
        ∀ q ∈ u.pairs, q.verdict.transport = .dataSharing ∧ q.verdict.confidence = .certain := by
    decide +kernel
  obtain ⟨t, ht, p, hp, ⟨hguid, hcarried⟩, hcertain⟩ := hfacts
  obtain ⟨u, hu, q, hq, hproves⟩ := exists_related h ht hp
  obtain ⟨-, hsilent | ⟨-, hstill, -⟩⟩ :=
    hproves.dataSharing (hcertain u hu q hq).1 (hcertain u hu q hq).2
  · obtain ⟨s, hs⟩ := List.exists_mem_of_ne_nil _ hcarried
    exact hsilent s ((carries_iff _ _ _ s).mp hs)
  · exact hstill ⟨imageWriter.guid, hguid, { last := 2 ^ 63 }, by decide +kernel, by decide⟩

/-- Sums that wrapped to zero hide packets that contradict the prediction, and DATA that contradicts
data-sharing. -/
theorem wrapped_not_byEntries :
    (¬List.Forall₂
      (fun t u ↦ List.Forall₂ (MeasurementProves byEntries wrappedTraffic t) t.pairs u.pairs)
      (@summarize literalFnmatch [twoWayEndpoint true 0x12, twoWayEndpoint false 0x22])
      (applyStats (@summarize literalFnmatch [twoWayEndpoint true 0x12, twoWayEndpoint false 0x22])
        wrappedTraffic)) ∧
    ¬List.Forall₂
      (fun t u ↦ List.Forall₂ (MeasurementProves byEntries wrappedCounts t) t.pairs u.pairs)
      (@summarize literalFnmatch
        [{ imageWriter with bufferCompanionGuids := ["companion"] }, imageReader 2])
      (applyStats (@summarize literalFnmatch
        [{ imageWriter with bufferCompanionGuids := ["companion"] }, imageReader 2]) wrappedCounts) :=
  ⟨wrappedTraffic_not_byEntries, wrappedCounts_not_byEntries⟩

end Wrapped

end TransportViz.Stats
