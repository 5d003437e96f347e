import TransportViz.Stats.Overlay

/-!
# The branches of the overlay

`Overlaid` lists what the overlay can make of a verdict, one case per branch with the condition under
which the source takes it. The data-sharing rule is split further by `DatasharingRuling`. Facts about
single codes, transports and confidences follow case by case.
-/

namespace TransportViz.Stats

open Decision

/-- Fast DDS never matches the two endpoints. -/
def Unmatched (v : Verdict) : Prop :=
  "qos-incompatible" ∈ v.warnings ∨ "type-name-mismatch" ∈ v.reasons ∨
    "type-information-mismatch" ∈ v.reasons

/-- The two endpoints are in different IPC namespaces. -/
def Split (v : Verdict) : Prop := "shm-ipc-namespace-split" ∈ v.warnings

/-- An intra-process pair without a packet in the window. -/
def SilentIntraProcess (v : Verdict) (m : Measurement) : Prop :=
  "intra-process" ∈ v.reasons ∧ m.packets = 0

/-- The verdict once packets have refuted its intra-process delivery. -/
def dropIntraProcess (v : Verdict) : Verdict :=
  { v with reasons := v.reasons.filter (· ≠ "intra-process") }

/-- What the overlay can make of the verdict `v`, one case per branch. -/
inductive Overlaid (stats : StatsData) (all : Bool) (src : String) (v : Verdict) (m : Measurement) :
    Verdict → Prop
  | unmatched (hunmatched : Unmatched v) : Overlaid stats all src v m (overlayUnmatched v m)
  | split (hmatched : ¬Unmatched v) (hsplit : Split v) :
      Overlaid stats all src v m (overlaySplit v m)
  | unpublished (hmatched : ¬Unmatched v) (hsplit : ¬Split v) (havailable : m.available = false) :
      Overlaid stats all src v m (v.addWarnings ["stats-not-enabled-on-writer"])
  | intraProcess (hmatched : ¬Unmatched v) (hsplit : ¬Split v) (havailable : m.available = true)
      (hsilent : SilentIntraProcess v m) :
      Overlaid stats all src v m
        (v.addWarnings (if m.delivered then [] else ["no-traffic-observed"]))
  | dataSharing (hmatched : ¬Unmatched v) (hsplit : ¬Split v) (havailable : m.available = true)
      (hloud : ¬SilentIntraProcess v m) (htransport : v.transport = .dataSharing) :
      Overlaid stats all src v m (overlayDataSharing all (dropIntraProcess v) m)
  | transport (hmatched : ¬Unmatched v) (hsplit : ¬Split v) (havailable : m.available = true)
      (hloud : ¬SilentIntraProcess v m) (htransport : v.transport ≠ .dataSharing) :
      Overlaid stats all src v m (overlayTransport stats src (dropIntraProcess v) m)

theorem unmatched_iff (v : Verdict) :
    (qosUnmatched v || nameUnmatched v || typeInformationUnmatched v) = true ↔ Unmatched v := by
  simp only [qosUnmatched, nameUnmatched, typeInformationUnmatched, Unmatched, Bool.or_eq_true,
    decide_eq_true_eq, or_assoc]

theorem overlaid_overlay (stats : StatsData) (all : Bool) (src : String) (v : Verdict)
    (m : Measurement) : Overlaid stats all src v m (overlay stats all src v m) := by
  unfold overlay
  by_cases hunmatched : (qosUnmatched v || nameUnmatched v || typeInformationUnmatched v) = true
  · rw [if_pos hunmatched]
    exact .unmatched ((unmatched_iff v).mp hunmatched)
  rw [if_neg hunmatched]
  have hmatched : ¬Unmatched v := fun h ↦ hunmatched ((unmatched_iff v).mpr h)
  by_cases hsplit : "shm-ipc-namespace-split" ∈ v.warnings
  · rw [if_pos hsplit]
    exact .split hmatched hsplit
  rw [if_neg hsplit]
  by_cases havailable : m.available = true
  swap
  · rw [if_pos havailable]
    exact .unpublished hmatched hsplit (by simpa using havailable)
  rw [if_neg (not_not.mpr havailable)]
  by_cases hsilent : "intra-process" ∈ v.reasons ∧ m.packets = 0
  · rw [if_pos hsilent]
    exact .intraProcess hmatched hsplit havailable hsilent
  rw [if_neg hsilent]
  by_cases htransport : v.transport = .dataSharing
  · exact (if_pos htransport).symm ▸ .dataSharing hmatched hsplit havailable hsilent htransport
  · exact (if_neg htransport).symm ▸ .transport hmatched hsplit havailable hsilent htransport

/-- The reasons that name a measured transport. -/
def measuredReasons : List String :=
  ["measured-udpv4-traffic", "measured-udpv6-traffic", "measured-tcpv4-traffic",
    "measured-tcpv6-traffic", "measured-shm-traffic", "measured-unknown-traffic"]

theorem measuredReason_mem (t : Transport) : measuredReason t ∈ measuredReasons := by
  cases t <;> decide

theorem measuredReasons_subset (transports : List Transport) :
    transports.map measuredReason ⊆ measuredReasons := by
  intro code hcode
  obtain ⟨t, -, rfl⟩ := List.mem_map.mp hcode
  exact measuredReason_mem t

/-! ## The data-sharing rule -/

/-- The verdict `v` with the open data-sharing reason settled as `code`. -/
def settled (v : Verdict) (code : String) : Verdict :=
  { v with reasons := replaceCode v.reasons "datasharing-unverified-by-traffic" code }

/-- The question about the writer's other readers comes up. -/
def AsksReaders (m : Measurement) : Prop :=
  m.delivered = true ∧ m.transports ≠ [] ∧ m.dataCountAvailable = true

inductive DatasharingRuling (all : Bool) (v : Verdict) (m : Measurement) : Verdict → Prop
  | silent (hdelivered : m.delivered = true) (hquiet : m.transports = []) :
      DatasharingRuling all v m
        { settled v "datasharing-confirmed-no-traffic" with confidence := .certain }
  | mixed (hasks : AsksReaders m) (hall : all = false) :
      DatasharingRuling all v m (settled v "datasharing-ambiguous-mixed-readers")
  | still (hasks : AsksReaders m) (hall : all = true) (hcount : m.dataSubmessages = 0) :
      DatasharingRuling all v m
        { settled v "datasharing-confirmed-no-data-submessages" with confidence := .certain }
  | notUsed (hasks : AsksReaders m) (hall : all = true) (hcount : 0 < m.dataSubmessages) :
      DatasharingRuling all v m (datasharingNotUsed v m)
  | unproven (code : String) (hasks : ¬AsksReaders m)
      (hopen : ¬(m.delivered = true ∧ m.transports = []))
      (hcode : code = "datasharing-ambiguous-participant-traffic" ∨
        code = "datasharing-no-delivery-observed") :
      DatasharingRuling all v m (settled v code)

theorem datasharingRuling_overlayDataSharing (all : Bool) (v : Verdict) (m : Measurement) :
    DatasharingRuling all v m (overlayDataSharing all v m) := by
  unfold overlayDataSharing
  simp only
  by_cases hsilent : m.delivered = true ∧ m.transports = []
  · rw [if_pos hsilent]
    exact .silent hsilent.1 hsilent.2
  rw [if_neg hsilent]
  by_cases hcount : m.delivered = true ∧ m.dataCountAvailable = true
  · have hasks : AsksReaders m := ⟨hcount.1, fun h ↦ hsilent ⟨hcount.1, h⟩, hcount.2⟩
    rw [if_pos hcount]
    by_cases hall : all = true
    · rw [if_neg (not_not.mpr hall)]
      by_cases hstill : m.dataSubmessages = 0
      · rw [if_pos hstill]
        exact .still hasks hall hstill
      · rw [if_neg hstill]
        exact .notUsed hasks hall (Nat.pos_of_ne_zero hstill)
    · rw [if_pos hall]
      exact .mixed hasks (by simpa using hall)
  · rw [if_neg hcount]
    have hasks : ¬AsksReaders m := fun h ↦ hcount ⟨h.1, h.2.2⟩
    split_ifs
    · exact .unproven _ hasks hsilent (.inl rfl)
    · exact .unproven _ hasks hsilent (.inr rfl)

/-! ## The transport rule -/

/-- The warnings of the transport rule. -/
def transportWarnings : List String :=
  ["stats-writer-instance-limit-suspected", "delivered-without-measured-traffic",
    "no-traffic-observed", "measured-transport-mismatch", "measured-locator-mismatch"]

theorem singletonIf_subset (p : Prop) [Decidable p] (code : String) (codes : List String)
    (h : code ∈ codes) : (if p then [code] else []) ⊆ codes := by
  split_ifs
  · simpa using h
  · exact List.nil_subset _

theorem notMem_singletonIf (p : Prop) [Decidable p] {code other : String} (h : other ≠ code) :
    other ∉ (if p then [code] else []) := by
  split_ifs <;> simp [h]

theorem overlayTransport_transport (stats : StatsData) (src : String) (v : Verdict)
    (m : Measurement) : (overlayTransport stats src v m).transport = v.transport := by
  unfold overlayTransport
  by_cases hquiet : m.transports = []
  · rw [if_pos hquiet]
    rfl
  · rw [if_neg hquiet]
    by_cases hmatches : v.transport ∈ m.transports <;> simp [hmatches]

theorem overlayTransport_reasons (stats : StatsData) (src : String) (v : Verdict)
    (m : Measurement) :
    (overlayTransport stats src v m).reasons = v.reasons ++ m.transports.map measuredReason := by
  unfold overlayTransport
  by_cases hquiet : m.transports = []
  · rw [if_pos hquiet, hquiet]
    simp
  · rw [if_neg hquiet]
    by_cases hmatches : v.transport ∈ m.transports <;> simp [hmatches]

theorem overlayTransport_warnings (stats : StatsData) (src : String) (v : Verdict)
    (m : Measurement) : ∃ added, added ⊆ transportWarnings ∧
      (overlayTransport stats src v m).warnings = v.warnings ++ added := by
  unfold overlayTransport
  by_cases hquiet : m.transports = []
  · rw [if_pos hquiet]
    refine ⟨_, ?_, rfl⟩
    split_ifs <;> decide
  · rw [if_neg hquiet]
    simp only [Verdict.addWarnings_warnings]
    by_cases hmatches : v.transport ∈ m.transports
    · simp only [hmatches, decide_true, if_true, Verdict.addReasons_warnings, List.append_assoc]
      exact ⟨_, List.append_subset.mpr ⟨singletonIf_subset _ _ _ (by decide),
        singletonIf_subset _ _ _ (by decide)⟩, rfl⟩
    · simp only [hmatches, decide_false, Bool.false_eq_true, if_false,
        Verdict.addWarnings_warnings, Verdict.addReasons_warnings, List.append_assoc]
      exact ⟨_, List.append_subset.mpr ⟨by decide, List.append_subset.mpr
        ⟨singletonIf_subset _ _ _ (by decide), singletonIf_subset _ _ _ (by decide)⟩⟩, rfl⟩

end TransportViz.Stats
