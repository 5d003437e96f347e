import TransportViz.Decision.VerdictShape

/-!
# The documented decision rules

`decide` adds the questions about the types and the process to the verdict on one type. The lemmas of
the first part say what it leaves as it is; `decide_documented` puts them together: `decide`
implements the documented rules for every writer and every reader.
-/

namespace TransportViz.Decision

variable [Fnmatch]

section AnyType

theorem decide_of_not_typesMatch (writer reader : Endpoint) (h : ¬TypesMatch writer reader) :
    Decision.decide writer reader =
      { reasons := [if writer.ddsType ≠ reader.ddsType then "type-name-mismatch"
          else "type-information-mismatch"]
        warnings := if rosHashesDiffer writer reader then ["type-hash-mismatch"] else [] } := by
  rw [not_typesMatch_iff] at h
  simp only [Decision.decide, if_pos h]

/-- Of a matched pair, only codes are added to what the QoS and the locators decide. -/
theorem decide_of_typesMatch (writer reader : Endpoint) (h : TypesMatch writer reader) :
    ∃ reasons, Decision.decide writer reader =
        { decideSameType writer reader with
          reasons := reasons
          warnings := (decideSameType writer reader).warnings ++
            if rosHashesDiffer writer reader then ["type-hash-mismatch"] else [] } ∧
      (intraProcessPair writer reader = false ∨
          "qos-incompatible" ∈ (decideSameType writer reader).warnings →
        reasons = (decideSameType writer reader).reasons ++
          if writer.ddsType ≠ reader.ddsType then ["type-names-differ-same-type"] else []) ∧
      (intraProcessPair writer reader = true →
          "qos-incompatible" ∉ (decideSameType writer reader).warnings →
        reasons = replaceCode ((decideSameType writer reader).reasons ++
          if writer.ddsType ≠ reader.ddsType then ["type-names-differ-same-type"] else [])
          "datasharing-unverified-by-traffic" "intra-process") := by
  have hmatch := not_not.mpr h
  rw [not_typesMatch_iff] at hmatch
  simp only [Decision.decide, if_neg hmatch]
  by_cases hintra : intraProcessPair writer reader = true ∧
      "qos-incompatible" ∉ ((decideSameType writer reader).addReasons
        (if writer.ddsType ≠ reader.ddsType then ["type-names-differ-same-type"] else [])).warnings
  · rw [if_pos hintra]
    refine ⟨_, rfl, ?_, fun _ _ ↦ rfl⟩
    rintro (hnot | hnot)
    · simp [hnot] at hintra
    · exact absurd hnot hintra.2
  · rw [if_neg hintra]
    exact ⟨_, rfl, fun _ ↦ rfl, fun hproc hnot ↦ absurd ⟨hproc, hnot⟩ hintra⟩

variable (writer reader : Endpoint)

theorem decide_transport (h : TypesMatch writer reader) :
    (Decision.decide writer reader).transport = (decideSameType writer reader).transport := by
  obtain ⟨_, heq, -⟩ := decide_of_typesMatch writer reader h
  rw [heq]

theorem decide_confidence (h : TypesMatch writer reader) :
    (Decision.decide writer reader).confidence = (decideSameType writer reader).confidence := by
  obtain ⟨_, heq, -⟩ := decide_of_typesMatch writer reader h
  rw [heq]

theorem decide_locator (h : TypesMatch writer reader) :
    (Decision.decide writer reader).locator = (decideSameType writer reader).locator := by
  obtain ⟨_, heq, -⟩ := decide_of_typesMatch writer reader h
  rw [heq]

theorem mem_decide_warnings (h : TypesMatch writer reader) (code : String)
    (hcode : code ≠ "type-hash-mismatch") :
    code ∈ (Decision.decide writer reader).warnings ↔
      code ∈ (decideSameType writer reader).warnings := by
  obtain ⟨_, heq, -⟩ := decide_of_typesMatch writer reader h
  rw [heq]
  simp only [List.mem_append]
  split_ifs <;> simp [hcode]

theorem mem_decide_reasons (h : TypesMatch writer reader) (code : String)
    (hnames : code ≠ "type-names-differ-same-type")
    (hold : code ≠ "datasharing-unverified-by-traffic") (hnew : code ≠ "intra-process") :
    code ∈ (Decision.decide writer reader).reasons ↔
      code ∈ (decideSameType writer reader).reasons := by
  obtain ⟨reasons, heq, hplain, hintra⟩ := decide_of_typesMatch writer reader h
  have hadded : code ∈ (decideSameType writer reader).reasons ++
      (if writer.ddsType ≠ reader.ddsType then ["type-names-differ-same-type"] else []) ↔
        code ∈ (decideSameType writer reader).reasons := by
    split_ifs <;> simp [hnames]
  rw [heq]
  by_cases hproc : intraProcessPair writer reader = true ∧
      "qos-incompatible" ∉ (decideSameType writer reader).warnings
  · rw [hintra hproc.1 hproc.2, mem_replaceCode_iff _ _ _ _ hold hnew, hadded]
  · rw [hplain (by simpa [or_iff_not_imp_left] using hproc), hadded]

theorem decide_reasons_subset :
    (Decision.decide writer reader).reasons ⊆ predictionReasons := by
  by_cases h : TypesMatch writer reader
  · intro code hcode
    by_cases hother : code = "type-names-differ-same-type" ∨
        code = "datasharing-unverified-by-traffic" ∨ code = "intra-process"
    · rcases hother with rfl | rfl | rfl <;> decide
    · simp only [not_or] at hother
      rw [mem_decide_reasons writer reader h code hother.1 hother.2.1 hother.2.2] at hcode
      exact List.mem_append_left _
        ((sameTypeVerdict_decideSameType writer reader).reasons_subset hcode)
  · rw [decide_of_not_typesMatch writer reader h]
    simp only
    split_ifs <;> decide

theorem decide_warnings_subset :
    (Decision.decide writer reader).warnings ⊆ predictionWarnings := by
  by_cases h : TypesMatch writer reader
  · intro code hcode
    by_cases hhash : code = "type-hash-mismatch"
    · rw [hhash]
      decide
    · rw [mem_decide_warnings writer reader h code hhash] at hcode
      exact (sameTypeVerdict_decideSameType writer reader).warnings_subset hcode
  · rw [decide_of_not_typesMatch writer reader h]
    simp only
    split_ifs <;> decide

/-- Of the codes that no matched pair has, a pair has the one of its mismatch. -/
theorem mem_decide_reasons_of_unmatched {code : String}
    (hcode : code ∉ "type-names-differ-same-type" :: "datasharing-unverified-by-traffic" ::
      "intra-process" :: sameTypeReasons) :
    code ∈ (Decision.decide writer reader).reasons ↔ ¬TypesMatch writer reader ∧
      code = if writer.ddsType ≠ reader.ddsType then "type-name-mismatch"
        else "type-information-mismatch" := by
  obtain ⟨hnames, hold, hnew, hsame⟩ : code ≠ _ ∧ code ≠ _ ∧ code ≠ _ ∧ code ∉ sameTypeReasons := by
    simpa only [List.mem_cons, not_or] using hcode
  by_cases h : TypesMatch writer reader
  · rw [mem_decide_reasons writer reader h code hnames hold hnew]
    refine iff_of_false (fun hmem ↦ hsame ?_) fun hnot ↦ hnot.1 h
    exact (sameTypeVerdict_decideSameType writer reader).reasons_subset hmem
  · rw [decide_of_not_typesMatch writer reader h, List.mem_singleton, and_iff_right h]

theorem typeNameMismatch_mem_iff :
    "type-name-mismatch" ∈ (Decision.decide writer reader).reasons ↔
      ¬TypesMatch writer reader ∧ writer.ddsType ≠ reader.ddsType := by
  rw [mem_decide_reasons_of_unmatched writer reader (by decide)]
  by_cases hnames : writer.ddsType = reader.ddsType <;> simp [hnames]

theorem typeInformationMismatch_mem_iff :
    "type-information-mismatch" ∈ (Decision.decide writer reader).reasons ↔
      ¬TypesMatch writer reader ∧ writer.ddsType = reader.ddsType := by
  rw [mem_decide_reasons_of_unmatched writer reader (by decide)]
  by_cases hnames : writer.ddsType = reader.ddsType <;> simp [hnames]

/-- A pair without a match or across IPC namespaces has no transport, whatever else it has. -/
theorem decide_none_certain
    (h : ¬TypesMatch writer reader ∨
      "qos-incompatible" ∈ (Decision.decide writer reader).warnings ∨
      "shm-ipc-namespace-split" ∈ (Decision.decide writer reader).warnings) :
    (Decision.decide writer reader).transport = .none ∧
      (Decision.decide writer reader).confidence = .certain := by
  by_cases htypes : TypesMatch writer reader
  · rw [decide_transport writer reader htypes, decide_confidence writer reader htypes]
    rw [mem_decide_warnings writer reader htypes _ (by decide),
      mem_decide_warnings writer reader htypes _ (by decide)] at h
    exact (sameTypeVerdict_decideSameType writer reader).none_certain
      (h.resolve_left (not_not.mpr htypes))
  · rw [decide_of_not_typesMatch writer reader htypes]
    exact ⟨rfl, rfl⟩

end AnyType

/-! ## The rules as documented -/

/-- What the documentation says of the verdict `v` on `writer` and `reader`. -/
structure DocumentedRules (writer reader : Endpoint) (v : Verdict) : Prop where
  /-- Rule 0: the pair is `NONE` over its types exactly when they do not match. -/
  types : v.transport = .none ∧ v.confidence = .certain ∧
      ("type-name-mismatch" ∈ v.reasons ∨ "type-information-mismatch" ∈ v.reasons) ↔
    ¬TypesMatch writer reader
  typeNames : "type-name-mismatch" ∈ v.reasons ↔
    ¬TypesMatch writer reader ∧ writer.ddsType ≠ reader.ddsType
  typeInformation : "type-information-mismatch" ∈ v.reasons ↔
    ¬TypesMatch writer reader ∧ writer.ddsType = reader.ddsType
  /-- Rule 1: the pair is `NONE` over its QoS exactly when some policy is incompatible. -/
  policies : TypesMatch writer reader →
    (v.transport = .none ∧ v.confidence = .certain ∧ "qos-incompatible" ∈ v.warnings ↔
      qosIncompatibilities writer reader ≠ [])
  policyReasons : TypesMatch writer reader → qosIncompatibilities writer reader ≠ [] →
    v.reasons =
      (qosIncompatibilities writer reader).map (fun policy ↦ "qos-incompatible-" ++ policy) ++
        if writer.ddsType ≠ reader.ddsType then ["type-names-differ-same-type"] else []
  /-- Rule 3: data-sharing on one host, when the QoS allows it and nothing splits the two. -/
  dataSharing : TypesMatch writer reader → qosIncompatibilities writer reader = [] →
    (v.transport = .dataSharing ↔ writer.hostId = reader.hostId ∧
      DataSharingQos writer reader ∧ ¬DataSharingSplit writer reader)
  /-- Rule 4: shared memory on one host, when data-sharing is out of the question. -/
  shm : TypesMatch writer reader → qosIncompatibilities writer reader = [] →
    (v.transport = .shm ↔ writer.hostId = reader.hostId ∧ ¬DataSharingQos writer reader ∧
      BothShm writer reader ∧ ¬ShmSplit writer reader)
  split : TypesMatch writer reader → qosIncompatibilities writer reader = [] →
    (v.transport = .none ∧ v.confidence = .certain ∧ "shm-ipc-namespace-split" ∈ v.warnings ↔
      writer.hostId = reader.hostId ∧
        ((DataSharingQos writer reader ∧ DataSharingSplit writer reader) ∨
          (¬DataSharingQos writer reader ∧ BothShm writer reader ∧ ShmSplit writer reader)))
  /-- Rule 5: otherwise the reader's first locator of a kind the writer speaks. -/
  network : TypesMatch writer reader → qosIncompatibilities writer reader = [] →
    NoSharedMemory writer reader → ∀ l, FirstReachable writer reader l →
      v.transport = transportFor l.kind ∧ v.confidence = .certain ∧ v.locator = l
  /-- Rule 6: nothing in common, unless the tool cannot see the locators. -/
  unreachable : TypesMatch writer reader → qosIncompatibilities writer reader = [] →
    NoSharedMemory writer reader →
    (∀ l ∈ reader.unicast ++ reader.multicast, ¬CanReach writer l) →
      (LocatorsHidden writer reader → v.transport = .udpv4 ∧ v.confidence = .likely) ∧
        (¬LocatorsHidden writer reader → v.transport = .none ∧ v.confidence = .certain)

/-- `decide` implements the documented rules for every writer and every reader. -/
theorem decide_documented (writer reader : Endpoint) :
    DocumentedRules writer reader (Decision.decide writer reader) := by
  have hshape := sameTypeVerdict_decideSameType writer reader
  have hnone := decide_none_certain writer reader
  have hnames := typeNameMismatch_mem_iff writer reader
  have hinformation := typeInformationMismatch_mem_iff writer reader
  refine ⟨?_, hnames, hinformation, fun htypes ↦ ?_, fun htypes hpolicy ↦ ?_, fun htypes hpolicy ↦ ?_,
    fun htypes hpolicy ↦ ?_, fun htypes hpolicy ↦ ?_, fun htypes hpolicy hshared ↦ ?_,
    fun htypes hpolicy hshared ↦ ?_⟩
  · rw [hnames, hinformation, ← and_or_left]
    constructor
    · rintro ⟨-, -, hnot, -⟩
      exact hnot
    · intro hnot
      exact ⟨(hnone (.inl hnot)).1, (hnone (.inl hnot)).2, hnot, ne_or_eq _ _⟩
  · rw [← hshape.qosIncompatible_iff, ← mem_decide_warnings writer reader htypes _ (by decide)]
    exact ⟨fun h ↦ h.2.2, fun h ↦ ⟨(hnone (.inr (.inl h))).1, (hnone (.inr (.inl h))).2, h⟩⟩
  · have hwarning := hshape.qosIncompatible_iff.mpr hpolicy
    obtain ⟨reasons, heq, hplain, -⟩ := decide_of_typesMatch writer reader htypes
    rw [heq, hplain (.inr hwarning), decideSameType, if_pos hpolicy]
  · rw [decide_transport writer reader htypes]
    exact hshape.dataSharing_iff hpolicy
  · rw [decide_transport writer reader htypes]
    exact hshape.shm_iff hpolicy
  · rw [← hshape.split_iff hpolicy, ← mem_decide_warnings writer reader htypes _ (by decide)]
    exact ⟨fun h ↦ h.2.2, fun h ↦ ⟨(hnone (.inr (.inr h))).1, (hnone (.inr (.inr h))).2, h⟩⟩
  · rw [decide_transport writer reader htypes, decide_confidence writer reader htypes,
      decide_locator writer reader htypes]
    exact hshape.network_transport hpolicy hshared
  · rw [decide_transport writer reader htypes, decide_confidence writer reader htypes]
    exact hshape.unreachable_transport hpolicy hshared

end TransportViz.Decision
