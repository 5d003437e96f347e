import TransportViz.Decision.Predict

/-!
# The conditions of the decision rules

The conditions of the rules, on their own terms: which types match, when the QoS allows data-sharing,
what counts as evidence of two IPC namespaces, and which locator is the first one the writer can
reach. Each is shown to be what the code tests.
-/

namespace TransportViz.Decision

/-! ## The rules -/

/-- The endpoint announces XTypes TypeInformation. -/
def AnnouncesType (e : Endpoint) : Prop :=
  e.typeInformationHash ≠ "" ∨ e.typeInformationMinimalHash ≠ ""

/-- A non-empty complete or minimal hash agrees. -/
def HashAgrees (writer reader : Endpoint) : Prop :=
  (writer.typeInformationHash ≠ "" ∧ writer.typeInformationHash = reader.typeInformationHash) ∨
    (writer.typeInformationMinimalHash ≠ "" ∧
      writer.typeInformationMinimalHash = reader.typeInformationMinimalHash)

/-- Rule 0: TypeInformation decides when both announce it, the type names otherwise. -/
def TypesMatch (writer reader : Endpoint) : Prop :=
  (AnnouncesType writer ∧ AnnouncesType reader ∧ HashAgrees writer reader) ∨
    ((¬AnnouncesType writer ∨ ¬AnnouncesType reader) ∧ writer.ddsType = reader.ddsType)

/-- Rule 3: both announce data-sharing, and their domain ids do not rule it out. -/
structure DataSharingQos (writer reader : Endpoint) : Prop where
  writer_kind : writer.qos.dataSharing = .on ∨ writer.qos.dataSharing = .auto
  reader_kind : reader.qos.dataSharing = .on ∨ reader.qos.dataSharing = .auto
  domains : writer.qos.dataSharingDomains = [] ∨ reader.qos.dataSharingDomains = [] ∨
    ∃ id ∈ writer.qos.dataSharingDomains, id ∈ reader.qos.dataSharingDomains

/-- One side is seen in the tool's IPC namespace and the other is not. -/
def SeenApart (w r : ShmVisibility) : Prop :=
  (w = .visible ∧ r = .notVisible) ∨ (w = .notVisible ∧ r = .visible)

/-- The participants listen for SHM in different IPC namespaces. -/
def ShmSplit (writer reader : Endpoint) : Prop :=
  writer.participantGuidPrefix ≠ reader.participantGuidPrefix ∧
    ((∃ port ∈ shmPorts writer, port ∈ shmPorts reader) ∨
      SeenApart writer.participantShmVisibility reader.participantShmVisibility)

/-- The endpoints' data-sharing segments are in different /dev/shm. -/
def SegmentSplit (writer reader : Endpoint) : Prop :=
  writer.participantGuidPrefix ≠ reader.participantGuidPrefix ∧
    SeenApart writer.datasharingSegmentVisibility reader.datasharingSegmentVisibility

/-- Both endpoints announce a SHM locator. -/
def BothShm (writer reader : Endpoint) : Prop :=
  (∃ l ∈ writer.unicast ++ writer.multicast, l.kind = .shm) ∧
    ∃ l ∈ reader.unicast ++ reader.multicast, l.kind = .shm

/-- What splits a data-sharing pair: its segments, and its SHM ports when both announce SHM. -/
def DataSharingSplit (writer reader : Endpoint) : Prop :=
  (BothShm writer reader ∧ ShmSplit writer reader) ∨ SegmentSplit writer reader

/-- The writer announces a locator of the network locator's kind. -/
def CanReach (writer : Endpoint) (l : Locator) : Prop :=
  isNetwork l.kind = true ∧ ∃ own ∈ writer.unicast ++ writer.multicast, own.kind = l.kind

/-- `l` is the reader's first locator, unicast before multicast, that the writer can reach. -/
def FirstReachable (writer reader : Endpoint) (l : Locator) : Prop :=
  ∃ earlier later, reader.unicast ++ reader.multicast = earlier ++ l :: later ∧
    CanReach writer l ∧ ∀ other ∈ earlier, ¬CanReach writer other

/-- No shared memory between the two: another host, or neither data-sharing nor SHM on both sides. -/
def NoSharedMemory (writer reader : Endpoint) : Prop :=
  writer.hostId = reader.hostId → ¬DataSharingQos writer reader ∧ ¬BothShm writer reader

/-- Only the SHM locator of a same-host peer is visible, so the network ones are unknown. -/
def LocatorsHidden (writer reader : Endpoint) : Prop :=
  writer.hostId = reader.hostId ∧
    (writer.sameHostLocatorsFiltered = true ∨ reader.sameHostLocatorsFiltered = true) ∧
    ¬((∃ l ∈ writer.unicast ++ writer.multicast, l.kind = .shm) ↔
      ∃ l ∈ reader.unicast ++ reader.multicast, l.kind = .shm)

section Locators

theorem hasKind_iff (e : Endpoint) (kind : LocatorKind) :
    hasKind e kind = true ↔ ∃ l ∈ e.unicast ++ e.multicast, l.kind = kind := by
  simp [hasKind, or_and_right, exists_or]

theorem bothShm_iff (writer reader : Endpoint) :
    bothShm writer reader = true ↔ BothShm writer reader := by
  simp only [bothShm, Bool.and_eq_true, hasKind_iff, BothShm]

theorem canReach_iff (writer : Endpoint) (l : Locator) :
    (isNetwork l.kind && hasKind writer l.kind) = true ↔ CanReach writer l := by
  simp only [Bool.and_eq_true, hasKind_iff, CanReach]

theorem sameHostLocatorsHidden_iff (writer reader : Endpoint) :
    sameHostLocatorsHidden writer reader = true ↔ LocatorsHidden writer reader := by
  rw [LocatorsHidden, ← hasKind_iff, ← hasKind_iff]
  simp only [sameHostLocatorsHidden, Bool.and_eq_true, decide_eq_true_eq, Bool.or_eq_true, and_assoc]
  cases hasKind writer .shm <;> cases hasKind reader .shm <;> simp

/-- The two list walks of the source are one walk over the unicast, then the multicast locators. -/
theorem pickNetworkLocator_fst (writer reader : Endpoint) :
    (pickNetworkLocator writer reader).map Prod.fst =
      (reader.unicast ++ reader.multicast).find?
        fun l ↦ isNetwork l.kind && hasKind writer l.kind := by
  rw [List.find?_append]
  simp only [pickNetworkLocator]
  cases reader.unicast.find? fun l ↦ isNetwork l.kind && hasKind writer l.kind with
  | some l => rfl
  | none =>
    simp only [Option.map_map, Option.none_or]
    exact Option.map_id'

theorem pickNetworkLocator_none (writer reader : Endpoint)
    (h : pickNetworkLocator writer reader = none) :
    ∀ l ∈ reader.unicast ++ reader.multicast, ¬CanReach writer l := by
  have hfind := pickNetworkLocator_fst writer reader
  rw [h, Option.map_none, eq_comm, List.find?_eq_none] at hfind
  intro l hl hcan
  exact hfind l hl ((canReach_iff writer l).mpr hcan)

theorem firstReachable_iff (writer reader : Endpoint) (l : Locator) :
    FirstReachable writer reader l ↔
      (reader.unicast ++ reader.multicast).find?
        (fun l ↦ isNetwork l.kind && hasKind writer l.kind) = some l := by
  rw [List.find?_eq_some_iff_append, canReach_iff]
  constructor
  · rintro ⟨earlier, later, hsplit, hcan, hearlier⟩
    refine ⟨hcan, earlier, later, hsplit, fun other hother ↦ ?_⟩
    rw [Bool.not_eq_true', ← Bool.not_eq_true, canReach_iff]
    exact hearlier other hother
  · rintro ⟨hcan, earlier, later, hsplit, hearlier⟩
    refine ⟨earlier, later, hsplit, hcan, fun other hother hreach ↦ ?_⟩
    have hnot := hearlier other hother
    rw [Bool.not_eq_true', ← Bool.not_eq_true, canReach_iff] at hnot
    exact hnot hreach

theorem firstReachable_unique (writer reader : Endpoint) (first second : Locator)
    (hfirst : FirstReachable writer reader first) (hsecond : FirstReachable writer reader second) :
    first = second := by
  rw [firstReachable_iff] at hfirst hsecond
  exact Option.some.inj (hfirst.symm.trans hsecond)

theorem pickNetworkLocator_some (writer reader : Endpoint) (l : Locator) (multicast : Bool)
    (h : pickNetworkLocator writer reader = some (l, multicast)) :
    FirstReachable writer reader l := by
  rw [firstReachable_iff, ← pickNetworkLocator_fst, h, Option.map_some]

theorem transportFor_of_isNetwork (kind : LocatorKind) (h : isNetwork kind = true) :
    transportFor kind ≠ .dataSharing ∧ transportFor kind ≠ .shm ∧ transportFor kind ≠ .none := by
  cases kind <;> simp_all [isNetwork, transportFor]

end Locators

section Conditions

theorem typeInformationAnnounced_iff (e : Endpoint) :
    typeInformationAnnounced e = true ↔ AnnouncesType e := by
  simp [typeInformationAnnounced, AnnouncesType]

theorem typeInformationMatch_different_iff (writer reader : Endpoint) :
    typeInformationMatch writer reader = .different ↔
      AnnouncesType writer ∧ AnnouncesType reader ∧ ¬HashAgrees writer reader := by
  rw [← typeInformationAnnounced_iff, ← typeInformationAnnounced_iff]
  unfold typeInformationMatch HashAgrees
  cases typeInformationAnnounced writer <;> cases typeInformationAnnounced reader <;>
    simp only [Bool.false_eq_true, not_false_eq_true, not_true_eq_false, true_or, or_true, or_self,
      if_true, if_false, false_and, true_and, reduceCtorEq]
  split_ifs with hagree <;> simp [hagree]

theorem typeInformationMatch_unknown_iff (writer reader : Endpoint) :
    typeInformationMatch writer reader = .unknown ↔
      ¬AnnouncesType writer ∨ ¬AnnouncesType reader := by
  rw [← typeInformationAnnounced_iff, ← typeInformationAnnounced_iff]
  unfold typeInformationMatch
  split_ifs with hannounced hagree
  · exact iff_of_true rfl hannounced
  · exact iff_of_false (by decide) hannounced
  · exact iff_of_false (by decide) hannounced

/-- The early return of `decide` is taken exactly when the types do not match. -/
theorem not_typesMatch_iff (writer reader : Endpoint) :
    ¬TypesMatch writer reader ↔
      typeInformationMatch writer reader = .different ∨
        (typeInformationMatch writer reader = .unknown ∧ writer.ddsType ≠ reader.ddsType) := by
  rw [typeInformationMatch_different_iff, typeInformationMatch_unknown_iff, TypesMatch]
  by_cases hw : AnnouncesType writer <;> by_cases hr : AnnouncesType reader <;> simp [hw, hr]

theorem domainsIntersect_iff (a b : List ℕ) :
    domainsIntersect a b = true ↔ ∃ id ∈ a, id ∈ b := by
  simp [domainsIntersect]

theorem dataSharingRefusal_eq_none_iff (writer reader : Endpoint) :
    dataSharingRefusal writer reader = none ↔ DataSharingQos writer reader := by
  have hdomains : ¬((writer.qos.dataSharingDomains ≠ [] ∧ reader.qos.dataSharingDomains ≠ []) ∧
        ¬domainsIntersect writer.qos.dataSharingDomains reader.qos.dataSharingDomains = true) ↔
      writer.qos.dataSharingDomains = [] ∨ reader.qos.dataSharingDomains = [] ∨
        ∃ id ∈ writer.qos.dataSharingDomains, id ∈ reader.qos.dataSharingDomains := by
    rw [domainsIntersect_iff, not_and_or, not_and_or, not_not, not_not, not_not, or_assoc]
  have hqos : DataSharingQos writer reader ↔
      (writer.qos.dataSharing = .on ∨ writer.qos.dataSharing = .auto) ∧
      (reader.qos.dataSharing = .on ∨ reader.qos.dataSharing = .auto) ∧
      ¬((writer.qos.dataSharingDomains ≠ [] ∧ reader.qos.dataSharingDomains ≠ []) ∧
        ¬domainsIntersect writer.qos.dataSharingDomains reader.qos.dataSharingDomains = true) := by
    rw [hdomains]
    exact ⟨fun h ↦ ⟨h.1, h.2, h.3⟩, fun h ↦ ⟨h.1, h.2.1, h.2.2⟩⟩
  rw [hqos]
  simp only [dataSharingRefusal]
  cases writer.qos.dataSharing <;> cases reader.qos.dataSharing <;>
    simp only [reduceCtorEq, or_false, or_true, if_true, if_false, true_and, false_and, and_false,
      or_self]
  all_goals split_ifs <;> simp_all

theorem visibilitySplit_ne_nil_iff (w r : ShmVisibility) (readerCode writerCode : String) :
    visibilitySplit w r readerCode writerCode ≠ [] ↔ SeenApart w r := by
  unfold visibilitySplit SeenApart
  split_ifs with hreader hwriter <;> simp_all

theorem ipcSplitReasons_ne_nil_iff (writer reader : Endpoint) :
    ipcSplitReasons writer reader ≠ [] ↔ ShmSplit writer reader := by
  have hvisible := visibilitySplit_ne_nil_iff writer.participantShmVisibility
    reader.participantShmVisibility "shm-reader-port-not-visible" "shm-writer-port-not-visible"
  unfold ipcSplitReasons ShmSplit
  split_ifs with hparticipant hports
  · simp [hparticipant]
  · obtain ⟨port, hport⟩ := hports
    simp only [List.cons_append, ne_eq, reduceCtorEq, not_false_eq_true, true_iff]
    exact ⟨hparticipant, .inl ⟨port, Finset.mem_inter.mp hport⟩⟩
  · rw [List.nil_append, hvisible]
    refine ⟨fun h ↦ ⟨hparticipant, .inr h⟩, fun h ↦ h.2.resolve_left ?_⟩
    rintro ⟨port, hw, hr⟩
    exact hports ⟨port, Finset.mem_inter.mpr ⟨hw, hr⟩⟩

theorem datasharingSplitReasons_ne_nil_iff (writer reader : Endpoint) :
    datasharingSplitReasons writer reader ≠ [] ↔ SegmentSplit writer reader := by
  unfold datasharingSplitReasons SegmentSplit
  split_ifs with hparticipant
  · simp [hparticipant]
  · rw [visibilitySplit_ne_nil_iff]
    exact ⟨fun h ↦ ⟨hparticipant, h⟩, fun h ↦ h.2⟩

theorem dataSharingSplit_iff (writer reader : Endpoint) :
    (if bothShm writer reader then ipcSplitReasons writer reader else []) ++
        datasharingSplitReasons writer reader ≠ [] ↔ DataSharingSplit writer reader := by
  rw [DataSharingSplit, ← bothShm_iff, ← ipcSplitReasons_ne_nil_iff,
    ← datasharingSplitReasons_ne_nil_iff]
  cases bothShm writer reader <;>
    simp only [Bool.false_eq_true, if_false, if_true, List.nil_append, ne_eq, List.append_eq_nil_iff,
      false_and, false_or, true_and]
  tauto

end Conditions

end TransportViz.Decision
