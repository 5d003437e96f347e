import TransportViz.Decision.Documented
import TransportViz.Model.Text

/-!
# Pairs within one process

One process has one IPC namespace, so a pair within it cannot be split. The evidence for a split is
only set aside for endpoints of one participant, while a process may have several.
-/

namespace TransportViz.Decision

variable [Fnmatch]

/-- A pair within one process is never said to lose its samples between two IPC namespaces. -/
def OneNamespace (writer reader : Endpoint) : Prop :=
  intraProcessPair writer reader = true →
    "shm-ipc-namespace-split" ∉ (Decision.decide writer reader).warnings

/-- What makes a matched pair of one host look split: evidence between its two participants, on
whichever of data-sharing and shared memory the pair would use. -/
structure LooksSplit (writer reader : Endpoint) : Prop where
  types : TypesMatch writer reader
  policies : qosIncompatibilities writer reader = []
  host : writer.hostId = reader.hostId
  evidence : (DataSharingQos writer reader ∧ DataSharingSplit writer reader) ∨
    (¬DataSharingQos writer reader ∧ BothShm writer reader ∧ ShmSplit writer reader)

theorem split_mem_decide_iff (writer reader : Endpoint) :
    "shm-ipc-namespace-split" ∈ (Decision.decide writer reader).warnings ↔
      LooksSplit writer reader := by
  by_cases htypes : TypesMatch writer reader
  · have hshape := sameTypeVerdict_decideSameType writer reader
    rw [mem_decide_warnings writer reader htypes _ (by decide)]
    by_cases hpolicy : qosIncompatibilities writer reader = []
    · rw [hshape.split_iff hpolicy]
      exact ⟨fun h ↦ ⟨htypes, hpolicy, h.1, h.2⟩, fun h ↦ ⟨h.host, h.evidence⟩⟩
    · have hqos := hshape.qosIncompatible_iff.mpr hpolicy
      exact iff_of_false (hshape.not_split_of_qosIncompatible hqos) fun h ↦ hpolicy h.policies
  · rw [decide_of_not_typesMatch writer reader htypes]
    refine iff_of_false ?_ fun h ↦ htypes h.types
    simp only
    split_ifs <;> simp

/-- A pair within one process is kept whole exactly when nothing makes it look split. -/
theorem oneNamespace_iff (writer reader : Endpoint) :
    OneNamespace writer reader ↔
      (intraProcessPair writer reader = true → ¬LooksSplit writer reader) := by
  rw [OneNamespace, split_mem_decide_iff]

omit [Fnmatch]

/-- An endpoint of the `participant`-th participant of one process. -/
def processEndpoint (isWriter : Bool) (participant : UInt8) (visibility : ShmVisibility) : Endpoint :=
  let guid : GuidBytes := ⟨[1, 15, 7, 7, 9, 0, 0, 0, participant, 0, 0, 0, 0, 0, 1, 3], rfl⟩
  { isWriter := isWriter
    guid := guidToString guid
    guidBytes := guid
    hostId := sampleHostId
    participantGuidPrefix := prefixToString guid
    unicast := [⟨.udpv4, "192.168.1.5", 7411⟩, ⟨.shm, "", 7411 + 2 * participant.toNat⟩]
    participantShmVisibility := visibility
    qos := { dataSharing := .off } }

/-- Two participants of one process, the port of one of which the tool does not see. -/
theorem processPair_not_oneNamespace :
    ¬@OneNamespace literalFnmatch (processEndpoint true 1 .visible)
      (processEndpoint false 2 .notVisible) := by
  unfold OneNamespace
  decide +kernel

end TransportViz.Decision
