import TransportViz.Decision.Rules

/-!
# The shape of a verdict

`SameTypeVerdict` lists the verdicts on two endpoints of one type, one case per rule, each with the
condition under which the rule applies. Every later fact about a prediction (its transport, the codes
it can carry, what a split or an incompatible pair looks like) is read off these cases.
-/

namespace TransportViz.Decision

section ReplaceCode

theorem mem_of_mem_replaceCode (codes : List String) (old new code : String)
    (h : code ∈ replaceCode codes old new) : code = new ∨ code ∈ codes := by
  induction codes with
  | nil => simpa [replaceCode] using h
  | cons head rest ih =>
    rw [replaceCode] at h
    split_ifs at h
    · exact (List.mem_cons.mp h).imp_right (List.mem_cons_of_mem _)
    · rcases List.mem_cons.mp h with rfl | h
      · exact .inr (List.mem_cons_self ..)
      · exact (ih h).imp_right (List.mem_cons_of_mem _)

theorem mem_replaceCode_new (codes : List String) (old new : String) :
    new ∈ replaceCode codes old new := by
  induction codes with
  | nil => simp [replaceCode]
  | cons head rest ih =>
    rw [replaceCode]
    split_ifs
    · exact List.mem_cons_self ..
    · exact List.mem_cons_of_mem _ ih

theorem mem_replaceCode_of_mem (codes : List String) (old new code : String) (hold : code ≠ old)
    (h : code ∈ codes) : code ∈ replaceCode codes old new := by
  induction codes with
  | nil => simp at h
  | cons head rest ih =>
    rw [replaceCode]
    split_ifs with hhead
    · rcases List.mem_cons.mp h with rfl | h
      · exact absurd hhead hold
      · exact List.mem_cons_of_mem _ h
    · rcases List.mem_cons.mp h with rfl | h
      · exact List.mem_cons_self ..
      · exact List.mem_cons_of_mem _ (ih h)

/-- Replacing one code by another leaves every third code as it is. -/
theorem mem_replaceCode_iff (codes : List String) (old new code : String) (hold : code ≠ old)
    (hnew : code ≠ new) : code ∈ replaceCode codes old new ↔ code ∈ codes :=
  ⟨fun h ↦ (mem_of_mem_replaceCode codes old new code h).resolve_left hnew,
    mem_replaceCode_of_mem codes old new code hold⟩

end ReplaceCode

/-- Codes that say where the two endpoints are and what they announce. -/
def contextCodes : List String :=
  ["same-host-guid", "different-host", "datasharing-disabled-writer", "datasharing-disabled-reader",
    "datasharing-qos-unknown", "datasharing-domain-ids-mismatch", "datasharing-domain-ids-match",
    "datasharing-domain-ids-unknown", "writer-no-shm-locator", "reader-no-shm-locator",
    "shm-locators-ignored-across-hosts"]

/-- Codes of the evidence for two IPC namespaces. -/
def splitCodes : List String :=
  ["shm-port-collision", "shm-reader-port-not-visible", "shm-writer-port-not-visible",
    "datasharing-reader-segment-not-visible", "datasharing-writer-segment-not-visible"]

def policyCodes : List String :=
  ["qos-incompatible-reliability", "qos-incompatible-durability", "qos-incompatible-deadline",
    "qos-incompatible-liveliness", "qos-incompatible-ownership", "qos-incompatible-partition"]

def networkCodes : List String :=
  ["common-udpv4-locator", "common-udpv6-locator", "common-tcpv4-locator", "common-tcpv6-locator"]

theorem visibilitySplit_subset (w r : ShmVisibility) (readerCode writerCode : String) :
    visibilitySplit w r readerCode writerCode ⊆ [readerCode, writerCode] := by
  unfold visibilitySplit
  split_ifs <;> simp

theorem ipcSplitReasons_subset (writer reader : Endpoint) :
    ipcSplitReasons writer reader ⊆ splitCodes := by
  have hvisible := visibilitySplit_subset writer.participantShmVisibility
    reader.participantShmVisibility "shm-reader-port-not-visible" "shm-writer-port-not-visible"
  have hcodes := List.Subset.trans hvisible (by simp [splitCodes] : _ ⊆ splitCodes)
  unfold ipcSplitReasons
  split_ifs with hparticipant hports
  · exact List.nil_subset _
  · exact List.append_subset.mpr ⟨by simp [splitCodes], hcodes⟩
  · exact hcodes

theorem datasharingSplitReasons_subset (writer reader : Endpoint) :
    datasharingSplitReasons writer reader ⊆ splitCodes := by
  unfold datasharingSplitReasons
  split_ifs with hparticipant
  · exact List.nil_subset _
  · exact List.Subset.trans (visibilitySplit_subset _ _ _ _) (by simp [splitCodes])

theorem dataSharingRefusal_mem (writer reader : Endpoint) (refusal : String)
    (h : dataSharingRefusal writer reader = some refusal) : refusal ∈ contextCodes := by
  unfold dataSharingRefusal at h
  simp only at h
  split_ifs at h <;> cases h <;> simp [contextCodes]

/-- Every reason of a verdict on two endpoints of one type. -/
def sameTypeReasons : List String :=
  contextCodes ++ splitCodes ++ policyCodes ++ networkCodes ++
    ["datasharing-qos-enabled-both", "datasharing-unverified-by-traffic", "both-shm-locators",
      "same-host-locators-hidden", "no-common-transport"]

/-- Every reason a prediction can carry. -/
def predictionReasons : List String :=
  sameTypeReasons ++ ["type-name-mismatch", "type-information-mismatch",
    "type-names-differ-same-type", "intra-process"]

/-- Every warning a prediction can carry. -/
def predictionWarnings : List String :=
  ["host-id-match-but-ip-differs", "qos-incompatible", "shm-ipc-namespace-split",
    "type-hash-mismatch"]

theorem reasonFor_mem (kind : LocatorKind) (h : isNetwork kind = true) :
    reasonFor kind ∈ networkCodes := by
  cases kind <;> simp_all [isNetwork, reasonFor, networkCodes]

variable [Fnmatch]

theorem policyReasons_subset (writer reader : Endpoint) :
    (qosIncompatibilities writer reader).map (fun policy ↦ "qos-incompatible-" ++ policy) ⊆
      policyCodes := by
  have hlist (p : Prop) [Decidable p] (policy : String)
      (hpolicy : "qos-incompatible-" ++ policy ∈ policyCodes) :
      (if p then [policy] else []).map (fun policy ↦ "qos-incompatible-" ++ policy) ⊆
        policyCodes := by
    split_ifs
    · simpa using hpolicy
    · simp
  simp only [qosIncompatibilities, List.map_append, List.append_subset, and_assoc]
  refine ⟨hlist _ _ ?_, hlist _ _ ?_, hlist _ _ ?_, hlist _ _ ?_, hlist _ _ ?_, hlist _ _ ?_⟩ <;>
    decide

/-- The verdicts on two endpoints of one type, one case per rule, with the rule's condition. -/
inductive SameTypeVerdict (writer reader : Endpoint) : Verdict → Prop
  | qosIncompatible (hpolicy : qosIncompatibilities writer reader ≠ []) :
      SameTypeVerdict writer reader
        { reasons := (qosIncompatibilities writer reader).map fun policy ↦
            "qos-incompatible-" ++ policy
          warnings := ["qos-incompatible"] }
  | dataSharing (domains : String) (warnings : List String) (hdomains : domains ∈ contextCodes)
      (hwarnings : warnings ⊆ ["host-id-match-but-ip-differs"])
      (hpolicy : qosIncompatibilities writer reader = []) (hhost : writer.hostId = reader.hostId)
      (hqos : DataSharingQos writer reader) (hsplit : ¬DataSharingSplit writer reader) :
      SameTypeVerdict writer reader
        { transport := .dataSharing
          confidence := .likely
          reasons := ["same-host-guid", "datasharing-qos-enabled-both", domains,
            "datasharing-unverified-by-traffic"]
          warnings := warnings }
  | dataSharingSplit (domains : String) (evidence warnings : List String)
      (hdomains : domains ∈ contextCodes) (hevidence : evidence ⊆ splitCodes)
      (hwarnings : warnings ⊆ ["host-id-match-but-ip-differs"])
      (hpolicy : qosIncompatibilities writer reader = []) (hhost : writer.hostId = reader.hostId)
      (hqos : DataSharingQos writer reader) (hsplit : DataSharingSplit writer reader) :
      SameTypeVerdict writer reader
        { reasons := ["same-host-guid", "datasharing-qos-enabled-both", domains] ++
            ((if bothShm writer reader then ["both-shm-locators"] else []) ++ evidence)
          warnings := warnings ++ ["shm-ipc-namespace-split"] }
  | shm (refusal : String) (warnings : List String) (hrefusal : refusal ∈ contextCodes)
      (hwarnings : warnings ⊆ ["host-id-match-but-ip-differs"])
      (hpolicy : qosIncompatibilities writer reader = []) (hhost : writer.hostId = reader.hostId)
      (hqos : ¬DataSharingQos writer reader) (hshm : BothShm writer reader)
      (hsplit : ¬ShmSplit writer reader) :
      SameTypeVerdict writer reader
        { transport := .shm
          locator := (findLocator reader .shm).getD {}
          reasons := ["same-host-guid", refusal, "both-shm-locators"]
          warnings := warnings }
  | shmSplit (refusal : String) (evidence warnings : List String)
      (hrefusal : refusal ∈ contextCodes) (hevidence : evidence ⊆ splitCodes)
      (hwarnings : warnings ⊆ ["host-id-match-but-ip-differs"])
      (hpolicy : qosIncompatibilities writer reader = []) (hhost : writer.hostId = reader.hostId)
      (hqos : ¬DataSharingQos writer reader) (hshm : BothShm writer reader)
      (hsplit : ShmSplit writer reader) :
      SameTypeVerdict writer reader
        { reasons := ["same-host-guid", refusal, "both-shm-locators"] ++ evidence
          warnings := warnings ++ ["shm-ipc-namespace-split"] }
  | network (context warnings : List String) (selected : Locator) (multicast : Bool)
      (hcontext : context ⊆ contextCodes)
      (hwarnings : warnings ⊆ ["host-id-match-but-ip-differs"])
      (hpolicy : qosIncompatibilities writer reader = []) (hshared : NoSharedMemory writer reader)
      (hfirst : FirstReachable writer reader selected) :
      SameTypeVerdict writer reader
        { transport := transportFor selected.kind
          locator := selected
          locatorMulticast := multicast
          reasons := context ++ [reasonFor selected.kind]
          warnings := warnings }
  | hidden (context warnings : List String) (hcontext : context ⊆ contextCodes)
      (hwarnings : warnings ⊆ ["host-id-match-but-ip-differs"])
      (hpolicy : qosIncompatibilities writer reader = []) (hshared : NoSharedMemory writer reader)
      (hnone : ∀ l ∈ reader.unicast ++ reader.multicast, ¬CanReach writer l)
      (hhidden : LocatorsHidden writer reader) :
      SameTypeVerdict writer reader
        { transport := .udpv4
          confidence := .likely
          reasons := context ++ ["same-host-locators-hidden"]
          warnings := warnings }
  | unreachable (context warnings : List String) (hcontext : context ⊆ contextCodes)
      (hwarnings : warnings ⊆ ["host-id-match-but-ip-differs"])
      (hpolicy : qosIncompatibilities writer reader = []) (hshared : NoSharedMemory writer reader)
      (hnone : ∀ l ∈ reader.unicast ++ reader.multicast, ¬CanReach writer l)
      (hhidden : ¬LocatorsHidden writer reader) :
      SameTypeVerdict writer reader
        { reasons := context ++ ["no-common-transport"]
          warnings := warnings }

section Shape

theorem sameTypeVerdict_decideDataSharing (writer reader : Endpoint) (warnings : List String)
    (hwarnings : warnings ⊆ ["host-id-match-but-ip-differs"])
    (hpolicy : qosIncompatibilities writer reader = []) (hhost : writer.hostId = reader.hostId)
    (hqos : DataSharingQos writer reader) :
    SameTypeVerdict writer reader
      (decideDataSharing { reasons := ["same-host-guid"], warnings := warnings } writer reader) := by
  have hdomains : (if writer.qos.dataSharingDomains ≠ [] ∧ reader.qos.dataSharingDomains ≠ [] then
      "datasharing-domain-ids-match" else "datasharing-domain-ids-unknown") ∈ contextCodes := by
    split_ifs <;> simp [contextCodes]
  have hsplit := dataSharingSplit_iff writer reader
  unfold decideDataSharing
  simp only
  by_cases hevidence : (if bothShm writer reader then ipcSplitReasons writer reader else []) ++
      datasharingSplitReasons writer reader = []
  · rw [if_neg (not_not.mpr hevidence)]
    exact .dataSharing _ warnings hdomains hwarnings hpolicy hhost hqos
      (fun h ↦ hsplit.mpr h hevidence)
  · rw [if_pos hevidence]
    refine .dataSharingSplit _ _ warnings hdomains (List.append_subset.mpr ⟨?_, ?_⟩) hwarnings
      hpolicy hhost hqos (hsplit.mp hevidence)
    · split_ifs
      · exact ipcSplitReasons_subset writer reader
      · exact List.nil_subset _
    · exact datasharingSplitReasons_subset writer reader

theorem sameTypeVerdict_decideShm (writer reader : Endpoint) (refusal : String)
    (warnings : List String) (hrefusal : refusal ∈ contextCodes)
    (hwarnings : warnings ⊆ ["host-id-match-but-ip-differs"])
    (hpolicy : qosIncompatibilities writer reader = []) (hhost : writer.hostId = reader.hostId)
    (hqos : ¬DataSharingQos writer reader) (hshm : BothShm writer reader) :
    SameTypeVerdict writer reader
      (decideShm { reasons := ["same-host-guid", refusal], warnings := warnings }
        writer reader) := by
  unfold decideShm
  simp only
  by_cases hevidence : ipcSplitReasons writer reader = []
  · rw [if_neg (not_not.mpr hevidence)]
    exact .shm refusal warnings hrefusal hwarnings hpolicy hhost hqos hshm
      (fun h ↦ (ipcSplitReasons_ne_nil_iff writer reader).mpr h hevidence)
  · rw [if_pos hevidence]
    exact .shmSplit refusal _ warnings hrefusal (ipcSplitReasons_subset writer reader) hwarnings
      hpolicy hhost hqos hshm ((ipcSplitReasons_ne_nil_iff writer reader).mp hevidence)

theorem sameTypeVerdict_decideNetwork (writer reader : Endpoint) (context warnings : List String)
    (hcontext : context ⊆ contextCodes)
    (hwarnings : warnings ⊆ ["host-id-match-but-ip-differs"])
    (hpolicy : qosIncompatibilities writer reader = [])
    (hshared : NoSharedMemory writer reader) :
    SameTypeVerdict writer reader
      (decideNetwork { reasons := context, warnings := warnings } writer reader) := by
  unfold decideNetwork
  cases hpick : pickNetworkLocator writer reader with
  | some picked =>
    obtain ⟨selected, multicast⟩ := picked
    exact .network context warnings selected multicast hcontext hwarnings hpolicy hshared
      (pickNetworkLocator_some writer reader selected multicast hpick)
  | none =>
    have hnone := pickNetworkLocator_none writer reader hpick
    by_cases hhidden : sameHostLocatorsHidden writer reader = true
    · simp only [if_pos hhidden]
      exact .hidden context warnings hcontext hwarnings hpolicy hshared hnone
        ((sameHostLocatorsHidden_iff writer reader).mp hhidden)
    · simp only [if_neg hhidden]
      exact .unreachable context warnings hcontext hwarnings hpolicy hshared hnone
        (fun h ↦ hhidden ((sameHostLocatorsHidden_iff writer reader).mpr h))

/-- Every verdict on two endpoints of one type follows one of the rules. -/
theorem sameTypeVerdict_decideSameType (writer reader : Endpoint) :
    SameTypeVerdict writer reader (decideSameType writer reader) := by
  unfold decideSameType
  simp only
  by_cases hpolicy : qosIncompatibilities writer reader = []
  swap
  · rw [if_pos hpolicy]
    exact .qosIncompatible hpolicy
  rw [if_neg (not_not.mpr hpolicy)]
  have hwarnings : (if ipDiffers writer reader then ["host-id-match-but-ip-differs"] else []) ⊆
      ["host-id-match-but-ip-differs"] := by
    split_ifs <;> simp
  by_cases hhost : writer.hostId = reader.hostId
  · rw [if_pos hhost]
    have hqos := dataSharingRefusal_eq_none_iff writer reader
    cases hrefusal : dataSharingRefusal writer reader with
    | none =>
      exact sameTypeVerdict_decideDataSharing writer reader _ hwarnings hpolicy hhost
        (hqos.mp hrefusal)
    | some refusal =>
      have hmem := dataSharingRefusal_mem writer reader refusal hrefusal
      have hnot : ¬DataSharingQos writer reader := fun h ↦ by
        rw [hqos.mpr h] at hrefusal
        cases hrefusal
      by_cases hshm : bothShm writer reader = true
      · simp only [if_pos hshm]
        exact sameTypeVerdict_decideShm writer reader refusal _ hmem hwarnings hpolicy hhost hnot
          ((bothShm_iff writer reader).mp hshm)
      · simp only [if_neg hshm]
        refine sameTypeVerdict_decideNetwork writer reader _ _ ?_ hwarnings hpolicy
          fun _ ↦ ⟨hnot, fun h ↦ hshm ((bothShm_iff writer reader).mpr h)⟩
        refine List.append_subset.mpr ⟨?_, ?_⟩
        · simpa [contextCodes] using hmem
        · split_ifs <;> simp [contextCodes]
  · rw [if_neg hhost]
    refine sameTypeVerdict_decideNetwork writer reader _ _ ?_ (List.nil_subset _) hpolicy
      fun h ↦ absurd h hhost
    simp only
    split_ifs <;> simp [contextCodes]

namespace SameTypeVerdict

variable {writer reader : Endpoint} {v : Verdict}

theorem qosIncompatible_iff (h : SameTypeVerdict writer reader v) :
    "qos-incompatible" ∈ v.warnings ↔ qosIncompatibilities writer reader ≠ [] := by
  cases h with
  | qosIncompatible hpolicy => simpa using hpolicy
  | dataSharing _ _ _ hwarnings hpolicy | shm _ _ _ hwarnings hpolicy
  | network _ _ _ _ _ hwarnings hpolicy | hidden _ _ _ hwarnings hpolicy
  | unreachable _ _ _ hwarnings hpolicy =>
    exact iff_of_false (fun hmem ↦ by simpa using hwarnings hmem) (not_not.mpr hpolicy)
  | dataSharingSplit _ _ _ _ _ hwarnings hpolicy | shmSplit _ _ _ _ _ hwarnings hpolicy =>
    refine iff_of_false (fun hmem ↦ ?_) (not_not.mpr hpolicy)
    rcases List.mem_append.mp hmem with hmem | hmem
    · simpa using hwarnings hmem
    · simp at hmem

theorem dataSharing_iff (h : SameTypeVerdict writer reader v)
    (hpolicy : qosIncompatibilities writer reader = []) :
    v.transport = .dataSharing ↔
      writer.hostId = reader.hostId ∧ DataSharingQos writer reader ∧
        ¬DataSharingSplit writer reader := by
  cases h with
  | qosIncompatible hnot => exact absurd hpolicy hnot
  | dataSharing _ _ _ _ _ hhost hqos hsplit => simp [hhost, hqos, hsplit]
  | dataSharingSplit _ _ _ _ _ _ _ hhost hqos hsplit => simp [hsplit]
  | shm _ _ _ _ _ hhost hqos | shmSplit _ _ _ _ _ _ _ hhost hqos => simp [hqos]
  | network _ _ selected _ _ _ _ hshared hfirst =>
    obtain ⟨_, _, _, hcan, _⟩ := hfirst
    exact iff_of_false (transportFor_of_isNetwork _ hcan.1).1
      fun ⟨hhost, hqos, _⟩ ↦ (hshared hhost).1 hqos
  | hidden _ _ _ _ _ hshared | unreachable _ _ _ _ _ hshared =>
    exact iff_of_false (by simp) fun ⟨hhost, hqos, _⟩ ↦ (hshared hhost).1 hqos

theorem shm_iff (h : SameTypeVerdict writer reader v)
    (hpolicy : qosIncompatibilities writer reader = []) :
    v.transport = .shm ↔
      writer.hostId = reader.hostId ∧ ¬DataSharingQos writer reader ∧ BothShm writer reader ∧
        ¬ShmSplit writer reader := by
  cases h with
  | qosIncompatible hnot => exact absurd hpolicy hnot
  | dataSharing _ _ _ _ _ hhost hqos | dataSharingSplit _ _ _ _ _ _ _ hhost hqos => simp [hqos]
  | shm _ _ _ _ _ hhost hqos hshm hsplit => simp [hhost, hqos, hshm, hsplit]
  | shmSplit _ _ _ _ _ _ _ hhost hqos hshm hsplit => simp [hsplit]
  | network _ _ selected _ _ _ _ hshared hfirst =>
    obtain ⟨_, _, _, hcan, _⟩ := hfirst
    exact iff_of_false (transportFor_of_isNetwork _ hcan.1).2.1
      fun ⟨hhost, _, hshm, _⟩ ↦ (hshared hhost).2 hshm
  | hidden _ _ _ _ _ hshared | unreachable _ _ _ _ _ hshared =>
    exact iff_of_false (by simp) fun ⟨hhost, _, hshm, _⟩ ↦ (hshared hhost).2 hshm

theorem split_iff (h : SameTypeVerdict writer reader v)
    (hpolicy : qosIncompatibilities writer reader = []) :
    "shm-ipc-namespace-split" ∈ v.warnings ↔
      writer.hostId = reader.hostId ∧
        ((DataSharingQos writer reader ∧ DataSharingSplit writer reader) ∨
          (¬DataSharingQos writer reader ∧ BothShm writer reader ∧ ShmSplit writer reader)) := by
  have hno (warnings : List String) (hwarnings : warnings ⊆ ["host-id-match-but-ip-differs"]) :
      "shm-ipc-namespace-split" ∉ warnings := fun hmem ↦ by simpa using hwarnings hmem
  cases h with
  | qosIncompatible hnot => exact absurd hpolicy hnot
  | dataSharing _ _ _ hwarnings _ hhost hqos hsplit => simp [hno _ hwarnings, hqos, hsplit]
  | dataSharingSplit _ _ _ _ _ _ _ hhost hqos hsplit => simp [hhost, hqos, hsplit]
  | shm _ _ _ hwarnings _ hhost hqos hshm hsplit => simp [hno _ hwarnings, hqos, hsplit]
  | shmSplit _ _ _ _ _ _ _ hhost hqos hshm hsplit => simp [hhost, hqos, hshm, hsplit]
  | network _ _ _ _ _ hwarnings _ hshared | hidden _ _ _ hwarnings _ hshared
  | unreachable _ _ _ hwarnings _ hshared =>
    refine iff_of_false (hno _ hwarnings) ?_
    rintro ⟨hhost, ⟨hqos, _⟩ | ⟨_, hshm, _⟩⟩
    · exact (hshared hhost).1 hqos
    · exact (hshared hhost).2 hshm

theorem not_split_of_qosIncompatible (h : SameTypeVerdict writer reader v)
    (hqos : "qos-incompatible" ∈ v.warnings) : "shm-ipc-namespace-split" ∉ v.warnings := by
  have hnot := h.qosIncompatible_iff.mp hqos
  cases h with
  | qosIncompatible => simp
  | dataSharing _ _ _ _ hpolicy | dataSharingSplit _ _ _ _ _ _ hpolicy | shm _ _ _ _ hpolicy
  | shmSplit _ _ _ _ _ _ hpolicy | network _ _ _ _ _ _ hpolicy | hidden _ _ _ _ hpolicy
  | unreachable _ _ _ _ hpolicy => exact absurd hpolicy hnot

/-- Without a transport nothing is left open. -/
theorem none_certain (h : SameTypeVerdict writer reader v)
    (hcode : "qos-incompatible" ∈ v.warnings ∨ "shm-ipc-namespace-split" ∈ v.warnings) :
    v.transport = .none ∧ v.confidence = .certain := by
  cases h with
  | qosIncompatible | dataSharingSplit | shmSplit | unreachable => exact ⟨rfl, rfl⟩
  | dataSharing _ _ _ hwarnings | shm _ _ _ hwarnings | network _ _ _ _ _ hwarnings
  | hidden _ _ _ hwarnings =>
    rcases hcode with hmem | hmem <;> simpa using hwarnings hmem

/-- Zero-copy delivery is never certain before it is measured. -/
theorem dataSharing_likely (h : SameTypeVerdict writer reader v)
    (htransport : v.transport = .dataSharing) : v.confidence = .likely := by
  cases h with
  | dataSharing | hidden => rfl
  | qosIncompatible | dataSharingSplit | shm | shmSplit | unreachable => simp at htransport
  | network _ _ selected _ _ _ _ _ hfirst =>
    obtain ⟨_, _, _, hcan, _⟩ := hfirst
    exact absurd htransport (transportFor_of_isNetwork _ hcan.1).1

theorem network_transport (h : SameTypeVerdict writer reader v)
    (hpolicy : qosIncompatibilities writer reader = []) (hshared : NoSharedMemory writer reader)
    (l : Locator) (hl : FirstReachable writer reader l) :
    v.transport = transportFor l.kind ∧ v.confidence = .certain ∧ v.locator = l := by
  have hreach : ∃ l ∈ reader.unicast ++ reader.multicast, CanReach writer l := by
    obtain ⟨earlier, later, hlist, hcan, _⟩ := hl
    exact ⟨l, by simp [hlist], hcan⟩
  cases h with
  | qosIncompatible hnot => exact absurd hpolicy hnot
  | dataSharing _ _ _ _ _ hhost hqos | dataSharingSplit _ _ _ _ _ _ _ hhost hqos =>
    exact absurd hqos (hshared hhost).1
  | shm _ _ _ _ _ hhost _ hshm | shmSplit _ _ _ _ _ _ _ hhost _ hshm =>
    exact absurd hshm (hshared hhost).2
  | network _ _ selected _ _ _ _ _ hfirst =>
    obtain rfl := firstReachable_unique writer reader selected l hfirst hl
    exact ⟨rfl, rfl, rfl⟩
  | hidden _ _ _ _ _ _ hnone | unreachable _ _ _ _ _ _ hnone =>
    obtain ⟨l, hmem, hcan⟩ := hreach
    exact absurd hcan (hnone l hmem)

theorem unreachable_transport (h : SameTypeVerdict writer reader v)
    (hpolicy : qosIncompatibilities writer reader = []) (hshared : NoSharedMemory writer reader)
    (hnone : ∀ l ∈ reader.unicast ++ reader.multicast, ¬CanReach writer l) :
    (LocatorsHidden writer reader → v.transport = .udpv4 ∧ v.confidence = .likely) ∧
      (¬LocatorsHidden writer reader → v.transport = .none ∧ v.confidence = .certain) := by
  cases h with
  | qosIncompatible hnot => exact absurd hpolicy hnot
  | dataSharing _ _ _ _ _ hhost hqos | dataSharingSplit _ _ _ _ _ _ _ hhost hqos =>
    exact absurd hqos (hshared hhost).1
  | shm _ _ _ _ _ hhost _ hshm | shmSplit _ _ _ _ _ _ _ hhost _ hshm =>
    exact absurd hshm (hshared hhost).2
  | network _ _ selected _ _ _ _ _ hfirst =>
    obtain ⟨earlier, later, hlist, hcan, _⟩ := hfirst
    exact absurd hcan (hnone selected (by simp [hlist]))
  | hidden _ _ _ _ _ _ _ hhidden => exact ⟨fun _ ↦ ⟨rfl, rfl⟩, fun h ↦ absurd hhidden h⟩
  | unreachable _ _ _ _ _ _ _ hhidden => exact ⟨fun h ↦ absurd h hhidden, fun _ ↦ ⟨rfl, rfl⟩⟩

theorem reasons_subset (h : SameTypeVerdict writer reader v) :
    v.reasons ⊆ sameTypeReasons := by
  have hcontexts : contextCodes ⊆ sameTypeReasons := by decide
  have hsplits : splitCodes ⊆ sameTypeReasons := by decide
  have hnetworks : networkCodes ⊆ sameTypeReasons := by decide
  cases h with
  | qosIncompatible =>
    exact List.Subset.trans (policyReasons_subset writer reader) (by decide)
  | dataSharing _ _ hdomains =>
    simp only [List.cons_subset, List.nil_subset, and_true]
    exact ⟨by decide, by decide, hcontexts hdomains, by decide⟩
  | dataSharingSplit _ _ _ hdomains hevidence =>
    simp only [List.cons_append, List.nil_append, List.cons_subset, List.append_subset]
    refine ⟨by decide, by decide, hcontexts hdomains, ?_, List.Subset.trans hevidence hsplits⟩
    split_ifs <;> decide
  | shm _ _ hrefusal =>
    simp only [List.cons_subset, List.nil_subset, and_true]
    exact ⟨by decide, hcontexts hrefusal, by decide⟩
  | shmSplit _ _ _ hrefusal hevidence =>
    simp only [List.cons_append, List.nil_append, List.cons_subset]
    exact ⟨by decide, hcontexts hrefusal, by decide, List.Subset.trans hevidence hsplits⟩
  | network _ _ selected _ hcontext _ _ _ hfirst =>
    obtain ⟨_, _, _, hcan, _⟩ := hfirst
    refine List.append_subset.mpr ⟨List.Subset.trans hcontext hcontexts, ?_⟩
    exact List.cons_subset.mpr
      ⟨hnetworks (reasonFor_mem selected.kind hcan.1), List.nil_subset _⟩
  | hidden _ _ hcontext | unreachable _ _ hcontext =>
    exact List.append_subset.mpr ⟨List.Subset.trans hcontext hcontexts, by decide⟩

theorem warnings_subset (h : SameTypeVerdict writer reader v) :
    v.warnings ⊆ predictionWarnings := by
  have hhosts : ["host-id-match-but-ip-differs"] ⊆ predictionWarnings := by decide
  cases h with
  | qosIncompatible => simp [predictionWarnings]
  | dataSharing _ _ _ hwarnings | shm _ _ _ hwarnings | network _ _ _ _ _ hwarnings
  | hidden _ _ _ hwarnings | unreachable _ _ _ hwarnings =>
    exact List.Subset.trans hwarnings hhosts
  | dataSharingSplit _ _ _ _ _ hwarnings | shmSplit _ _ _ _ _ hwarnings =>
    exact List.append_subset.mpr ⟨List.Subset.trans hwarnings hhosts, by decide⟩

theorem bothShmCode_iff (h : SameTypeVerdict writer reader v)
    (hsplit : "shm-ipc-namespace-split" ∈ v.warnings) :
    "both-shm-locators" ∈ v.reasons ↔ BothShm writer reader := by
  have hno (codes : List String) (hcodes : codes ⊆ splitCodes) : "both-shm-locators" ∉ codes :=
    fun hmem ↦ absurd (hcodes hmem) (by decide)
  cases h with
  | dataSharingSplit domains _ _ hdomains hevidence =>
    have hdomain : "both-shm-locators" ≠ domains := fun heq ↦
      absurd (heq ▸ hdomains) (by decide)
    rw [← bothShm_iff]
    simp [hno _ hevidence, hdomain]
  | shmSplit _ _ _ _ _ _ _ _ _ hshm => simp [hshm]
  | qosIncompatible => simp at hsplit
  | dataSharing _ _ _ hwarnings | shm _ _ _ hwarnings | network _ _ _ _ _ hwarnings
  | hidden _ _ _ hwarnings | unreachable _ _ _ hwarnings =>
    simpa using hwarnings hsplit

/-- A split pair names data-sharing exactly when data-sharing is what it would have used. -/
theorem dataSharingCode_iff (h : SameTypeVerdict writer reader v)
    (hsplit : "shm-ipc-namespace-split" ∈ v.warnings) :
    "datasharing-qos-enabled-both" ∈ v.reasons ↔ DataSharingQos writer reader := by
  have hno (codes : List String) (hcodes : codes ⊆ splitCodes) :
      "datasharing-qos-enabled-both" ∉ codes := fun hmem ↦ absurd (hcodes hmem) (by decide)
  cases h with
  | dataSharingSplit _ _ _ _ _ _ _ _ hqos => simp [hqos]
  | shmSplit refusal _ _ hrefusal hevidence _ _ _ hqos =>
    have hcode : "datasharing-qos-enabled-both" ≠ refusal := fun heq ↦
      absurd (heq ▸ hrefusal) (by decide)
    simp [hno _ hevidence, hcode, hqos]
  | qosIncompatible => simp at hsplit
  | dataSharing _ _ _ hwarnings | shm _ _ _ hwarnings | network _ _ _ _ _ hwarnings
  | hidden _ _ _ hwarnings | unreachable _ _ _ hwarnings =>
    simpa using hwarnings hsplit

end SameTypeVerdict

end Shape

end TransportViz.Decision
