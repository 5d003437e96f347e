import TransportViz.Decision.Documented
import TransportViz.Model.Text

/-!
# The locator a verdict names

A verdict names the locator of the reader that the writer will send to. The network branch notes with
it whether it was taken from the multicast list, the shared-memory branch does not.
-/

namespace TransportViz.Decision

/-- A verdict on this transport could name the reader's locator `l`. -/
def Qualifies (writer : Endpoint) (transport : Transport) (l : Locator) : Prop :=
  if transport = .shm then l.kind = .shm else CanReach writer l

/-- What holds of the locator that the verdict `v` names, and which verdicts name none. -/
structure NamesFirstLocator (writer reader : Endpoint) (v : Verdict) : Prop where
  announced : v.locator.kind ≠ .invalid → v.locator ∈ reader.unicast ∨ v.locator ∈ reader.multicast
  kind : v.locator.kind ≠ .invalid → transportFor v.locator.kind = v.transport ∧
    ∃ own ∈ writer.unicast ++ writer.multicast, own.kind = v.locator.kind
  first : v.locator.kind ≠ .invalid → ∃ earlier later,
    reader.unicast ++ reader.multicast = earlier ++ v.locator :: later ∧
      Qualifies writer v.transport v.locator ∧
      ∀ other ∈ earlier, ¬Qualifies writer v.transport other
  /-- It is marked as a multicast one exactly when no unicast locator qualifies. -/
  multicast : v.locator.kind ≠ .invalid →
    (v.locatorMulticast = true ↔ ∀ l ∈ reader.unicast, ¬Qualifies writer v.transport l)
  unnamed : v.locator.kind = .invalid ↔
    v.transport = .dataSharing ∨ v.transport = .none ∨ "same-host-locators-hidden" ∈ v.reasons

section Locators

variable {writer reader : Endpoint}

theorem findLocator_shm (h : BothShm writer reader) :
    ∃ l, findLocator reader .shm = some l ∧ l.kind = .shm ∧ ∃ earlier later,
      reader.unicast ++ reader.multicast = earlier ++ l :: later ∧
        ∀ other ∈ earlier, other.kind ≠ .shm := by
  obtain ⟨own, hown, hkind⟩ := h.2
  cases hfind : findLocator reader .shm with
  | none =>
    rw [findLocator, List.find?_eq_none] at hfind
    exact absurd hkind (by simpa using hfind own hown)
  | some l =>
    rw [findLocator, List.find?_eq_some_iff_append] at hfind
    obtain ⟨hshm, earlier, later, hsplit, hearlier⟩ := hfind
    exact ⟨l, rfl, by simpa using hshm, earlier, later, hsplit, by simpa using hearlier⟩

/-- The network branch takes a multicast locator when no unicast one can be reached. -/
theorem pickNetworkLocator_multicast {l : Locator} {multicast : Bool}
    (h : pickNetworkLocator writer reader = some (l, multicast)) :
    multicast = true ↔ ∀ other ∈ reader.unicast, ¬CanReach writer other := by
  simp only [pickNetworkLocator] at h
  cases hfind : reader.unicast.find? fun l ↦ isNetwork l.kind && hasKind writer l.kind with
  | some own =>
    have hcan : CanReach writer own := by
      rw [← canReach_iff]
      simpa using List.find?_some hfind
    simp only [hfind, Option.some.injEq, Prod.mk.injEq] at h
    rw [← h.2]
    refine iff_of_false (by simp) fun hnone ↦ ?_
    exact hnone own (List.mem_of_find?_eq_some hfind) hcan
  | none =>
    simp only [hfind, Option.map_eq_some_iff, Prod.mk.injEq] at h
    obtain ⟨_, -, -, rfl⟩ := h
    refine iff_of_true rfl fun other hother hcan ↦ ?_
    exact List.find?_eq_none.mp hfind other hother ((canReach_iff writer other).mpr hcan)

theorem qualifies_shm (l : Locator) : Qualifies writer .shm l ↔ l.kind = .shm := by
  rw [Qualifies, if_pos rfl]

theorem qualifies_of_ne_shm {transport : Transport} (h : transport ≠ .shm) (l : Locator) :
    Qualifies writer transport l ↔ CanReach writer l := by
  rw [Qualifies, if_neg h]

theorem ne_invalid_of_isNetwork {kind : LocatorKind} (h : isNetwork kind = true) :
    kind ≠ .invalid := by
  rintro rfl
  cases h

theorem hidden_notMem_network {context : List String} (hcontext : context ⊆ contextCodes)
    (kind : LocatorKind) : "same-host-locators-hidden" ∉ context ++ [reasonFor kind] := by
  intro hcode
  rcases List.mem_append.mp hcode with hcode | hcode
  · exact absurd (hcontext hcode) (by decide)
  · cases kind <;> simp [reasonFor] at hcode

theorem namesFirstLocator_of_invalid {v : Verdict} (hkind : v.locator.kind = .invalid)
    (hunnamed : v.transport = .dataSharing ∨ v.transport = .none ∨
      "same-host-locators-hidden" ∈ v.reasons) : NamesFirstLocator writer reader v where
  announced h := absurd hkind h
  kind h := absurd hkind h
  first h := absurd hkind h
  multicast h := absurd hkind h
  unnamed := iff_of_true hkind hunnamed

/-- The shared-memory branch names the first of the reader's shared-memory locators, unmarked. -/
theorem namesFirstLocator_shm_iff {v : Verdict} (hshm : BothShm writer reader)
    (htransport : v.transport = .shm) (hlocator : v.locator = (findLocator reader .shm).getD {})
    (hunmarked : v.locatorMulticast = false) (hreasons : "same-host-locators-hidden" ∉ v.reasons) :
    NamesFirstLocator writer reader v ↔ ∃ l ∈ reader.unicast, l.kind = .shm := by
  obtain ⟨l, hfind, hkind, earlier, later, hsplit, hearlier⟩ := findLocator_shm hshm
  rw [hfind, Option.getD_some] at hlocator
  subst hlocator
  have hvalid : v.locator.kind ≠ .invalid := by simp [hkind]
  have hmem : v.locator ∈ reader.unicast ++ reader.multicast := by simp [hsplit]
  constructor
  · intro h
    by_contra hnone
    push Not at hnone
    have hmarked := (h.multicast hvalid).mpr fun other hother ↦ by
      rw [htransport, qualifies_shm]
      exact hnone other hother
    exact absurd hmarked (by simp [hunmarked])
  · rintro ⟨own, hown, hownKind⟩
    exact {
      announced := fun _ ↦ List.mem_append.mp hmem
      kind := fun _ ↦ ⟨by rw [hkind, htransport]; rfl, hkind ▸ hshm.1⟩
      first := fun _ ↦ ⟨earlier, later, hsplit, by rwa [htransport, qualifies_shm],
        fun other hother ↦ by
          rw [htransport, qualifies_shm]
          exact hearlier other hother⟩
      multicast := fun _ ↦ iff_of_false (by simp [hunmarked]) fun hnone ↦
        hnone own hown (by rwa [htransport, qualifies_shm])
      unnamed := iff_of_false hvalid (by simp [htransport, hreasons]) }

/-- The network branch names the first locator the writer can send to, and marks it. -/
theorem namesFirstLocator_network {v : Verdict} (hfirst : FirstReachable writer reader v.locator)
    (htransport : v.transport = transportFor v.locator.kind)
    (hmarked : v.locatorMulticast = true ↔ ∀ other ∈ reader.unicast, ¬CanReach writer other)
    (hreasons : "same-host-locators-hidden" ∉ v.reasons) : NamesFirstLocator writer reader v := by
  obtain ⟨earlier, later, hsplit, hcan, hearlier⟩ := hfirst
  obtain ⟨hsharing, hshm, hnone⟩ := transportFor_of_isNetwork _ hcan.1
  rw [← htransport] at hsharing hshm hnone
  exact {
    announced := fun _ ↦
      List.mem_append.mp (hsplit ▸ List.mem_append_right earlier (List.mem_cons_self ..))
    kind := fun _ ↦ ⟨htransport.symm, hcan.2⟩
    first := fun _ ↦ ⟨earlier, later, hsplit, (qualifies_of_ne_shm hshm _).mpr hcan,
      fun other hother ↦ by
        rw [qualifies_of_ne_shm hshm]
        exact hearlier other hother⟩
    multicast := fun _ ↦ by simpa only [qualifies_of_ne_shm hshm] using hmarked
    unnamed := iff_of_false (ne_invalid_of_isNetwork hcan.1) (by simp [hsharing, hnone, hreasons]) }

end Locators

section SameType

variable [Fnmatch] {writer reader : Endpoint} {v : Verdict}

/-- Without shared memory the network branch has the last word. -/
theorem exists_decideNetwork (hpolicy : qosIncompatibilities writer reader = [])
    (hshared : NoSharedMemory writer reader) :
    ∃ before, decideSameType writer reader = decideNetwork before writer reader := by
  simp only [decideSameType, if_neg (not_not.mpr hpolicy)]
  by_cases hhost : writer.hostId = reader.hostId
  · obtain ⟨hqos, hshm⟩ := hshared hhost
    rw [← bothShm_iff] at hshm
    rw [if_pos hhost]
    cases hrefusal : dataSharingRefusal writer reader with
    | none => exact absurd ((dataSharingRefusal_eq_none_iff writer reader).mp hrefusal) hqos
    | some refusal =>
      simp only [if_neg hshm]
      exact ⟨_, rfl⟩
  · rw [if_neg hhost]
    exact ⟨_, rfl⟩

theorem decideSameType_multicast (hpolicy : qosIncompatibilities writer reader = [])
    (hshared : NoSharedMemory writer reader) {l : Locator} {multicast : Bool}
    (hpick : pickNetworkLocator writer reader = some (l, multicast)) :
    (decideSameType writer reader).locatorMulticast = multicast := by
  obtain ⟨before, hbefore⟩ := exists_decideNetwork hpolicy hshared
  rw [hbefore, decideNetwork, hpick]

/-- Only the shared-memory branch can be wrong: it never marks a multicast locator. -/
theorem SameTypeVerdict.namesFirstLocator_iff (h : SameTypeVerdict writer reader v)
    (hmulticast : qosIncompatibilities writer reader = [] → NoSharedMemory writer reader →
      ∀ l multicast, pickNetworkLocator writer reader = some (l, multicast) →
        v.locatorMulticast = multicast) :
    NamesFirstLocator writer reader v ↔
      (v.transport = .shm → ∃ l ∈ reader.unicast, l.kind = .shm) := by
  cases h with
  | qosIncompatible | dataSharing | dataSharingSplit | shmSplit | hidden | unreachable =>
    exact iff_of_true (namesFirstLocator_of_invalid rfl (by simp)) (by simp)
  | shm refusal warnings hrefusal _ _ _ _ hshm =>
    have hreasons : "same-host-locators-hidden" ∉ ["same-host-guid", refusal, "both-shm-locators"] := by
      intro hcode
      have hcode : "same-host-locators-hidden" = refusal := by simpa using hcode
      exact absurd (hcode ▸ hrefusal) (by decide)
    rw [namesFirstLocator_shm_iff hshm rfl rfl rfl hreasons]
    exact ⟨fun h _ ↦ h, fun h ↦ h rfl⟩
  | network context warnings selected multicast hcontext _ hpolicy hshared hfirst =>
    have hpicked := (firstReachable_iff writer reader selected).mp hfirst
    rw [← pickNetworkLocator_fst, Option.map_eq_some_iff] at hpicked
    obtain ⟨⟨_, marked⟩, hpick, rfl⟩ := hpicked
    have hmarked := pickNetworkLocator_multicast hpick
    rw [← hmulticast hpolicy hshared _ _ hpick] at hmarked
    obtain ⟨_, _, _, hcan, _⟩ := id hfirst
    have hshm := (transportFor_of_isNetwork _ hcan.1).2.1
    exact iff_of_true (namesFirstLocator_network hfirst rfl hmarked (hidden_notMem_network hcontext _))
      fun h ↦ absurd h hshm

end SameType

/-! ## Any two endpoints -/

section AnyType

/-- What sends a pair over shared memory. -/
structure TakesShm [Fnmatch] (writer reader : Endpoint) : Prop where
  types : TypesMatch writer reader
  policies : qosIncompatibilities writer reader = []
  host : writer.hostId = reader.hostId
  dataSharing : ¬DataSharingQos writer reader
  locators : BothShm writer reader
  split : ¬ShmSplit writer reader

theorem NamesFirstLocator.congr {writer reader : Endpoint} {v w : Verdict}
    (h : NamesFirstLocator writer reader v) (htransport : w.transport = v.transport)
    (hlocator : w.locator = v.locator) (hmulticast : w.locatorMulticast = v.locatorMulticast)
    (hreasons : "same-host-locators-hidden" ∈ w.reasons ↔
      "same-host-locators-hidden" ∈ v.reasons) : NamesFirstLocator writer reader w := by
  obtain ⟨hannounced, hkind, hfirst, hmarked, hunnamed⟩ := h
  refine ⟨?_, ?_, ?_, ?_, ?_⟩ <;>
    simpa only [htransport, hlocator, hmulticast, hreasons]

variable [Fnmatch]

theorem transport_decide_eq_shm_iff (writer reader : Endpoint) :
    (Decision.decide writer reader).transport = .shm ↔ TakesShm writer reader := by
  by_cases htypes : TypesMatch writer reader
  · by_cases hpolicy : qosIncompatibilities writer reader = []
    · rw [(decide_documented writer reader).shm htypes hpolicy]
      exact ⟨fun ⟨hhost, hqos, hshm, hsplit⟩ ↦ ⟨htypes, hpolicy, hhost, hqos, hshm, hsplit⟩,
        fun h ↦ ⟨h.host, h.dataSharing, h.locators, h.split⟩⟩
    · have hnone := (((decide_documented writer reader).policies htypes).mpr hpolicy).1
      exact iff_of_false (by simp [hnone]) fun h ↦ hpolicy h.policies
  · rw [decide_of_not_typesMatch writer reader htypes]
    exact iff_of_false (by simp) fun h ↦ htypes h.types

/-- A verdict names the first qualifying locator and says rightly which list it is from, unless the
pair goes over shared memory and the reader announces shared memory by multicast locators only. -/
theorem namesFirstLocator_decide_iff (writer reader : Endpoint) :
    NamesFirstLocator writer reader (Decision.decide writer reader) ↔
      (TakesShm writer reader → ∃ l ∈ reader.unicast, l.kind = .shm) := by
  rw [← transport_decide_eq_shm_iff]
  by_cases htypes : TypesMatch writer reader
  · have hsame := (sameTypeVerdict_decideSameType writer reader).namesFirstLocator_iff
      fun hpolicy hshared _ _ hpick ↦ decideSameType_multicast hpolicy hshared hpick
    obtain ⟨reasons, heq, -⟩ := decide_of_typesMatch writer reader htypes
    have hreasons := mem_decide_reasons writer reader htypes "same-host-locators-hidden" (by decide)
      (by decide) (by decide)
    have htransport := decide_transport writer reader htypes
    have hlocator := decide_locator writer reader htypes
    have hmulticast : (Decision.decide writer reader).locatorMulticast =
        (decideSameType writer reader).locatorMulticast := by rw [heq]
    rw [htransport, ← hsame]
    exact ⟨fun h ↦ h.congr htransport.symm hlocator.symm hmulticast.symm hreasons.symm,
      fun h ↦ h.congr htransport hlocator hmulticast hreasons⟩
  · rw [decide_of_not_typesMatch writer reader htypes]
    exact iff_of_true (namesFirstLocator_of_invalid rfl (by simp)) (by simp)

end AnyType

/-- An endpoint that announces UDP, and shared memory in the list `shm` is put in. -/
def shmEndpoint (isWriter : Bool) (process : UInt8) (multicast : List Locator) : Endpoint where
  isWriter := isWriter
  guid := guidToString (guidOnHost process 1)
  guidBytes := guidOnHost process 1
  hostId := sampleHostId
  participantGuidPrefix := prefixToString (guidOnHost process 1)
  unicast := [⟨.udpv4, "192.168.1.5", 7411⟩] ++ if multicast = [] then [⟨.shm, "", 7411⟩] else []
  multicast := multicast
  qos := { dataSharing := .off }

/-- A reader that takes shared memory on a multicast port only. -/
theorem multicastShm_not_namesFirstLocator :
    ¬NamesFirstLocator (shmEndpoint true 1 []) (shmEndpoint false 2 [⟨.shm, "", 7400⟩])
      (@Decision.decide literalFnmatch (shmEndpoint true 1 [])
        (shmEndpoint false 2 [⟨.shm, "", 7400⟩])) := by
  intro h
  have htransport : (@Decision.decide literalFnmatch (shmEndpoint true 1 [])
      (shmEndpoint false 2 [⟨.shm, "", 7400⟩])).transport = .shm := by decide +kernel
  have hmarked := h.multicast (by decide +kernel)
  simp only [htransport, qualifies_shm] at hmarked
  exact absurd (hmarked.mpr (by decide)) (by decide +kernel)

end TransportViz.Decision
