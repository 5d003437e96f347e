import TransportViz.Decision.CompanionLinks
import TransportViz.Stats.Measure

/-!
# When a companion is given to its own parent

rmw_fastrtps gives a companion the entity key after its parent's. Discovery may deliver the companion
and another endpoint of the topic before the parent: then there is a single candidate, and its key is
not looked at. `rightlyLinked_iff` says that this is all that can go wrong.
-/

namespace TransportViz.Stats

open Decision

/-- The endpoint that a companion was created for. -/
structure TrueParent (c p : Endpoint) : Prop where
  companion : CompanionOf c p
  key : NextKey c p

/-- The endpoints there are, every companion with its parent. -/
structure RmwSystem (system : List Endpoint) : Prop where
  guids : DiscoveredGuids system
  created : ∀ c ∈ system, isBufferCompanionTopic c.ddsTopic = true → ∃ p ∈ system, TrueParent c p

/-- A companion is linked to its own parent or not at all, and nobody is given another endpoint's
counters. -/
structure RightlyLinked (discovered : List Endpoint) : Prop where
  right_or_none : ∀ c ∈ linkBufferCompanions discovered, c.bufferParentGuid = "" ∨
    ∃ p ∈ linkBufferCompanions discovered, p.guid = c.bufferParentGuid ∧ TrueParent c p
  one_companion : ∀ p ∈ linkBufferCompanions discovered, p.bufferCompanionGuids.length ≤ 1
  own_counters : ∀ p ∈ linkBufferCompanions discovered, ∀ entity ∈ entityGuids p,
    entity = p.guid ∨ ∃ c ∈ linkBufferCompanions discovered, c.guid = entity ∧ TrueParent c p

/-- No companion whose parent is still missing has exactly one candidate. -/
def OrphansAmbiguous (discovered : List Endpoint) : Prop :=
  ∀ c ∈ discovered, (∀ p ∈ discovered, ¬TrueParent c p) →
    ¬∃! p, p ∈ discovered ∧ CompanionOf c p

/-! ## Links do not matter -/

section Clear

theorem companionOf_clear_iff (c p : Endpoint) :
    CompanionOf (clearLinks c) (clearLinks p) ↔ CompanionOf c p := by
  constructor
  · intro h
    exact ⟨h.direction, h.participant, h.type_eq, h.named, h.topic⟩
  · intro h
    exact ⟨h.direction, h.participant, h.type_eq, h.named, h.topic⟩

theorem trueParent_clear_iff (c p : Endpoint) :
    TrueParent (clearLinks c) (clearLinks p) ↔ TrueParent c p := by
  constructor
  · intro h
    exact ⟨(companionOf_clear_iff c p).mp h.companion, h.key⟩
  · intro h
    exact ⟨(companionOf_clear_iff c p).mpr h.companion, h.key⟩

theorem trueParent_linkedOf_iff (discovered : List Endpoint) (c p : EndpointPtr) :
    TrueParent (linkedOf discovered c) (linkedOf discovered p) ↔
      TrueParent c.toEndpoint p.toEndpoint :=
  (trueParent_clear_iff (linkedOf discovered c) (linkedOf discovered p)).symm.trans
    (trueParent_clear_iff c.toEndpoint p.toEndpoint)

end Clear

/-! ## What is linked -/

section Linked

variable {discovered : List Endpoint}

theorem discoveredGuids_of_subset {system : List Endpoint} (h : DiscoveredGuids system)
    (hsub : discovered ⊆ system) (hnodup : discovered.Nodup) : DiscoveredGuids discovered where
  guid_eq e he := h.guid_eq e (hsub he)
  participant_eq e he := h.participant_eq e (hsub he)
  distinct := List.Nodup.map_on (fun _ ha _ hb heq ↦ h.eq_of_guid (hsub ha) (hsub hb) heq) hnodup

/-- An endpoint has no two companions of its own. -/
theorem eq_of_trueParent (h : DiscoveredGuids discovered) {c c' p : Endpoint} (hc : c ∈ discovered)
    (hc' : c' ∈ discovered) (hp : TrueParent c p) (hp' : TrueParent c' p) : c = c' := by
  have hparticipant := hp.companion.participant.symm.trans hp'.companion.participant
  rw [h.participant_eq c hc, h.participant_eq c' hc'] at hparticipant
  have hbytes := guidBytes_eq hparticipant (hp.key.1.symm.trans hp'.key.1)
    (hp.key.2.symm.trans hp'.key.2)
  apply h.eq_of_guid hc hc'
  rw [h.guid_eq c hc, h.guid_eq c' hc', hbytes]

/-- Every discovered endpoint, before and after. -/
theorem exists_source {e : EndpointPtr} (he : e ∈ pointers (bare discovered)) :
    ∃ source ∈ discovered, e.toEndpoint = clearLinks source := by
  obtain ⟨source, hsource, heq⟩ := List.mem_map.mp (mem_of_mem_pointers he)
  exact ⟨source, hsource, heq.symm⟩

/-- The only candidate is the true parent, unless that is missing. -/
theorem nextKey_of_only (h : OrphansAmbiguous discovered)
    {c p : Endpoint} (hc : c ∈ discovered) (hp : p ∈ discovered) (hcompanion : CompanionOf c p)
    (honly : ∀ q ∈ discovered, CompanionOf c q → q = p) : NextKey c p := by
  by_cases hfound : ∃ q ∈ discovered, TrueParent c q
  · obtain ⟨q, hq, htrue⟩ := hfound
    rw [← honly q hq htrue.companion]
    exact htrue.key
  · refine absurd ⟨p, ⟨hp, hcompanion⟩, fun q hq ↦ honly q hq.1 hq.2⟩ (h c hc fun q hq htrue ↦ ?_)
    exact hfound ⟨q, hq, htrue⟩

/-- Unless a companion without its parent has one candidate, a link is right. -/
theorem trueParent_of_adoptedBy (hguids : DiscoveredGuids discovered)
    (h : OrphansAmbiguous discovered) {c p : EndpointPtr} (hc : c ∈ pointers (bare discovered))
    (hadopted : adoptedBy (bare discovered) c = some p) : TrueParent c.toEndpoint p.toEndpoint := by
  have hadopts := adopts_of_adoptedBy hc hadopted
  obtain ⟨child, hchild, hcclear⟩ := exists_source hc
  obtain ⟨parent, hparent, hpclear⟩ := exists_source (mem_pointers_of_adoptedBy hadopted)
  rw [hcclear, hpclear] at hadopts
  rw [hcclear, hpclear, trueParent_clear_iff]
  have hcompanion := (companionOf_clear_iff child parent).mp hadopts.companion
  refine ⟨hcompanion, hadopts.chosen.elim id fun honly ↦ ?_⟩
  apply nextKey_of_only h hchild hparent hcompanion
  intro q hq hqc
  have hguid := honly (clearLinks q) (List.mem_map_of_mem hq) ((companionOf_clear_iff child q).mpr hqc)
  exact hguids.eq_of_guid hq hparent hguid

theorem rightlyLinked_of_orphans (hguids : DiscoveredGuids discovered)
    (h : OrphansAmbiguous discovered) : RightlyLinked discovered := by
  have hlinked {e : EndpointPtr} (he : e ∈ pointers (bare discovered)) :
      linkedOf discovered e ∈ linkBufferCompanions discovered := (mem_linked_iff _).mpr ⟨e, he, rfl⟩
  have htrue {c p : EndpointPtr} (hc : c ∈ pointers (bare discovered))
      (hadopted : adoptedBy (bare discovered) c = some p) :
      TrueParent (linkedOf discovered c) (linkedOf discovered p) :=
    (trueParent_linkedOf_iff discovered c p).mpr (trueParent_of_adoptedBy hguids h hc hadopted)
  refine ⟨fun x hx ↦ ?_, fun y hy ↦ ?_, fun y hy entity hentity ↦ ?_⟩
  · obtain ⟨c, hc, rfl⟩ := (mem_linked_iff x).mp hx
    rw [parent_linkedOf hc]
    cases hadopted : adoptedBy (bare discovered) c with
    | none => exact .inl rfl
    | some p =>
      exact .inr ⟨linkedOf discovered p, hlinked (mem_pointers_of_adoptedBy hadopted), rfl,
        htrue hc hadopted⟩
  · obtain ⟨p, hp, rfl⟩ := (mem_linked_iff y).mp hy
    have hone : ∀ a ∈ (linkedOf discovered p).bufferCompanionGuids,
        ∀ b ∈ (linkedOf discovered p).bufferCompanionGuids, a = b := by
      intro a ha b hb
      obtain ⟨c, hc, hadopted, rfl⟩ := (mem_companions_iff a).mp ha
      obtain ⟨c', hc', hadopted', rfl⟩ := (mem_companions_iff b).mp hb
      exact congrArg Endpoint.guid (eq_of_trueParent hguids.bare (mem_of_mem_pointers hc)
        (mem_of_mem_pointers hc') (trueParent_of_adoptedBy hguids h hc hadopted)
        (trueParent_of_adoptedBy hguids h hc' hadopted'))
    have hnodup := nodup_companions (p := p) hguids.distinct
    generalize (linkedOf discovered p).bufferCompanionGuids = guids at hone hnodup
    match guids with
    | [] => exact Nat.zero_le 1
    | [_] => exact le_rfl
    | a :: b :: rest =>
      have hsame := hone a (by simp) b (by simp)
      simp [hsame] at hnodup
  · obtain ⟨p, hp, rfl⟩ := (mem_linked_iff y).mp hy
    refine (List.mem_cons.mp hentity).imp id fun hchild ↦ ?_
    obtain ⟨c, hc, hadopted, hguid⟩ := (mem_companions_iff entity).mp hchild
    exact ⟨linkedOf discovered c, hlinked hc, hguid, htrue hc hadopted⟩

theorem orphans_of_rightlyLinked (hguids : DiscoveredGuids discovered)
    (h : RightlyLinked discovered) : OrphansAmbiguous discovered := by
  intro child hchild horphan ⟨parent, ⟨hparent, hcompanion⟩, honly⟩
  obtain ⟨c, hc, hcclear⟩ := exists_pointer (List.mem_map_of_mem (f := clearLinks) hchild)
  obtain ⟨p, hp, hpclear⟩ := exists_pointer (List.mem_map_of_mem (f := clearLinks) hparent)
  have hadopts : Adopts (bare discovered) c.toEndpoint p.toEndpoint := by
    rw [hcclear, hpclear]
    refine ⟨List.mem_map_of_mem hparent, (companionOf_clear_iff child parent).mpr hcompanion,
      .inr fun q hq hqc ↦ ?_⟩
    obtain ⟨source, hsource, rfl⟩ := List.mem_map.mp hq
    rw [honly source ⟨hsource, (companionOf_clear_iff child source).mp hqc⟩]
  have hadopted := adoptedBy_of_adopts hguids.bare hc hp hadopts
  have hlink : (linkedOf discovered c).bufferParentGuid = p.guid := by
    rw [parent_linkedOf hc, hadopted]
    rfl
  rcases h.right_or_none (linkedOf discovered c) ((mem_linked_iff _).mpr ⟨c, hc, rfl⟩) with hnone | hright
  · rw [hlink] at hnone
    exact guid_ne_empty hguids.bare (mem_of_mem_pointers hp) hnone
  · obtain ⟨y, hy, -, htrue⟩ := hright
    obtain ⟨q, hq, rfl⟩ := (mem_linked_iff y).mp hy
    obtain ⟨source, hsource, hqclear⟩ := exists_source hq
    rw [trueParent_linkedOf_iff, hcclear, hqclear, trueParent_clear_iff] at htrue
    exact horphan source hsource htrue

end Linked

/-- Whatever part of a system is discovered, links are right exactly when no companion that still
misses its parent has a single candidate. -/
theorem rightlyLinked_iff (system discovered : List Endpoint) (h : RmwSystem system)
    (hsub : discovered ⊆ system) (hnodup : discovered.Nodup) :
    RightlyLinked discovered ↔ OrphansAmbiguous discovered :=
  ⟨orphans_of_rightlyLinked (discoveredGuids_of_subset h.guids hsub hnodup),
    rightlyLinked_of_orphans (discoveredGuids_of_subset h.guids hsub hnodup)⟩

/-- Two publishers of one topic in one participant. -/
def twoPublishers : List Endpoint :=
  [bufferWriter "rt/large_array" 1, bufferWriter "rt/large_array/_buf_cpu" 2,
    bufferWriter "rt/large_array" 3, bufferWriter "rt/large_array/_buf_cpu" 4]

theorem trueParent_bufferWriter (child parent : UInt8)
    (h : NextKey (bufferWriter "rt/large_array/_buf_cpu" child) (bufferWriter "rt/large_array" parent)) :
    TrueParent (bufferWriter "rt/large_array/_buf_cpu" child) (bufferWriter "rt/large_array" parent) where
  companion :=
    { direction := rfl
      participant := rfl
      type_eq := rfl
      named := (by decide : "rt/large_array" ≠ "")
      topic := (by decide : "rt/large_array/_buf_cpu" = "rt/large_array" ++ kBufferCompanionSuffix) }
  key := h

theorem rmwSystem_twoPublishers : RmwSystem twoPublishers where
  guids := by
    refine ⟨⟨fun e he ↦ ?_, by decide⟩, fun e he ↦ ?_⟩ <;>
      simp only [twoPublishers, List.mem_cons, List.not_mem_nil, or_false] at he <;>
      rcases he with h | h | h | h <;> rw [h] <;> rfl
  created := by
    intro c hc hcompanion
    simp only [twoPublishers, List.mem_cons, List.not_mem_nil, or_false] at hc
    rcases hc with h | h | h | h <;> rw [h] at hcompanion ⊢
    · exact absurd hcompanion (by decide)
    · exact ⟨_, by simp [twoPublishers], trueParent_bufferWriter 2 1 (by decide)⟩
    · exact absurd hcompanion (by decide)
    · exact ⟨_, by simp [twoPublishers], trueParent_bufferWriter 4 3 (by decide)⟩

theorem rightlyLinked_twoPublishers : RightlyLinked twoPublishers ↔ OrphansAmbiguous twoPublishers :=
  rightlyLinked_iff twoPublishers twoPublishers rmwSystem_twoPublishers (List.Subset.refl _) (by decide)

/-- The second publisher's writer and the first one's companion. -/
def firstParentMissing : List Endpoint :=
  [bufferWriter "rt/large_array" 3, bufferWriter "rt/large_array/_buf_cpu" 2]

/-- The companion is given to the other publisher. -/
theorem firstParentMissing_not_rightlyLinked : RmwSystem twoPublishers ∧
    firstParentMissing ⊆ twoPublishers ∧ firstParentMissing.Nodup ∧
      ¬RightlyLinked firstParentMissing := by
  refine ⟨rmwSystem_twoPublishers, by decide, by decide, fun h ↦ ?_⟩
  have hwrong : ∃ c ∈ linkBufferCompanions firstParentMissing, c.bufferParentGuid ≠ "" ∧
      ∀ p ∈ linkBufferCompanions firstParentMissing, p.guid = c.bufferParentGuid → ¬NextKey c p := by
    decide
  obtain ⟨c, hc, hlinked, hnot⟩ := hwrong
  rcases h.right_or_none c hc with hnone | ⟨p, hp, hguid, htrue⟩
  · exact hlinked hnone
  · exact hnot p hp hguid htrue.key

end TransportViz.Stats
