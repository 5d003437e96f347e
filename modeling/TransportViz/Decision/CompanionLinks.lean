import TransportViz.Decision.Companions
import TransportViz.Decision.Fresh
import TransportViz.Model.Text

/-!
# The companions form a relation

Each link is noted at the companion and at its parent. The two notes always agree, a companion has one
parent, and which endpoints are linked depends neither on the links of before nor on the order in which
the endpoints were discovered.
-/

namespace TransportViz.Decision

open RosNames

/-- What discovery makes of GUIDs: different ones, with their texts and those of the participants. -/
structure DiscoveredGuids (endpoints : List Endpoint) : Prop extends DistinctGuids endpoints where
  participant_eq : ∀ e ∈ endpoints, e.participantGuidPrefix = prefixToString e.guidBytes

/-- What a companion has in common with its parent. -/
structure CompanionOf (c p : Endpoint) : Prop where
  direction : p.isWriter = c.isWriter
  participant : p.participantGuidPrefix = c.participantGuidPrefix
  type_eq : p.ddsType = c.ddsType
  named : p.ddsTopic ≠ ""
  topic : c.ddsTopic = p.ddsTopic ++ kBufferCompanionSuffix

/-- Created right after `p`, by the numbers of the entity keys. -/
def NextKey (c p : Endpoint) : Prop :=
  entityKey p + 1 = entityKey c ∧ p.guidBytes.get 15 = c.guidBytes.get 15

instance (c p : Endpoint) : Decidable (NextKey c p) := inferInstanceAs (Decidable (_ ∧ _))

/-- The endpoint whose companion `c` is taken for: the only one in question, or the one created right
before it. -/
structure Adopts (endpoints : List Endpoint) (c p : Endpoint) : Prop where
  discovered : p ∈ endpoints
  companion : CompanionOf c p
  chosen : NextKey c p ∨ ∀ q ∈ endpoints, CompanionOf c q → q.guid = p.guid

/-- The two notes of a link. -/
def LinkedIn (linked : List Endpoint) (child parent : String) : Prop :=
  ∃ c ∈ linked, ∃ p ∈ linked, c.guid = child ∧ p.guid = parent ∧ c.bufferParentGuid = parent ∧
    child ∈ p.bufferCompanionGuids

structure WellLinked (linked : List Endpoint) : Prop where
  both_sides : ∀ c ∈ linked, ∀ p ∈ linked,
    c.bufferParentGuid = p.guid ↔ c.guid ∈ p.bufferCompanionGuids
  once : ∀ c ∈ linked, ∀ p ∈ linked, c.bufferParentGuid = p.guid →
    p.bufferCompanionGuids.count c.guid = 1
  alike : ∀ c ∈ linked, ∀ p ∈ linked, c.bufferParentGuid = p.guid → CompanionOf c p
  one_parent : ∀ c ∈ linked, ∀ p ∈ linked, ∀ q ∈ linked, c.guid ∈ p.bufferCompanionGuids →
    c.guid ∈ q.bufferCompanionGuids → p = q
  parent_known : ∀ c ∈ linked, c.bufferParentGuid ≠ "" → ∃ p ∈ linked, p.guid = c.bufferParentGuid
  companions_known : ∀ p ∈ linked, ∀ child ∈ p.bufferCompanionGuids, ∃ c ∈ linked, c.guid = child

/-- The links of a list of endpoints, whatever links it had before. -/
structure LinksExact (endpoints : List Endpoint) : Prop where
  well_linked : WellLinked (linkBufferCompanions endpoints)
  twice : linkBufferCompanions (linkBufferCompanions endpoints) = linkBufferCompanions endpoints
  permuted : ∀ other : List Endpoint, other.Perm endpoints → ∀ child parent,
    LinkedIn (linkBufferCompanions other) child parent ↔
      LinkedIn (linkBufferCompanions endpoints) child parent

/-! ## Topics of companions -/

section Topics

theorem substr_append_of_endsWith {s p : String} (h : endsWith s p = true) :
    substr s 0 p.toList.length ++ p = s := by
  obtain ⟨before, hbefore⟩ := List.isSuffixOf_iff_suffix.mp h
  apply String.toList_inj.mp
  rw [String.toList_append, substr, String.toList_ofList, ← hbefore]
  simp

theorem substr_append (topic p : String) : substr (topic ++ p) 0 p.toList.length = topic := by
  apply String.toList_inj.mp
  rw [substr, String.toList_ofList, String.toList_append]
  simp

/-- The names of companion topics, and their parents' names. -/
theorem parentTopic_iff (c : Endpoint) (topic : String) :
    isBufferCompanionTopic c.ddsTopic = true ∧ topic = parentTopic c ↔
      topic ≠ "" ∧ c.ddsTopic = topic ++ kBufferCompanionSuffix := by
  have hlength (topic : String) : kBufferCompanionSuffix.toList.length <
      (topic ++ kBufferCompanionSuffix).toList.length ↔ topic ≠ "" := by
    rw [String.toList_append, List.length_append, Nat.lt_add_left_iff_pos, List.length_pos_iff_ne_nil]
    exact not_congr String.toList_eq_nil_iff
  constructor
  · intro ⟨hcompanion, htopic⟩
    rw [isBufferCompanionTopic, Bool.and_eq_true, decide_eq_true_iff] at hcompanion
    have hsplit : topic ++ kBufferCompanionSuffix = c.ddsTopic := by
      rw [htopic]
      exact substr_append_of_endsWith hcompanion.2
    rw [← hsplit, hlength] at hcompanion
    exact ⟨hcompanion.1, hsplit.symm⟩
  · intro ⟨hne, htopic⟩
    rw [isBufferCompanionTopic, parentTopic, htopic, substr_append, Bool.and_eq_true,
      decide_eq_true_iff, hlength]
    refine ⟨⟨hne, ?_⟩, rfl⟩
    rw [endsWith, String.toList_append]
    exact List.isSuffixOf_iff_suffix.mpr (List.suffix_append _ _)

end Topics

/-! ## Entity keys -/

section Keys

/-- The participant, the entity key and the kind make up the GUID. -/
theorem guidBytes_eq {a b : Endpoint}
    (hparticipant : prefixToString a.guidBytes = prefixToString b.guidBytes)
    (hkey : entityKey a = entityKey b) (hkind : a.guidBytes.get 15 = b.guidBytes.get 15) :
    a.guidBytes = b.guidBytes := by
  have htake := dottedBytes_injective (String.ofList_injective hparticipant)
  have hbytes : a.guidBytes.get 12 = b.guidBytes.get 12 ∧ a.guidBytes.get 13 = b.guidBytes.get 13 ∧
      a.guidBytes.get 14 = b.guidBytes.get 14 := by
    have hbound (e : Endpoint) (place : Fin 16) : (e.guidBytes.get place).toNat < 256 :=
      (e.guidBytes.get place).toNat_lt
    have ha12 := hbound a 12
    have ha13 := hbound a 13
    have ha14 := hbound a 14
    have hb12 := hbound b 12
    have hb13 := hbound b 13
    have hb14 := hbound b 14
    simp only [entityKey] at hkey
    refine ⟨UInt8.toNat_inj.mp ?_, UInt8.toNat_inj.mp ?_, UInt8.toNat_inj.mp ?_⟩ <;> omega
  apply List.Vector.ext
  intro place
  by_cases hplace : place.val < 12
  · rw [List.Vector.get_eq_get_toList, List.Vector.get_eq_get_toList]
    have hopt := congrArg (fun l ↦ l[place.val]?) htake
    simp only [List.getElem?_take_of_lt hplace] at hopt
    simpa using hopt
  · have hcases : place = 12 ∨ place = 13 ∨ place = 14 ∨ place = 15 := by
      have hlt := place.isLt
      simp only [Fin.ext_iff]
      omega
    rcases hcases with h | h | h | h
    · rw [h, hbytes.1]
    · rw [h, hbytes.2.1]
    · rw [h, hbytes.2.2]
    · rw [h, hkind]

/-- At most one endpoint was created right before the companion. -/
theorem NextKey.unique {endpoints : List Endpoint} (h : DiscoveredGuids endpoints) {c p q : Endpoint}
    (hp : p ∈ endpoints) (hq : q ∈ endpoints) (hparticipant : p.participantGuidPrefix =
      q.participantGuidPrefix) (hpc : NextKey c p) (hqc : NextKey c q) : p = q := by
  rw [h.participant_eq p hp, h.participant_eq q hq] at hparticipant
  have hkey : entityKey p = entityKey q := Nat.add_right_cancel (hpc.1.trans hqc.1.symm)
  have hbytes := guidBytes_eq hparticipant hkey (hpc.2.trans hqc.2.symm)
  apply h.eq_of_guid hp hq
  rw [h.guid_eq p hp, h.guid_eq q hq, hbytes]

end Keys

/-! ## Who adopts whom -/

/-- No topic is its own companion topic. -/
theorem CompanionOf.topic_ne {c p : Endpoint} (h : CompanionOf c p) : c.ddsTopic ≠ p.ddsTopic := by
  intro hsame
  have hlength := congrArg (fun s ↦ s.toList.length) (hsame.symm.trans h.topic)
  simp only [String.toList_append, List.length_append] at hlength
  have hsuffix : kBufferCompanionSuffix.toList.length = 9 := by decide
  omega

section Adoption

variable {endpoints : List Endpoint} {c p : EndpointPtr}

theorem mem_parentCandidates_iff (hc : c ∈ pointers endpoints)
    (hcompanion : isBufferCompanionTopic c.ddsTopic = true) :
    p ∈ parentCandidates endpoints c ↔
      p ∈ pointers endpoints ∧ CompanionOf c.toEndpoint p.toEndpoint := by
  have htopic := parentTopic_iff c.toEndpoint p.ddsTopic
  rw [and_iff_right hcompanion] at htopic
  simp only [parentCandidates, List.mem_filter, Bool.and_eq_true, decide_eq_true_eq, beq_iff_eq]
  refine and_congr_right fun hp ↦ ?_
  constructor
  · intro h
    obtain ⟨⟨⟨⟨-, hdirection⟩, hparticipant⟩, htype⟩, hname⟩ := h
    have hnamed := htopic.mp hname
    exact ⟨hdirection, hparticipant, htype, hnamed.1, hnamed.2⟩
  · intro h
    refine ⟨⟨⟨⟨fun haddress ↦ ?_, h.direction⟩, h.participant⟩, h.type_eq⟩,
      htopic.mpr ⟨h.named, h.topic⟩⟩
    exact h.topic_ne (congrArg (fun e : EndpointPtr ↦ e.ddsTopic) (eq_of_address hp hc haddress)).symm

theorem adoptedBy_cases (h : adoptedBy endpoints c = some p) :
    isBufferCompanionTopic c.ddsTopic = true ∧ parentOf endpoints c = some p := by
  unfold adoptedBy at h
  split_ifs at h with hcompanion
  exact ⟨hcompanion, h⟩

theorem mem_parentCandidates_of_parentOf (h : parentOf endpoints c = some p) :
    p ∈ parentCandidates endpoints c := by
  unfold parentOf at h
  split at h
  · cases h
  · rename_i hone
    rw [hone, ← Option.some.inj h]
    exact List.mem_singleton_self _
  · exact List.mem_of_find?_eq_some h

theorem companionOf_of_adoptedBy (hc : c ∈ pointers endpoints) (h : adoptedBy endpoints c = some p) :
    CompanionOf c.toEndpoint p.toEndpoint := by
  obtain ⟨hcompanion, hparent⟩ := adoptedBy_cases h
  exact ((mem_parentCandidates_iff hc hcompanion).mp (mem_parentCandidates_of_parentOf hparent)).2

/-- The parent is the only candidate, or the one with the next lower key. -/
theorem chosen_of_parentOf (h : parentOf endpoints c = some p) :
    NextKey c.toEndpoint p.toEndpoint ∨ parentCandidates endpoints c = [p] := by
  unfold parentOf at h
  split at h
  · cases h
  · rename_i hone
    right
    rw [hone, Option.some.inj h]
  · left
    have hfound := List.find?_some h
    simpa [NextKey] using hfound

theorem adopts_of_adoptedBy (hc : c ∈ pointers endpoints) (h : adoptedBy endpoints c = some p) :
    Adopts endpoints c.toEndpoint p.toEndpoint := by
  obtain ⟨hcompanion, hparent⟩ := adoptedBy_cases h
  refine ⟨mem_of_mem_pointers (mem_pointers_of_adoptedBy h), companionOf_of_adoptedBy hc h, ?_⟩
  refine (chosen_of_parentOf hparent).imp id fun hone q hq hcandidate ↦ ?_
  obtain ⟨pointer, hpointer, rfl⟩ := exists_pointer hq
  have hmem := (mem_parentCandidates_iff hc hcompanion).mpr ⟨hpointer, hcandidate⟩
  rw [hone, List.mem_singleton] at hmem
  rw [hmem]

/-- With different GUIDs a pointer is known by its GUID. -/
theorem eq_of_pointer_guid (hdistinct : (endpoints.map Endpoint.guid).Nodup)
    (hc : c ∈ pointers endpoints) (hp : p ∈ pointers endpoints) (hguid : c.guid = p.guid) : c = p := by
  have hmap : (pointers endpoints).map (fun e ↦ e.guid) = endpoints.map Endpoint.guid := by
    apply List.ext_getElem?
    intro index
    rw [List.getElem?_map, getElem?_pointers, List.getElem?_map, Option.map_map]
    rfl
  rw [← hmap] at hdistinct
  exact List.inj_on_of_nodup_map hdistinct hc hp hguid

/-- A candidate is chosen by its key, or because there is no other. -/
theorem parentOf_of_mem {candidates : List EndpointPtr}
    (hcandidates : parentCandidates endpoints c = candidates) (hnodup : candidates.Nodup)
    (hmem : p ∈ candidates)
    (honly : ∀ q ∈ candidates, NextKey c.toEndpoint q.toEndpoint →
      NextKey c.toEndpoint p.toEndpoint → q = p)
    (hchosen : NextKey c.toEndpoint p.toEndpoint ∨ ∀ q ∈ candidates, q = p) :
    parentOf endpoints c = some p := by
  unfold parentOf
  rw [hcandidates]
  cases candidates with
  | nil => simp at hmem
  | cons first rest =>
    cases rest with
    | nil => exact congrArg some (List.mem_singleton.mp hmem).symm
    | cons second rest =>
      have hkey : NextKey c.toEndpoint p.toEndpoint := by
        refine hchosen.resolve_right fun hall ↦ ?_
        have hsame : first = second := (hall first (by simp)).trans (hall second (by simp)).symm
        simp [hsame] at hnodup
      change (first :: second :: rest).find? (fun q ↦ decide (entityKey q.toEndpoint + 1 =
        entityKey c.toEndpoint) && decide (q.guidBytes.get 15 = c.guidBytes.get 15)) = some p
      cases hfind : (first :: second :: rest).find? (fun q ↦ decide (entityKey q.toEndpoint + 1 =
          entityKey c.toEndpoint) && decide (q.guidBytes.get 15 = c.guidBytes.get 15)) with
      | none =>
        have hnot := List.find?_eq_none.mp hfind p hmem
        simp [hkey.1, hkey.2] at hnot
      | some q =>
        have hfound := List.find?_some hfind
        rw [Bool.and_eq_true, decide_eq_true_iff, decide_eq_true_iff] at hfound
        rw [honly q (List.mem_of_find?_eq_some hfind) hfound hkey]

theorem adoptedBy_of_adopts (hguids : DiscoveredGuids endpoints) (hc : c ∈ pointers endpoints)
    (hp : p ∈ pointers endpoints) (h : Adopts endpoints c.toEndpoint p.toEndpoint) :
    adoptedBy endpoints c = some p := by
  have hcompanion : isBufferCompanionTopic c.ddsTopic = true :=
    ((parentTopic_iff c.toEndpoint p.ddsTopic).mpr ⟨h.companion.named, h.companion.topic⟩).1
  rw [adoptedBy, if_pos hcompanion]
  apply parentOf_of_mem rfl ((nodup_pointers endpoints).filter _)
  · exact (mem_parentCandidates_iff hc hcompanion).mpr ⟨hp, h.companion⟩
  · intro q hq hkey hkey'
    obtain ⟨hqin, hqcompanion⟩ := (mem_parentCandidates_iff hc hcompanion).mp hq
    have hvalue := NextKey.unique hguids (mem_of_mem_pointers hqin) h.discovered
      (hqcompanion.participant.trans h.companion.participant.symm) hkey hkey'
    exact eq_of_pointer_guid hguids.distinct hqin hp (congrArg Endpoint.guid hvalue)
  · refine h.chosen.imp id fun honly q hq ↦ ?_
    obtain ⟨hqin, hqcompanion⟩ := (mem_parentCandidates_iff hc hcompanion).mp hq
    exact eq_of_pointer_guid hguids.distinct hqin hp
      (honly _ (mem_of_mem_pointers hqin) hqcompanion)

end Adoption

/-! ## The two notes of a link -/

section Notes

/-- The endpoints without links. -/
def bare (endpoints : List Endpoint) : List Endpoint := endpoints.map clearLinks

/-- An endpoint with its links. -/
def linkedOf (endpoints : List Endpoint) (e : EndpointPtr) : Endpoint :=
  linkedAfter (bare endpoints) (pointers (bare endpoints)) e

variable {endpoints : List Endpoint} {c p q : EndpointPtr}

theorem mem_linked_iff (x : Endpoint) : x ∈ linkBufferCompanions endpoints ↔
    ∃ e ∈ pointers (bare endpoints), linkedOf endpoints e = x := by
  rw [linkBufferCompanions_eq, List.mem_map]
  rfl

theorem map_guid_bare : (bare endpoints).map Endpoint.guid = endpoints.map Endpoint.guid := by
  rw [bare, List.map_map]
  rfl

theorem map_guid_linked :
    (linkBufferCompanions endpoints).map Endpoint.guid = endpoints.map Endpoint.guid := by
  have hclear := congrArg (List.map Endpoint.guid) (map_clearLinks_linkBufferCompanions endpoints)
  rw [List.map_map, List.map_map] at hclear
  exact hclear

theorem DiscoveredGuids.bare (h : DiscoveredGuids endpoints) : DiscoveredGuids (bare endpoints) where
  guid_eq e he := by
    obtain ⟨source, hsource, rfl⟩ := List.mem_map.mp he
    exact h.guid_eq source hsource
  participant_eq e he := by
    obtain ⟨source, hsource, rfl⟩ := List.mem_map.mp he
    exact h.participant_eq source hsource
  distinct := by
    rw [map_guid_bare]
    exact h.distinct

theorem parent_linkedOf (hc : c ∈ pointers (bare endpoints)) :
    (linkedOf endpoints c).bufferParentGuid =
      ((adoptedBy (bare endpoints) c).map fun p ↦ p.guid).getD "" := by
  rw [linkedOf, linkedAfter, if_pos hc]

theorem mem_companions_iff (child : String) :
    child ∈ (linkedOf endpoints p).bufferCompanionGuids ↔
      ∃ c ∈ pointers (bare endpoints), adoptedBy (bare endpoints) c = some p ∧ c.guid = child := by
  simp only [linkedOf, linkedAfter, List.mem_map, List.mem_filter, decide_eq_true_eq, and_assoc]

variable (hdistinct : (endpoints.map Endpoint.guid).Nodup)

include hdistinct

theorem eq_of_bare_guid (hc : c ∈ pointers (bare endpoints)) (hp : p ∈ pointers (bare endpoints))
    (hguid : c.guid = p.guid) : c = p :=
  eq_of_pointer_guid (map_guid_bare.symm ▸ hdistinct) hc hp hguid

theorem child_mem_iff (hc : c ∈ pointers (bare endpoints)) :
    c.guid ∈ (linkedOf endpoints p).bufferCompanionGuids ↔
      adoptedBy (bare endpoints) c = some p := by
  rw [mem_companions_iff]
  constructor
  · intro ⟨other, hother, hadopted, hguid⟩
    rw [← eq_of_bare_guid hdistinct hother hc hguid]
    exact hadopted
  · intro hadopted
    exact ⟨c, hc, hadopted, rfl⟩

theorem parent_eq_iff (hnamed : p.guid ≠ "") (hc : c ∈ pointers (bare endpoints))
    (hp : p ∈ pointers (bare endpoints)) :
    (linkedOf endpoints c).bufferParentGuid = p.guid ↔ adoptedBy (bare endpoints) c = some p := by
  rw [parent_linkedOf hc]
  cases hadopted : adoptedBy (bare endpoints) c with
  | none => simp [hnamed.symm]
  | some parent =>
    rw [Option.map_some, Option.getD_some, Option.some.injEq]
    constructor
    · exact eq_of_bare_guid hdistinct (mem_pointers_of_adoptedBy hadopted) hp
    · intro heq
      rw [heq]

theorem nodup_companions : (linkedOf endpoints p).bufferCompanionGuids.Nodup := by
  have hguids : ((pointers (bare endpoints)).map fun e ↦ e.guid).Nodup :=
    List.Nodup.map_on (fun a ha b hb hguid ↦ eq_of_bare_guid hdistinct ha hb hguid)
      (nodup_pointers _)
  exact hguids.sublist (List.filter_sublist.map _)

end Notes

/-! ## The relation -/

section Relation

variable {endpoints : List Endpoint}

theorem guid_ne_empty (h : DiscoveredGuids endpoints) {e : Endpoint} (he : e ∈ endpoints) :
    e.guid ≠ "" := by
  rw [h.guid_eq e he]
  intro hempty
  have hchars := congrArg String.toList hempty
  rw [guidToString, String.toList_ofList] at hchars
  simp at hchars

theorem wellLinked_linkBufferCompanions (h : DiscoveredGuids endpoints) :
    WellLinked (linkBufferCompanions endpoints) := by
  have hnamed (p : EndpointPtr) (hp : p ∈ pointers (bare endpoints)) : p.guid ≠ "" :=
    guid_ne_empty h.bare (mem_of_mem_pointers hp)
  refine ⟨?_, ?_, ?_, ?_, ?_, ?_⟩
  · intro x hx y hy
    obtain ⟨c, hc, rfl⟩ := (mem_linked_iff x).mp hx
    obtain ⟨p, hp, rfl⟩ := (mem_linked_iff y).mp hy
    exact (parent_eq_iff h.distinct (hnamed p hp) hc hp).trans (child_mem_iff h.distinct hc).symm
  · intro x hx y hy hlink
    obtain ⟨c, hc, rfl⟩ := (mem_linked_iff x).mp hx
    obtain ⟨p, hp, rfl⟩ := (mem_linked_iff y).mp hy
    have hadopted := (parent_eq_iff h.distinct (hnamed p hp) hc hp).mp hlink
    apply List.count_eq_one_of_mem (nodup_companions h.distinct)
    exact (child_mem_iff h.distinct hc).mpr hadopted
  · intro x hx y hy hlink
    obtain ⟨c, hc, rfl⟩ := (mem_linked_iff x).mp hx
    obtain ⟨p, hp, rfl⟩ := (mem_linked_iff y).mp hy
    have halike := companionOf_of_adoptedBy hc
      ((parent_eq_iff h.distinct (hnamed p hp) hc hp).mp hlink)
    exact ⟨halike.direction, halike.participant, halike.type_eq, halike.named, halike.topic⟩
  · intro x hx y hy z hz hfirst hsecond
    obtain ⟨c, hc, rfl⟩ := (mem_linked_iff x).mp hx
    obtain ⟨p, hp, rfl⟩ := (mem_linked_iff y).mp hy
    obtain ⟨q, hq, rfl⟩ := (mem_linked_iff z).mp hz
    have hp' := (child_mem_iff h.distinct hc).mp hfirst
    have hq' := (child_mem_iff h.distinct hc).mp hsecond
    rw [Option.some.inj (hp'.symm.trans hq')]
  · intro x hx hlinked
    obtain ⟨c, hc, rfl⟩ := (mem_linked_iff x).mp hx
    rw [parent_linkedOf hc] at hlinked ⊢
    cases hadopted : adoptedBy (bare endpoints) c with
    | none => simp [hadopted] at hlinked
    | some p =>
      exact ⟨linkedOf endpoints p, (mem_linked_iff _).mpr ⟨p, mem_pointers_of_adoptedBy hadopted, rfl⟩,
        rfl⟩
  · intro y hy child hchild
    obtain ⟨p, hp, rfl⟩ := (mem_linked_iff y).mp hy
    obtain ⟨c, hc, -, hguid⟩ := (mem_companions_iff child).mp hchild
    exact ⟨linkedOf endpoints c, (mem_linked_iff _).mpr ⟨c, hc, rfl⟩, hguid⟩

/-- Which endpoints are linked, without pointers. -/
theorem linkedIn_iff (h : DiscoveredGuids endpoints) (child parent : String) :
    LinkedIn (linkBufferCompanions endpoints) child parent ↔
      ∃ c ∈ bare endpoints, ∃ p, Adopts (bare endpoints) c p ∧ c.guid = child ∧ p.guid = parent := by
  have hnamed (p : EndpointPtr) (hp : p ∈ pointers (bare endpoints)) : p.guid ≠ "" :=
    guid_ne_empty h.bare (mem_of_mem_pointers hp)
  constructor
  · intro ⟨x, hx, y, hy, hchild, hparent, hlink, _⟩
    obtain ⟨c, hc, rfl⟩ := (mem_linked_iff x).mp hx
    obtain ⟨p, hp, rfl⟩ := (mem_linked_iff y).mp hy
    have hadopted := (parent_eq_iff h.distinct (hnamed p hp) hc hp).mp (hlink.trans hparent.symm)
    exact ⟨c.toEndpoint, mem_of_mem_pointers hc, p.toEndpoint, adopts_of_adoptedBy hc hadopted, hchild,
      hparent⟩
  · intro ⟨x, hx, y, hadopts, hchild, hparent⟩
    obtain ⟨c, hc, rfl⟩ := exists_pointer hx
    obtain ⟨p, hp, rfl⟩ := exists_pointer hadopts.discovered
    have hadopted := adoptedBy_of_adopts h.bare hc hp hadopts
    refine ⟨linkedOf endpoints c, (mem_linked_iff _).mpr ⟨c, hc, rfl⟩, linkedOf endpoints p,
      (mem_linked_iff _).mpr ⟨p, hp, rfl⟩, hchild, hparent, ?_, ?_⟩
    · rw [← hparent]
      exact (parent_eq_iff h.distinct (hnamed p hp) hc hp).mpr hadopted
    · rw [← hchild]
      exact (child_mem_iff h.distinct hc).mpr hadopted

theorem DiscoveredGuids.perm {other : List Endpoint} (h : DiscoveredGuids endpoints)
    (hperm : other.Perm endpoints) : DiscoveredGuids other where
  guid_eq e he := h.guid_eq e (hperm.mem_iff.mp he)
  participant_eq e he := h.participant_eq e (hperm.mem_iff.mp he)
  distinct := (hperm.map Endpoint.guid).nodup_iff.mpr h.distinct

theorem adopts_congr {other : List Endpoint} (h : ∀ e, e ∈ other ↔ e ∈ endpoints) (c p : Endpoint) :
    Adopts other c p ↔ Adopts endpoints c p := by
  constructor
  · intro hadopts
    exact ⟨(h p).mp hadopts.discovered, hadopts.companion,
      hadopts.chosen.imp id fun honly q hq ↦ honly q ((h q).mpr hq)⟩
  · intro hadopts
    exact ⟨(h p).mpr hadopts.discovered, hadopts.companion,
      hadopts.chosen.imp id fun honly q hq ↦ honly q ((h q).mp hq)⟩

/-- The links are well formed and follow from the endpoints alone. -/
theorem linksExact (endpoints : List Endpoint) (h : DiscoveredGuids endpoints) :
    LinksExact endpoints where
  well_linked := wellLinked_linkBufferCompanions h
  twice := by
    rw [linkBufferCompanions, map_clearLinks_linkBufferCompanions]
    rfl
  permuted other hperm child parent := by
    rw [linkedIn_iff (h.perm hperm), linkedIn_iff h]
    have hmem (e : Endpoint) : e ∈ bare other ↔ e ∈ bare endpoints := (hperm.map clearLinks).mem_iff
    simp only [hmem, adopts_congr hmem]

end Relation

/-- A writer of one participant, by its entity key. -/
def bufferWriter (ddsTopic : String) (key : UInt8) : Endpoint where
  isWriter := true
  guid := guidToString (guidOnHost 1 key)
  guidBytes := guidOnHost 1 key
  participantGuidPrefix := prefixToString (guidOnHost 1 key)
  ddsTopic := ddsTopic

/-- A writer and its companion. -/
def largeArray : List Endpoint :=
  [bufferWriter "rt/large_array" 1, bufferWriter "rt/large_array/_buf_cpu" 2]

theorem discoveredGuids_largeArray : DiscoveredGuids largeArray where
  guid_eq := by
    intro e he
    simp only [largeArray, List.mem_cons, List.not_mem_nil, or_false] at he
    rcases he with h | h <;> rw [h] <;> rfl
  participant_eq := by
    intro e he
    simp only [largeArray, List.mem_cons, List.not_mem_nil, or_false] at he
    rcases he with h | h <;> rw [h] <;> rfl
  distinct := by decide

/-- The writer is the parent of its companion. -/
theorem linksExact_largeArray : LinksExact largeArray ∧
    (linkBufferCompanions largeArray).map Endpoint.bufferCompanionGuids =
      [[(bufferWriter "rt/large_array/_buf_cpu" 2).guid], []] :=
  ⟨linksExact largeArray discoveredGuids_largeArray, by decide⟩

end TransportViz.Decision
