import TransportViz.Decision.Summarize

/-!
# Native-buffer companions

A native-buffer endpoint has a companion on a topic of its own. `linkBufferCompanions` finds the
endpoint a companion carries the data of and notes each of the two at the other; nothing else of an
endpoint changes.
-/

namespace TransportViz.Decision

open RosNames

/-! ## Model -/

/-- The entity key of a GUID: bytes 12 to 14. -/
def entityKey (e : Endpoint) : ℕ :=
  (e.guidBytes.get 12).toNat * 2 ^ 16 + (e.guidBytes.get 13).toNat * 2 ^ 8 +
    (e.guidBytes.get 14).toNat

def parentTopic (c : Endpoint) : String :=
  substr c.ddsTopic 0 kBufferCompanionSuffix.toList.length

/-- Endpoints of the parent topic that the companion may belong to. -/
def parentCandidates (endpoints : List Endpoint) (c : EndpointPtr) : List EndpointPtr :=
  (pointers endpoints).filter fun p ↦
    p.address ≠ c.address && p.isWriter == c.isWriter &&
      p.participantGuidPrefix = c.participantGuidPrefix && p.ddsType = c.ddsType &&
      p.ddsTopic = parentTopic c.toEndpoint

/-- Of several candidates the one that was created right before the companion. -/
def parentOf (endpoints : List Endpoint) (c : EndpointPtr) : Option EndpointPtr :=
  match parentCandidates endpoints c with
  | [] => none
  | [p] => some p
  | candidates => candidates.find? fun p ↦
      entityKey p.toEndpoint + 1 = entityKey c.toEndpoint && p.guidBytes.get 15 = c.guidBytes.get 15

/-- An endpoint without its links. -/
def clearLinks (e : Endpoint) : Endpoint :=
  { e with
    bufferParentGuid := ""
    bufferCompanionGuids := [] }

def linkCompanion (endpoints : List Endpoint) (c : EndpointPtr) : List Endpoint :=
  if isBufferCompanionTopic c.ddsTopic then
    match parentOf endpoints c with
    | some parent =>
        (endpoints.modify c.address fun e ↦ { e with bufferParentGuid := parent.guid }).modify
          parent.address fun e ↦
            { e with bufferCompanionGuids := e.bufferCompanionGuids ++ [c.guid] }
    | none => endpoints
  else endpoints

def linkBufferCompanions (endpoints : List Endpoint) : List Endpoint :=
  (pointers (endpoints.map clearLinks)).foldl linkCompanion (endpoints.map clearLinks)

/-! ## What the links leave alone -/

section Kept

/-- A place rewritten to something that looks the same. -/
theorem map_modify_of_eq {α β : Type} {f : α → β} {g : α → α} (h : ∀ a, f (g a) = f a) (l : List α)
    (place : ℕ) : (l.modify place g).map f = l.map f := by
  apply List.ext_getElem?
  intro other
  rw [List.getElem?_map, List.getElem?_map, List.getElem?_modify]
  cases l[other]? with
  | none => rfl
  | some a =>
    simp only [Option.map_eq_map, Option.map_some]
    split_ifs
    · rw [h]
    · rfl

theorem map_clearLinks_linkCompanion (endpoints : List Endpoint) (c : EndpointPtr) :
    (linkCompanion endpoints c).map clearLinks = endpoints.map clearLinks := by
  unfold linkCompanion
  split_ifs
  · cases parentOf endpoints c with
    | none => rfl
    | some parent =>
      dsimp only
      rw [map_modify_of_eq, map_modify_of_eq]
      · exact fun _ ↦ rfl
      · exact fun _ ↦ rfl
  · rfl

theorem map_clearLinks_linkBufferCompanions (endpoints : List Endpoint) :
    (linkBufferCompanions endpoints).map clearLinks = endpoints.map clearLinks := by
  have hfold (companions : List EndpointPtr) (out : List Endpoint) :
      (companions.foldl linkCompanion out).map clearLinks = out.map clearLinks := by
    induction companions generalizing out with
    | nil => rfl
    | cons c rest ih => rw [List.foldl_cons, ih, map_clearLinks_linkCompanion]
  rw [linkBufferCompanions, hfold, List.map_map]
  rfl

end Kept

/-! ## What the links are -/

section Links

/-- The parent that the source finds for an endpoint, if it is on a companion topic. -/
def adoptedBy (endpoints : List Endpoint) (c : EndpointPtr) : Option EndpointPtr :=
  if isBufferCompanionTopic c.ddsTopic then parentOf endpoints c else none

/-- An endpoint once the links of the endpoints `done` are made. -/
def linkedAfter (endpoints : List Endpoint) (done : List EndpointPtr) (e : EndpointPtr) : Endpoint :=
  { e.toEndpoint with
    bufferParentGuid :=
      if e ∈ done then ((adoptedBy endpoints e).map fun p ↦ p.guid).getD "" else ""
    bufferCompanionGuids :=
      (done.filter fun c ↦ adoptedBy endpoints c = some e).map fun c ↦ c.guid }

def clearPointer (e : EndpointPtr) : EndpointPtr where
  toEndpoint := clearLinks e.toEndpoint
  address := e.address

theorem map_clearPointer_pointers (endpoints : List Endpoint) :
    (pointers endpoints).map clearPointer = pointers (endpoints.map clearLinks) := by
  rw [pointers, pointers, List.zipIdx_map, List.map_map, List.map_map]
  rfl

theorem getElem?_pointers (endpoints : List Endpoint) (index : ℕ) :
    (pointers endpoints)[index]? = endpoints[index]?.map fun e ↦ ⟨e, index⟩ := by
  rw [pointers, List.getElem?_map, List.getElem?_zipIdx, Option.map_map, Nat.zero_add]
  rfl

/-- Two pointers to one place are one. -/
theorem eq_of_address {endpoints : List Endpoint} {a b : EndpointPtr} (ha : a ∈ pointers endpoints)
    (hb : b ∈ pointers endpoints) (haddress : a.address = b.address) : a = b := by
  rw [mem_pointers_iff] at ha hb
  rw [haddress] at ha
  cases a
  cases b
  cases Option.some.inj (ha.symm.trans hb)
  cases haddress
  rfl

/-- No link has a say in whose companion an endpoint is. -/
theorem map_clearPointer_parentCandidates (endpoints : List Endpoint) (c : EndpointPtr) :
    (parentCandidates endpoints c).map clearPointer =
      parentCandidates (endpoints.map clearLinks) c := by
  rw [parentCandidates, parentCandidates, ← map_clearPointer_pointers, List.filter_map]
  rfl

theorem map_clearPointer_parentOf (endpoints : List Endpoint) (c : EndpointPtr) :
    (parentOf endpoints c).map clearPointer = parentOf (endpoints.map clearLinks) c := by
  unfold parentOf
  rw [← map_clearPointer_parentCandidates]
  cases parentCandidates endpoints c with
  | nil => rfl
  | cons first rest =>
    cases rest with
    | nil => rfl
    | cons second rest =>
      change _ = ((first :: second :: rest).map clearPointer).find? _
      rw [List.find?_map]
      rfl

theorem mem_pointers_of_adoptedBy {endpoints : List Endpoint} {c p : EndpointPtr}
    (h : adoptedBy endpoints c = some p) : p ∈ pointers endpoints := by
  have hcandidate : p ∈ parentCandidates endpoints c := by
    unfold adoptedBy at h
    split_ifs at h
    unfold parentOf at h
    split at h
    · cases h
    · rename_i hone
      rw [hone, ← Option.some.inj h]
      exact List.mem_singleton_self _
    · exact List.mem_of_find?_eq_some h
  exact (List.mem_filter.mp hcandidate).1

/-- One companion, told by the endpoints without links. -/
theorem linkCompanion_eq (endpoints : List Endpoint) (c : EndpointPtr) :
    linkCompanion endpoints c =
      match adoptedBy (endpoints.map clearLinks) c with
      | some parent =>
          (endpoints.modify c.address fun e ↦ { e with bufferParentGuid := parent.guid }).modify
            parent.address fun e ↦
              { e with bufferCompanionGuids := e.bufferCompanionGuids ++ [c.guid] }
      | none => endpoints := by
  unfold linkCompanion adoptedBy
  split_ifs
  · rw [← map_clearPointer_parentOf]
    cases parentOf endpoints c <;> rfl
  · rfl

theorem getElem?_map_pointers {endpoints : List Endpoint} (f : EndpointPtr → Endpoint) (index : ℕ) :
    ((pointers endpoints).map f)[index]? = endpoints[index]?.map fun e ↦ f ⟨e, index⟩ := by
  rw [List.getElem?_map, getElem?_pointers, Option.map_map]
  rfl

theorem linkedAfter_concat_of_none {endpoints : List Endpoint} {c : EndpointPtr}
    (h : adoptedBy endpoints c = none) (done : List EndpointPtr) (e : EndpointPtr) :
    linkedAfter endpoints (done ++ [c]) e = linkedAfter endpoints done e := by
  unfold linkedAfter
  by_cases hself : e = c
  · simp [hself, h]
  · simp [hself, h]

/-- The two places at which one more link is written. -/
theorem linkedAfter_concat {endpoints : List Endpoint} {c parent : EndpointPtr}
    (h : adoptedBy endpoints c = some parent) (done : List EndpointPtr) (e : EndpointPtr) :
    linkedAfter endpoints (done ++ [c]) e =
      { linkedAfter endpoints done e with
        bufferParentGuid :=
          if e = c then parent.guid else (linkedAfter endpoints done e).bufferParentGuid
        bufferCompanionGuids := (linkedAfter endpoints done e).bufferCompanionGuids ++
          if e = parent then [c.guid] else [] } := by
  have hparent : (if e ∈ done ++ [c] then ((adoptedBy endpoints e).map fun p ↦ p.guid).getD ""
      else "") = if e = c then parent.guid else
        if e ∈ done then ((adoptedBy endpoints e).map fun p ↦ p.guid).getD "" else "" := by
    by_cases hself : e = c
    · simp [hself, h]
    · simp [hself]
  have hchildren : ((done ++ [c]).filter fun other ↦ adoptedBy endpoints other = some e) =
      (done.filter fun other ↦ adoptedBy endpoints other = some e) ++
        if e = parent then [c] else [] := by
    rw [List.filter_append]
    by_cases hchild : e = parent
    · simp [hchild, h]
    · simp [hchild, h, Ne.symm hchild]
  unfold linkedAfter
  rw [hparent, hchildren, List.map_append]
  by_cases hchild : e = parent
  · simp [hchild]
  · simp [hchild]

/-- Making the links of one more endpoint. -/
theorem linkCompanion_linkedAfter {endpoints : List Endpoint} (done : List EndpointPtr)
    {c : EndpointPtr} (hc : c ∈ pointers endpoints)
    (hclear : ((pointers endpoints).map (linkedAfter endpoints done)).map clearLinks = endpoints) :
    linkCompanion ((pointers endpoints).map (linkedAfter endpoints done)) c =
      (pointers endpoints).map (linkedAfter endpoints (done ++ [c])) := by
  rw [linkCompanion_eq, hclear]
  apply List.ext_getElem?
  intro index
  rw [getElem?_map_pointers]
  cases hparent : adoptedBy endpoints c with
  | none =>
    dsimp only
    rw [getElem?_map_pointers]
    cases hget : endpoints[index]? with
    | none => rfl
    | some e => rw [Option.map_some, Option.map_some, linkedAfter_concat_of_none hparent]
  | some parent =>
    dsimp only
    have hp := mem_pointers_of_adoptedBy hparent
    rw [List.getElem?_modify, List.getElem?_modify, getElem?_map_pointers]
    cases hget : endpoints[index]? with
    | none => rfl
    | some e =>
      have hin : (⟨e, index⟩ : EndpointPtr) ∈ pointers endpoints :=
        (mem_pointers_iff endpoints _).mpr hget
      have hself : c.address = index ↔ (⟨e, index⟩ : EndpointPtr) = c :=
        ⟨fun h ↦ eq_of_address hin hc h.symm, fun h ↦ h ▸ rfl⟩
      have hchild : parent.address = index ↔ (⟨e, index⟩ : EndpointPtr) = parent :=
        ⟨fun h ↦ eq_of_address hin hp h.symm, fun h ↦ h ▸ rfl⟩
      rw [Option.map_some, Option.map_some, linkedAfter_concat hparent]
      simp only [hself, hchild, Option.map_eq_map, Option.map_some]
      by_cases hc' : (⟨e, index⟩ : EndpointPtr) = c
      · by_cases hp' : (⟨e, index⟩ : EndpointPtr) = parent
        · simp only [if_pos hc', if_pos hp']
        · simp only [if_pos hc', if_neg hp', List.append_nil]
      · by_cases hp' : (⟨e, index⟩ : EndpointPtr) = parent
        · simp only [if_neg hc', if_pos hp']
        · simp only [if_neg hc', if_neg hp', List.append_nil]

theorem map_clearLinks_linkedAfter (endpoints : List Endpoint) (done : List EndpointPtr) :
    ((pointers endpoints).map (linkedAfter endpoints done)).map clearLinks =
      endpoints.map clearLinks := by
  apply List.ext_getElem?
  intro index
  rw [List.getElem?_map, getElem?_map_pointers, List.getElem?_map, Option.map_map]
  rfl

theorem foldl_linkCompanion {endpoints : List Endpoint} (hclear : endpoints.map clearLinks = endpoints)
    (rest done : List EndpointPtr) (hrest : ∀ c ∈ rest, c ∈ pointers endpoints) :
    rest.foldl linkCompanion ((pointers endpoints).map (linkedAfter endpoints done)) =
      (pointers endpoints).map (linkedAfter endpoints (done ++ rest)) := by
  induction rest generalizing done with
  | nil => rw [List.foldl_nil, List.append_nil]
  | cons c rest ih =>
    obtain ⟨hc, hrest'⟩ := List.forall_mem_cons.mp hrest
    have hkept := (map_clearLinks_linkedAfter endpoints done).trans hclear
    rw [List.foldl_cons, linkCompanion_linkedAfter done hc hkept, ih (done ++ [c]) hrest',
      List.append_assoc, List.singleton_append]

/-- Every endpoint with its own links, told by the endpoints without links. -/
theorem linkBufferCompanions_eq (endpoints : List Endpoint) :
    linkBufferCompanions endpoints =
      (pointers (endpoints.map clearLinks)).map
        (linkedAfter (endpoints.map clearLinks) (pointers (endpoints.map clearLinks))) := by
  have hclear : (endpoints.map clearLinks).map clearLinks = endpoints.map clearLinks := by
    rw [List.map_map]
    rfl
  have hstart : (pointers (endpoints.map clearLinks)).map
      (linkedAfter (endpoints.map clearLinks) []) = endpoints.map clearLinks := by
    apply List.ext_getElem?
    intro index
    rw [getElem?_map_pointers, List.getElem?_map, Option.map_map]
    rfl
  have hfold := foldl_linkCompanion hclear (pointers (endpoints.map clearLinks)) [] fun _ hc ↦ hc
  rw [hstart, List.nil_append] at hfold
  exact hfold

end Links

end TransportViz.Decision
