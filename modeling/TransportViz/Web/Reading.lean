import TransportViz.Web.Identities
import TransportViz.Web.WellFormed

/-!
# What the viewer reads from a rendered document

The viewer reads back the keys and the states that the comparison of snapshots starts from, and
compares two states as that comparison does. The one thing a document does not tell is the address and
the port of a locator of no kind, which no verdict has.
-/

namespace TransportViz.Web

open Script

section Pairs

variable (snap : Snapshot) (t : TopicSummary) (p : Pair) (opt : RenderOptions)

theorem pairKey_json :
    pairKey (topicJson snap t opt) (pairJson snap p opt) = some (Diff.pairKey t p) := by
  simp [pairKey, topicJson, pairJson, Value.text_orElse_empty, Diff.pairKey, List.lookup_cons]

theorem locatorId_locatorMembers (l : Locator) (more : List (String × Value)) :
    locatorId (.object (locatorMembers l ++ more)) = some (locatorObject l) := by
  simp [locatorId, locatorMembers, locatorObject, List.lookup_cons]

theorem selectedLocator_json (v : Verdict) :
    selectedLocator (selectedLocatorJson v) = some (selectedObject v.locator) := by
  by_cases hkind : v.locator.kind = .invalid
  · simp [selectedLocator, selectedLocatorJson, selectedObject, hkind]
  · simp [selectedLocator, selectedLocatorJson, selectedObject, hkind, locatorId_locatorMembers]

theorem measuredLocators_json (m : Measurement) :
    m.locators.mapM (locatorId ∘ measuredLocatorJson) =
      some (m.locators.map (locatorObject ∘ MeasuredLocator.locator)) :=
  mapM_eq_some_map fun _ _ ↦ locatorId_locatorMembers _ _

theorem pairState_json :
    pairState (pairJson snap p opt) = some (stateObject (Diff.pairState p)) := by
  simp [pairState, pairJson, measuredJson, texts, List.lookup_cons, selectedLocator_json,
    measuredLocators_json, stateObject, Diff.pairState]

end Pairs

/-! ## Places within a node -/

section Places

variable (snap : Snapshot) (t : TopicSummary) (opt : RenderOptions)

theorem noteGuid_json (map : InsertionMap String (List String)) (e : Endpoint) :
    noteGuid map (endpointJson snap e opt) =
      some (if e.nodeName ≠ "" then
        map.set e.nodeName ((map.get? e.nodeName).getD [] ++ [e.guid]) else map) := by
  by_cases hnode : e.nodeName = "" <;> simp [noteGuid, endpointJson, List.lookup_cons, hnode]

/-- The two programs collect the same GUIDs under each node. -/
theorem foldlM_noteGuid (endpoints : List EndpointPtr) (map : InsertionMap String (List String))
    (map' : OrderedMap String (List String)) (h : ∀ node, map.get? node = map'.find? node) :
    ∃ result, (endpoints.map fun e ↦ endpointJson snap e.toEndpoint opt).foldlM noteGuid map =
        some result ∧
      ∀ node, result.get? node = (endpoints.foldl (fun byNode e ↦
        if e.nodeName ≠ "" then byNode.alter e.nodeName fun guids ↦ guids.getD [] ++ [e.guid]
        else byNode) map').find? node := by
  induction endpoints generalizing map map' with
  | nil => exact ⟨map, rfl, h⟩
  | cons e rest ih =>
    rw [List.map_cons, List.foldlM_cons, noteGuid_json, List.foldl_cons]
    refine ih _ _ fun node ↦ ?_
    by_cases hnode : e.nodeName = ""
    · simpa [hnode] using h node
    · simp [hnode, h]

theorem byNode_json :
    ∃ result, byNode (topicJson snap t opt) .node = some result ∧
      ∀ node, result.get? node = ((Diff.byNode t).find? node).map sortGuids := by
  obtain ⟨result, hresult, hget⟩ := foldlM_noteGuid snap opt (t.writers ++ t.readers) .empty .empty
    fun _ ↦ rfl
  rw [List.map_append] at hresult
  refine ⟨result.mapValues sortGuids, ?_, fun node ↦ ?_⟩
  · simp [byNode, topicJson, List.lookup_cons, hresult, -List.foldlM_append]
  · rw [InsertionMap.get?_mapValues, hget, Diff.byNode]

/-- With GUIDs as the key the map is not looked at. -/
theorem exists_byNode_json (key : KeyMode) :
    ∃ result, byNode (topicJson snap t opt) key = some result ∧
      (key = .node → ∀ node, result.get? node = ((Diff.byNode t).find? node).map sortGuids) := by
  cases key with
  | guid => exact ⟨.empty, rfl, fun h ↦ by cases h⟩
  | node =>
    obtain ⟨result, hresult, hget⟩ := byNode_json snap t opt
    exact ⟨result, hresult, fun _ ↦ hget⟩

/-- A listed endpoint has one identity for both programs. -/
theorem identity_json {t : TopicSummary} {map : InsertionMap String (List String)}
    (hmap : ∀ node, map.get? node = ((Diff.byNode t).find? node).map sortGuids)
    (hbasic : ∀ e ∈ t.writers ++ t.readers, CodeUnits.Basic e.guid) {e : EndpointPtr}
    (he : e ∈ t.writers ++ t.readers) :
    identity map e.guid e.nodeName = some (Diff.identity t e.toEndpoint) := by
  by_cases hnode : e.nodeName = ""
  · rw [identity, Diff.identity, if_neg (not_not_intro hnode), if_pos hnode]
  · have hmem := Diff.mem_nodeGuids he
    have hguids := Diff.getD_find?_byNode t _ hnode
    have hsorted : sortGuids (Diff.nodeGuids t e.nodeName) =
        (Diff.nodeGuids t e.nodeName).insertionSort (· ≤ ·) := by
      refine sortGuids_eq fun guid hguid ↦ ?_
      obtain ⟨other, hother, rfl⟩ := List.mem_map.mp hguid
      exact hbasic other (List.mem_filter.mp hother).1
    rw [identity, if_pos hnode, hmap, Diff.identity_of_named t _ hnode]
    cases hfind : (Diff.byNode t).find? e.nodeName with
    | none =>
      rw [hfind, Option.getD_none] at hguids
      rw [← hguids] at hmem
      cases hmem
    | some guids =>
      rw [hfind, Option.getD_some] at hguids
      subst hguids
      have hplace := Ranking.idxOf?_eq_some ((List.mem_insertionSort (· ≤ ·)).mpr hmem)
      simp [hsorted, hplace, Ranking.place]

end Places

/-! ## States -/

section States

/-- Comparing two written arrays is comparing what was written. -/
theorem sameElements_map {α β γ : Type} (same : β → β → Bool) (write : α → β) (value : α → γ)
    (h : ∀ a b, same (write a) (write b) = true ↔ value a = value b) (l l' : List α) :
    sameElements same (l.map write) (l'.map write) = true ↔ l.map value = l'.map value := by
  induction l generalizing l' with
  | nil => cases l' <;> simp [sameElements]
  | cons a rest ih =>
    cases l' with
    | nil => simp [sameElements]
    | cons b more =>
      have hrest := ih more
      simp only [sameElements, Bool.and_eq_true, decide_eq_true_eq] at hrest
      simp only [sameElements, List.map_cons, List.length_cons, List.zip_cons_cons, List.all_cons,
        Bool.and_eq_true, decide_eq_true_eq, Nat.add_right_cancel_iff, h, List.cons.injEq,
        ← hrest]
      tauto

/-- What the comparison under `key` sees of a locator. -/
def seenLocator (key : KeyMode) (l : Locator) : Locator :=
  match key with
  | .guid => l
  | .node => Diff.stripPort l

/-- What the comparison under `key` sees of a state. -/
def seenState (key : KeyMode) (state : PairState) : PairState :=
  { state with
    locator := seenLocator key state.locator
    measuredLocators := state.measuredLocators.map (seenLocator key) }

theorem sameLocatorId_locatorObject (key : KeyMode) (a b : Locator) :
    sameLocatorId (locatorObject a) (locatorObject b) (key = .node) = true ↔
      seenLocator key a = seenLocator key b := by
  obtain ⟨kind, address, port⟩ := a
  obtain ⟨kind', address', port'⟩ := b
  cases key <;>
    simp [sameLocatorId, locatorObject, seenLocator, Diff.stripPort,
      LocatorKind.text_injective.eq_iff, and_assoc]

theorem sameLocator_selectedObject (key : KeyMode) {a b : Locator} (ha : Selected a)
    (hb : Selected b) :
    sameLocator (selectedObject a) (selectedObject b) (key = .node) = true ↔
      seenLocator key a = seenLocator key b := by
  have hkind (l : Locator) : (seenLocator key l).kind = l.kind := by cases key <;> rfl
  unfold selectedObject
  by_cases hnone : a.kind = .invalid
  · by_cases hnone' : b.kind = .invalid
    · rw [if_pos hnone, if_pos hnone', ha hnone, hb hnone']
      simp [sameLocator]
    · rw [if_pos hnone, if_neg hnone']
      refine iff_of_false (by simp [sameLocator]) fun heq ↦ hnone' ?_
      rw [← hkind b, ← heq, hkind a, hnone]
  · by_cases hnone' : b.kind = .invalid
    · rw [if_neg hnone, if_pos hnone']
      refine iff_of_false (by simp [sameLocator]) fun heq ↦ hnone ?_
      rw [← hkind a, heq, hkind b, hnone']
    · rw [if_neg hnone, if_neg hnone']
      exact sameLocatorId_locatorObject key a b

theorem sameState_stateObject (key : KeyMode) {a b : PairState} (ha : Selected a.locator)
    (hb : Selected b.locator) :
    sameState (stateObject a) (stateObject b) (key = .node) = true ↔
      seenState key a = seenState key b := by
  have hmeasured := sameElements_map Value.strictEq (fun t : Transport ↦ .string t.text) id
    (by simp [Transport.text_injective.eq_iff]) a.measured b.measured
  have hwarnings := sameElements_map Value.strictEq Value.string id (by simp) a.warnings b.warnings
  have hlocators := sameElements_map (sameLocatorId · · (key = .node)) locatorObject
    (seenLocator key) (sameLocatorId_locatorObject key) a.measuredLocators b.measuredLocators
  rw [List.map_id, List.map_id] at hmeasured hwarnings
  simp only [sameState, stateObject, Bool.and_eq_true, hmeasured, hwarnings, hlocators,
    sameLocator_selectedObject key ha hb, Value.strictEq_string, decide_eq_true_eq,
    Transport.text_injective.eq_iff, Confidence.text_injective.eq_iff, seenState,
    PairState.mk.injEq]
  tauto

end States

end TransportViz.Web
