import TransportViz.Diff.Snapshots
import TransportViz.Json.SecondRound
import TransportViz.Web.WellFormed

/-!
# Comparing a snapshot with its document

A comparison reads names, GUIDs, transports and locators of the pairs. All of that is in the document,
so neither key mode sees a difference between a snapshot and what comes back.
-/

namespace TransportViz.Json

open Diff RosNames Web

/-! ## What is compared -/

/-- A locator whose port is one: nothing of it is cut off. -/
def PortFits (l : Locator) : Prop := l.port < 2 ^ 32

/-- The compared part of a topic is in the document. -/
structure Kept (t : TopicSummary) : Prop where
  writer : ∀ p ∈ t.pairs, p.writer ∈ t.writers
  reader : ∀ p ∈ t.pairs, p.reader ∈ t.readers
  node : ∀ e ∈ t.writers ++ t.readers, normalizeNodeName e.nodeName = e.nodeName
  selected : ∀ p ∈ t.pairs, Selected p.verdict.locator ∧ PortFits p.verdict.locator
  measured : ∀ p ∈ t.pairs, ∀ ml ∈ p.measured.locators, PortFits ml.locator
  latency : ∀ p ∈ t.pairs, FiniteLatency p.measured

section Compared

variable {s : Snapshot}

theorem savedLocator_eq {l : Locator} (h : PortFits l) : savedLocator l = l := by
  rw [savedLocator, Nat.mod_eq_of_lt h]

theorem savedVerdict_locator {v : Verdict} (h : Selected v.locator ∧ PortFits v.locator) :
    (savedVerdict v).locator = v.locator := by
  unfold savedVerdict
  split_ifs with hkind
  · exact (h.1 hkind).symm
  · exact savedLocator_eq h.2

/-- The state of a pair is the one it had. -/
theorem pairState_savedPair {t : TopicSummary} (h : Kept t) {p : Pair} (hp : p ∈ t.pairs)
    (seconds : ℚ) (endpoints : List Endpoint) :
    Diff.pairState (savedPair seconds endpoints p) = Diff.pairState p := by
  have hlocators : (p.measured.locators.map savedMeasuredLocator).map MeasuredLocator.locator =
      p.measured.locators.map MeasuredLocator.locator := by
    rw [List.map_map]
    exact List.map_congr_left fun ml hml ↦ savedLocator_eq (h.measured p hp ml hml)
  have hverdict : (savedVerdict p.verdict).transport = p.verdict.transport ∧
      (savedVerdict p.verdict).confidence = p.verdict.confidence ∧
      (savedVerdict p.verdict).warnings = p.verdict.warnings := by
    rw [savedVerdict_eq]
    exact ⟨rfl, rfl, rfl⟩
  unfold Diff.pairState savedPair savedMeasurement
  simp only [hlocators, hverdict, savedVerdict_locator (h.selected p hp)]

end Compared

/-! ## Identities -/

section Identities

/-- What an identity is made of. -/
def nameAndGuid (e : EndpointPtr) : String × String := (e.nodeName, e.guid)

theorem byNode_congr {t u : TopicSummary}
    (h : (u.writers ++ u.readers).map nameAndGuid = (t.writers ++ t.readers).map nameAndGuid) :
    byNode u = byNode t := by
  have hfold (v : TopicSummary) : byNode v =
      ((v.writers ++ v.readers).map nameAndGuid).foldl
        (fun map e ↦
          if e.1 ≠ "" then map.alter e.1 fun guids ↦ guids.getD [] ++ [e.2] else map)
        .empty := by
    rw [List.foldl_map]
    rfl
  rw [hfold, hfold, h]

theorem identity_congr {t u : TopicSummary}
    (h : (u.writers ++ u.readers).map nameAndGuid = (t.writers ++ t.readers).map nameAndGuid)
    {e f : EndpointPtr} (he : nameAndGuid f = nameAndGuid e) :
    Diff.identity u f.toEndpoint = Diff.identity t e.toEndpoint := by
  obtain ⟨hnode, hguid⟩ := Prod.mk.inj he
  unfold Diff.identity
  rw [byNode_congr h, hnode, hguid]

variable {s : Snapshot} (hdistinct : ((listed s.topics).map Endpoint.guid).Nodup)
include hdistinct

theorem nameAndGuid_savedPointer {isWriter : Bool} {e : EndpointPtr}
    (he : savedEndpoint isWriter e.toEndpoint ∈ listed s.topics)
    (hnode : normalizeNodeName e.nodeName = e.nodeName) :
    nameAndGuid (savedPointer (savedEndpoints s.topics) e.toEndpoint) = nameAndGuid e := by
  obtain ⟨pointer, hpointer, hsame⟩ := exists_endpointOf hdistinct he
  change endpointOf (savedEndpoints s.topics) e.guid = some pointer at hpointer
  have hname : pointer.nodeName = normalizeNodeName e.nodeName :=
    congrArg (fun e ↦ e.nodeName) hsame
  have hguid : pointer.guid = e.guid := congrArg (fun e ↦ e.guid) hsame
  rw [savedPointer, hpointer, Option.getD_some, nameAndGuid, hname, hnode, hguid, nameAndGuid]

end Identities

section Snapshots

variable {s : Snapshot} (hdistinct : ((listed s.topics).map Endpoint.guid).Nodup)
  (hkept : ∀ t ∈ s.topics, Kept t)
include hdistinct hkept

theorem nameAndGuid_savedPair {t : TopicSummary} (ht : t ∈ s.topics) {p : Pair} (hp : p ∈ t.pairs) :
    nameAndGuid (savedPointer (savedEndpoints s.topics) p.writer.toEndpoint) =
        nameAndGuid p.writer ∧
      nameAndGuid (savedPointer (savedEndpoints s.topics) p.reader.toEndpoint) =
        nameAndGuid p.reader := by
  have hwriter := (hkept t ht).writer p hp
  have hreader := (hkept t ht).reader p hp
  exact ⟨nameAndGuid_savedPointer hdistinct (mem_listed_writer ht hwriter)
      ((hkept t ht).node _ (List.mem_append_left _ hwriter)),
    nameAndGuid_savedPointer hdistinct (mem_listed_reader ht hreader)
      ((hkept t ht).node _ (List.mem_append_right _ hreader))⟩

theorem pairKey_savedPair {t : TopicSummary} (ht : t ∈ s.topics) {p : Pair} (hp : p ∈ t.pairs)
    (seconds : ℚ) :
    Diff.pairKey (savedTopic seconds (savedEndpoints s.topics) t)
        (savedPair seconds (savedEndpoints s.topics) p) = Diff.pairKey t p := by
  obtain ⟨hwriter, hreader⟩ := nameAndGuid_savedPair hdistinct hkept ht hp
  obtain ⟨hwnode, hwguid⟩ := Prod.mk.inj hwriter
  obtain ⟨hrnode, hrguid⟩ := Prod.mk.inj hreader
  simp only [Diff.pairKey, savedPair, savedTopic, hwnode, hwguid, hrnode, hrguid]

theorem nodeIdent_savedPair {t : TopicSummary} (ht : t ∈ s.topics) {p : Pair} (hp : p ∈ t.pairs)
    (seconds : ℚ) :
    nodeIdent (savedTopic seconds (savedEndpoints s.topics) t)
        (savedPair seconds (savedEndpoints s.topics) p) = nodeIdent t p := by
  have hendpoints : ((savedTopic seconds (savedEndpoints s.topics) t).writers ++
      (savedTopic seconds (savedEndpoints s.topics) t).readers).map nameAndGuid =
        (t.writers ++ t.readers).map nameAndGuid := by
    simp only [savedTopic, List.map_append, List.map_map]
    congr 1
    · exact List.map_congr_left fun w hw ↦ nameAndGuid_savedPointer hdistinct
        (mem_listed_writer ht hw) ((hkept t ht).node w (List.mem_append_left _ hw))
    · exact List.map_congr_left fun r hr ↦ nameAndGuid_savedPointer hdistinct
        (mem_listed_reader ht hr) ((hkept t ht).node r (List.mem_append_right _ hr))
  obtain ⟨hwriter, hreader⟩ := nameAndGuid_savedPair hdistinct hkept ht hp
  unfold nodeIdent
  rw [savedPair, identity_congr hendpoints hwriter, identity_congr hendpoints hreader]
  rfl

theorem realPairs_saved : realPairs (saved s) = realPairs s := by
  unfold realPairs
  rw [saved, List.flatMap_map]
  refine List.flatMap_congr fun t ht ↦ ?_
  rw [savedTopic, List.map_map]
  refine List.map_congr_left fun p hp ↦ ?_
  exact Prod.ext (pairKey_savedPair hdistinct hkept ht hp s.observationSeconds)
    (pairState_savedPair (hkept t ht) hp _ _)

theorem nodePairs_saved : nodePairs (saved s) = nodePairs s := by
  unfold nodePairs
  rw [saved, List.flatMap_map]
  refine List.flatMap_congr fun t ht ↦ ?_
  rw [savedTopic, List.map_map]
  refine List.map_congr_left fun p hp ↦ ?_
  exact Prod.ext (nodeIdent_savedPair hdistinct hkept ht hp s.observationSeconds)
    (Prod.ext (pairKey_savedPair hdistinct hkept ht hp s.observationSeconds)
      (pairState_savedPair (hkept t ht) hp _ _))

/-- Neither comparison sees a difference. -/
theorem diffSnapshots_saved (mode : KeyMode) : diffSnapshots s (saved s) mode = { key := mode } := by
  have hnone {same : PairKey × PairState → PairKey × PairState → Bool}
      (hsame : ∀ a, same a a = true) (states : KeyedStates) :
      report mode (KeyedDiff.diff same states.entries states.entries) = { key := mode } := by
    obtain ⟨hadded, hremoved, hchanged⟩ := KeyedDiff.diff_alike
      (List.forall₂_same.mpr fun e _ ↦ ⟨rfl, hsame e.2, fun _ ↦ rfl⟩)
      states.nodup_keys states.nodup_keys
    rw [report, hadded, hremoved, hchanged]
    rfl
  cases mode with
  | guid =>
    have hstates : pairStates (saved s) = pairStates s := by
      rw [pairStates, realPairs_saved hdistinct hkept, pairStates]
    rw [diffSnapshots, diff, hstates]
    exact hnone (by simp) _
  | node =>
    have hkeyed : nodeKeyed (saved s) = nodeKeyed s := by
      rw [nodeKeyed, nodePairs_saved hdistinct hkept, nodeKeyed]
    rw [diffSnapshots, nodeDiff, hkeyed]
    exact hnone (by simp [sameIgnoringPorts]) _

end Snapshots

end TransportViz.Json
