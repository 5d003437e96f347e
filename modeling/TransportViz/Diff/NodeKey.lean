import Mathlib.Data.List.Pairwise
import TransportViz.Decision.Fresh
import TransportViz.Diff.Identity

/-!
# What the node key tells apart

Within one topic the node key names every pair. Two DDS topics can have one display name, and then a
pair of the one hides a pair of the other as soon as both ends are at the same places of the same
nodes. `Shadowed` says when that happens, in terms of the endpoints.
-/

namespace TransportViz.Diff

open Decision RosNames

/-- The endpoints as discovery hands them out. -/
structure Discovered (endpoints : List Endpoint) : Prop where
  distinct : (endpoints.map Endpoint.guidBytes).Nodup
  guid : ∀ e ∈ endpoints, GuidWritten e
  rosTopic : ∀ e ∈ endpoints, e.rosTopic = (demangleTopic e.ddsTopic).name

/-- The node key tells all pairs apart, and none is lost in the map. -/
def NodeKeyComplete (snap : Snapshot) : Prop :=
  ((nodePairs snap).map Prod.fst).Nodup ∧
    (nodeKeyed snap).size = (snap.topics.flatMap TopicSummary.pairs).length

/-- The endpoints of the node on the same DDS topic with a smaller GUID. -/
def rank (endpoints : List Endpoint) (e : Endpoint) : ℕ :=
  endpoints.countP fun o ↦ o.ddsTopic = e.ddsTopic && o.nodeName = e.nodeName && o.guid < e.guid

/-- Endpoints of one node at one place, each on its own topic. -/
structure Twins (endpoints : List Endpoint) (e f : Endpoint) : Prop where
  named : e.nodeName ≠ ""
  nodeName : e.nodeName = f.nodeName
  rank : rank endpoints e = rank endpoints f

/-- A writer and a reader of one DDS topic. -/
structure Matched (endpoints : List Endpoint) (w r : Endpoint) : Prop where
  writer : w ∈ endpoints ∧ w.isWriter = true
  reader : r ∈ endpoints ∧ r.isWriter = false
  ddsTopic : r.ddsTopic = w.ddsTopic

/-- Two DDS topics with one display name have pairs whose ends are twins. -/
def Shadowed (endpoints : List Endpoint) : Prop :=
  ∃ w r w' r', Matched endpoints w r ∧ Matched endpoints w' r' ∧ w.ddsTopic ≠ w'.ddsTopic ∧
    displayName w = displayName w' ∧ Twins endpoints w w' ∧ Twins endpoints r r'

theorem nodeKeyComplete_iff_nodup (snap : Snapshot) :
    NodeKeyComplete snap ↔ ((nodePairs snap).map Prod.fst).Nodup := by
  have hlength : (nodePairs snap).length = (snap.topics.flatMap TopicSummary.pairs).length := by
    simp [nodePairs, List.length_flatMap]
  rw [NodeKeyComplete, nodeKeyed, ← hlength, OrderedMap.size_ofList_eq_length_iff, and_self_iff]

section Discovered

variable {endpoints : List Endpoint}

theorem map_pointers (endpoints : List Endpoint) :
    (pointers endpoints).map EndpointPtr.toEndpoint = endpoints := by
  simp [pointers, Function.comp_def]

/-- A GUID text points to one endpoint. -/
theorem Discovered.eq_of_guid (h : Discovered endpoints) {e f : EndpointPtr}
    (he : e ∈ pointers endpoints) (hf : f ∈ pointers endpoints) (hguid : e.guid = f.guid) :
    e = f := by
  rw [h.guid _ (mem_of_mem_pointers he), h.guid _ (mem_of_mem_pointers hf)] at hguid
  have hnodup : ((pointers endpoints).map fun e ↦ e.guidBytes).Nodup := by
    have hdistinct := h.distinct
    rw [← map_pointers endpoints, List.map_map] at hdistinct
    exact hdistinct
  exact List.inj_on_of_nodup_map hnodup he hf (guidToString_injective hguid)

/-- One DDS topic has one display name. -/
theorem Discovered.displayName_eq (h : Discovered endpoints) {e f : EndpointPtr}
    (he : e ∈ pointers endpoints) (hf : f ∈ pointers endpoints)
    (htopic : e.ddsTopic = f.ddsTopic) :
    displayName e.toEndpoint = displayName f.toEndpoint := by
  rw [displayName, displayName, h.rosTopic _ (mem_of_mem_pointers he),
    h.rosTopic _ (mem_of_mem_pointers hf), htopic]

end Discovered

section Topics

variable [Fnmatch] {endpoints : List Endpoint} {t u : TopicSummary}

theorem displayTopic_eq (h : Discovered endpoints) (ht : t ∈ summarize endpoints)
    {e : EndpointPtr} (he : e ∈ t.writers ++ t.readers) :
    t.displayTopic = displayName e.toEndpoint := by
  obtain ⟨hmem, htopic⟩ := (mem_topic_iff ht e).mp he
  obtain ⟨first, hfirst, hdds, hdisplay⟩ := (isSummary_of_mem endpoints t ht).display
  rw [hdisplay, h.displayName_eq hfirst hmem (hdds.trans htopic.symm)]

/-- The endpoints of a topic, up to their order. -/
theorem perm_sides (ht : t ∈ summarize endpoints) :
    (t.writers ++ t.readers).Perm ((pointers endpoints).filter fun e ↦ e.ddsTopic = t.ddsTopic) := by
  refine (List.perm_ext_iff_of_nodup (nodup_sides endpoints t ht)
    ((nodup_pointers endpoints).filter _)).mpr fun e ↦ ?_
  rw [mem_topic_iff ht, List.mem_filter, decide_eq_true_eq]

/-- The place of an endpoint within its node is its rank. -/
theorem place_eq_rank (h : Discovered endpoints) (ht : t ∈ summarize endpoints) {e : EndpointPtr}
    (he : e ∈ t.writers ++ t.readers) :
    Ranking.place (nodeGuids t e.nodeName) e.guid = rank endpoints e.toEndpoint := by
  have htopic := ((mem_topic_iff ht e).mp he).2
  have hnodup : (nodeGuids t e.nodeName).Nodup := by
    have hside := (perm_sides ht).nodup_iff.mpr ((nodup_pointers endpoints).filter _)
    refine List.Nodup.map_on (fun a ha b hb hguid ↦ ?_) (hside.filter _)
    exact h.eq_of_guid ((mem_topic_iff ht a).mp (List.mem_of_mem_filter ha)).1
      ((mem_topic_iff ht b).mp (List.mem_of_mem_filter hb)).1 hguid
  have hrank : rank endpoints e.toEndpoint = (pointers endpoints).countP fun o ↦
      o.ddsTopic = e.ddsTopic && o.nodeName = e.nodeName && o.guid < e.guid := by
    unfold rank
    conv_lhs => rw [← map_pointers endpoints, List.countP_map]
    rfl
  rw [Ranking.place_eq_countP_lt hnodup (mem_nodeGuids he), hrank, nodeGuids, List.countP_map,
    List.countP_filter, (perm_sides ht).countP_eq, List.countP_filter]
  refine List.countP_congr fun o _ ↦ ?_
  simp only [Function.comp_apply, Bool.and_eq_true, decide_eq_true_eq, htopic]
  tauto

/-- Endpoints with one identity are the same endpoint, or twins on two topics. -/
theorem identity_eq_iff_twins (h : Discovered endpoints) (ht : t ∈ summarize endpoints)
    (hu : u ∈ summarize endpoints) {e f : EndpointPtr} (he : e ∈ t.writers ++ t.readers)
    (hf : f ∈ u.writers ++ u.readers) :
    identity t e.toEndpoint = identity u f.toEndpoint ↔
      e = f ∨ Twins endpoints e.toEndpoint f.toEndpoint := by
  obtain ⟨hemem, -⟩ := (mem_topic_iff ht e).mp he
  obtain ⟨hfmem, -⟩ := (mem_topic_iff hu f).mp hf
  rw [identity_eq_iff (h.guid _ (mem_of_mem_pointers hemem)) (h.guid _ (mem_of_mem_pointers hfmem)),
    place_eq_rank h ht he, place_eq_rank h hu hf]
  constructor
  · rintro ⟨hnode, hguid, hrank⟩
    by_cases hnamed : e.nodeName = ""
    · exact .inl (h.eq_of_guid hemem hfmem (hguid hnamed))
    · exact .inr ⟨hnamed, hnode, hrank hnamed⟩
  · rintro (rfl | htwins)
    · exact ⟨rfl, fun _ ↦ rfl, fun _ ↦ rfl⟩
    · exact ⟨htwins.nodeName, fun hempty ↦ absurd hempty htwins.named, fun _ ↦ htwins.rank⟩

/-- Within a topic there are no twins. -/
theorem eq_of_twins (h : Discovered endpoints) (ht : t ∈ summarize endpoints) {e f : EndpointPtr}
    (he : e ∈ t.writers ++ t.readers) (hf : f ∈ t.writers ++ t.readers)
    (htwins : Twins endpoints e.toEndpoint f.toEndpoint) : e = f := by
  have hrank := htwins.rank
  rw [← place_eq_rank h ht he, ← place_eq_rank h ht hf, htwins.nodeName] at hrank
  have hmem : e.guid ∈ nodeGuids t f.nodeName := htwins.nodeName ▸ mem_nodeGuids he
  exact h.eq_of_guid ((mem_topic_iff ht e).mp he).1 ((mem_topic_iff ht f).mp hf).1
    (Ranking.place_inj hmem hrank)

/-- The ends of a pair are endpoints of its topic. -/
theorem mem_of_pair (ht : t ∈ summarize endpoints) {p : Pair} :
    p ∈ t.pairs ↔ p.writer ∈ t.writers ∧ p.reader ∈ t.readers ∧ p = freshPair p.writer p.reader := by
  rw [(isSummary_of_mem endpoints t ht).pairs_eq, mem_freshPairs]

theorem nodup_nodeIdent (h : Discovered endpoints) (ht : t ∈ summarize endpoints) :
    (t.pairs.map (nodeIdent t)).Nodup := by
  have hnodup := (isSummary_of_mem endpoints t ht).nodup_pairs
  refine List.Nodup.map_on (fun p hp q hq hident ↦ ?_) (List.Nodup.of_map _ hnodup)
  obtain ⟨hpw, hpr, hpeq⟩ := (mem_of_pair ht).mp hp
  obtain ⟨hqw, hqr, hqeq⟩ := (mem_of_pair ht).mp hq
  have hsame {e f : EndpointPtr} (he : e ∈ t.writers ++ t.readers)
      (hf : f ∈ t.writers ++ t.readers)
      (heq : identity t e.toEndpoint = identity t f.toEndpoint) : e = f :=
    ((identity_eq_iff_twins h ht ht he hf).mp heq).elim id (eq_of_twins h ht he hf)
  have hident' := congrArg (fun i ↦ (ofLex i).2) hident
  have hwriter := hsame (List.mem_append_left _ hpw) (List.mem_append_left _ hqw)
    (congrArg (fun i ↦ (ofLex i).1) hident')
  have hreader := hsame (List.mem_append_right _ hpr) (List.mem_append_right _ hqr)
    (congrArg (fun i ↦ (ofLex i).2) hident')
  rw [hpeq, hqeq, hwriter, hreader]

theorem matched_of_pair (ht : t ∈ summarize endpoints) {p : Pair} (hp : p ∈ t.pairs) :
    Matched endpoints p.writer.toEndpoint p.reader.toEndpoint ∧
      p.writer.ddsTopic = t.ddsTopic := by
  have hsummary := isSummary_of_mem endpoints t ht
  obtain ⟨hwriter, hreader, -⟩ := (mem_of_pair ht).mp hp
  rw [hsummary.writers_eq, mem_sideOf] at hwriter
  rw [hsummary.readers_eq, mem_sideOf] at hreader
  exact ⟨⟨⟨mem_of_mem_pointers hwriter.1, hwriter.2.2⟩, ⟨mem_of_mem_pointers hreader.1, hreader.2.2⟩,
    hreader.2.1.trans hwriter.2.1.symm⟩, hwriter.2.1⟩

/-- Every writer and reader of one DDS topic are paired. -/
theorem exists_pair_of_matched {w r : Endpoint} (h : Matched endpoints w r) :
    ∃ t ∈ summarize endpoints, t.ddsTopic = w.ddsTopic ∧
      ∃ p ∈ t.pairs, p.writer.toEndpoint = w ∧ p.reader.toEndpoint = r := by
  obtain ⟨writer, hwriter, rfl⟩ := exists_pointer h.writer.1
  obtain ⟨reader, hreader, rfl⟩ := exists_pointer h.reader.1
  obtain ⟨t, ht, htopic⟩ := exists_summarized_topic hwriter
  have hsummary := isSummary_of_mem endpoints t ht
  refine ⟨t, ht, htopic, freshPair writer reader, (mem_of_pair ht).mpr ⟨?_, ?_, rfl⟩, rfl, rfl⟩
  · rw [hsummary.writers_eq, mem_sideOf]
    exact ⟨hwriter, htopic.symm, h.writer.2⟩
  · rw [hsummary.readers_eq, mem_sideOf]
    exact ⟨hreader, h.ddsTopic.trans htopic.symm, h.reader.2⟩

/-- Pairs of two topics share an identity exactly when their ends are twins under one name. -/
theorem nodeIdent_eq_iff (h : Discovered endpoints) (ht : t ∈ summarize endpoints)
    (hu : u ∈ summarize endpoints) (htopic : t.ddsTopic ≠ u.ddsTopic) {p q : Pair}
    (hp : p ∈ t.pairs) (hq : q ∈ u.pairs) :
    nodeIdent t p = nodeIdent u q ↔
      displayName p.writer.toEndpoint = displayName q.writer.toEndpoint ∧
        Twins endpoints p.writer.toEndpoint q.writer.toEndpoint ∧
        Twins endpoints p.reader.toEndpoint q.reader.toEndpoint := by
  obtain ⟨hpw, hpr, -⟩ := (mem_of_pair ht).mp hp
  obtain ⟨hqw, hqr, -⟩ := (mem_of_pair hu).mp hq
  have hapart {e f : EndpointPtr} (he : e ∈ t.writers ++ t.readers)
      (hf : f ∈ u.writers ++ u.readers) :
      identity t e.toEndpoint = identity u f.toEndpoint ↔
        Twins endpoints e.toEndpoint f.toEndpoint := by
    rw [identity_eq_iff_twins h ht hu he hf]
    refine or_iff_right fun heq ↦ htopic ?_
    rw [← ((mem_topic_iff ht e).mp he).2, ← ((mem_topic_iff hu f).mp hf).2, heq]
  rw [← displayTopic_eq h ht (List.mem_append_left _ hpw),
    ← displayTopic_eq h hu (List.mem_append_left _ hqw),
    ← hapart (List.mem_append_left _ hpw) (List.mem_append_left _ hqw),
    ← hapart (List.mem_append_right _ hpr) (List.mem_append_right _ hqr)]
  simp only [nodeIdent, EmbeddingLike.apply_eq_iff_eq, Prod.mk.injEq]

/-- The node key is complete exactly when no topic shadows another. -/
theorem nodeKeyComplete_iff (snap : Snapshot) (endpoints : List Endpoint)
    (hdiscovered : Discovered endpoints) (htopics : snap.topics = summarize endpoints) :
    NodeKeyComplete snap ↔ ¬Shadowed endpoints := by
  have hidents : (nodePairs snap).map Prod.fst =
      (summarize endpoints).flatMap fun t ↦ t.pairs.map (nodeIdent t) := by
    simp only [nodePairs, htopics, List.map_flatMap, List.map_map]
    rfl
  have hdistinct : (summarize endpoints).Pairwise fun t u ↦ t.ddsTopic ≠ u.ddsTopic :=
    List.pairwise_map.mp (nodup_ddsTopic_summarize endpoints)
  rw [nodeKeyComplete_iff_nodup, hidents, List.nodup_flatMap]
  constructor
  · rintro ⟨-, hdisjoint⟩ ⟨w, r, w', r', hmatched, hmatched', htopic, hname, hwriters, hreaders⟩
    obtain ⟨t, ht, hdds, p, hp, rfl, rfl⟩ := exists_pair_of_matched hmatched
    obtain ⟨u, hu, hdds', q, hq, rfl, rfl⟩ := exists_pair_of_matched hmatched'
    have hother : t.ddsTopic ≠ u.ddsTopic := by rwa [hdds, hdds']
    have hident := (nodeIdent_eq_iff hdiscovered ht hu hother hp hq).mpr ⟨hname, hwriters, hreaders⟩
    have hsymm : Std.Symm (Function.onFun List.Disjoint
        fun t : TopicSummary ↦ t.pairs.map (nodeIdent t)) := ⟨fun _ _ h ↦ h.symm⟩
    refine hdisjoint.forall ht hu (fun heq ↦ hother (congrArg _ heq)) (List.mem_map_of_mem hp) ?_
    rw [hident]
    exact List.mem_map_of_mem hq
  · refine fun hshadowed ↦ ⟨fun t ht ↦ nodup_nodeIdent hdiscovered ht, ?_⟩
    refine (List.Pairwise.and_mem.mp hdistinct).imp
      fun {t u} ⟨ht, hu, hother⟩ ident hidentp hidentq ↦ ?_
    obtain ⟨p, hp, rfl⟩ := List.mem_map.mp hidentp
    obtain ⟨q, hq, hident⟩ := List.mem_map.mp hidentq
    obtain ⟨hname, hwriters, hreaders⟩ :=
      (nodeIdent_eq_iff hdiscovered ht hu hother hp hq).mp hident.symm
    obtain ⟨hmatched, hdds⟩ := matched_of_pair ht hp
    obtain ⟨hmatched', hdds'⟩ := matched_of_pair hu hq
    exact hshadowed ⟨_, _, _, _, hmatched, hmatched', by rwa [hdds, hdds'], hname, hwriters, hreaders⟩

end Topics

section Scan

/-- An endpoint of the topic or of the service called `/scan`. -/
def scanEndpoint (isWriter : Bool) (ddsTopic node : String) (process entity : UInt8) : Endpoint :=
  let guid := guidOnHost process entity
  { isWriter := isWriter
    guid := guidToString guid
    guidBytes := guid
    participantGuidPrefix := prefixToString guid
    ddsTopic := ddsTopic
    rosTopic := "/scan"
    nodeName := node }

/-- A driver publishes a topic and calls a service of one name, a viewer is on the other side. -/
def scanEndpoints : List Endpoint :=
  [scanEndpoint true "rt/scan" "/driver" 1 0x12, scanEndpoint false "rt/scan" "/viewer" 2 0x14,
    scanEndpoint true "rq/scanRequest" "/driver" 1 0x16,
    scanEndpoint false "rq/scanRequest" "/viewer" 2 0x18]

theorem discovered_scanEndpoints : Discovered scanEndpoints := by
  refine ⟨by decide +kernel, ?_, by decide +kernel⟩
  unfold GuidWritten
  decide +kernel

theorem nodeKeyComplete_iff_scan :
    NodeKeyComplete { topics := @summarize literalFnmatch scanEndpoints } ↔
      ¬Shadowed scanEndpoints :=
  @nodeKeyComplete_iff literalFnmatch { topics := @summarize literalFnmatch scanEndpoints }
    scanEndpoints discovered_scanEndpoints rfl

/-- Of the two pairs only one is left in the map. -/
theorem scan_not_nodeKeyComplete :
    Discovered scanEndpoints ∧
      ¬NodeKeyComplete { topics := @summarize literalFnmatch scanEndpoints } := by
  refine ⟨discovered_scanEndpoints, fun h ↦ absurd h.2 ?_⟩
  decide +kernel

end Scan

end TransportViz.Diff
