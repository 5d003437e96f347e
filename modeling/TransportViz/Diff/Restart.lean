import TransportViz.Diff.Snapshots

/-!
# The node key across a restart

A restart gives every endpoint a new GUID and every locator a new port. As long as the endpoints of a
node keep their GUID order on each topic, the node-keyed comparison does not see it.
-/

namespace TransportViz.Diff

/-- The endpoint after the restart; what the comparison does not read is left open. -/
structure EndpointRestarted (rename : String → String) (e e' : Endpoint) : Prop where
  guid : e'.guid = rename e.guid
  nodeName : e'.nodeName = e.nodeName

/-- The same locator, perhaps with another port. -/
def SameButPort (l l' : Locator) : Prop := l'.kind = l.kind ∧ l'.address = l.address

structure PairRestarted (rename : String → String) (p p' : Pair) : Prop where
  writer : EndpointRestarted rename p.writer.toEndpoint p'.writer.toEndpoint
  reader : EndpointRestarted rename p.reader.toEndpoint p'.reader.toEndpoint
  transport : p'.verdict.transport = p.verdict.transport
  confidence : p'.verdict.confidence = p.verdict.confidence
  warnings : p'.verdict.warnings = p.verdict.warnings
  locator : SameButPort p.verdict.locator p'.verdict.locator
  transports : p'.measured.transports = p.measured.transports
  locators : List.Forall₂ (fun l l' ↦ SameButPort l.locator l'.locator) p.measured.locators
    p'.measured.locators

structure TopicRestarted (rename : String → String) (t t' : TopicSummary) : Prop where
  displayTopic : t'.displayTopic = t.displayTopic
  writers : List.Forall₂ (fun e e' : EndpointPtr ↦
    EndpointRestarted rename e.toEndpoint e'.toEndpoint) t.writers t'.writers
  readers : List.Forall₂ (fun e e' : EndpointPtr ↦
    EndpointRestarted rename e.toEndpoint e'.toEndpoint) t.readers t'.readers
  pairs : List.Forall₂ (PairRestarted rename) t.pairs t'.pairs

/-- The endpoints a topic names, be it in its lists or in its pairs. -/
def endpointsOf (t : TopicSummary) : List EndpointPtr :=
  t.writers ++ t.readers ++ t.pairs.flatMap fun p ↦ [p.writer, p.reader]

/-- `s'` is `s` after a restart that renamed the GUIDs. -/
structure Restarted (rename : String → String) (s s' : Snapshot) : Prop where
  topics : List.Forall₂ (TopicRestarted rename) s.topics s'.topics
  distinct : ∀ a ∈ s.topics.flatMap endpointsOf, ∀ b ∈ s.topics.flatMap endpointsOf,
    rename a.guid = rename b.guid → a.guid = b.guid
  ordered : ∀ t ∈ s.topics, ∀ a ∈ t.writers ++ t.readers, ∀ b ∈ t.writers ++ t.readers,
    a.nodeName = b.nodeName → a.guid < b.guid → rename a.guid < rename b.guid

/-- Every endpoint has a node name. -/
def AllNamed (s : Snapshot) : Prop := ∀ e ∈ s.topics.flatMap endpointsOf, e.nodeName ≠ ""

section States

variable {rename : String → String}

theorem stripPort_eq_iff (l l' : Locator) : stripPort l' = stripPort l ↔ SameButPort l l' := by
  cases l
  cases l'
  simp [stripPort, SameButPort]

theorem strip_pairState {p p' : Pair} (h : PairRestarted rename p p') :
    strip (pairState p') = strip (pairState p) := by
  have hlocators : (p'.measured.locators.map MeasuredLocator.locator).map stripPort =
      (p.measured.locators.map MeasuredLocator.locator).map stripPort := by
    rw [List.map_map, List.map_map, eq_comm, ← List.forall₂_eq_eq_eq, List.forall₂_map_left_iff,
      List.forall₂_map_right_iff]
    exact h.locators.imp fun l l' hsame ↦ ((stripPort_eq_iff _ _).mpr hsame).symm
  simp only [strip, pairState, h.transport, h.confidence, h.warnings, h.transports, hlocators,
    (stripPort_eq_iff _ _).mpr h.locator]

/-- States that differ in ports only compare alike with any other. -/
theorem sameIgnoringPorts_of_strip {a b : PairState} (h : strip b = strip a) :
    sameIgnoringPorts a b = true ∧
      ∀ state, sameIgnoringPorts a state = sameIgnoringPorts b state :=
  ⟨decide_eq_true h.symm, fun state ↦ by rw [sameIgnoringPorts, sameIgnoringPorts, h]⟩

end States

section Identities

variable {rename : String → String} {t t' : TopicSummary}

theorem TopicRestarted.nodeGuids_eq (h : TopicRestarted rename t t') (node : String) :
    nodeGuids t' node = (nodeGuids t node).map rename := by
  have hforall : List.Forall₂ (fun e e' : EndpointPtr ↦
      EndpointRestarted rename e.toEndpoint e'.toEndpoint) (t.writers ++ t.readers)
      (t'.writers ++ t'.readers) := List.rel_append h.writers h.readers
  unfold nodeGuids
  revert hforall
  generalize t.writers ++ t.readers = endpoints
  generalize t'.writers ++ t'.readers = endpoints'
  intro hforall
  induction hforall with
  | nil => rfl
  | @cons e e' rest rest' hhead _ ih =>
    rw [List.filter_cons, List.filter_cons, hhead.nodeName]
    split_ifs
    · rw [List.map_cons, List.map_cons, List.map_cons, ih, hhead.guid]
    · exact ih

/-- An endpoint keeps its identity. -/
theorem TopicRestarted.identity_eq (h : TopicRestarted rename t t') {e e' : EndpointPtr}
    (hendpoint : EndpointRestarted rename e.toEndpoint e'.toEndpoint) (hnamed : e.nodeName ≠ "")
    (hdistinct : ∀ a ∈ t.writers ++ t.readers, rename a.guid = rename e.guid → a.guid = e.guid)
    (hordered : ∀ a ∈ t.writers ++ t.readers, ∀ b ∈ t.writers ++ t.readers,
      a.nodeName = b.nodeName → a.guid < b.guid → rename a.guid < rename b.guid) :
    identity t' e'.toEndpoint = identity t e.toEndpoint := by
  have hguids {g : String} (hg : g ∈ nodeGuids t e.nodeName) :
      ∃ a ∈ t.writers ++ t.readers, a.nodeName = e.nodeName ∧ a.guid = g := by
    obtain ⟨a, ha, rfl⟩ := List.mem_map.mp hg
    obtain ⟨hmem, hnode⟩ := List.mem_filter.mp ha
    exact ⟨a, hmem, of_decide_eq_true hnode, rfl⟩
  rw [identity_of_named t _ hnamed, identity_of_named t' _ (hendpoint.nodeName ▸ hnamed),
    hendpoint.nodeName, hendpoint.guid, h.nodeGuids_eq, Ranking.place_map]
  · intro b hb c hc hlt
    obtain ⟨x, hx, hxnode, rfl⟩ := hguids hb
    obtain ⟨y, hy, hynode, rfl⟩ := hguids hc
    exact hordered x hx y hy (hxnode.trans hynode.symm) hlt
  · intro b hb heq
    obtain ⟨x, hx, -, rfl⟩ := hguids hb
    exact hdistinct x hx heq

end Identities

section Restarted

variable {rename : String → String} {s s' : Snapshot}

theorem mem_endpointsOf_pair {t : TopicSummary} {p : Pair} (hp : p ∈ t.pairs) :
    p.writer ∈ endpointsOf t ∧ p.reader ∈ endpointsOf t := by
  constructor <;>
  · refine List.mem_append_right _ (List.mem_flatMap.mpr ⟨p, hp, ?_⟩)
    simp

/-- Pair by pair the restarted snapshot has the identity of before, and a state like it. -/
theorem Restarted.forall₂_nodePairs (h : Restarted rename s s') (hnamed : AllNamed s) :
    List.Forall₂ (fun e e' ↦ e.1 = e'.1 ∧ strip e'.2.2 = strip e.2.2) (nodePairs s)
      (nodePairs s') := by
  have htopics : List.Forall₂ (fun t t' ↦ t ∈ s.topics ∧ TopicRestarted rename t t') s.topics
      s'.topics := (List.forall₂_and_left _ _).mpr ⟨fun _ ht ↦ ht, h.topics⟩
  refine List.rel_flatMap htopics fun t t' ⟨ht, hrestarted⟩ ↦ ?_
  rw [List.forall₂_map_left_iff, List.forall₂_map_right_iff]
  have hpairs : List.Forall₂ (fun p p' ↦ p ∈ t.pairs ∧ PairRestarted rename p p') t.pairs
      t'.pairs := (List.forall₂_and_left _ _).mpr ⟨fun _ hp ↦ hp, hrestarted.pairs⟩
  refine hpairs.imp fun p p' ⟨hp, hpair⟩ ↦ ⟨?_, strip_pairState hpair⟩
  have hmem {e : EndpointPtr} (he : e ∈ endpointsOf t) : e ∈ s.topics.flatMap endpointsOf :=
    List.mem_flatMap.mpr ⟨t, ht, he⟩
  have hidentity {e e' : EndpointPtr} (he : e ∈ endpointsOf t)
      (hendpoint : EndpointRestarted rename e.toEndpoint e'.toEndpoint) :
      identity t' e'.toEndpoint = identity t e.toEndpoint :=
    hrestarted.identity_eq hendpoint (hnamed e (hmem he))
      (fun a ha ↦ h.distinct a (hmem (List.mem_append_left _ ha)) e (hmem he)) (h.ordered t ht)
  obtain ⟨hwriter, hreader⟩ := mem_endpointsOf_pair hp
  simp only [nodeIdent, hrestarted.displayTopic, hidentity hwriter hpair.writer,
    hidentity hreader hpair.reader]

theorem Restarted.alike (h : Restarted rename s s') (hnamed : AllNamed s) :
    KeyedDiff.Alike (fun a b : PairKey × PairState ↦ sameIgnoringPorts a.2 b.2)
      (nodeKeyed s).entries (nodeKeyed s').entries := by
  have hentries := OrderedMap.forall₂_entries_ofList
    (fun _ (a b : PairKey × PairState) ↦ strip b.2 = strip a.2) (h.forall₂_nodePairs hnamed)
  refine hentries.imp fun e e' ⟨hkey, hstrip⟩ ↦ ?_
  obtain ⟨hsame, halike⟩ := sameIgnoringPorts_of_strip hstrip
  exact ⟨hkey, hsame, fun value ↦ halike value.2⟩

/-- The node-keyed comparison does not see a restart: not against the snapshot before it, and not
against any other. -/
theorem diffSnapshots_restarted (h : Restarted rename s s') (hnamed : AllNamed s) :
    diffSnapshots s s' .node = { key := .node } ∧
      ∀ u, (nodeDiff s' u).SameKeys (nodeDiff s u) := by
  have halike := h.alike hnamed
  obtain ⟨hadded, hremoved, hchanged⟩ :=
    KeyedDiff.diff_alike halike (nodeKeyed s).nodup_keys (nodeKeyed s').nodup_keys
  refine ⟨?_, fun u ↦ KeyedDiff.sameKeys_diff_alike halike⟩
  simp only [diffSnapshots, report, nodeDiff, hadded, hremoved, hchanged, List.map_nil]

end Restarted

section Chatter

/-- A node with two writers and a node with one reader, over UDP. -/
def chatterSnapshot (rename : String → String) (port : ℕ) : Snapshot :=
  let endpoint (isWriter : Bool) (guid node : String) (address : ℕ) : EndpointPtr :=
    { isWriter := isWriter, guid := rename guid, nodeName := node, address := address }
  let first := endpoint true "01.0f|0.0.12.3" "/talker" 0
  let second := endpoint true "01.0f|0.0.13.3" "/talker" 1
  let reader := endpoint false "01.0e|0.0.14.4" "/listener" 2
  let locator : Locator := { kind := .udpv4, address := "10.0.0.1", port := port }
  let pair (writer : EndpointPtr) : Pair :=
    { writer := writer
      reader := reader
      verdict := { transport := .udpv4, locator := locator }
      measured := { transports := [.udpv4], locators := [{ locator := locator }] } }
  { topics := [{
      displayTopic := "/chatter"
      writers := [first, second]
      readers := [reader]
      pairs := [pair first, pair second] }] }

theorem restarted_chatter : Restarted ("7" ++ ·) (chatterSnapshot id 7411)
    (chatterSnapshot ("7" ++ ·) 7413) := by
  refine ⟨.cons ⟨rfl, ?_, ?_, ?_⟩ .nil, fun a _ b _ heq ↦ ?_, by decide +kernel⟩
  · exact .cons ⟨rfl, rfl⟩ (.cons ⟨rfl, rfl⟩ .nil)
  · exact .cons ⟨rfl, rfl⟩ .nil
  · have hlocator : SameButPort ⟨.udpv4, "10.0.0.1", 7411⟩ ⟨.udpv4, "10.0.0.1", 7413⟩ := ⟨rfl, rfl⟩
    exact .cons ⟨⟨rfl, rfl⟩, ⟨rfl, rfl⟩, rfl, rfl, rfl, hlocator, rfl, .cons hlocator .nil⟩
      (.cons ⟨⟨rfl, rfl⟩, ⟨rfl, rfl⟩, rfl, rfl, rfl, hlocator, rfl, .cons hlocator .nil⟩ .nil)
  · exact String.append_right_inj _ |>.mp heq

theorem diffSnapshots_restarted_chatter :
    diffSnapshots (chatterSnapshot id 7411) (chatterSnapshot ("7" ++ ·) 7413) .node =
        { key := .node } ∧
      ∀ u, (nodeDiff (chatterSnapshot ("7" ++ ·) 7413) u).SameKeys
        (nodeDiff (chatterSnapshot id 7411) u) :=
  diffSnapshots_restarted restarted_chatter (by unfold AllNamed; decide +kernel)

end Chatter

end TransportViz.Diff
