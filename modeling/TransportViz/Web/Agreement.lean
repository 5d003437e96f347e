import TransportViz.Web.Reading

/-!
# One comparison in two programs

The viewer's comparison of two documents is the comparison of the snapshots they were rendered from.
Both walk the same keyed states in the same order: the viewer's sorted array is the map of the
snapshots, entry by entry, and its keys are told apart by their texts as the map's are by their parts.
-/

namespace TransportViz.Web

open Script

/-- An ASCII name without a bar. -/
def Plain (s : String) : Prop := ∀ c ∈ s.toList, c.toNat < 128 ∧ c ≠ '|'

theorem plain_iff_all (s : String) :
    Plain s ↔ (s.toList.all fun c ↦ c.toNat < 128 && c ≠ '|') = true := by
  simp only [Plain, List.all_eq_true, Bool.and_eq_true, decide_eq_true_eq]

structure PlainNames (t : TopicSummary) : Prop where
  topic : Plain t.displayTopic
  node : ∀ e ∈ t.writers ++ t.readers, Plain e.nodeName

/-- The identity of a pair under a key. -/
def pairIdent (key : KeyMode) (t : TopicSummary) (p : Pair) : Diff.Ident :=
  match key with
  | .guid => Diff.identOf (Diff.pairKey t p)
  | .node => Diff.nodeIdent t p

/-- All pairs under their identities, topic by topic. -/
def identified (key : KeyMode) (s : Snapshot) : List (Diff.Ident × PairKey × PairState) :=
  s.topics.flatMap fun t ↦ t.pairs.map fun p ↦ (pairIdent key t p, Diff.pairKey t p, Diff.pairState p)

/-- No two pairs share an identity. -/
def DistinctPairs (key : KeyMode) (s : Snapshot) : Prop :=
  ((identified key s).map Prod.fst).Nodup

/-! ## The comparison of snapshots -/

section Snapshots

def keyed (key : KeyMode) (s : Snapshot) : Diff.KeyedStates :=
  match key with
  | .guid => Diff.pairStates s
  | .node => Diff.nodeKeyed s

theorem keyed_eq_ofList {key : KeyMode} {s : Snapshot} (h : DistinctPairs key s) :
    keyed key s = .ofList (identified key s) := by
  cases key with
  | node => rfl
  | guid =>
    have hpairs : identified .guid s = (Diff.realPairs s).map fun e ↦ (Diff.identOf e.1, e) := by
      simp [identified, Diff.realPairs, List.map_flatMap, pairIdent, Function.comp_def]
    have hnodup : ((Diff.realPairs s).map fun e ↦ Diff.identOf e.1).Nodup := by
      have hdistinct := h
      rwa [DistinctPairs, hpairs, List.map_map] at hdistinct
    rw [keyed, Diff.pairStates, hpairs]
    exact OrderedMap.foldl_alter_eq_ofList (Diff.realPairs s) (fun e ↦ Diff.identOf e.1) _ hnodup

theorem entries_keyed {key : KeyMode} {s : Snapshot} (h : DistinctPairs key s) :
    (keyed key s).entries = (identified key s).insertionSort fun a b ↦ a.1 ≤ b.1 := by
  rw [keyed_eq_ofList h, OrderedMap.entries_ofList_eq_insertionSort _ h]

theorem diffSnapshots_eq (key : KeyMode) (before after : Snapshot) :
    Diff.diffSnapshots before after key =
      Diff.report key (KeyedDiff.diff
        (fun a b ↦ decide (seenState key a.2 = seenState key b.2))
        (keyed key before).entries (keyed key after).entries) := by
  have hguid (state : PairState) : seenState .guid state = state := by
    rw [seenState, show seenLocator .guid = id from rfl, List.map_id]
    rfl
  cases key with
  | guid =>
    simp only [hguid]
    rfl
  | node => rfl

end Snapshots

/-! ## The comparison of documents -/

section Documents

/-- The viewer's entry for a pair. -/
def encode (key : KeyMode) (e : Diff.Ident × PairKey × PairState) : KeyedPair where
  ident :=
    match key with
    | .guid => e.2.1
    | .node =>
      { topic := (ofLex e.1).1
        writerGuid := (ofLex (ofLex e.1).2).1
        readerGuid := (ofLex (ofLex e.1).2).2 }
  key := e.2.1
  state := stateObject e.2.2

variable {key : KeyMode} {s : Snapshot}

theorem mem_identified {e : Diff.Ident × PairKey × PairState} (he : e ∈ identified key s) :
    ∃ t ∈ s.topics, ∃ p ∈ t.pairs,
      e = (pairIdent key t p, Diff.pairKey t p, Diff.pairState p) := by
  obtain ⟨t, ht, hpair⟩ := List.mem_flatMap.mp he
  obtain ⟨p, hp, rfl⟩ := List.mem_map.mp hpair
  exact ⟨t, ht, p, hp, rfl⟩

theorem identOf_encode {e : Diff.Ident × PairKey × PairState} (he : e ∈ identified key s) :
    Diff.identOf (encode key e).ident = e.1 := by
  obtain ⟨t, -, p, -, rfl⟩ := mem_identified he
  cases key <;> rfl

/-- The text of an end is ordered as a text of characters, and read back. -/
def GoodEnd (text : String) : Prop := CodeUnits.Basic text ∧ EndText text.toList

theorem basic_of_plain {name : String} (h : Plain name) : CodeUnits.Basic name :=
  fun c hc ↦ (h c hc).1.trans (by decide)

theorem goodEnd_guid {e : Endpoint} (h : ∃ bytes, e.guid = guidToString bytes) :
    GoodEnd e.guid := by
  obtain ⟨bytes, hbytes⟩ := h
  rw [hbytes]
  exact ⟨basic_guidToString bytes,
    endText_guid [] List.not_mem_nil List.not_mem_nil bytes⟩

theorem goodEnd_identity {t : TopicSummary} {e : Endpoint}
    (hguid : ∃ bytes, e.guid = guidToString bytes) (hplain : Plain e.nodeName) :
    GoodEnd (Diff.identity t e) := by
  by_cases hnode : e.nodeName = ""
  · obtain ⟨bytes, hbytes⟩ := hguid
    rw [Diff.identity, if_pos hnode, hbytes, GoodEnd, String.toList_append]
    refine ⟨.append ?_ (basic_guidToString bytes), endText_guid _ (by decide) (by decide) bytes⟩
    exact (CodeUnits.basic_iff_all _).mpr (by decide)
  · rw [Diff.identity_of_named t e hnode]
    refine ⟨((basic_of_plain hplain).append ?_).append (basic_toString _),
      endText_numbered (fun hbar ↦ (hplain '|' hbar).2 rfl) _⟩
    exact (CodeUnits.basic_iff_all _).mpr (by decide)

/-- The identity of every pair is ordered and read back alike by both programs. -/
theorem goodKey_encode (hformed : ∀ t ∈ s.topics, WellFormed t)
    (hnames : ∀ t ∈ s.topics, PlainNames t) {e : Diff.Ident × PairKey × PairState}
    (he : e ∈ identified key s) :
    BasicKey (encode key e).ident ∧ ReadableKey (encode key e).ident := by
  obtain ⟨t, ht, p, hp, rfl⟩ := mem_identified he
  obtain ⟨hwriter, hreader⟩ := (hformed t ht).listed p hp
  have htopic := (hnames t ht).topic
  have hbar : '|' ∉ t.displayTopic.toList := fun h ↦ (htopic '|' h).2 rfl
  have hends {e : EndpointPtr} (h : e ∈ t.writers ++ t.readers) :
      GoodEnd e.guid ∧ GoodEnd (Diff.identity t e.toEndpoint) :=
    ⟨goodEnd_guid ((hformed t ht).guid e h),
      goodEnd_identity ((hformed t ht).guid e h) ((hnames t ht).node e h)⟩
  obtain ⟨hguid, hidentity⟩ := hends hwriter
  obtain ⟨hguid', hidentity'⟩ := hends hreader
  cases key with
  | guid => exact ⟨⟨basic_of_plain htopic, hguid.1, hguid'.1⟩, ⟨hbar, hguid.2, hguid'.2⟩⟩
  | node =>
    exact ⟨⟨basic_of_plain htopic, hidentity.1, hidentity'.1⟩, ⟨hbar, hidentity.2, hidentity'.2⟩⟩

section Read

variable (opt : RenderOptions) {t : TopicSummary}

theorem keyedPair_json (hformed : WellFormed t) {p : Pair} (hp : p ∈ t.pairs)
    {map : InsertionMap String (List String)}
    (hmap : key = .node → ∀ node, map.get? node = ((Diff.byNode t).find? node).map sortGuids) :
    keyedPair (topicJson s t opt) map key (pairJson s p opt) =
      some (encode key (pairIdent key t p, Diff.pairKey t p, Diff.pairState p)) := by
  have hbasic : ∀ e ∈ t.writers ++ t.readers, CodeUnits.Basic e.guid := fun e he ↦
    (goodEnd_guid (hformed.guid e he)).1
  obtain ⟨hwriter, hreader⟩ := hformed.listed p hp
  cases key with
  | guid => simp [keyedPair, pairKey_json, pairState_json, identOf, encode]
  | node =>
    have hident (e : EndpointPtr) (he : e ∈ t.writers ++ t.readers) :=
      identity_json (hmap rfl) hbasic he
    have hwriter' := hident p.writer hwriter
    have hreader' := hident p.reader hreader
    simp [keyedPair, pairKey_json, pairState_json, identOf, Diff.pairKey, hwriter', hreader',
      encode, pairIdent, Diff.nodeIdent]

theorem topicPairs_json (hformed : WellFormed t) :
    topicPairs key (topicJson s t opt) = some (t.pairs.map fun p ↦
      encode key (pairIdent key t p, Diff.pairKey t p, Diff.pairState p)) := by
  have hpairs : (topicJson s t opt).get "pairs" =
      some (.array (t.pairs.map fun p ↦ pairJson s p opt)) := by
    simp [topicJson, List.lookup_cons]
  have hread (map : InsertionMap String (List String))
      (hmap : key = .node → ∀ node, map.get? node = ((Diff.byNode t).find? node).map sortGuids) :
      (t.pairs.map fun p ↦ pairJson s p opt).mapM (keyedPair (topicJson s t opt) map key) =
        some (t.pairs.map fun p ↦
          encode key (pairIdent key t p, Diff.pairKey t p, Diff.pairState p)) := by
    rw [List.mapM_map]
    exact mapM_eq_some_map fun p hp ↦ keyedPair_json opt hformed hp hmap
  obtain ⟨map, hmap, hget⟩ := exists_byNode_json s t opt key
  simp only [topicPairs, hmap, hpairs, Option.bind_eq_bind, Option.bind_some,
    Value.spread_array, hread map hget]

/-- The viewer's sorted pairs are the entries of the map. -/
theorem keyedPairs_json (hformed : ∀ t ∈ s.topics, WellFormed t)
    (hnames : ∀ t ∈ s.topics, PlainNames t) (hdistinct : DistinctPairs key s) :
    keyedPairs (renderJson s opt) key = some ((keyed key s).entries.map (encode key)) := by
  have htopics : (renderJson s opt).get "topics" =
      some (.array (s.topics.map fun t ↦ topicJson s t opt)) := by
    simp [renderJson, List.lookup_cons]
  have hread : (s.topics.map fun t ↦ topicJson s t opt).mapM (topicPairs key) =
      some (s.topics.map fun t ↦ t.pairs.map fun p ↦
        encode key (pairIdent key t p, Diff.pairKey t p, Diff.pairState p)) := by
    rw [List.mapM_map]
    exact mapM_eq_some_map fun t ht ↦ topicPairs_json opt (hformed t ht)
  have hlist : (s.topics.map fun t ↦ t.pairs.map fun p ↦
      encode key (pairIdent key t p, Diff.pairKey t p, Diff.pairState p)).flatten =
        (identified key s).map (encode key) := by
    rw [identified, List.map_flatMap, List.flatMap_def]
    simp only [List.map_map]
    rfl
  have hsort := List.map_insertionSort (fun a b ↦ a.1 ≤ b.1)
    (fun a b : KeyedPair ↦ compareKeys a.ident b.ident ≠ .gt) (encode key) (identified key s)
    fun a ha b hb ↦ by
      rw [compareKeys_ne_gt_iff (goodKey_encode hformed hnames ha).1
        (goodKey_encode hformed hnames hb).1, identOf_encode ha, identOf_encode hb]
  simp only [keyedPairs, htopics, Option.bind_eq_bind, Option.bind_some, Value.spread_array, hread,
    hlist, Option.pure_def, entries_keyed hdistinct, hsort]

end Read

end Documents

/-! ## The two comparisons -/

section Comparisons

variable {key : KeyMode} {before after : Snapshot}

theorem mem_entries_keyed {s : Snapshot} (hdistinct : DistinctPairs key s)
    {e : Diff.Ident × PairKey × PairState} :
    e ∈ (keyed key s).entries ↔ e ∈ identified key s := by
  rw [entries_keyed hdistinct, List.mem_insertionSort]

/-- The text that stands for an identity in the viewer's maps. -/
def identText (ident : Diff.Ident) : String :=
  (ofLex ident).1 ++ "|" ++ (ofLex (ofLex ident).2).1 ++ "|" ++ (ofLex (ofLex ident).2).2

theorem keyId_eq (k : PairKey) : keyId k = identText (Diff.identOf k) := rfl

theorem entryOf_encode {s : Snapshot} {e : Diff.Ident × PairKey × PairState}
    (he : e ∈ identified key s) :
    entryOf (encode key e) = Prod.map identText (Prod.map id stateObject) e := by
  rw [entryOf, keyId_eq, identOf_encode he]
  rfl

/-- The texts tell identities apart, also across the two snapshots. -/
theorem identText_inj (hbefore : ∀ t ∈ before.topics, WellFormed t)
    (hafter : ∀ t ∈ after.topics, WellFormed t) (hnames : ∀ t ∈ before.topics, PlainNames t)
    (hnames' : ∀ t ∈ after.topics, PlainNames t)
    {e f : Diff.Ident × PairKey × PairState} (he : e ∈ identified key before)
    (hf : f ∈ identified key after) (h : identText e.1 = identText f.1) : e.1 = f.1 := by
  rw [← identOf_encode he, ← identOf_encode hf] at h ⊢
  exact keyId_inj (goodKey_encode hbefore hnames he).2 (goodKey_encode hafter hnames' hf).2 h

theorem map_entryOf {s : Snapshot} (hdistinct : DistinctPairs key s) :
    ((keyed key s).entries.map (encode key)).map entryOf =
      (keyed key s).entries.map (Prod.map identText (Prod.map id stateObject)) := by
  rw [List.map_map]
  exact List.map_congr_left fun e he ↦ entryOf_encode ((mem_entries_keyed hdistinct).mp he)

theorem selected_of_mem {s : Snapshot} (hformed : ∀ t ∈ s.topics, WellFormed t)
    {e : Diff.Ident × PairKey × PairState} (he : e ∈ identified key s) :
    Selected e.2.2.locator := by
  obtain ⟨t, ht, p, hp, rfl⟩ := mem_identified he
  exact (hformed t ht).selected p hp

/-- What the viewer reports of the written states is the written report. -/
theorem reportObject_map (d : KeyedDiff Diff.Ident (PairKey × PairState)) :
    reportObject key (.string before.observedAt, .number before.domain)
        (d.map identText (Prod.map id stateObject)) =
      changesObject before (Diff.report key d) := by
  simp only [reportObject, changesObject, KeyedDiff.map, Diff.report, List.map_map]
  rfl

/-- The viewer's comparison of two rendered documents is the comparison of the two snapshots. -/
theorem diffDocuments_renderJson (key : KeyMode) (opt opt' : RenderOptions)
    (hbefore : ∀ t ∈ before.topics, WellFormed t) (hafter : ∀ t ∈ after.topics, WellFormed t)
    (hnames : ∀ t ∈ before.topics, PlainNames t) (hnames' : ∀ t ∈ after.topics, PlainNames t)
    (hdistinct : DistinctPairs key before) (hdistinct' : DistinctPairs key after) :
    diffDocuments (renderJson before opt) (renderJson after opt') key =
      some (changesObject before (Diff.diffSnapshots before after key)) := by
  have hnodup : (((keyed key before).entries.map (encode key)).map fun e ↦ keyId e.ident).Nodup := by
    have htexts : (((keyed key before).entries.map (encode key)).map fun e ↦ keyId e.ident) =
        (keyed key before).keys.map identText := by
      rw [OrderedMap.keys, List.map_map, List.map_map]
      exact List.map_congr_left fun e he ↦ by
        rw [Function.comp_apply, keyId_eq, identOf_encode ((mem_entries_keyed hdistinct).mp he)]
        rfl
    rw [htexts]
    refine (keyed key before).nodup_keys.map_on fun a ha b hb heq ↦ ?_
    obtain ⟨e, he, rfl⟩ := List.mem_map.mp ha
    obtain ⟨f, hf, rfl⟩ := List.mem_map.mp hb
    exact identText_inj hbefore hbefore hnames hnames ((mem_entries_keyed hdistinct).mp he)
      ((mem_entries_keyed hdistinct).mp hf) heq
  have hobserved : (renderJson before opt).get "observed_at" = some (.string before.observedAt) := by
    simp [renderJson, List.lookup_cons]
  have hdomain : (renderJson before opt).get "domain" = some (.number before.domain) := by
    simp [renderJson, List.lookup_cons]
  rw [diffDocuments_eq (keyedPairs_json opt hbefore hnames hdistinct)
    (keyedPairs_json opt' hafter hnames' hdistinct') hobserved hdomain hnodup,
    map_entryOf hdistinct, map_entryOf hdistinct',
    KeyedDiff.diff_map identText (Prod.map id stateObject)
      (fun a b ↦ decide (seenState key a.2 = seenState key b.2)),
    reportObject_map, diffSnapshots_eq]
  · intro e he f hf heq
    exact identText_inj hbefore hafter hnames hnames' ((mem_entries_keyed hdistinct).mp he)
      ((mem_entries_keyed hdistinct').mp hf) heq
  · intro e he f hf
    rw [Bool.eq_iff_iff, decide_eq_true_eq]
    exact sameState_stateObject key
      (selected_of_mem hbefore ((mem_entries_keyed hdistinct).mp he))
      (selected_of_mem hafter ((mem_entries_keyed hdistinct').mp hf))

end Comparisons

section Viewed

def viewedEndpoint (isWriter : Bool) (last : UInt8) (node : String) (address : ℕ) : EndpointPtr :=
  let bytes : GuidBytes := ⟨[1, 15, 0, 0, 0, 0, 0, 0, 0, 0, 0, 0, 0, 0, last, 3], rfl⟩
  { isWriter := isWriter
    guidBytes := bytes
    guid := guidToString bytes
    nodeName := node
    address := address }

/-- A talker and its readers, all with one verdict. -/
def viewedSnapshot (transport : Transport) (locator : Locator) (readers : List EndpointPtr) :
    Snapshot :=
  let talker := viewedEndpoint true 2 "/talker" 0
  { topics := [{
      displayTopic := "/chatter"
      writers := [talker]
      readers := readers
      pairs := readers.map fun reader ↦
        { writer := talker
          reader := reader
          verdict := { transport := transport, locator := locator } } }] }

def viewedBefore : Snapshot :=
  viewedSnapshot .dataSharing {} [viewedEndpoint false 7 "/listener" 1]

/-- The listener has another GUID and no longer shares data, and a reader without a node came. -/
def viewedAfter : Snapshot :=
  viewedSnapshot .udpv4 ⟨.udpv4, "10.0.0.1", 7411⟩
    [viewedEndpoint false 9 "/listener" 1, viewedEndpoint false 4 "" 2]

theorem wellFormed_viewed (s : Snapshot) (hs : s = viewedBefore ∨ s = viewedAfter) :
    ∀ t ∈ s.topics, WellFormed t := by
  have hguid (e : EndpointPtr) (h : e.guid = guidToString e.guidBytes) :
      ∃ bytes, e.guid = guidToString bytes := ⟨_, h⟩
  rcases hs with rfl | rfl <;>
  · intro t ht
    obtain rfl := List.mem_singleton.mp ht
    refine ⟨fun e he ↦ hguid e ?_, by decide +kernel, by unfold Selected; decide +kernel⟩
    revert e
    decide +kernel

theorem plainNames_viewed (s : Snapshot) (hs : s = viewedBefore ∨ s = viewedAfter) :
    ∀ t ∈ s.topics, PlainNames t := by
  rcases hs with rfl | rfl <;>
  · intro t ht
    obtain rfl := List.mem_singleton.mp ht
    refine ⟨?_, ?_⟩ <;>
    · simp only [plain_iff_all]
      decide +kernel

theorem diffDocuments_viewed :
    diffDocuments (renderJson viewedBefore {}) (renderJson viewedAfter {}) .node =
      some (changesObject viewedBefore (Diff.diffSnapshots viewedBefore viewedAfter .node)) :=
  diffDocuments_renderJson .node {} {} (wellFormed_viewed _ (.inl rfl))
    (wellFormed_viewed _ (.inr rfl)) (plainNames_viewed _ (.inl rfl))
    (plainNames_viewed _ (.inr rfl)) (by unfold DistinctPairs; decide +kernel)
    (by unfold DistinctPairs; decide +kernel)

end Viewed

end TransportViz.Web
