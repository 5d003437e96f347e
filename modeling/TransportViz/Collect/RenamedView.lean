import TransportViz.Collect.ViewFilters
import TransportViz.Json.Produced

/-!
# Filtering what was saved

The topics of a document that was read have endpoints of their own. The view filters and the comparisons
ask for names, GUIDs and which endpoints are the same; so filtering a document that was read leaves what
is compared of the filtered snapshot it was made of.
-/

namespace TransportViz.Collect

open Decision Diff Json

/-! ## Specification -/

/-- The ends of a topic. -/
def ends (t : TopicSummary) : List EndpointPtr := t.writers ++ t.readers

/-- What the filters and comparisons ask of the topic is the same of the other endpoints and pairs. -/
structure Renaming (endpoint : EndpointPtr → EndpointPtr) (pair : Pair → Pair) (t : TopicSummary) :
    Prop where
  injective : ∀ e ∈ ends t, ∀ f ∈ ends t, endpoint e = endpoint f → e = f
  name : ∀ e ∈ ends t, nameAndGuid (endpoint e) = nameAndGuid e
  parent : ∀ e ∈ ends t, (endpoint e).bufferParentGuid = e.bufferParentGuid
  writer : ∀ p ∈ t.pairs, p.writer ∈ ends t ∧ (pair p).writer = endpoint p.writer
  reader : ∀ p ∈ t.pairs, p.reader ∈ ends t ∧ (pair p).reader = endpoint p.reader
  state : ∀ p ∈ t.pairs, pairState (pair p) = pairState p

/-- The topic with these. -/
structure Renamed (endpoint : EndpointPtr → EndpointPtr) (pair : Pair → Pair) (t u : TopicSummary) :
    Prop extends Renaming endpoint pair t where
  ddsTopic_eq : u.ddsTopic = t.ddsTopic
  displayTopic_eq : u.displayTopic = t.displayTopic
  isRosTopic_eq : u.isRosTopic = t.isRosTopic
  writers_eq : u.writers = t.writers.map endpoint
  readers_eq : u.readers = t.readers.map endpoint
  pairs_eq : u.pairs = t.pairs.map pair

section Renamed

variable {endpoint : EndpointPtr → EndpointPtr} {pair : Pair → Pair} {t u : TopicSummary}

theorem mem_ends_iff {e : EndpointPtr} : e ∈ ends t ↔ e ∈ t.writers ∨ e ∈ t.readers := List.mem_append

theorem Renamed.ends_eq (h : Renamed endpoint pair t u) : ends u = (ends t).map endpoint := by
  rw [ends, h.writers_eq, h.readers_eq, ends, List.map_append]

/-- A part of the topic that has the ends of its pairs. -/
theorem Renaming.mono (h : Renaming endpoint pair t) {part : TopicSummary}
    (hends : ∀ e ∈ ends part, e ∈ ends t) (hpairs : ∀ p ∈ part.pairs, p ∈ t.pairs)
    (hmem : ∀ p ∈ part.pairs, p.writer ∈ ends part ∧ p.reader ∈ ends part) :
    Renaming endpoint pair part where
  injective e he f hf := h.injective e (hends e he) f (hends f hf)
  name e he := h.name e (hends e he)
  parent e he := h.parent e (hends e he)
  writer p hp := ⟨(hmem p hp).1, (h.writer p (hpairs p hp)).2⟩
  reader p hp := ⟨(hmem p hp).2, (h.reader p (hpairs p hp)).2⟩
  state p hp := h.state p (hpairs p hp)

/-! ## The node filter -/

section NodeFilter

variable {nodeMatches : Endpoint → Bool} (h : Renamed endpoint pair t u)
  (hmatches : ∀ e ∈ ends t, nodeMatches (endpoint e).toEndpoint = nodeMatches e.toEndpoint)
include h hmatches

/-- Of the other endpoints, those of the matching ones match. -/
theorem Renamed.mem_matchingEndpoints_iff {e : EndpointPtr} (he : e ∈ ends t) :
    endpoint e ∈ matchingEndpoints nodeMatches u ↔ e ∈ matchingEndpoints nodeMatches t := by
  rw [mem_matchingEndpoints, mem_matchingEndpoints, ← mem_ends_iff, ← mem_ends_iff, h.ends_eq,
    hmatches e he]
  exact and_congr_left fun _ ↦ iff_of_true (List.mem_map_of_mem he) he

theorem Renamed.keptPairs_eq : keptPairs nodeMatches u = (keptPairs nodeMatches t).map pair := by
  rw [keptPairs, h.pairs_eq, List.filter_map, keptPairs]
  refine congrArg (List.map pair) (List.filter_congr fun p hp ↦ ?_)
  obtain ⟨hwriter, hw⟩ := h.writer p hp
  obtain ⟨hreader, hr⟩ := h.reader p hp
  rw [Function.comp_apply, hw, hr, Bool.eq_iff_iff, decide_eq_true_iff, decide_eq_true_iff,
    h.mem_matchingEndpoints_iff hmatches hwriter, h.mem_matchingEndpoints_iff hmatches hreader]

theorem Renamed.mem_keptEndpoints_iff {e : EndpointPtr} (he : e ∈ ends t) :
    endpoint e ∈ Decision.keptEndpoints nodeMatches u ↔ e ∈ Decision.keptEndpoints nodeMatches t := by
  rw [mem_keptEndpoints, mem_keptEndpoints, h.mem_matchingEndpoints_iff hmatches he,
    h.keptPairs_eq hmatches]
  refine or_congr_right ?_
  simp only [List.mem_map, exists_exists_and_eq_and]
  refine exists_congr fun p ↦ and_congr_right fun hp ↦ ?_
  have hmem : p ∈ t.pairs := List.mem_of_mem_filter hp
  obtain ⟨hwriter, hw⟩ := h.writer p hmem
  obtain ⟨hreader, hr⟩ := h.reader p hmem
  rw [hw, hr]
  exact or_congr ⟨h.injective e he _ hwriter, congrArg endpoint⟩
    ⟨h.injective e he _ hreader, congrArg endpoint⟩

theorem Renamed.filter_kept {side : List EndpointPtr} (hside : ∀ e ∈ side, e ∈ ends t) :
    (side.map endpoint).filter (· ∈ Decision.keptEndpoints nodeMatches u) =
      (side.filter (· ∈ Decision.keptEndpoints nodeMatches t)).map endpoint := by
  rw [List.filter_map]
  refine congrArg (List.map endpoint) (List.filter_congr fun e he ↦ ?_)
  rw [Function.comp_apply, Bool.eq_iff_iff, decide_eq_true_iff, decide_eq_true_iff,
    h.mem_keptEndpoints_iff hmatches (hside e he)]

theorem Renamed.remains_iff : Remains nodeMatches u ↔ Remains nodeMatches t := by
  have hends : u.writers ++ u.readers = (t.writers ++ t.readers).map endpoint := h.ends_eq
  rw [Remains, Remains, hends]
  simp only [List.mem_map, exists_exists_and_eq_and]
  exact exists_congr fun e ↦ and_congr_right fun he ↦ by rw [hmatches e he]

/-- The filter leaves the same part. -/
theorem Renamed.filterTopic :
    Option.Rel (Renamed endpoint pair) (filterTopic nodeMatches t) (filterTopic nodeMatches u) := by
  by_cases hremains : Remains nodeMatches t
  · have hkept {v : TopicSummary} (hv : Remains nodeMatches v) :
        Decision.keptEndpoints nodeMatches v ≠ ∅ :=
      fun hempty ↦ (keptEndpoints_eq_empty_iff nodeMatches v).mp hempty hv
    unfold Decision.filterTopic
    rw [if_neg (hkept hremains), if_neg (hkept ((h.remains_iff hmatches).mpr hremains))]
    refine .some ⟨h.mono (fun e he ↦ ?_) (fun p hp ↦ List.mem_of_mem_filter hp) fun p hp ↦ ?_,
      h.ddsTopic_eq, h.displayTopic_eq, h.isRosTopic_eq, ?_, ?_, h.keptPairs_eq hmatches⟩
    · rw [ends, ← List.filter_append] at he
      exact List.mem_of_mem_filter he
    · obtain ⟨hw, hr⟩ := mem_keptEndpoints_of_pair hp
      have hmem := List.mem_of_mem_filter hp
      rw [ends, ← List.filter_append]
      exact ⟨List.mem_filter.mpr ⟨(h.writer p hmem).1, decide_eq_true hw⟩,
        List.mem_filter.mpr ⟨(h.reader p hmem).1, decide_eq_true hr⟩⟩
    · simp only [h.writers_eq]
      exact h.filter_kept hmatches fun e he ↦ mem_ends_iff.mpr (.inl he)
    · simp only [h.readers_eq]
      exact h.filter_kept hmatches fun e he ↦ mem_ends_iff.mpr (.inr he)
  · rw [filterTopic_of_not_remains hremains,
      filterTopic_of_not_remains fun hnot ↦ hremains ((h.remains_iff hmatches).mp hnot)]
    exact .none

end NodeFilter

/-! ## All view filters -/

theorem Renamed.all_parents (h : Renamed endpoint pair t u) {side : List EndpointPtr}
    (hside : ∀ e ∈ side, e ∈ ends t) :
    (side.map endpoint).all (fun e ↦ e.bufferParentGuid ≠ "") =
      side.all fun e ↦ e.bufferParentGuid ≠ "" := by
  rw [List.all_map, Bool.eq_iff_iff, List.all_eq_true, List.all_eq_true]
  exact forall₂_congr fun e he ↦ by rw [Function.comp_apply, h.parent e (hside e he)]

theorem Renamed.inDefaultView_eq (h : Renamed endpoint pair t u) :
    inDefaultView u = inDefaultView t := by
  rw [inDefaultView, inDefaultView, h.isRosTopic_eq, h.ddsTopic_eq, h.writers_eq, h.readers_eq,
    h.all_parents fun e he ↦ mem_ends_iff.mpr (.inl he),
    h.all_parents fun e he ↦ mem_ends_iff.mpr (.inr he)]
  simp only [List.map_eq_nil_iff]

variable {topics others : List TopicSummary}

theorem forall₂_applyNodeFilter (h : List.Forall₂ (Renamed endpoint pair) topics others)
    (o : ViewOptions) :
    List.Forall₂ (Renamed endpoint pair) (applyNodeFilter topics o) (applyNodeFilter others o) := by
  unfold applyNodeFilter
  cases o.nodeMatches with
  | none => exact h
  | some re =>
    refine List.rel_filterMap (fun t u hrenamed ↦ hrenamed.filterTopic fun e he ↦ ?_) h
    have hname : (endpoint e).nodeName = e.nodeName := congrArg Prod.fst (hrenamed.name e he)
    rw [hname]

theorem forall₂_applyViewFilters (h : List.Forall₂ (Renamed endpoint pair) topics others)
    (o : ViewOptions) :
    List.Forall₂ (Renamed endpoint pair) (applyViewFilters topics o) (applyViewFilters others o) := by
  refine forall₂_applyNodeFilter ?_ o
  induction h with
  | nil => exact .nil
  | @cons t u _ _ hrenamed _ ih =>
    rw [List.filter_cons, List.filter_cons, hrenamed.inDefaultView_eq, hrenamed.displayTopic_eq]
    split_ifs
    · exact .cons hrenamed ih
    · exact ih

/-! ## What is compared -/

theorem Renamed.pairKey_eq (h : Renamed endpoint pair t u) {p : Pair} (hp : p ∈ t.pairs) :
    pairKey u (pair p) = pairKey t p := by
  obtain ⟨hwriter, hw⟩ := h.writer p hp
  obtain ⟨hreader, hr⟩ := h.reader p hp
  obtain ⟨hwnode, hwguid⟩ := Prod.mk.inj (h.name _ hwriter)
  obtain ⟨hrnode, hrguid⟩ := Prod.mk.inj (h.name _ hreader)
  simp only [pairKey, hw, hr, hwnode, hwguid, hrnode, hrguid, h.displayTopic_eq]

theorem Renamed.nodeIdent_eq (h : Renamed endpoint pair t u) {p : Pair} (hp : p ∈ t.pairs) :
    nodeIdent u (pair p) = nodeIdent t p := by
  have hnames : (u.writers ++ u.readers).map nameAndGuid = (t.writers ++ t.readers).map nameAndGuid := by
    have hends : u.writers ++ u.readers = (t.writers ++ t.readers).map endpoint := h.ends_eq
    rw [hends, List.map_map]
    exact List.map_congr_left h.name
  obtain ⟨hwriter, hw⟩ := h.writer p hp
  obtain ⟨hreader, hr⟩ := h.reader p hp
  rw [nodeIdent, nodeIdent, hw, hr, h.displayTopic_eq, identity_congr hnames (h.name _ hwriter),
    identity_congr hnames (h.name _ hreader)]

theorem realPairs_renamed {s s' : Snapshot}
    (h : List.Forall₂ (Renamed endpoint pair) s.topics s'.topics) :
    realPairs s' = realPairs s := by
  unfold realPairs
  generalize s.topics = topics at h ⊢
  generalize s'.topics = others at h ⊢
  induction h with
  | nil => rfl
  | cons hrenamed _ ih =>
    rw [List.flatMap_cons, List.flatMap_cons, ih, hrenamed.pairs_eq, List.map_map]
    congr 1
    exact List.map_congr_left fun p hp ↦ Prod.ext (hrenamed.pairKey_eq hp) (hrenamed.state p hp)

theorem nodePairs_renamed {s s' : Snapshot}
    (h : List.Forall₂ (Renamed endpoint pair) s.topics s'.topics) :
    nodePairs s' = nodePairs s := by
  unfold nodePairs
  generalize s.topics = topics at h ⊢
  generalize s'.topics = others at h ⊢
  induction h with
  | nil => rfl
  | cons hrenamed _ ih =>
    rw [List.flatMap_cons, List.flatMap_cons, ih, hrenamed.pairs_eq, List.map_map]
    congr 1
    exact List.map_congr_left fun p hp ↦ Prod.ext (hrenamed.nodeIdent_eq hp)
      (Prod.ext (hrenamed.pairKey_eq hp) (hrenamed.state p hp))

theorem names_renamed (h : List.Forall₂ (Renamed endpoint pair) topics others) :
    others.map TopicSummary.displayTopic = topics.map TopicSummary.displayTopic := by
  induction h with
  | nil => rfl
  | cons hrenamed _ ih => rw [List.map_cons, List.map_cons, ih, hrenamed.displayTopic_eq]

/-- Comparisons by either key see the same. -/
theorem diffSnapshots_renamed {before after before' after' : Snapshot}
    {endpoint' : EndpointPtr → EndpointPtr} {pair' : Pair → Pair}
    (hbefore : List.Forall₂ (Renamed endpoint pair) before.topics before'.topics)
    (hafter : List.Forall₂ (Renamed endpoint' pair') after.topics after'.topics) (mode : KeyMode) :
    diffSnapshots before' after' mode = diffSnapshots before after mode := by
  cases mode with
  | guid =>
    rw [diffSnapshots, diffSnapshots, pairStates, pairStates, realPairs_renamed hbefore,
      realPairs_renamed hafter]
    rfl
  | node =>
    rw [diffSnapshots, diffSnapshots, nodeDiff, nodeDiff, nodeKeyed, nodeKeyed,
      nodePairs_renamed hbefore, nodePairs_renamed hafter]
    rfl

end Renamed

/-! ## Topics that were saved -/

section Saved

variable {s : Snapshot}

/-- The endpoints of a document that was read. -/
def readEndpoint (s : Snapshot) (e : EndpointPtr) : EndpointPtr :=
  savedPointer (savedEndpoints s.topics) e.toEndpoint

def readPair (s : Snapshot) (p : Pair) : Pair :=
  savedPair s.observationSeconds (savedEndpoints s.topics) p

theorem nodup_guid_ends (h : Lossless s.topics) {t : TopicSummary} (ht : t ∈ s.topics) :
    ((ends t).map fun e ↦ e.guid).Nodup :=
  (List.nodup_flatMap.mp h.distinct).1 t ht

theorem readEndpoint_eq (h : Lossless s.topics) {t : TopicSummary} (ht : t ∈ s.topics) {e : EndpointPtr}
    (he : e ∈ ends t) :
    nameAndGuid (readEndpoint s e) = nameAndGuid e ∧
      (readEndpoint s e).bufferParentGuid = e.bufferParentGuid := by
  have hlisted : ∃ isWriter, savedEndpoint isWriter e.toEndpoint ∈ listed s.topics :=
    (mem_ends_iff.mp he).elim (fun hw ↦ ⟨true, mem_listed_writer ht hw⟩)
      fun hr ↦ ⟨false, mem_listed_reader ht hr⟩
  obtain ⟨isWriter, hmem⟩ := hlisted
  have hdistinct := h.savable.distinct
  obtain ⟨pointer, hpointer, hsame⟩ := exists_endpointOf hdistinct hmem
  have hread : readEndpoint s e = pointer := by
    change endpointOf (savedEndpoints s.topics) e.guid = some pointer at hpointer
    rw [readEndpoint, savedPointer, hpointer, Option.getD_some]
  refine ⟨nameAndGuid_savedPointer hdistinct hmem ((h.kept t ht).node e he), ?_⟩
  rw [hread]
  exact congrArg (fun e ↦ e.bufferParentGuid) hsame

theorem renamed_saved (h : Lossless s.topics) {t : TopicSummary} (ht : t ∈ s.topics) :
    Renamed (readEndpoint s) (readPair s) t
      (savedTopic s.observationSeconds (savedEndpoints s.topics) t) where
  injective e he f hf hsame := by
    have hguid (e : EndpointPtr) (he : e ∈ ends t) : (readEndpoint s e).guid = e.guid :=
      congrArg Prod.snd (readEndpoint_eq h ht he).1
    refine List.inj_on_of_nodup_map (nodup_guid_ends h ht) he hf ?_
    rw [← hguid e he, ← hguid f hf, hsame]
  name e he := (readEndpoint_eq h ht he).1
  parent e he := (readEndpoint_eq h ht he).2
  writer p hp := ⟨List.mem_append_left _ ((h.kept t ht).writer p hp), rfl⟩
  reader p hp := ⟨List.mem_append_right _ ((h.kept t ht).reader p hp), rfl⟩
  state p hp := pairState_savedPair (h.kept t ht) hp _ _
  ddsTopic_eq := rfl
  displayTopic_eq := rfl
  isRosTopic_eq := rfl
  writers_eq := rfl
  readers_eq := rfl
  pairs_eq := rfl

theorem forall₂_renamed_saved (h : Lossless s.topics) :
    List.Forall₂ (Renamed (readEndpoint s) (readPair s)) s.topics (saved s).topics := by
  rw [saved, List.forall₂_map_right_iff, List.forall₂_same]
  exact fun t ht ↦ renamed_saved h ht

end Saved

end TransportViz.Collect
