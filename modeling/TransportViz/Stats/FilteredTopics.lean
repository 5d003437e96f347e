import TransportViz.Decision.Partition
import TransportViz.Stats.FilterOrder

/-!
# What the node filter keeps

A topic remains when one of its endpoints matches. Its pairs are those with a matching end, its
endpoints the matching ones and the partners of these pairs. Since every writer was paired with every
reader, a side that is emptied by the filter was empty before.
-/

namespace TransportViz.Stats

open Decision

/-- Every writer is paired with every reader, and what is missing is written down. -/
structure CrossPaired (t : TopicSummary) : Prop where
  ends_eq : t.pairs.map (fun p ↦ (p.writer, p.reader)) = t.writers.product t.readers
  sides : ∀ w ∈ t.writers, ∀ r ∈ t.readers, w ≠ r
  reasons_eq : t.unmatchedReasons = unmatchedReasons t.writers t.readers t.pairs

/-- What the filter makes of a topic that remains. -/
structure FilteredAs (nodeMatches : Endpoint → Bool) (t u : TopicSummary) : Prop where
  pairs_eq : u.pairs = t.pairs.filter fun p ↦ KeptByNode nodeMatches p
  writers_eq : u.writers = t.writers.filter fun w ↦
    nodeMatches w.toEndpoint || u.pairs.any fun p ↦ p.writer = w
  readers_eq : u.readers = t.readers.filter fun r ↦
    nodeMatches r.toEndpoint || u.pairs.any fun p ↦ p.reader = r
  in_pair : u.pairs ≠ [] → ∀ e ∈ u.writers ++ u.readers, ∃ p ∈ u.pairs, p.writer = e ∨ p.reader = e
  no_writer : "no-matching-writer" ∈ u.unmatchedReasons → "no-matching-writer" ∈ t.unmatchedReasons
  no_reader : "no-matching-reader" ∈ u.unmatchedReasons → "no-matching-reader" ∈ t.unmatchedReasons
  rest_eq : u = { t with
    writers := u.writers
    readers := u.readers
    pairs := u.pairs
    unmatchedReasons := u.unmatchedReasons }

instance (nodeMatches : Endpoint → Bool) (t : TopicSummary) : Decidable (Remains nodeMatches t) :=
  inferInstanceAs (Decidable (∃ e ∈ t.writers ++ t.readers, nodeMatches e.toEndpoint = true))

/-- What the filter makes of a list of topics, once and once more. -/
structure NodeFiltered (nodeMatches : Endpoint → Bool) (topics : List TopicSummary) : Prop where
  remaining : List.Forall₂ (FilteredAs nodeMatches)
    (topics.filter fun t ↦ Remains nodeMatches t) (filterByNode topics nodeMatches)
  twice : filterByNode (filterByNode topics nodeMatches) nodeMatches =
    filterByNode topics nodeMatches

/-! ## One topic -/

section Topic

variable {nodeMatches : Endpoint → Bool} {t u : TopicSummary}

theorem CrossPaired.mem_ends (h : CrossPaired t) {p : Pair} (hp : p ∈ t.pairs) :
    p.writer ∈ t.writers ∧ p.reader ∈ t.readers := by
  have hends : (p.writer, p.reader) ∈ t.writers.product t.readers := by
    rw [← h.ends_eq]
    exact List.mem_map_of_mem hp
  exact List.mem_product.mp hends

theorem CrossPaired.exists_pair (h : CrossPaired t) {w r : EndpointPtr} (hw : w ∈ t.writers)
    (hr : r ∈ t.readers) : ∃ p ∈ t.pairs, p.writer = w ∧ p.reader = r := by
  have hends : (w, r) ∈ t.pairs.map fun p ↦ (p.writer, p.reader) := by
    rw [h.ends_eq]
    exact List.mem_product.mpr ⟨hw, hr⟩
  obtain ⟨p, hp, heq⟩ := List.mem_map.mp hends
  exact ⟨p, hp, congrArg Prod.fst heq, congrArg Prod.snd heq⟩

theorem CrossPaired.keptPairs_eq (h : CrossPaired t) :
    keptPairs nodeMatches t = t.pairs.filter fun p ↦ KeptByNode nodeMatches p :=
  keptPairs_eq_filter fun _ hp ↦ h.mem_ends hp

theorem CrossPaired.writer_kept_iff (h : CrossPaired t) {w : EndpointPtr} (hw : w ∈ t.writers) :
    w ∈ keptEndpoints nodeMatches t ↔
      nodeMatches w.toEndpoint = true ∨ ∃ p ∈ keptPairs nodeMatches t, p.writer = w := by
  rw [mem_keptEndpoints, mem_matchingEndpoints]
  constructor
  · rintro (⟨-, hmatches⟩ | ⟨p, hp, hend | hend⟩)
    · exact .inl hmatches
    · exact .inr ⟨p, hp, hend.symm⟩
    · exact absurd hend (h.sides w hw _ (h.mem_ends (List.mem_filter.mp hp).1).2)
  · rintro (hmatches | ⟨p, hp, hend⟩)
    · exact .inl ⟨.inl hw, hmatches⟩
    · exact .inr ⟨p, hp, .inl hend.symm⟩

theorem CrossPaired.reader_kept_iff (h : CrossPaired t) {r : EndpointPtr} (hr : r ∈ t.readers) :
    r ∈ keptEndpoints nodeMatches t ↔
      nodeMatches r.toEndpoint = true ∨ ∃ p ∈ keptPairs nodeMatches t, p.reader = r := by
  rw [mem_keptEndpoints, mem_matchingEndpoints]
  constructor
  · rintro (⟨-, hmatches⟩ | ⟨p, hp, hend | hend⟩)
    · exact .inl hmatches
    · exact absurd hend.symm (h.sides _ (h.mem_ends (List.mem_filter.mp hp).1).1 r hr)
    · exact .inr ⟨p, hp, hend.symm⟩
  · rintro (hmatches | ⟨p, hp, hend⟩)
    · exact .inl ⟨.inr hr, hmatches⟩
    · exact .inr ⟨p, hp, .inr hend.symm⟩

/-- The filtered topic, as far as it concerns the endpoints and pairs. -/
structure KeptOf (nodeMatches : Endpoint → Bool) (t u : TopicSummary) : Prop where
  writers_eq : u.writers = t.writers.filter (· ∈ keptEndpoints nodeMatches t)
  readers_eq : u.readers = t.readers.filter (· ∈ keptEndpoints nodeMatches t)
  pairs_eq : u.pairs = keptPairs nodeMatches t
  reasons_eq : u.unmatchedReasons = unmatchedReasons u.writers u.readers u.pairs
  rest_eq : u = { t with
    writers := u.writers
    readers := u.readers
    pairs := u.pairs
    unmatchedReasons := u.unmatchedReasons }

theorem exists_keptOf (h : Remains nodeMatches t) :
    ∃ u, filterTopic nodeMatches t = some u ∧ KeptOf nodeMatches t u := by
  unfold filterTopic
  rw [if_neg fun hempty ↦ (keptEndpoints_eq_empty_iff nodeMatches t).mp hempty h]
  exact ⟨_, rfl, rfl, rfl, rfl, rfl, rfl⟩

theorem CrossPaired.mem_keptPairs (h : CrossPaired t) (p : Pair) :
    p ∈ keptPairs nodeMatches t ↔ p ∈ t.pairs ∧ KeptByNode nodeMatches p := by
  rw [h.keptPairs_eq, List.mem_filter, decide_eq_true_iff]

/-- With a matching reader in the topic every writer is kept, and the other way round. -/
theorem CrossPaired.mem_kept (h : CrossPaired t) {w r : EndpointPtr} (hw : w ∈ t.writers)
    (hr : r ∈ t.readers) (hmatches : nodeMatches w.toEndpoint = true ∨
      nodeMatches r.toEndpoint = true) : ∃ p ∈ keptPairs nodeMatches t, p.writer = w ∧ p.reader = r := by
  obtain ⟨p, hp, rfl, rfl⟩ := h.exists_pair hw hr
  exact ⟨p, (h.mem_keptPairs p).mpr ⟨hp, hmatches⟩, rfl, rfl⟩

theorem KeptOf.in_pair (hu : KeptOf nodeMatches t u) (h : CrossPaired t) (hpairs : u.pairs ≠ []) :
    ∀ e ∈ u.writers ++ u.readers, ∃ p ∈ u.pairs, p.writer = e ∨ p.reader = e := by
  obtain ⟨q, hq⟩ := List.exists_mem_of_ne_nil _ hpairs
  rw [hu.pairs_eq] at hq ⊢
  have hends := h.mem_ends (List.mem_filter.mp hq).1
  intro e he
  rw [List.mem_append, hu.writers_eq, hu.readers_eq, List.mem_filter, List.mem_filter,
    decide_eq_true_iff] at he
  rcases he with ⟨hw, hkept⟩ | ⟨hr, hkept⟩
  · rcases (h.writer_kept_iff hw).mp hkept with hmatches | ⟨p, hp, hend⟩
    · obtain ⟨p, hp, hend, -⟩ := h.mem_kept hw hends.2 (.inl hmatches)
      exact ⟨p, hp, .inl hend⟩
    · exact ⟨p, hp, .inl hend⟩
  · rcases (h.reader_kept_iff hr).mp hkept with hmatches | ⟨p, hp, hend⟩
    · obtain ⟨p, hp, -, hend⟩ := h.mem_kept hends.1 hr (.inr hmatches)
      exact ⟨p, hp, .inr hend⟩
    · exact ⟨p, hp, .inr hend⟩

/-- Both ends of a pair are kept when one of them matches. -/
theorem CrossPaired.ends_kept (h : CrossPaired t) {w r : EndpointPtr} (hw : w ∈ t.writers)
    (hr : r ∈ t.readers) (hmatches : nodeMatches w.toEndpoint = true ∨
      nodeMatches r.toEndpoint = true) :
    w ∈ keptEndpoints nodeMatches t ∧ r ∈ keptEndpoints nodeMatches t := by
  obtain ⟨p, hp, hwriter, hreader⟩ := h.mem_kept hw hr hmatches
  exact ⟨(h.writer_kept_iff hw).mpr (.inr ⟨p, hp, hwriter⟩),
    (h.reader_kept_iff hr).mpr (.inr ⟨p, hp, hreader⟩)⟩

theorem KeptOf.side_eq (hu : KeptOf nodeMatches t u) (isWriter : Bool) :
    topicSide u isWriter = (topicSide t isWriter).filter (· ∈ keptEndpoints nodeMatches t) := by
  cases isWriter with
  | true => exact hu.writers_eq
  | false => exact hu.readers_eq

/-- A side that the filter leaves empty was empty before. -/
theorem KeptOf.side_eq_nil (hu : KeptOf nodeMatches t u) (h : CrossPaired t)
    (hremains : Remains nodeMatches t) (isWriter : Bool) (hnone : topicSide u isWriter = []) :
    topicSide t isWriter = [] := by
  rw [hu.side_eq, List.filter_eq_nil_iff] at hnone
  simp only [decide_eq_true_eq] at hnone
  apply List.eq_nil_iff_forall_not_mem.mpr
  intro e he
  apply hnone e he
  obtain ⟨other, hother, hmatches⟩ := hremains
  have hmatching : other ∈ keptEndpoints nodeMatches t :=
    (mem_keptEndpoints other).mpr
      (.inl ((mem_matchingEndpoints other).mpr ⟨List.mem_append.mp hother, hmatches⟩))
  cases isWriter with
  | true =>
    rcases List.mem_append.mp hother with hwriter | hreader
    · exact absurd hmatching (hnone other hwriter)
    · exact (h.ends_kept he hreader (.inr hmatches)).1
  | false =>
    rcases List.mem_append.mp hother with hwriter | hreader
    · exact (h.ends_kept hwriter he (.inl hmatches)).2
    · exact absurd hmatching (hnone other hreader)

theorem KeptOf.filteredAs (hu : KeptOf nodeMatches t u) (h : CrossPaired t)
    (hremains : Remains nodeMatches t) : FilteredAs nodeMatches t u where
  pairs_eq := hu.pairs_eq.trans h.keptPairs_eq
  writers_eq := by
    rw [hu.writers_eq, hu.pairs_eq]
    apply List.filter_congr
    intro w hw
    rw [Bool.eq_iff_iff, decide_eq_true_iff, h.writer_kept_iff hw]
    simp
  readers_eq := by
    rw [hu.readers_eq, hu.pairs_eq]
    apply List.filter_congr
    intro r hr
    rw [Bool.eq_iff_iff, decide_eq_true_iff, h.reader_kept_iff hr]
    simp
  in_pair := hu.in_pair h
  no_writer hnone := by
    rw [hu.reasons_eq, no_writer_mem_iff] at hnone
    rw [h.reasons_eq, no_writer_mem_iff]
    exact hu.side_eq_nil h hremains true hnone
  no_reader hnone := by
    rw [hu.reasons_eq, no_reader_mem_iff] at hnone
    rw [h.reasons_eq, no_reader_mem_iff]
    exact hu.side_eq_nil h hremains false hnone
  rest_eq := hu.rest_eq

theorem KeptOf.mem_side_iff (hu : KeptOf nodeMatches t u) (e : EndpointPtr) :
    e ∈ u.writers ++ u.readers ↔ e ∈ t.writers ++ t.readers ∧ e ∈ keptEndpoints nodeMatches t := by
  rw [hu.writers_eq, hu.readers_eq, ← List.filter_append, List.mem_filter, decide_eq_true_iff]

theorem KeptOf.mem_ends (hu : KeptOf nodeMatches t u) (h : CrossPaired t) {p : Pair}
    (hp : p ∈ u.pairs) : p.writer ∈ u.writers ∧ p.reader ∈ u.readers := by
  rw [hu.pairs_eq] at hp
  have hends := h.mem_ends (List.mem_filter.mp hp).1
  rw [hu.writers_eq, hu.readers_eq, List.mem_filter, List.mem_filter, decide_eq_true_iff,
    decide_eq_true_iff]
  exact ⟨⟨hends.1, (h.writer_kept_iff hends.1).mpr (.inr ⟨p, hp, rfl⟩)⟩,
    ⟨hends.2, (h.reader_kept_iff hends.2).mpr (.inr ⟨p, hp, rfl⟩)⟩⟩

/-- All that is left is kept again. -/
theorem KeptOf.filterTopic_eq (hu : KeptOf nodeMatches t u) (h : CrossPaired t)
    (hremains : Remains nodeMatches t) : filterTopic nodeMatches u = some u := by
  have hpairs : keptPairs nodeMatches u = u.pairs := by
    rw [keptPairs_eq_filter fun p hp ↦ hu.mem_ends h hp, List.filter_eq_self]
    intro p hp
    rw [hu.pairs_eq, h.mem_keptPairs] at hp
    exact decide_eq_true hp.2
  have hkept (e : EndpointPtr) (he : e ∈ u.writers ++ u.readers) : e ∈ keptEndpoints nodeMatches u := by
    have hin := (hu.mem_side_iff e).mp he
    rw [mem_keptEndpoints, hpairs, hu.pairs_eq]
    refine ((mem_keptEndpoints e).mp hin.2).imp (fun hmatching ↦ ?_) id
    rw [mem_matchingEndpoints] at hmatching ⊢
    exact ⟨List.mem_append.mp he, hmatching.2⟩
  have hagain : Remains nodeMatches u := by
    obtain ⟨e, he, hmatches⟩ := hremains
    refine ⟨e, (hu.mem_side_iff e).mpr ⟨he, ?_⟩, hmatches⟩
    rw [mem_keptEndpoints, mem_matchingEndpoints]
    exact .inl ⟨List.mem_append.mp he, hmatches⟩
  have hwriters : u.writers.filter (· ∈ keptEndpoints nodeMatches u) = u.writers :=
    List.filter_eq_self.mpr fun w hw ↦ decide_eq_true (hkept w (List.mem_append_left _ hw))
  have hreaders : u.readers.filter (· ∈ keptEndpoints nodeMatches u) = u.readers :=
    List.filter_eq_self.mpr fun r hr ↦ decide_eq_true (hkept r (List.mem_append_right _ hr))
  unfold filterTopic
  rw [if_neg fun hempty ↦ (keptEndpoints_eq_empty_iff nodeMatches u).mp hempty hagain, hwriters,
    hreaders, hpairs]
  dsimp only
  rw [← hu.reasons_eq]

end Topic

/-! ## All topics -/

section Topics

theorem forall₂_filterMap {α β : Type} {relation : α → β → Prop} {keep : α → Bool}
    {f : α → Option β} {entries : List α}
    (hkept : ∀ a ∈ entries, keep a = true → ∃ b, f a = some b ∧ relation a b)
    (hdropped : ∀ a ∈ entries, keep a = false → f a = none) :
    List.Forall₂ relation (entries.filter keep) (entries.filterMap f) := by
  induction entries with
  | nil => exact .nil
  | cons a rest ih =>
    have hrest := ih (fun b hb ↦ hkept b (List.mem_cons_of_mem a hb))
      fun b hb ↦ hdropped b (List.mem_cons_of_mem a hb)
    cases hkeep : keep a with
    | true =>
      obtain ⟨b, hb, hrelation⟩ := hkept a (List.mem_cons_self ..) hkeep
      rw [List.filter_cons_of_pos hkeep, List.filterMap_cons_some hb]
      exact .cons hrelation hrest
    | false =>
      rw [List.filter_cons_of_neg (by simp [hkeep]),
        List.filterMap_cons_none (hdropped a (List.mem_cons_self ..) hkeep)]
      exact hrest

theorem nodeFiltered_of_crossPaired (nodeMatches : Endpoint → Bool) {topics : List TopicSummary}
    (h : ∀ t ∈ topics, CrossPaired t) : NodeFiltered nodeMatches topics := by
  refine ⟨forall₂_filterMap (fun t ht hkeep ↦ ?_) fun t _ hkeep ↦ ?_, ?_⟩
  · have hremains := of_decide_eq_true hkeep
    obtain ⟨u, hfilter, hu⟩ := exists_keptOf hremains
    exact ⟨u, hfilter, hu.filteredAs (h t ht) hremains⟩
  · exact filterTopic_of_not_remains (of_decide_eq_false hkeep)
  · rw [filterByNode, filterByNode, List.filterMap_filterMap]
    apply List.filterMap_congr
    intro t ht
    by_cases hremains : Remains nodeMatches t
    · obtain ⟨u, hfilter, hu⟩ := exists_keptOf hremains
      rw [hfilter, Option.bind_some, hu.filterTopic_eq (h t ht) hremains]
    · rw [filterTopic_of_not_remains hremains, Option.bind_none]

variable [Fnmatch]

theorem crossPaired_of_mem {endpoints : List Endpoint} {t : TopicSummary}
    (ht : t ∈ summarize endpoints) : CrossPaired t where
  ends_eq := (summarizedTopic_of_mem ht).ends_eq
  sides w hw r hr heq := by
    have hsummary := isSummary_of_mem endpoints t ht
    rw [hsummary.writers_eq, mem_sideOf] at hw
    rw [hsummary.readers_eq, mem_sideOf, ← heq] at hr
    exact absurd (hw.2.2.symm.trans hr.2.2) (by decide)
  reasons_eq := unmatchedReasons_of_mem ht

/-- Measuring the pairs of a topic leaves them where they are. -/
theorem crossPaired_overlayTopic (stats : StatsData) {endpoints : List Endpoint} {t : TopicSummary}
    (ht : t ∈ summarize endpoints) : CrossPaired (overlayTopic stats t) := by
  have h := crossPaired_of_mem ht
  have hkept := overlayTopic_kept stats t
  have hruled := forall₂_overlayTopic stats t fun p hp ↦ isFresh_of_mem ht hp
  have hends := map_ends_overlayTopic stats t fun p hp ↦ isFresh_of_mem ht hp
  have hnone : (overlayTopic stats t).pairs = [] ↔ t.pairs = [] := by
    rw [← List.length_eq_zero_iff, ← hruled.length_eq, List.length_eq_zero_iff]
  refine ⟨?_, ?_, ?_⟩
  · rw [hends, hkept.1, hkept.2.1]
    exact h.ends_eq
  · rw [hkept.1, hkept.2.1]
    exact h.sides
  · rw [hkept.2.2.2, hkept.1, hkept.2.1, h.reasons_eq, unmatchedReasons, unmatchedReasons]
    simp only [hnone]

theorem crossPaired_of_mem_applyStats {endpoints : List Endpoint} {stats : StatsData}
    {u : TopicSummary} (hu : u ∈ applyStats (summarize endpoints) stats) : CrossPaired u := by
  rcases applyStats_cases hu with ⟨-, t, ht, htopic⟩ | ⟨-, ht⟩
  · rw [← htopic]
    exact crossPaired_overlayTopic stats ht
  · exact crossPaired_of_mem ht

/-- The endpoints of a measured topic are those of its DDS topic. -/
theorem sides_of_mem_applyStats {endpoints : List Endpoint} {stats : StatsData} {u : TopicSummary}
    (hu : u ∈ applyStats (summarize endpoints) stats) :
    u.writers = sideOf endpoints u.ddsTopic true ∧ u.readers = sideOf endpoints u.ddsTopic false := by
  rcases applyStats_cases hu with ⟨-, t, ht, htopic⟩ | ⟨-, ht⟩
  · have hsummary := isSummary_of_mem endpoints t ht
    obtain ⟨hwriters, hreaders, hname, -⟩ := overlayTopic_kept stats t
    rw [← htopic, hwriters, hreaders, hname]
    exact ⟨hsummary.writers_eq, hsummary.readers_eq⟩
  · have hsummary := isSummary_of_mem endpoints u ht
    exact ⟨hsummary.writers_eq, hsummary.readers_eq⟩

/-- The node filter keeps what it promises, of summarized topics and of measured ones. -/
theorem nodeFiltered_summarize (endpoints : List Endpoint) (nodeMatches : Endpoint → Bool) :
    NodeFiltered nodeMatches (summarize endpoints) ∧
      ∀ stats, NodeFiltered nodeMatches (applyStats (summarize endpoints) stats) := by
  constructor
  · exact nodeFiltered_of_crossPaired nodeMatches fun t ht ↦ crossPaired_of_mem ht
  · intro stats
    exact nodeFiltered_of_crossPaired nodeMatches fun u hu ↦ crossPaired_of_mem_applyStats hu

end Topics

end TransportViz.Stats
