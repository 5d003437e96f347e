import TransportViz.Decision.Fresh

/-!
# The topics partition the endpoints

Every endpoint is on one side of one topic, every writer of a topic is paired with every reader of it
and no pair is made twice. What a topic lacks is written down on it.
-/

namespace TransportViz.Decision

def topicSide (t : TopicSummary) (isWriter : Bool) : List EndpointPtr :=
  if isWriter then t.writers else t.readers

variable [Fnmatch]

/-- What a topic of `summarize` holds. -/
structure SummarizedTopic (endpoints : List Endpoint) (t : TopicSummary) : Prop where
  side_eq : ∀ isWriter, topicSide t isWriter =
    (pointers endpoints).filter fun e ↦ e.ddsTopic = t.ddsTopic && e.isWriter == isWriter
  ends_eq : t.pairs.map (fun p ↦ (p.writer, p.reader)) = t.writers.product t.readers
  ends_nodup : (t.pairs.map fun p ↦ (p.writer, p.reader)).Nodup
  verdict_eq : ∀ p ∈ t.pairs, p.verdict =
    (Decision.decide p.writer.toEndpoint p.reader.toEndpoint).addReasons
      (bufferCodes [p.writer, p.reader])
  no_writer_iff : "no-matching-writer" ∈ t.unmatchedReasons ↔ t.writers = []
  no_reader_iff : "no-matching-reader" ∈ t.unmatchedReasons ↔ t.readers = []
  reasons_eq : t.unmatchedReasons = Decision.unmatchedReasons t.writers t.readers t.pairs
  codes_of_unpaired : t.pairs = [] → bufferCodes (t.writers ++ t.readers) ⊆ t.unmatchedReasons

/-- The endpoint is on its side of the topic, once, and nowhere else. -/
structure PlacedIn (topics : List TopicSummary) (e : EndpointPtr) (t : TopicSummary) : Prop where
  ddsTopic_eq : t.ddsTopic = e.ddsTopic
  once : (topicSide t e.isWriter).count e = 1
  one_side : e ∉ topicSide t (!e.isWriter)
  one_topic : ∀ u ∈ topics, e ∈ u.writers ++ u.readers → u = t

/-- The endpoints are partitioned into the topics. -/
structure PartitionedInto (endpoints : List Endpoint) (topics : List TopicSummary) : Prop where
  placed : ∀ e ∈ pointers endpoints, ∃ t ∈ topics, PlacedIn topics e t
  topic : ∀ t ∈ topics, SummarizedTopic endpoints t
  distinct : (topics.map TopicSummary.ddsTopic).Nodup
  sorted : topics.Pairwise fun t u ↦ t.displayTopic ≤ u.displayTopic

/-! ## What a topic lacks -/

section Reasons

omit [Fnmatch]

theorem mem_bufferCodes {endpoints : List EndpointPtr} {code : String}
    (h : code ∈ bufferCodes endpoints) :
    code ∈ ["buffer-companion-folded", "buffer-companion", "buffer-companion-unmatched"] := by
  unfold bufferCodes at h
  simp only [List.mem_append, List.mem_ite_nil_right, List.mem_singleton] at h
  rcases h with (⟨-, hcode⟩ | ⟨-, hcode⟩) | ⟨-, hcode⟩ <;> simp [hcode]

/-- Of the codes of an unpaired topic, those that do not come from the companions. -/
theorem mem_unmatchedReasons_iff (writers readers : List EndpointPtr) (pairs : List Pair) {code : String}
    (h : code ∉ ["buffer-companion-folded", "buffer-companion", "buffer-companion-unmatched"]) :
    code ∈ unmatchedReasons writers readers pairs ↔
      (code = "no-matching-writer" ∧ writers = []) ∨ (code = "no-matching-reader" ∧ readers = []) := by
  have hcodes : code ∉ bufferCodes (writers ++ readers) := fun hcode ↦ h (mem_bufferCodes hcode)
  unfold unmatchedReasons
  simp only [List.mem_append, List.mem_ite_nil_right, List.mem_singleton, hcodes, and_false, or_false]
  rw [and_comm, @and_comm (readers = [])]

theorem no_writer_mem_iff (writers readers : List EndpointPtr) (pairs : List Pair) :
    "no-matching-writer" ∈ unmatchedReasons writers readers pairs ↔ writers = [] := by
  rw [mem_unmatchedReasons_iff writers readers pairs (by decide), and_iff_right rfl]
  exact or_iff_left fun h ↦ absurd h.1 (by decide)

theorem no_reader_mem_iff (writers readers : List EndpointPtr) (pairs : List Pair) :
    "no-matching-reader" ∈ unmatchedReasons writers readers pairs ↔ readers = [] := by
  rw [mem_unmatchedReasons_iff writers readers pairs (by decide), and_iff_right rfl]
  exact or_iff_right fun h ↦ absurd h.1 (by decide)

end Reasons

theorem unmatchedReasons_of_mem {endpoints : List Endpoint} {t : TopicSummary}
    (h : t ∈ summarize endpoints) :
    t.unmatchedReasons = Decision.unmatchedReasons t.writers t.readers t.pairs := by
  obtain ⟨ddsTopic, group, hfind, hkind⟩ := exists_group_of_mem h
  have hnone := (grouped_byTopic endpoints ddsTopic _ hfind).unpaired.2
  unfold KindOnly at hkind
  rw [hkind]
  simp only [pairTopic, hnone, List.nil_append]

/-! ## Every endpoint, every pair -/

section Partition

variable {endpoints : List Endpoint} {t : TopicSummary}

theorem topicSide_eq (h : t ∈ summarize endpoints) (isWriter : Bool) :
    topicSide t isWriter = sideOf endpoints t.ddsTopic isWriter := by
  have hsummary := isSummary_of_mem endpoints t h
  cases isWriter with
  | true => exact hsummary.writers_eq
  | false => exact hsummary.readers_eq

theorem summarizedTopic_of_mem (h : t ∈ summarize endpoints) : SummarizedTopic endpoints t := by
  have hsummary := isSummary_of_mem endpoints t h
  have hreasons := unmatchedReasons_of_mem h
  refine ⟨topicSide_eq h, ?_, hsummary.nodup_pairs, ?_, ?_, ?_, hreasons, ?_⟩
  · rw [hsummary.pairs_eq]
    simp only [freshPairs, List.map_flatMap, List.map_map]
    rfl
  · intro p hp
    rw [hsummary.pairs_eq] at hp
    have hfresh := ((mem_freshPairs _ _ p).mp hp).2.2
    rw [hfresh]
    rfl
  · rw [hreasons]
    exact no_writer_mem_iff t.writers t.readers t.pairs
  · rw [hreasons]
    exact no_reader_mem_iff t.writers t.readers t.pairs
  · intro hpairs code hcode
    rw [hreasons, unmatchedReasons, if_pos hpairs]
    exact List.mem_append_right _ hcode

theorem exists_placedIn {e : EndpointPtr} (he : e ∈ pointers endpoints) :
    ∃ t ∈ summarize endpoints, PlacedIn (summarize endpoints) e t := by
  obtain ⟨t, ht, htopic⟩ := exists_summarized_topic he
  refine ⟨t, ht, htopic, ?_, ?_, ?_⟩
  · rw [topicSide_eq ht]
    apply List.count_eq_one_of_mem
    · exact (nodup_pointers endpoints).filter _
    · exact (mem_sideOf endpoints t.ddsTopic e.isWriter e).mpr ⟨he, htopic.symm, rfl⟩
  · rw [topicSide_eq ht, mem_sideOf]
    intro hother
    exact absurd hother.2.2 (by cases e.isWriter <;> decide)
  · intro u hu hin
    have hsame : u.ddsTopic = t.ddsTopic :=
      ((mem_topic_iff hu e).mp hin).2.symm.trans htopic.symm
    exact List.inj_on_of_nodup_map (nodup_ddsTopic_summarize endpoints) hu ht hsame

end Partition

/-- No endpoint and no pair is lost or made twice. -/
theorem partitionedInto_summarize (endpoints : List Endpoint) :
    PartitionedInto endpoints (summarize endpoints) where
  placed _ he := exists_placedIn he
  topic _ ht := summarizedTopic_of_mem ht
  distinct := nodup_ddsTopic_summarize endpoints
  sorted := sorted_summarize endpoints

end TransportViz.Decision
