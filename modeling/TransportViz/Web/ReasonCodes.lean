import TransportViz.Decision.Explanations
import TransportViz.Json.Produced
import TransportViz.Shm.PortViews
import TransportViz.Stats.FilteredTopics
import TransportViz.Stats.LossVerdict

/-!
# Every code of a document is explained

A document describes the codes it carries, so that front-ends need no texts of their own. Whatever is
summarized, filtered and overlaid, and in whatever order, carries no code without a description.
-/

namespace TransportViz.Web

open Decision Shm Stats

/-! ## Model -/

/-- The codes that appear in a document. -/
def documentCodes (snap : Snapshot) : List String :=
  (snap.topics.flatMap fun t ↦ t.unmatchedReasons ++
      t.pairs.flatMap fun p ↦ p.verdict.reasons ++ p.verdict.warnings) ++
    snap.shm.warnings ++ snap.stats.warnings

def reasonCodeDescriptions (snap : Snapshot) : OrderedMap String String :=
  (documentCodes snap).foldl (fun descriptions c ↦ descriptions.set c (explain c)) .empty

/-- Under the same keys; none where there is nothing to change. -/
def reasonCodeRemedies (snap : Snapshot) : OrderedMap String (Option String) :=
  (documentCodes snap).foldl (fun remedies c ↦ remedies.set c (remedy c)) .empty

/-! ## Specification -/

/-- What becomes of discovered endpoints. -/
inductive Derived [Fnmatch] : List TopicSummary → Prop
  | summarized (endpoints : List Endpoint) : Derived (summarize endpoints)
  | filtered {topics : List TopicSummary} (h : Derived topics) (nodeMatches : Endpoint → Bool) :
      Derived (filterByNode topics nodeMatches)
  | overlaid {topics : List TopicSummary} (h : Derived topics) (stats : StatsData) :
      Derived (applyStats topics stats)

/-- The topics carry explained codes only. -/
structure Explained (topics : List TopicSummary) : Prop where
  unmatched : ∀ t ∈ topics, t.unmatchedReasons ⊆ knownCodes
  reasons : ∀ t ∈ topics, ∀ p ∈ t.pairs, p.verdict.reasons ⊆ knownCodes
  warnings : ∀ t ∈ topics, ∀ p ∈ t.pairs, p.verdict.warnings ⊆ knownCodes

/-- Every code of the snapshot stands in its document with a description. -/
def Described (snap : Snapshot) : Prop :=
  ∀ code ∈ documentCodes snap, (reasonCodeDescriptions snap).find? code = some (explain code) ∧
    (reasonCodeRemedies snap).find? code = some (remedy code) ∧ explain code ≠ "(no description)"

/-- No code goes unexplained, in the topics, the statistics and the shared memory. -/
structure NoneUnexplained (topics : List TopicSummary) : Prop where
  explained : Explained topics
  known : ∀ code ∈ knownCodes, explain code ≠ "(no description)"
  noted : ∀ stats : StatsData,
    (noteUnmeasuredPairs topics stats).warnings ⊆ stats.warnings ++ knownCodes
  scanned : ∀ input directory, (scanShm input directory).warnings ⊆ knownCodes
  document : ∀ (snap : Snapshot) (stats : StatsData) (input : ShmScanInput)
    (directory : Option ShmDirectory), stats.warnings = [] →
    Described { snap with
      topics := topics
      stats := noteUnmeasuredPairs topics stats
      shm := scanShm input directory }

/-! ## Lists of codes -/

section Lists

/-- The codes are in the table. -/
theorem subset_knownCodes {codes : List String}
    (h : codes ⊆ explanationEntries.map Prod.fst) : codes ⊆ knownCodes :=
  fun code hcode ↦ (mem_knownCodes_iff code).mpr (h hcode)

theorem predictionReasons_known : predictionReasons ⊆ knownCodes :=
  subset_knownCodes (by decide +kernel)

theorem predictionWarnings_known : predictionWarnings ⊆ knownCodes :=
  subset_knownCodes (by decide +kernel)

theorem overlayReasons_known :
    overlayReasons ++ ["datasharing-data-submessages-sent"] ⊆ knownCodes :=
  subset_knownCodes (by decide +kernel)

theorem overlayWarnings_known : overlayWarnings ++ ["datasharing-not-used"] ⊆ knownCodes :=
  subset_knownCodes (by decide +kernel)

theorem counterWarnings_known (m : Measurement) : counterWarnings m ⊆ knownCodes :=
  List.Subset.trans (counterWarnings_subset m) (subset_knownCodes (by decide +kernel))

theorem bufferCodes_known (endpoints : List EndpointPtr) : bufferCodes endpoints ⊆ knownCodes :=
  List.Subset.trans (bufferCodes_subset endpoints) (subset_knownCodes (by decide +kernel))

theorem lossCodes_known : lossCodes ⊆ knownCodes := subset_knownCodes (by decide +kernel)

theorem unmatchedReasons_known (writers readers : List EndpointPtr) (pairs : List Pair) :
    unmatchedReasons writers readers pairs ⊆ knownCodes := by
  have hsides : ["no-matching-writer", "no-matching-reader"] ⊆ knownCodes :=
    subset_knownCodes (by decide +kernel)
  unfold unmatchedReasons
  refine List.append_subset.mpr ⟨List.append_subset.mpr ⟨?_, ?_⟩, ?_⟩
  · split_ifs
    · simpa using hsides List.mem_cons_self
    · exact List.nil_subset _
  · split_ifs
    · simpa using hsides (List.mem_cons_of_mem _ List.mem_cons_self)
    · exact List.nil_subset _
  · split_ifs
    · exact bufferCodes_known _
    · exact List.nil_subset _

end Lists

/-! ## Topics -/

section Topics

variable {topics : List TopicSummary}

theorem explained_summarize [Fnmatch] (endpoints : List Endpoint) :
    Explained (summarize endpoints) where
  unmatched t ht := by
    rw [unmatchedReasons_of_mem ht]
    exact unmatchedReasons_known _ _ _
  reasons t ht p hp := by
    rw [isFresh_of_mem ht hp]
    exact List.append_subset.mpr
      ⟨List.Subset.trans (decide_reasons_subset _ _) predictionReasons_known, bufferCodes_known _⟩
  warnings t ht p hp := by
    rw [(isFresh_of_mem ht hp).warnings_eq]
    exact List.Subset.trans (decide_warnings_subset _ _) predictionWarnings_known

theorem Explained.filterByNode (h : Explained topics) (nodeMatches : Endpoint → Bool) :
    Explained (filterByNode topics nodeMatches) := by
  have hkept {u : TopicSummary} (hu : u ∈ Decision.filterByNode topics nodeMatches) :
      u.unmatchedReasons ⊆ knownCodes ∧ ∃ t ∈ topics, u.pairs = keptPairs nodeMatches t := by
    obtain ⟨t, ht, hfilter⟩ := List.mem_filterMap.mp hu
    unfold filterTopic at hfilter
    split_ifs at hfilter
    cases hfilter
    exact ⟨unmatchedReasons_known _ _ _, t, ht, rfl⟩
  refine ⟨fun u hu ↦ (hkept hu).1, fun u hu p hp ↦ ?_, fun u hu p hp ↦ ?_⟩
  · obtain ⟨-, t, ht, hpairs⟩ := hkept hu
    exact h.reasons t ht p (List.mem_of_mem_filter (hpairs ▸ hp))
  · obtain ⟨-, t, ht, hpairs⟩ := hkept hu
    exact h.warnings t ht p (List.mem_of_mem_filter (hpairs ▸ hp))

/-- The overlay of a pair adds explained codes only. -/
theorem overlayPair_known (stats : StatsData) (all : Bool) {p : Pair}
    (hreasons : p.verdict.reasons ⊆ knownCodes) (hwarnings : p.verdict.warnings ⊆ knownCodes) :
    (overlayPair stats all p).verdict.reasons ⊆ knownCodes ∧
      (overlayPair stats all p).verdict.warnings ⊆ knownCodes := by
  obtain ⟨hreasons', hwarnings'⟩ := (overlaid_overlay stats all p.writer.participantGuidPrefix
    (measurePair stats p).verdict (measurePair stats p).measured).codes_subset
  refine ⟨List.Subset.trans hreasons' ?_, List.Subset.trans hwarnings' ?_⟩
  · exact List.append_subset.mpr ⟨hreasons, overlayReasons_known⟩
  · refine List.append_subset.mpr ⟨?_, overlayWarnings_known⟩
    exact List.append_subset.mpr ⟨hwarnings, counterWarnings_known _⟩

theorem Explained.applyStats (h : Explained topics) (stats : StatsData) :
    Explained (applyStats topics stats) := by
  have hkept {u : TopicSummary} (hu : u ∈ Stats.applyStats topics stats) :
      ∃ t ∈ topics, u.unmatchedReasons = t.unmatchedReasons ∧
        ∀ q ∈ u.pairs, q ∈ t.pairs ∨ ∃ p ∈ t.pairs, ∃ all, q = overlayPair stats all p := by
    rcases applyStats_cases hu with ⟨-, t, ht, rfl⟩ | ⟨-, ht⟩
    · refine ⟨t, ht, (overlayTopic_kept stats t).2.2.2, fun q hq ↦ .inr ?_⟩
      exact (Json.exists_of_mem_overlayPairs stats t.pairs _ [] hq).resolve_left List.not_mem_nil
    · exact ⟨u, ht, rfl, fun q hq ↦ .inl hq⟩
  have hpair {u : TopicSummary} (hu : u ∈ Stats.applyStats topics stats) {q : Pair} (hq : q ∈ u.pairs) :
      q.verdict.reasons ⊆ knownCodes ∧ q.verdict.warnings ⊆ knownCodes := by
    obtain ⟨t, ht, -, hpairs⟩ := hkept hu
    rcases hpairs q hq with hp | ⟨p, hp, all, rfl⟩
    · exact ⟨h.reasons t ht q hp, h.warnings t ht q hp⟩
    · exact overlayPair_known stats all (h.reasons t ht p hp) (h.warnings t ht p hp)
  refine ⟨fun u hu ↦ ?_, fun u hu q hq ↦ (hpair hu hq).1, fun u hu q hq ↦ (hpair hu hq).2⟩
  obtain ⟨t, ht, hreasons, -⟩ := hkept hu
  exact hreasons ▸ h.unmatched t ht

/-- In whatever order topics are filtered and overlaid. -/
theorem Derived.explained [Fnmatch] (h : Derived topics) : Explained topics := by
  induction h with
  | summarized endpoints => exact explained_summarize endpoints
  | filtered _ nodeMatches ih => exact ih.filterByNode nodeMatches
  | overlaid _ stats ih => exact ih.applyStats stats

end Topics

/-! ## Statistics and shared memory -/

section Rest

theorem noteUnmeasuredPairs_known (topics : List TopicSummary) (stats : StatsData) :
    (noteUnmeasuredPairs topics stats).warnings ⊆ stats.warnings ++ knownCodes := by
  rw [noteUnmeasuredPairs_eq]
  refine List.append_subset.mpr ⟨?_, ?_⟩
  · exact List.Subset.trans (List.filter_subset_self _) (List.subset_append_left _ _)
  · exact List.Subset.trans (verdictCodes_subset topics stats)
      (List.Subset.trans lossCodes_known (List.subset_append_right _ _))

/-- Walking the files adds no warning. -/
theorem warnings_foldl_scanFile (input : ShmScanInput) (files : List ShmFile) (scan : Scan) :
    (files.foldl (scanFile input) scan).info.warnings = scan.info.warnings := by
  induction files generalizing scan with
  | nil => rfl
  | cons f rest ih =>
    obtain ⟨found, -, hstep⟩ := scanFile_spec input f
    rw [List.foldl_cons, ih, hstep]
    cases portEntry f <;> rfl

theorem warnings_concludeScan (input : ShmScanInput) (scan : Scan) :
    (concludeScan input scan).warnings ⊆ scan.info.warnings ++
      ["shm-not-visible", "shm-stale-files", "shm-nearly-full"] := by
  unfold concludeScan addCapacityWarning
  rw [foldl_checkPort]
  simp only
  split_ifs <;> simp

theorem scanShm_known (input : ShmScanInput) (directory : Option ShmDirectory) :
    (scanShm input directory).warnings ⊆ knownCodes := by
  have hcodes : ["shm-not-visible", "shm-stale-files", "shm-nearly-full"] ⊆ knownCodes :=
    subset_knownCodes (by decide +kernel)
  cases directory with
  | none => exact List.nil_subset _
  | some directory =>
    obtain ⟨total, used, free, files⟩ := directory
    cases files with
    | none => exact List.nil_subset _
    | some files =>
      refine List.Subset.trans (warnings_concludeScan _ _) ?_
      rw [warnings_foldl_scanFile]
      exact hcodes

theorem described (snap : Snapshot) (h : documentCodes snap ⊆ knownCodes) : Described snap := by
  intro code hcode
  refine ⟨?_, ?_, explain_of_mem (h hcode)⟩
  · rw [reasonCodeDescriptions, LastWrite.find?_foldl_set, if_pos hcode]
  · rw [reasonCodeRemedies, LastWrite.find?_foldl_set, if_pos hcode]

theorem documentCodes_subset {snap : Snapshot} (htopics : Explained snap.topics)
    (hstats : snap.stats.warnings ⊆ knownCodes) (hshm : snap.shm.warnings ⊆ knownCodes) :
    documentCodes snap ⊆ knownCodes := by
  refine List.append_subset.mpr ⟨List.append_subset.mpr ⟨fun code hcode ↦ ?_, hshm⟩, hstats⟩
  obtain ⟨t, ht, hcode⟩ := List.mem_flatMap.mp hcode
  rcases List.mem_append.mp hcode with hcode | hcode
  · exact htopics.unmatched t ht hcode
  · obtain ⟨p, hp, hcode⟩ := List.mem_flatMap.mp hcode
    rcases List.mem_append.mp hcode with hcode | hcode
    · exact htopics.reasons t ht p hp hcode
    · exact htopics.warnings t ht p hp hcode

end Rest

/-- What the tool produces is explained. -/
theorem noneUnexplained [Fnmatch] {topics : List TopicSummary} (h : Derived topics) :
    NoneUnexplained topics where
  explained := h.explained
  known code hcode := explain_of_mem hcode
  noted stats := noteUnmeasuredPairs_known topics stats
  scanned input directory := scanShm_known input directory
  document snap stats input directory hnone := by
    have hstats := noteUnmeasuredPairs_known topics stats
    rw [hnone, List.nil_append] at hstats
    exact described _ (documentCodes_subset h.explained hstats (scanShm_known input directory))

section Witness

/-- A pair, filtered and overlaid. -/
def chatterTopics : List TopicSummary :=
  applyStats (filterByNode (@summarize literalFnmatch [Json.chatterTalker, Json.chatterListener])
    fun e ↦ e.nodeName = "/talker") Json.chatterStats

theorem noneUnexplained_chatter :
    @Derived literalFnmatch chatterTopics ∧ NoneUnexplained chatterTopics ∧
      chatterTopics.map (fun t ↦ t.pairs.map fun p ↦ p.measured.packets) = [[8]] := by
  have hsummarized := @Derived.summarized literalFnmatch [Json.chatterTalker, Json.chatterListener]
  have hfiltered := @Derived.filtered literalFnmatch _ hsummarized fun e ↦ e.nodeName = "/talker"
  have hoverlaid := @Derived.overlaid literalFnmatch _ hfiltered Json.chatterStats
  exact ⟨hoverlaid, @noneUnexplained literalFnmatch chatterTopics hoverlaid, by decide +kernel⟩

end Witness

end TransportViz.Web
